/-
# A node that does one thing after the other

`Node.run` starts a node, has it handle some messages, each to its end, and tells
it to end.  That is one of the lives of the node: its dispatchers and its main
task take their steps by turns (`Node.run_is_life`).  What holds of every life
holds of every such run.

    a request that has the table to itself is served step by step     (`reaches_served`)
    a message is handled by its dispatcher and its request            (`reaches_handled`)
    the main task starts the parts, and tears the node down           (`reaches_assembled`, `reaches_ended`)
    a node that cannot start comes to its end                         (`reaches_started`)
-/
import NodeKeeper.Proofs.Node.Teardown

namespace NodeKeeper

/-- What passes for the fleet, seen from the node. -/
def NodeHistory.ofFleet (h : FleetHistory) : NodeHistory := h.map fun e => ⟨.fleet e.request, e.answer⟩

open NodeHistory

theorem yields_ofFleet {α : Type} {d : FleetDialogue α} {h : NodeHistory} {a : α}
    (hy : (Node.ofFleet d).Yields h a) : ∃ hf, h = ofFleet hf ∧ d.Yields hf a := by
  obtain ⟨hf, hm, hd⟩ := Dialogue.yields_meet.1 hy
  refine ⟨hf, ?_, hd⟩
  clear hy hd
  induction hm with
  | nil => rfl
  | @cons e hf part h hpart _ ih => rw [Dialogue.yields_request.1 hpart, ih]; rfl

namespace NodeLife

variable {life life' life'' : NodeLife} {h h' : NodeHistory}

/-- With the history `h`, one life may become the other. -/
def Reaches (life : NodeLife) (h : NodeHistory) (life' : NodeLife) : Prop :=
  ∃ moves, (play moves life).Yields h life'

theorem Reaches.refl (life : NodeLife) : Reaches life [] life := ⟨[], .refl _⟩

theorem Reaches.move {m : NodeMove} (hy : (life.step m).Yields h life') : Reaches life h life' :=
  ⟨[m], Dialogue.yields_bind.2 ⟨h, life', [], (List.append_nil h).symm, hy, .refl _⟩⟩

theorem Reaches.trans (hr : Reaches life h life') (hr' : Reaches life' h' life'') :
    Reaches life (h ++ h') life'' := by
  obtain ⟨moves, hy⟩ := hr
  obtain ⟨moves', hy'⟩ := hr'
  refine ⟨moves ++ moves', ?_⟩
  induction moves generalizing life h with
  | nil =>
      obtain ⟨rfl, rfl⟩ := Dialogue.yields_done.1 hy
      exact hy'
  | cons m rest ih =>
      obtain ⟨h₁, l, h₂, rfl, hstep, hrest⟩ := Dialogue.yields_bind.1 hy
      rw [List.append_assoc]
      exact Dialogue.yields_bind.2 ⟨h₁, l, _, rfl, hstep, ih hrest⟩

theorem Reaches.after {m : NodeMove} (hm : life.step m = pure life') (hr : Reaches life' h life'') :
    Reaches life h life'' :=
  (Reaches.move (m := m) (by rw [hm]; exact .refl _)).trans hr

/-! ## Launch -/

theorem reaches_launching {c : Config} {told : Bool} {hf : FleetHistory}
    {d d' : FleetDialogue (Except FleetError (Supervisor × FleetTable))} (hl : d.Leads hf d') :
    Reaches (.launching c told d) (ofFleet hf) (.launching c told d') := by
  induction hl with
  | refl d => exact .refl _
  | @ask r next answer hf d' _ ih =>
      have hstep : ((NodeLife.launching c told (.ask r next)).step .main).Yields
          [⟨.fleet r, answer⟩] (.launching c told (next answer)) :=
        Dialogue.yields_ask.2 ⟨answer, [], rfl, .refl _⟩
      exact (Reaches.move hstep).trans ih

end NodeLife

/-! ## Requests -/

theorem Session.setTurn_setTurn (w : Session) (i : Nat) (t t' : Turn) :
    (w.setTurn i t).setTurn i t' = w.setTurn i t' :=
  congrArg (fun turns => ({ w with turns := turns } : Session)) (List.set_set ..)

namespace LiveNode

open NodeLife

variable {n : LiveNode} {i : Nat} {hf : FleetHistory}

/-- The node with another session. -/
def withSession (n : LiveNode) (w : Session) : LiveNode := { n with session := w }

theorem reaches_acting {rest rest' : FleetDialogue (SupervisorAnswer × FleetTable)}
    (hl : rest.Leads hf rest') (ht : n.session.turns[i]? = some (.acting rest)) :
    Reaches (.up n) (ofFleet hf) (.up (n.withSession (n.session.setTurn i (.acting rest')))) := by
  induction hl generalizing n with
  | refl rest =>
      have hsame : n.session.setTurn i (.acting rest) = n.session := by
        obtain ⟨hi, hturn⟩ := List.getElem?_eq_some_iff.1 ht
        show { n.session with turns := n.session.turns.set i (.acting rest) } = n.session
        rw [← hturn, List.set_getElem_self hi]
      rw [hsame]
      exact .refl _
  | @ask r next answer hf rest' _ ih =>
      have hstep : (n.act i).Yields [⟨.fleet r, answer⟩]
          (n.withSession (n.session.setTurn i (.acting (next answer)))) := by
        unfold LiveNode.act Session.advance
        rw [ht]
        exact Dialogue.yields_ask.2 ⟨answer, [], rfl, .refl _⟩
      have hmove : ((NodeLife.up n).step (.act i)).Yields [⟨.fleet r, answer⟩]
          (.up (n.withSession (n.session.setTurn i (.acting (next answer))))) :=
        Dialogue.yields_bind.2 ⟨_, _, [], (List.append_nil _).symm, hstep, .refl _⟩
      have hrest := ih (n := n.withSession (n.session.setTurn i (.acting (next answer))))
        (Session.getElem?_setTurn_self ht _)
      refine (Reaches.move hmove).trans ?_
      rw [← Session.setTurn_setTurn n.session i (.acting (next answer)) (.acting rest')]
      exact hrest

/-- Nobody has the table, and nobody waits for it. -/
structure TableFree (w : Session) : Prop where
  holder : w.holder = none
  queue : w.queue = []

theorem step_act {w : Session} (hw : n.session.advance n.supervisor i = pure w) :
    (NodeLife.up n).step (.act i) = pure (.up (n.withSession w)) := by
  show (ofSession (n.session.advance n.supervisor i) >>= _) >>= _ = _
  rw [hw]; rfl

/-- A request that finds the table free is served to its end. -/
theorem reaches_served {request : SupervisorRequest} {answer : SupervisorAnswer} {table : FleetTable}
    (hfree : TableFree n.session) (ht : n.session.turns[i]? = some (.fresh request))
    (hy : (n.supervisor.serve request n.session.table).Yields hf (answer, table)) :
    ∃ w, Reaches (.up n) (ofFleet hf) (.up (n.withSession w)) ∧ TableFree w ∧ w.table = table ∧
      w.turns = n.session.turns.set i (.finished answer) := by
  let granted : Session := Session.grant n.supervisor n.session i request
  have hask : n.session.advance n.supervisor i = pure granted := by
    unfold Session.advance
    rw [ht]
    show pure (Session.ask n.supervisor n.session i request) = _
    unfold Session.ask
    rw [if_pos ⟨by rw [hfree.holder]; rfl, by rw [hfree.queue]; rfl⟩]
  have hacting : granted.turns[i]? = some (.acting (n.supervisor.serve request n.session.table)) :=
    List.getElem?_set_self (List.getElem?_eq_some_iff.1 ht).1
  have hserved := reaches_acting (n := n.withSession granted) hy hacting
  let done : Session := granted.setTurn i (.acting (.done (answer, table)))
  let free : Session :=
    { done.setTurn i (.finished answer) with table := table, holder := none, queue := [] }
  have hrelease : done.advance n.supervisor i = pure free := by
    have hdone : done.turns[i]? = some (.acting (.done (answer, table))) :=
      Session.getElem?_setTurn_self hacting _
    have hqueue : (done.setTurn i (.finished answer)).queue = [] := hfree.queue
    unfold Session.advance
    rw [hdone]
    show pure (Session.release n.supervisor (done.setTurn i (.finished answer)) table) = _
    unfold Session.release
    rw [hqueue]
  refine ⟨free, ?_, ⟨rfl, rfl⟩, rfl, ?_⟩
  · rw [← List.append_nil (ofFleet hf)]
    exact .after (step_act hask) (hserved.trans (.after (step_act hrelease) (.refl _)))
  · show ((n.session.turns.set i _).set i _).set i _ = _
    rw [List.set_set, List.set_set]

theorem reaches_arrived {w : Session} {request : SupervisorRequest} {answer : SupervisorAnswer}
    {table : FleetTable} (hsession : n.session = w.arrive request) (hfree : TableFree w)
    (hy : (n.supervisor.serve request w.table).Yields hf (answer, table)) :
    ∃ w', Reaches (.up n) (ofFleet hf) (.up (n.withSession w')) ∧ TableFree w' ∧ w'.table = table ∧
      w'.hasFinished w.turns.length = true ∧ (w.allAsked = true → w'.allAsked = true) := by
  have hfree' : TableFree n.session := by rw [hsession]; exact ⟨hfree.holder, hfree.queue⟩
  have hfresh : n.session.turns[w.turns.length]? = some (.fresh request) := by
    rw [hsession]; exact List.getElem?_concat_length
  have hy' : (n.supervisor.serve request n.session.table).Yields hf (answer, table) := by
    rw [hsession]; exact hy
  obtain ⟨w', hserved, hwfree, hwtable, hturns⟩ := reaches_served hfree' hfresh hy'
  have hturns' : w'.turns = w.turns ++ [.finished answer] := by
    rw [hturns, hsession]
    show (w.turns ++ [Turn.fresh request]).set w.turns.length (Turn.finished answer) = _
    simp
  refine ⟨w', hserved, hwfree, hwtable, ?_, fun hasked => ?_⟩
  · unfold Session.hasFinished
    rw [hturns', List.getElem?_concat_length]
  · unfold Session.allAsked
    rw [hturns', List.all_append]
    exact Bool.and_eq_true_iff.2 ⟨hasked, rfl⟩

end LiveNode

/-! ## Messages -/

namespace Bus

variable {Handler : Type} {b : Bus Handler} {subject : String}

/-- Nothing waits, and no handler is at work. -/
def AtRest (b : Bus Handler) : Prop :=
  ∀ subject lane, b.lanes.get? subject = some lane → lane.queue = [] ∧ lane.stage = .idle

theorem get?_setLane (b : Bus Handler) (subject : String) (lane : Lane Handler) (other : String) :
    (b.setLane subject lane).lanes.get? other =
      if other = subject then some lane else b.lanes.get? other :=
  b.lanes.get?_put subject lane other

/-- On a bus at rest a payload goes to its handler at once, and when the handler
returns the bus is what it was. -/
theorem delivers {lane : Lane Handler} (hopen : b.closed = false) (hrest : b.AtRest)
    (hlane : b.lanes.get? subject = some lane) (payload : Payload) :
    ∃ b', (b.publish subject payload).2.dispatch subject = (some (lane.handler, payload), b') ∧
      (b'.finish subject).closed = b.closed ∧
      ∀ other, (b'.finish subject).lanes.get? other = b.lanes.get? other := by
  obtain ⟨handler, queue, stage⟩ := lane
  obtain ⟨rfl, rfl⟩ : queue = [] ∧ stage = .idle := hrest subject _ hlane
  let waiting : Bus Handler := b.setLane subject ⟨handler, [payload], .idle⟩
  have hpublish : (b.publish subject payload).2 = waiting := by
    unfold publish
    rw [if_neg (by rw [hopen]; exact Bool.false_ne_true), hlane]
    rfl
  have hwaiting : waiting.lanes.get? subject = some ⟨handler, [payload], .idle⟩ := by
    rw [get?_setLane, if_pos rfl]
  let handling : Bus Handler := waiting.setLane subject ⟨handler, [], .handling payload⟩
  have hdispatch : waiting.dispatch subject = (some (handler, payload), handling) := by
    have hclosed : ¬ waiting.closed = true := by
      show ¬ b.closed = true
      rw [hopen]; exact Bool.false_ne_true
    unfold dispatch
    rw [hwaiting]
    show (if waiting.closed = true then _ else _) = _
    rw [if_neg hclosed]
  have hhandling : handling.lanes.get? subject = some ⟨handler, [], .handling payload⟩ := by
    rw [get?_setLane, if_pos rfl]
  have hfinish : handling.finish subject = handling.setLane subject ⟨handler, [], .idle⟩ := by
    have hin : handling.inHand subject = some (handler, payload) := by
      unfold inHand
      rw [hhandling]; rfl
    unfold finish
    rw [hhandling, hin]
  refine ⟨handling, hpublish ▸ hdispatch, by rw [hfinish]; rfl, fun other => ?_⟩
  rw [hfinish, get?_setLane, get?_setLane, get?_setLane]
  split
  · next heq => rw [heq, hlane]
  · rfl

theorem AtRest.subscribe (hrest : b.AtRest) (subject : String) (handler : Handler) :
    (b.subscribe subject handler).2.AtRest := by
  unfold Bus.subscribe
  split
  · exact hrest
  · split
    · exact hrest
    · intro other lane hl
      rw [get?_setLane] at hl
      split at hl
      · cases hl
        exact ⟨rfl, rfl⟩
      · exact hrest other lane hl

theorem closed_subscribe (b : Bus Handler) (subject : String) (handler : Handler) :
    (b.subscribe subject handler).2.closed = b.closed := by
  unfold subscribe
  split
  · rfl
  · split <;> rfl

end Bus

/-- The two ways of looking at a node agree: nobody has or waits for the table,
no handler is at work, and the rest is the same. -/
structure Matches (n : Node) (l : LiveNode) : Prop where
  supervisor : l.supervisor = n.supervisor
  table : l.session.table = n.table
  free : LiveNode.TableFree l.session
  asked : l.session.allAsked = true
  inspector : l.inspector = n.inspector
  unclosed : l.bus.closed = false
  rest : l.bus.AtRest
  handlers : ∀ subject, l.bus.handler? subject = n.bus.handler? subject
  settled : l.handling = []

namespace LiveNode

open NodeLife

variable {n n' : Node} {l : LiveNode} {h : NodeHistory}

/-- The node with another bus. -/
def withBus (l : LiveNode) (b : Bus Recipient) : LiveNode := { l with bus := b }

/-- A message to a bus at rest is given to its handler, and once that has
returned the bus is at rest again. -/
theorem reaches_delivered (hopen : l.bus.closed = false) (hrest : l.bus.AtRest) {m : NodeMessage}
    {recipient : Recipient} (hto : l.bus.handler? m.subject = some recipient) :
    ∃ b, Reaches (.up l) [] (.up ((l.withBus b).deliver m.subject m.at_ recipient m.payload)) ∧
      (b.finish m.subject).closed = false ∧ (b.finish m.subject).AtRest ∧
      ∀ other, (b.finish m.subject).handler? other = l.bus.handler? other := by
  obtain ⟨lane, hlane, rfl⟩ := Option.map_eq_some_iff.1 hto
  obtain ⟨b, hdispatch, hclosed, hlanes⟩ := Bus.delivers hopen hrest hlane m.payload
  refine ⟨b, ?_, hclosed.trans hopen, fun other lane hl => hrest other lane (hlanes other ▸ hl),
    fun other => congrArg (Option.map _) (hlanes other)⟩
  have hpost : (NodeLife.up l).step (.post m.subject m.payload) =
      pure (.up (l.withBus (l.bus.publish m.subject m.payload).2)) := rfl
  have hbegin : (NodeLife.up (l.withBus (l.bus.publish m.subject m.payload).2)).step
      (.dispatch m.subject m.at_) =
        pure (.up ((l.withBus b).deliver m.subject m.at_ lane.handler m.payload)) := by
    show Dialogue.done (NodeLife.up
      ((l.withBus (l.bus.publish m.subject m.payload).2).dispatch m.subject m.at_)) = _
    unfold LiveNode.dispatch
    rw [show (l.withBus (l.bus.publish m.subject m.payload).2).bus.dispatch m.subject = _ from hdispatch]
    rfl
  exact .after hpost (.after hbegin (.refl _))

theorem step_settle {subject : String} {i : Nat} (hwork : l.handling = [(subject, i)])
    (hfinished : l.session.hasFinished i = true) :
    (NodeLife.up l).step (.settle subject) =
      pure (.up { l with bus := l.bus.finish subject, handling := [] }) := by
  show Dialogue.done (NodeLife.up (l.settle subject)) = _
  unfold LiveNode.settle
  rw [hwork, List.lookup_cons_self]
  show Dialogue.done (NodeLife.up (if l.session.hasFinished i = true then _ else _)) = _
  rw [if_pos hfinished]
  simp

theorem reaches_requested {request : SupervisorRequest} {answer : SupervisorAnswer} {w : Session}
    {table : FleetTable} {subject : String} {hf : FleetHistory}
    (hsession : l.session = w.arrive request) (hwork : l.handling = [(subject, w.turns.length)])
    (hfree : TableFree w) (hy : (l.supervisor.serve request w.table).Yields hf (answer, table)) :
    ∃ w', Reaches (.up l) (ofFleet hf)
        (.up { l.withSession w' with bus := l.bus.finish subject, handling := [] }) ∧
      TableFree w' ∧ w'.table = table ∧ (w.allAsked = true → w'.allAsked = true) := by
  obtain ⟨w', hserved, hfree', htable, hfinished, hasked⟩ := reaches_arrived hsession hfree hy
  refine ⟨w', ?_, hfree', htable, hasked⟩
  rw [← List.append_nil (ofFleet hf)]
  exact hserved.trans (.after (step_settle (l := l.withSession w') hwork hfinished) (.refl _))

theorem reaches_handled (hm : Matches n l) {m : NodeMessage} (hy : (n.handle m).Yields h n') :
    ∃ l', Reaches (.up l) h (.up l') ∧ l'.main = l.main ∧ Matches n' l' := by
  unfold Node.handle at hy
  rw [← hm.handlers] at hy
  split at hy
  · next hto =>
    obtain ⟨b, hdelivered, hclosed, hrest, hhandlers⟩ := reaches_delivered hm.unclosed hm.rest hto
    have hhandlers' := fun subject => (hhandlers subject).trans (hm.handlers subject)
    unfold deliver at hdelivered
    split at hy
    · next request hrequest =>
      obtain ⟨h₁, ⟨answer, table⟩, h₂, rfl, hserve, hy₂⟩ := Dialogue.yields_bind.1 hy
      obtain ⟨rfl, rfl⟩ := Dialogue.yields_done.1 hy₂
      obtain ⟨hf, rfl, hfleet⟩ := yields_ofFleet hserve
      simp only [hrequest] at hdelivered
      rw [← hm.supervisor, ← hm.table] at hfleet
      have hwork : (m.subject, l.session.turns.length) :: l.handling =
          [(m.subject, l.session.turns.length)] := by rw [hm.settled]
      obtain ⟨w, hserved, hfree, htable, hasked⟩ := reaches_requested
        (l := { l.withBus b with
          session := l.session.arrive request
          handling := (m.subject, l.session.turns.length) :: l.handling })
        rfl hwork hm.free hfleet
      refine ⟨_, hdelivered.trans (hserved.trans (.refl _)), rfl, ?_⟩
      exact ⟨hm.supervisor, htable, hfree, hasked hm.asked, hm.inspector, hclosed, hrest,
        hhandlers', rfl⟩
    · next hrequest =>
      obtain ⟨rfl, rfl⟩ := Dialogue.yields_done.1 hy
      simp only [hrequest] at hdelivered
      exact ⟨_, hdelivered, rfl, hm.supervisor, hm.table, hm.free, hm.asked, hm.inspector, hclosed,
        hrest, hhandlers', hm.settled⟩
  · next hto =>
    obtain ⟨b, hdelivered, hclosed, hrest, hhandlers⟩ := reaches_delivered hm.unclosed hm.rest hto
    obtain ⟨rfl, rfl⟩ := Dialogue.yields_done.1 hy
    refine ⟨_, hdelivered, rfl, hm.supervisor, hm.table, hm.free, hm.asked, ?_, hclosed,
      hrest, fun subject => (hhandlers subject).trans (hm.handlers subject), hm.settled⟩
    show (l.inspector.heedMessage m.at_ m.payload).2 = _
    rw [hm.inspector]
  · obtain ⟨rfl, rfl⟩ := Dialogue.yields_done.1 hy
    exact ⟨l, .refl _, rfl, hm⟩

theorem reaches_handledAll {messages : List NodeMessage} (hm : Matches n l)
    (hy : (n.handleAll messages).Yields h n') :
    ∃ l', Reaches (.up l) h (.up l') ∧ l'.main = l.main ∧ Matches n' l' := by
  induction messages generalizing n l h with
  | nil =>
      obtain ⟨rfl, rfl⟩ := Dialogue.yields_done.1 hy
      exact ⟨l, .refl _, rfl, hm⟩
  | cons m rest ih =>
      obtain ⟨h₁, n₁, h₂, rfl, hone, hrest⟩ := Dialogue.yields_bind.1 hy
      obtain ⟨l₁, hr₁, hmain₁, hm₁⟩ := reaches_handled hm hone
      obtain ⟨l₂, hr₂, hmain₂, hm₂⟩ := ih hm₁ hrest
      exact ⟨l₂, hr₁.trans hr₂, hmain₂.trans hmain₁, hm₂⟩

/-! ## The main task -/

theorem step_main {l' : LiveNode} (hp : l.proceed = pure l') :
    (NodeLife.up l).step .main = pure (.up l') := by
  show l.proceed >>= _ = _
  rw [hp]; rfl

/-- The node with the main task elsewhere. -/
def withMain (l : LiveNode) (task : MainTask) : LiveNode := { l with main := task }

theorem reaches_subscribed {left : List String} (hmain : l.main = .subscribing left) :
    match Node.subscribeSupervisor l.bus left with
    | .ok b => Reaches (.up l) [] (.up ((l.withBus b).withMain (.subscribing [])))
    | .error e => ∃ b, Reaches (.up l) []
        (.up ((l.withBus b).withMain (.closing (.error (.node (.handlers e)))))) := by
  induction left generalizing l with
  | nil =>
      have hsame : (l.withBus l.bus).withMain (.subscribing []) = l := by
        unfold withMain withBus
        rw [← hmain]
      show Reaches (.up l) [] (.up ((l.withBus l.bus).withMain (.subscribing [])))
      rw [hsame]
      exact .refl _
  | cons subject rest ih =>
      unfold Node.subscribeSupervisor
      cases hsub : l.bus.subscribe subject .supervisor with
      | mk result b =>
          cases result with
          | ok u =>
              have hstep : l.proceed = pure ((l.withBus b).withMain (.subscribing rest)) := by
                unfold proceed
                rw [hmain]
                simp only [hsub]
                rfl
              have hrest := ih (l := (l.withBus b).withMain (.subscribing rest)) rfl
              show match Node.subscribeSupervisor b rest with
                | .ok b => Reaches (.up l) [] (.up ((l.withBus b).withMain (.subscribing [])))
                | .error e => ∃ b, Reaches (.up l) []
                    (.up ((l.withBus b).withMain (.closing (.error (.node (.handlers e))))))
              split
              · next b' hb' =>
                simp only [show ((l.withBus b).withMain (.subscribing rest)).bus = b from rfl, hb'] at hrest
                exact .after (step_main hstep) hrest
              · next e he =>
                simp only [show ((l.withBus b).withMain (.subscribing rest)).bus = b from rfl, he] at hrest
                obtain ⟨b', hb'⟩ := hrest
                exact ⟨b', .after (step_main hstep) hb'⟩
          | error e =>
              have hstep : l.proceed = pure (l.withMain (.closing (.error (.node (.handlers e))))) := by
                unfold proceed
                rw [hmain]
                simp only [hsub]
                rfl
              exact ⟨l.bus, .after (step_main hstep) (.refl _)⟩

theorem atRest_subscribeSupervisor {b b' : Bus Recipient} {left : List String}
    (hb : Node.subscribeSupervisor b left = .ok b') (hrest : b.AtRest) :
    b'.AtRest ∧ b'.closed = b.closed := by
  induction left generalizing b with
  | nil =>
      cases hb
      exact ⟨hrest, rfl⟩
  | cons subject rest ih =>
      have hrest' := hrest.subscribe subject .supervisor
      have hclosed := b.closed_subscribe subject .supervisor
      unfold Node.subscribeSupervisor at hb
      split at hb
      · next b₁ hsub =>
        rw [hsub] at hrest' hclosed
        obtain ⟨hr, hc⟩ := ih hb hrest'
        exact ⟨hr, hc.trans hclosed⟩
      · exact nomatch hb

theorem atRest_startInspector {s : InspectionSettings} {b b' : Bus Recipient} {i : Inspector}
    (hi : Node.startInspector s b = .ok (i, b')) (hrest : b.AtRest) :
    b'.AtRest ∧ b'.closed = b.closed := by
  have hrest' := hrest.subscribe Subject.scannerBlock .inspector
  have hclosed := b.closed_subscribe Subject.scannerBlock .inspector
  unfold Node.startInspector at hi
  cases hsub : b.subscribe Subject.scannerBlock .inspector with
  | mk result subscribed =>
      rw [hsub] at hi hrest' hclosed
      simp only at hi
      split at hi
      · exact nomatch hi
      · cases hi
        exact ⟨hrest', hclosed⟩
      · cases hi
        exact ⟨hrest, rfl⟩

theorem reaches_built (hmain : l.main = .subscribing []) :
    Reaches (.up l) [] (.up (l.withMain .startingInspector)) := by
  have hfirst : l.proceed = pure (l.withMain (.building [.chainClient, .routine])) := by
    unfold proceed
    rw [hmain]; rfl
  have hbuild : ∀ f left, (l.withMain (.building (f :: left))).proceed =
      pure (l.withMain (.building left)) := fun _ _ => rfl
  have hlast : (l.withMain (.building [])).proceed = pure (l.withMain .startingInspector) := rfl
  refine .after (step_main hfirst) ?_
  refine .after (step_main (hbuild _ _)) (.after (step_main (hbuild _ _)) ?_)
  exact .after (step_main hlast) (.refl _)

theorem proceed_of_inspector_refused {e : Failure} (hmain : l.main = .startingInspector)
    (hi : Node.startInspector l.config.inspectionSettings l.bus = .error e) :
    l.proceed = pure (l.withMain (.closing (.error (.node (.inspector e))))) := by
  unfold LiveNode.proceed
  simp only [hmain, hi]
  rfl

theorem proceed_of_inspector_started {started : Inspector × Bus Recipient}
    (hmain : l.main = .startingInspector)
    (hi : Node.startInspector l.config.inspectionSettings l.bus = .ok started) :
    l.proceed = pure { l with inspector := started.1, bus := started.2, main := .opening } := by
  unfold LiveNode.proceed
  simp only [hmain, hi]

/-- The parts of a node that has just come up are started, up to the first
failure. -/
theorem reaches_assembled (c : Config) (told : Bool) (s : Supervisor) (table : FleetTable) :
    match Node.assemble c s table ⟨.empty, told, true⟩ with
    | .ok n => ∃ l, Reaches (.up (.enter c told s table)) [] (.up l) ∧ l.main = .opening ∧
        l.config = c ∧ l.session = .start table [] ∧ Matches n l
    | .error e => ∃ l, Reaches (.up (.enter c told s table)) [] (.up l) ∧
        l.main = .closing (.error (.node e)) ∧ l.session = .start table [] := by
  have hempty : (⟨.empty, told, true⟩ : Bus Recipient).AtRest := fun _ _ hl => nomatch hl
  have hsubscribed := reaches_subscribed (l := .enter c told s table) rfl
  have hbus : (LiveNode.enter c told s table).bus = ⟨.empty, told, true⟩ := rfl
  unfold Node.assemble
  cases hb : Node.subscribeSupervisor ⟨.empty, told, true⟩ Supervisor.subjects with
  | error e =>
      simp only [hbus, hb] at hsubscribed
      obtain ⟨b, hclosing⟩ := hsubscribed
      exact ⟨_, hclosing, rfl, rfl⟩
  | ok b =>
      simp only [hbus, hb] at hsubscribed
      obtain ⟨hrest, hclosed⟩ := atRest_subscribeSupervisor hb hempty
      let built : LiveNode := ((LiveNode.enter c told s table).withBus b).withMain .startingInspector
      have hbuilt : Reaches (.up (.enter c told s table)) [] (.up built) :=
        hsubscribed.trans (reaches_built rfl)
      cases hi : Node.startInspector c.inspectionSettings b with
      | error e =>
          have hproceed := proceed_of_inspector_refused (l := built) rfl hi
          simp only [hi]
          exact ⟨_, hbuilt.trans (.after (step_main hproceed) (.refl _)), rfl, rfl⟩
      | ok started =>
          have hproceed := proceed_of_inspector_started (l := built) rfl hi
          obtain ⟨hrest', hclosed'⟩ := atRest_startInspector hi hrest
          have hopen : told = false := by
            cases told with
            | false => rfl
            | true => cases hb
          simp only [hi]
          refine ⟨_, hbuilt.trans (.after (step_main hproceed) (.refl _)), rfl, rfl, rfl, ?_⟩
          exact ⟨rfl, rfl, ⟨rfl, rfl⟩, rfl, rfl, (hclosed'.trans hclosed).trans hopen, hrest',
            fun _ => rfl, rfl⟩

/-- The main task tears the node down when nothing else is going on. -/
theorem reaches_ended {r : Except LifeError Unit} (hmain : l.main = .closing r)
    (hfree : TableFree l.session) (hasked : l.session.allAsked = true)
    (hy : (Node.stop l.session.table).Yields h ()) :
    ∃ life, Reaches (.up l) h life ∧ life.end? = some ⟨r, true⟩ := by
  obtain ⟨h₁, table, h₂, rfl, hstop, hy₂⟩ := Dialogue.yields_bind.1 hy
  obtain ⟨rfl, -⟩ := Dialogue.yields_done.1 hy₂
  obtain ⟨hf, rfl, hshutdown⟩ := yields_ofFleet hstop
  have hserve : (l.supervisor.serve .shutdown l.session.table).Yields hf (.done (.ok ()), table) :=
    Dialogue.yields_bind.2 ⟨hf, table, [], (List.append_nil _).symm, hshutdown, .refl _⟩
  let closed : LiveNode := (l.withBus l.bus.shutDown).withMain (.joining r)
  let asking : LiveNode :=
    (closed.withSession (l.session.arrive .shutdown)).withMain (.stopping l.session.turns.length r)
  have hclose : l.proceed = pure closed := by
    unfold proceed
    rw [hmain]; rfl
  have hjoin : closed.proceed = pure asking := by
    show (if l.session.allAsked = true then _ else _) = _
    rw [if_pos hasked]; rfl
  obtain ⟨w, hserved, _, _, hfinished, _⟩ := reaches_arrived (n := asking) rfl hfree hserve
  have hend : (asking.withSession w).proceed = pure ((asking.withSession w).withMain (.ended r)) := by
    show pure (if w.hasFinished l.session.turns.length = true then _ else _) = _
    rw [if_pos hfinished]; rfl
  refine ⟨.up ((asking.withSession w).withMain (.ended r)), ?_, rfl⟩
  refine .after (step_main hclose) (.after (step_main hjoin) (hserved.trans ?_))
  exact .after (step_main hend) (.refl _)

theorem reaches_opened (hmain : l.main = .opening) (bound : Except String Unit) :
    Reaches (.up l) [⟨.listen l.config.serverAddress, bound⟩] (.up (l.withMain
      (match bound with
      | .ok _ => .serving
      | .error reason => .closing (.error (.node (.listen l.config.serverAddress reason)))))) := by
  refine .move (m := .main) (Dialogue.yields_bind.2 ⟨_, _, [], (List.append_nil _).symm, ?_, .refl _⟩)
  show (l.proceed).Yields _ _
  unfold proceed
  rw [hmain]
  refine Dialogue.yields_request_bind.2 ⟨bound, [], rfl, ?_⟩
  cases bound with
  | ok u => exact .refl _
  | error reason => exact .refl _

/-! ## A whole run -/

theorem reaches_started {c : Config} {told : Bool} {r : Except NodeEnd Node}
    (hy : (Node.start c told).Yields h r) :
    (∃ n l, r = .ok n ∧ Reaches (.start c told) h (.up l) ∧ l.main = .serving ∧ Matches n l) ∨
    ∃ e life, r = .error e ∧ Reaches (.start c told) h life ∧
      life.end? = some ⟨e.result.mapError .node, e.told⟩ := by
  obtain ⟨h₁, launched, h₂, rfl, hlaunch, hthen⟩ := Dialogue.yields_bind.1 hy
  obtain ⟨hf, rfl, hfleet⟩ := yields_ofFleet hlaunch
  have hlaunched : Reaches (.start c told) (ofFleet hf) (.launching c told (.done launched)) :=
    reaches_launching hfleet
  cases launched with
  | error e =>
      obtain ⟨rfl, rfl⟩ := Dialogue.yields_done.1 hthen
      right
      exact ⟨_, .failed told e, rfl, hlaunched.trans (.after (m := .main) rfl (.refl _)), rfl⟩
  | ok started =>
      obtain ⟨s, table⟩ := started
      have hentered : Reaches (.start c told) (ofFleet hf) (.up (.enter c told s table)) := by
        rw [← List.append_nil (ofFleet hf)]
        exact hlaunched.trans (.after (m := .main) rfl (.refl _))
      have hassembled := reaches_assembled c told s table
      simp only at hthen
      cases ha : Node.assemble c s table ⟨.empty, told, true⟩ with
      | error cause =>
          simp only [ha] at hthen hassembled
          obtain ⟨l, hclosing, hmain, hsession⟩ := hassembled
          obtain ⟨h₁, _, h₂, rfl, hstop, hthen⟩ := Dialogue.yields_bind.1 hthen
          obtain ⟨rfl, rfl⟩ := Dialogue.yields_done.1 hthen
          have hfree : TableFree l.session := by rw [hsession]; exact ⟨rfl, rfl⟩
          have hasked : l.session.allAsked = true := by rw [hsession]; rfl
          have htable : l.session.table = table := by rw [hsession]; rfl
          obtain ⟨life, hended, hend⟩ := reaches_ended hmain hfree hasked (htable ▸ hstop)
          rw [List.append_nil]
          exact .inr ⟨_, life, rfl, hentered.trans (hclosing.trans hended), hend⟩
      | ok n =>
          simp only [ha] at hthen hassembled
          obtain ⟨l, hopening, hmain, rfl, hsession, hm⟩ := hassembled
          obtain ⟨h₁, bound, h₂, rfl, hlisten, hopen⟩ := Dialogue.yields_bind.1 hthen
          obtain rfl := Dialogue.yields_request.1 hlisten
          have hopened := hopening.trans (reaches_opened hmain bound)
          cases bound with
          | ok u =>
              obtain ⟨rfl, rfl⟩ := Dialogue.yields_done.1 hopen
              refine .inl ⟨n, l.withMain .serving, rfl, hentered.trans hopened, rfl, ?_⟩
              exact ⟨hm.supervisor, hm.table, hm.free, hm.asked, hm.inspector, hm.unclosed, hm.rest,
                hm.handlers, hm.settled⟩
          | error reason =>
              obtain ⟨h₁, _, h₂, rfl, hstop, hdone⟩ := Dialogue.yields_bind.1 hopen
              obtain ⟨rfl, rfl⟩ := Dialogue.yields_done.1 hdone
              have htable : l.session.table = table := by rw [hsession]; rfl
              obtain ⟨life, hended, hend⟩ := reaches_ended
                (l := l.withMain (.closing (.error (.node (.listen l.config.serverAddress reason)))))
                rfl hm.free hm.asked (htable ▸ hstop)
              rw [List.append_nil]
              exact .inr ⟨_, life, rfl, hentered.trans (hopened.trans hended), hend⟩

end LiveNode

open LiveNode NodeLife in
/-- **A node that does one thing after the other leads a life.**  What holds of
each life that is over holds of each run. -/
theorem Node.run_is_life {c : Config} {told : Bool} {messages : List NodeMessage} {h : NodeHistory}
    {e : NodeEnd} (hy : (Node.run c told messages).Yields h e) :
    ∃ moves life, (NodeLife.play moves (.start c told)).Yields h life ∧
      life.end? = some ⟨e.result.mapError .node, e.told⟩ := by
  suffices hlife : ∃ life, Reaches (.start c told) h life ∧
      life.end? = some ⟨e.result.mapError .node, e.told⟩ by
    obtain ⟨life, ⟨moves, hy⟩, hend⟩ := hlife
    exact ⟨moves, life, hy, hend⟩
  obtain ⟨h₁, started, h₂, rfl, hstart, hthen⟩ := Dialogue.yields_bind.1 hy
  rcases reaches_started hstart with ⟨n, l, rfl, hserving, hmain, hm⟩ | ⟨e', life, rfl, hlife, hend⟩
  · obtain ⟨h₁', n', h₂', rfl, hhandle, hthen⟩ := Dialogue.yields_bind.1 hthen
    obtain ⟨h₃, _, h₄, rfl, hstop, hthen⟩ := Dialogue.yields_bind.1 hthen
    obtain ⟨rfl, rfl⟩ := Dialogue.yields_done.1 hthen
    obtain ⟨l', hhandled, hmain', hm'⟩ := reaches_handledAll hm hhandle
    let told : LiveNode := l'.withBus l'.bus.close
    have htell : (NodeLife.up l').step .tell = pure (.up told) := rfl
    have hnotice : told.proceed = pure (told.withMain (.closing (.ok ()))) := by
      unfold proceed
      rw [show told.main = .serving from hmain'.trans hmain]
      rfl
    rw [← hm'.table] at hstop
    obtain ⟨life, hended, hend⟩ :=
      reaches_ended (l := told.withMain (.closing (.ok ()))) rfl hm'.free hm'.asked hstop
    refine ⟨life, ?_, hend⟩
    rw [List.append_nil]
    exact hserving.trans (hhandled.trans (.after htell (.after (step_main hnotice) hended)))
  · obtain ⟨rfl, rfl⟩ := Dialogue.yields_done.1 hthen
    rw [List.append_nil]
    exact ⟨life, hlife, hend⟩

end NodeKeeper
