/-
# A node without the messages that cannot be read

`n.hush` is the node `n` without those waiting messages that their handlers
cannot read.  It is the same node otherwise: the same table and requests, the
same slot and clock of the inspector, the same tasks.

**Proved here.**

    a move that is about no such message        does the same with and without them
                                                (`WholeNode.yields_hush`)
    one that publishes or hands over such one   does nothing else
                                                (`WholeNode.Inaudible.hush`)

The second needs that each subject has the handler that reads it
(`LiveNode.Wired`): a handler that found its payload readable after all would
act on it.
-/
import NodeKeeper.Proofs.Node.Handlers

namespace NodeKeeper

/-! ## What can be read -/

/-- Can a handler of the subject read the payload?  On a subject that no handler
of the node listens to there is nothing to read. -/
def Subject.reads (subject : String) (payload : Payload) : Bool :=
  if subject = scannerBlock then (Json.decode Progress.decoder payload).isSome
  else if subject ∈ Supervisor.subjects then (Json.decode Agent.batchDecoder payload).isSome
  else true

/-- Can the handler of a message read it? -/
def NodeMessage.isReadable (x : NodeMessage) : Bool := Subject.reads x.subject x.payload

theorem Subject.reads_of_mem {subject : String} (hs : subject ∈ Supervisor.subjects)
    (payload : Payload) :
    Subject.reads subject payload = (Json.decode Agent.batchDecoder payload).isSome := by
  have hne : subject ≠ scannerBlock := by
    rintro rfl
    exact absurd hs (by decide)
  rw [reads, if_neg hne, if_pos hs]

theorem Supervisor.requestOf?_of_unread {subject : String} (hs : subject ∈ Supervisor.subjects)
    {payload : Payload} (hunread : Subject.reads subject payload = false) :
    Supervisor.requestOf? subject payload = none := by
  rw [Subject.reads_of_mem hs, Option.isSome_eq_false_iff, Option.isNone_iff_eq_none] at hunread
  simp [requestOf?, hunread]

theorem Inspector.heedMessage_of_unread (i : Inspector) (now : Instant) {payload : Payload}
    (hunread : Subject.reads Subject.scannerBlock payload = false) :
    (i.heedMessage now payload).2 = i := by
  have hnone : Json.decode Progress.decoder payload = none := by
    rw [Subject.reads, if_pos rfl, Option.isSome_eq_false_iff, Option.isNone_iff_eq_none] at hunread
    exact hunread
  simp [heedMessage, hnone]

/-- A batch with a member that cannot be read cannot be read. -/
theorem Subject.reads_batch {subject : String} (hs : subject ∈ Supervisor.subjects)
    {payload : Payload} {items : List Json.Tree}
    (hread : Json.Tree.read? payload = some (.array items)) {item : Json.Tree}
    (hmem : item ∈ items) (hitem : Agent.decoder item = none) :
    Subject.reads subject payload = false := by
  rw [reads_of_mem hs]
  simp [Json.decode, hread, Agent.batchDecoder, Json.Decode.list,
    mapM_eq_none_of_mem hmem hitem]

namespace LiveNode

variable {n n' : LiveNode} {m : NodeMove} {h : NodeHistory} {subject : String}

/-! ## A node without the messages that cannot be read -/

/-- The node without the waiting messages that cannot be read. -/
def hush (n : LiveNode) : LiveNode := { n with bus := n.bus.hush Subject.reads }

theorem hush_deliver (n : LiveNode) (subject : String) (now : Instant) (recipient : Recipient)
    (payload : Payload) :
    n.hush.deliver subject now recipient payload =
      (n.deliver subject now recipient payload).hush := by
  cases recipient with
  | supervisor =>
      simp only [deliver]
      split
      · rfl
      · exact congrArg (fun b => ({ n with bus := b } : LiveNode)) (Bus.hush_finish ..)
  | inspector =>
      exact congrArg (fun b => ({ n with bus := b, inspector := _ } : LiveNode)) (Bus.hush_finish ..)

theorem deliver_of_unread (n : LiveNode) (now : Instant) {recipient : Recipient}
    (hlistens : recipient.ListensTo subject) {payload : Payload}
    (hunread : Subject.reads subject payload = false) :
    n.deliver subject now recipient payload = { n with bus := n.bus.finish subject } := by
  cases recipient with
  | supervisor => simp only [deliver, Supervisor.requestOf?_of_unread hlistens hunread]
  | inspector =>
      obtain rfl : subject = Subject.scannerBlock := hlistens
      simp only [deliver, n.inspector.heedMessage_of_unread now hunread]

theorem hush_dispatch (n : LiveNode) (subject : String) (now : Instant)
    (hread : ∀ recipient payload, (n.bus.dispatch subject).1 = some (recipient, payload) →
      Subject.reads subject payload = true) :
    n.hush.dispatch subject now = (n.dispatch subject now).hush := by
  have hbus : n.hush.bus.dispatch subject = _ := Bus.hush_dispatch n.bus subject hread
  simp only [dispatch, hbus]
  rcases n.bus.dispatch subject with ⟨_ | ⟨recipient, payload⟩, b⟩
  · rfl
  · exact hush_deliver { n with bus := b } subject now recipient payload

theorem dispatch_of_unread (hw : n.Wired) (now : Instant) {recipient : Recipient}
    {payload : Payload} (hheard : (n.bus.dispatch subject).1 = some (recipient, payload))
    (hunread : Subject.reads subject payload = false) :
    ∃ b, n.bus.dispatch subject = (some (recipient, payload), b) ∧
      n.dispatch subject now = { n with bus := b.finish subject } := by
  rcases hdispatch : n.bus.dispatch subject with ⟨heard, b⟩
  obtain rfl : heard = some (recipient, payload) := by rw [← hheard, hdispatch]
  have hlistens : recipient.ListensTo subject := by
    obtain ⟨lane, _, hlane, rfl, -⟩ := Bus.of_dispatch hdispatch
    exact hw.handlers subject _ (by rw [Bus.handler?, hlane]; rfl)
  refine ⟨b, rfl, ?_⟩
  simp only [dispatch, hdispatch]
  exact deliver_of_unread { n with bus := b } now hlistens hunread

theorem hush_dispatch_unread (hw : n.Wired) (now : Instant) {recipient : Recipient}
    {payload : Payload} (hheard : (n.bus.dispatch subject).1 = some (recipient, payload))
    (hunread : Subject.reads subject payload = false) :
    (n.dispatch subject now).hush = n.hush := by
  obtain ⟨b, hdispatch, hback⟩ := dispatch_of_unread hw now hheard hunread
  rw [hback]
  exact congrArg (fun b => ({ n with bus := b } : LiveNode)) (Bus.hush_handed_back hdispatch hunread)

theorem hush_settle (n : LiveNode) (subject : String) :
    n.hush.settle subject = (n.settle subject).hush := by
  have hhandling : n.hush.handling = n.handling := rfl
  simp only [settle, hhandling]
  cases n.handling.lookup subject with
  | none => rfl
  | some i =>
      dsimp only
      show (if n.session.hasFinished i then _ else _) = _
      split
      · exact congrArg (fun b => ({ n with bus := b, handling := _ } : LiveNode)) (Bus.hush_finish ..)
      · rfl

theorem hush_fail (n : LiveNode) (reason : String) : n.hush.fail reason = (n.fail reason).hush := by
  obtain ⟨config, supervisor, session, bus, inspector, handling, main⟩ := n
  cases main with
  | building left => cases left <;> rfl
  | _ => rfl

theorem hush_startInspector (s : InspectionSettings) (b : Bus Recipient) :
    Node.startInspector s (b.hush Subject.reads) =
      (Node.startInspector s b).map fun x => (x.1, x.2.hush Subject.reads) := by
  simp only [Node.startInspector, Bus.hush_subscribe]
  rcases (Inspector.idle s).start (b.subscribe Subject.scannerBlock .inspector).1 with
    ⟨_ | _ | _, i⟩ <;> rfl

theorem hush_spawns (n : LiveNode) : n.hush.spawns = n.spawns := by
  obtain ⟨config, supervisor, session, bus, inspector, handling, main⟩ := n
  cases main with
  | startingInspector =>
      simp only [spawns, hush, hush_startInspector]
      cases Node.startInspector config.inspectionSettings bus <;> rfl
  | _ => rfl

theorem hush_proceed (n : LiveNode) : n.hush.proceed = n.proceed >>= fun n' => pure n'.hush := by
  obtain ⟨config, supervisor, session, bus, inspector, handling, main⟩ := n
  cases main with
  | subscribing left =>
      cases left with
      | nil => rfl
      | cons subject rest =>
          simp only [proceed, hush, Bus.hush_subscribe]
          rcases bus.subscribe subject .supervisor with ⟨_ | _, b⟩ <;> rfl
  | building left => cases left <;> rfl
  | startingInspector =>
      simp only [proceed, hush, hush_startInspector]
      cases Node.startInspector config.inspectionSettings bus <;> rfl
  | opening =>
      refine congrArg (Dialogue.ask _) (funext fun answer => ?_)
      cases answer with
      | ok _ => rfl
      | error reason => rfl
  | serving => by_cases hclosed : bus.closed = true <;> simp [proceed, hush, hclosed]
  | joining r => by_cases hasked : session.allAsked = true <;> simp [proceed, hush, hasked]
  | stopping i r =>
      by_cases hfinished : session.hasFinished i = true <;> simp [proceed, hush, hfinished]
  | _ => rfl

theorem hush_act (n : LiveNode) (i : Nat) : n.hush.act i = n.act i >>= fun n' => pure n'.hush := by
  simp only [act, bind_assoc]
  rfl

/-- What a node does without the messages that cannot be read is what it does
with them, unless it is about one of them. -/
theorem hush_step (n : LiveNode) (m : NodeMove)
    (hpost : ∀ subject payload, m = .post subject payload → Subject.reads subject payload = true)
    (hhear : ∀ subject now, m = .dispatch subject now → ∀ recipient payload,
      (n.bus.dispatch subject).1 = some (recipient, payload) →
        Subject.reads subject payload = true) :
    n.hush.step m = n.step m >>= fun n' => pure n'.hush := by
  cases m with
  | tell => rfl
  | post subject payload =>
      simp only [step, hush, Bus.hush_publish n.bus (hpost subject payload rfl)]
      rfl
  | dispatch subject now => exact congrArg Dialogue.done (n.hush_dispatch subject now (hhear _ now rfl))
  | act i => exact n.hush_act i
  | settle subject => exact congrArg Dialogue.done (n.hush_settle subject)
  | main => exact n.hush_proceed
  | fail reason => exact congrArg Dialogue.done (n.hush_fail reason)

end LiveNode

/-- A life without the waiting messages that cannot be read. -/
def NodeLife.hush : NodeLife → NodeLife
  | .up n => .up n.hush
  | life => life

namespace WholeNode

variable {c : Config} {told : Bool} {w w' first : WholeNode} {h : NodeHistory} {m : WholeMove}
  {t : InspectorTask} {steps : NodeSteps}

/-- The node without the waiting messages that cannot be read. -/
def hush (w : WholeNode) : WholeNode := { w with life := w.life.hush }

/-- Is what is published in a move, or handed over, something that can be read? -/
def isAudible (w : WholeNode) (m : WholeMove) : Bool :=
  (posted? m).all (fun x => Subject.reads x.1 x.2) &&
    (w.heard? m).all (·.isReadable)

/-! ### Moves about what can be read -/

theorem hush_spawned (w : WholeNode) (m : NodeMove) : w.hush.spawned m = w.spawned m := by
  obtain ⟨life, workers, probes⟩ := w
  cases m with
  | main =>
      cases life with
      | up n => simp only [spawned, hush, NodeLife.hush, n.hush_spawns]
      | _ => rfl
  | _ => rfl

theorem hush_tending? (w : WholeNode) (t : InspectorTask) : w.hush.tending? t = w.tending? t := by
  obtain ⟨life, workers, probes⟩ := w
  cases life <;> rfl

theorem hush_tend (w : WholeNode) (t : InspectorTask) : w.hush.tend t = (w.tend t).hush := by
  simp only [tend, hush_tending?]
  cases w.tending? t with
  | none => rfl
  | some x =>
      obtain ⟨life, workers, probes⟩ := w
      cases life <;> rfl

theorem hush_lifeStep {m : NodeMove} (hm : w.isAudible (.node m) = true) :
    w.life.hush.step m = w.life.step m >>= fun life => pure life.hush := by
  obtain ⟨life, workers, probes⟩ := w
  obtain ⟨hposted, hheard⟩ := Bool.and_eq_true_iff.1 hm
  cases life with
  | up n =>
      have hstep := n.hush_step m
        (by
          rintro subject payload rfl
          exact hposted)
        (by
          rintro subject now rfl recipient payload hdispatch
          simpa [heard?, hdispatch, NodeMessage.isReadable] using hheard)
      simp only [NodeLife.hush, NodeLife.step, hstep, bind_assoc]
      rfl
  | launching c told rest =>
      cases m with
      | main =>
          cases rest with
          | ask r next => rfl
          | done result => rcases result with _ | ⟨s, table⟩ <;> rfl
      | _ => rfl
  | failed told cause => cases m <;> rfl

theorem hush_step (hm : w.isAudible m = true) :
    w.hush.step m = w.step m >>= fun w' => pure w'.hush := by
  cases m with
  | node m =>
      have hlife : w.hush.life.step m = _ := hush_lifeStep hm
      simp only [step, hlife, hush_spawned, bind_assoc]
      rfl
  | task t => exact congrArg Dialogue.done (w.hush_tend t)

theorem yields_hush (hm : w.isAudible m = true) {v : WholeNode} :
    (w.hush.step m).Yields h v ↔ ∃ w', (w.step m).Yields h w' ∧ v = w'.hush := by
  rw [hush_step hm]
  constructor
  · intro hy
    obtain ⟨h₁, w', h₂, rfl, hstep, hrest⟩ := Dialogue.yields_bind.1 hy
    obtain ⟨rfl, rfl⟩ := Dialogue.yields_done.1 hrest
    exact ⟨w', (List.append_nil h₁).symm ▸ hstep, rfl⟩
  · rintro ⟨w', hstep, rfl⟩
    exact Dialogue.yields_bind.2 ⟨h, w', [], (List.append_nil h).symm, hstep, .refl _⟩

/-! ### Moves about what cannot be read -/

/-- A move is not audible if somebody publishes what cannot be read, or a
dispatcher hands it over. -/
inductive Inaudible : WholeNode → WholeMove → Prop
  | posted {w : WholeNode} {subject : String} {payload : Payload} :
      Subject.reads subject payload = false → Inaudible w (.node (.post subject payload))
  | heard {n : LiveNode} {workers : List Worker} {probes : List ChainProbe} {subject : String}
      {now : Instant} {recipient : Recipient} {payload : Payload} :
      (n.bus.dispatch subject).1 = some (recipient, payload) →
      Subject.reads subject payload = false →
      Inaudible ⟨.up n, workers, probes⟩ (.node (.dispatch subject now))

theorem inaudible_of_not (hm : w.isAudible m = false) : w.Inaudible m := by
  unfold isAudible at hm
  rcases Bool.and_eq_false_iff.1 hm with hposted | hheard
  · cases m with
    | task t => cases hposted
    | node m =>
        cases m with
        | post subject payload => exact .posted hposted
        | _ => cases hposted
  · cases m with
    | task t => cases hheard
    | node m =>
        cases m with
        | dispatch subject now =>
            obtain ⟨life, workers, probes⟩ := w
            cases life with
            | up n =>
                rcases hdispatch : (n.bus.dispatch subject).1 with _ | ⟨recipient, payload⟩
                · simp [heard?, hdispatch] at hheard
                · exact .heard hdispatch (by simpa [heard?, hdispatch, NodeMessage.isReadable] using hheard)
            | _ => cases hheard
        | _ => cases hheard

theorem Inaudible.unread (hi : w.Inaudible m) :
    (posted? m).toList.filter (fun x => Subject.reads x.1 x.2) = [] ∧
      (w.heard? m).toList.filter (·.isReadable) = [] := by
  cases hi with
  | posted hunread => simp [posted?, heard?, hunread]
  | heard hdispatch hunread => simp [posted?, heard?, hdispatch, NodeMessage.isReadable, hunread]

theorem posted?_of_audible (hm : w.isAudible m = true) :
    (posted? m).toList.filter (fun x => Subject.reads x.1 x.2) = (posted? m).toList := by
  obtain ⟨hposted, -⟩ := Bool.and_eq_true_iff.1 hm
  cases hpost : posted? m with
  | none => rfl
  | some x =>
      rw [hpost] at hposted
      have hread : Subject.reads x.1 x.2 = true := hposted
      simp [hread]

/-- A move that is not audible does nothing else, and leaves no trace. -/
theorem Inaudible.hush (hi : w.Inaudible m) (hw : w.Wired) (hy : (w.step m).Yields h w') :
    h = [] ∧ w'.hush = w.hush := by
  cases hi with
  | @posted w subject payload hunread =>
      obtain ⟨life, hlife, rfl⟩ := yields_node.1 hy
      obtain ⟨before, workers, probes⟩ := w
      have hsame : h = [] ∧ life.hush = before.hush := by
        cases before with
        | up n =>
            obtain ⟨h₁, n', h₂, rfl, hstep, hrest⟩ := Dialogue.yields_bind.1 hlife
            obtain ⟨rfl, rfl⟩ := Dialogue.yields_done.1 hstep
            obtain ⟨rfl, rfl⟩ := Dialogue.yields_done.1 hrest
            refine ⟨rfl, congrArg NodeLife.up ?_⟩
            exact congrArg (fun b => ({ n with bus := b } : LiveNode))
              (Bus.hush_publish_unread n.bus hunread)
        | _ =>
            obtain ⟨rfl, rfl⟩ := Dialogue.yields_done.1 hlife
            exact ⟨rfl, rfl⟩
      obtain ⟨rfl, hsame⟩ := hsame
      exact ⟨rfl, by simp only [WholeNode.hush, hsame, spawned, List.append_nil]⟩
  | @heard n workers probes subject now recipient payload hdispatch hunread =>
      obtain ⟨life, hlife, rfl⟩ := yields_node.1 hy
      obtain ⟨h₁, n', h₂, rfl, hstep, hrest⟩ := Dialogue.yields_bind.1 hlife
      obtain ⟨rfl, rfl⟩ := Dialogue.yields_done.1 hstep
      obtain ⟨rfl, rfl⟩ := Dialogue.yields_done.1 hrest
      refine ⟨rfl, ?_⟩
      simp only [WholeNode.hush, NodeLife.hush, spawned, List.append_nil,
        LiveNode.hush_dispatch_unread (hw n rfl) now hdispatch hunread]

theorem hush_events (w : WholeNode) (m : WholeMove) : w.hush.events m = w.events m := by
  cases m with
  | node m => rfl
  | task t => simp only [events, hush_tending?]

theorem hush_routineCall? (w : WholeNode) (m : WholeMove) :
    w.hush.routineCall? m = w.routineCall? m := by
  cases m with
  | node m => rfl
  | task t => simp only [routineCall?, hush_tending?]

theorem hush_question? (w : WholeNode) (m : WholeMove) : w.hush.question? m = w.question? m := by
  cases m with
  | node m => rfl
  | task t => simp only [question?, hush_tending?]

theorem hush_heard? (hm : w.isAudible m = true) : w.hush.heard? m = w.heard? m := by
  obtain ⟨life, workers, probes⟩ := w
  cases m with
  | task t => rfl
  | node m =>
      cases m with
      | dispatch subject now =>
          cases life with
          | up n =>
              have hdispatch : n.hush.bus.dispatch subject = _ :=
                Bus.hush_dispatch n.bus subject (by
                  intro recipient payload hdispatch
                  simpa [isAudible, posted?, heard?, hdispatch, NodeMessage.isReadable] using hm)
              simp only [heard?, hush, NodeLife.hush, hdispatch]
          | _ => rfl
      | _ => rfl

end WholeNode

end NodeKeeper
