/-
# A node stops what it has started

However the tasks of a node are interleaved, whatever the engine's program does,
and whenever the node is told to end: when its life is over, each container that
it has started was to be stopped after that.

**The invariant.**  `LiveNode.Account` joins the account of the session with the
way in which the node came up, and `LiveNode.Stage` says how far the teardown has
got.

    joining             the bus is closed, so no handler begins any more
    stopping, ended     the node's own request is the last one that is made, and
                        the last one that is given the table

Requests are given the table in the order in which they ask.  The handlers that
were at work when the wait for them was over have asked by then, so they come
before the node's own request, and what they start is recorded when it is served.

**Proved here.**

    each move keeps the account                              (`LiveNode.Account.step`)
    so does every life                                       (`NodeLife.Sound.play`)
    a life that is over has stopped what it has started      (`NodeLife.stops_what_it_started`)
-/
import NodeKeeper.Node.Life
import NodeKeeper.Proofs.Docker.Processes
import NodeKeeper.Proofs.Fleet.Serialisation

namespace NodeKeeper

open ContainerEvent FleetExchange FleetHistory NodeHistory SessionHistory

/-! ## The session of a node -/

/-- What passes in a session, without the numbers of the requests. -/
def SessionHistory.unlabelled (h : SessionHistory) : FleetHistory :=
  h.map fun e => ⟨e.request.request, e.answer⟩

@[simp] theorem unlabelled_append (h h' : SessionHistory) :
    unlabelled (h ++ h') = unlabelled h ++ unlabelled h' :=
  List.map_append

@[simp] theorem unlabelled_ofRequest (i : Nat) (h : FleetHistory) : unlabelled (ofRequest i h) = h :=
  (List.map_map ..).trans (List.map_id h)

@[simp] theorem unlabelled_inTurn (calls : List (Nat × ServedCall)) :
    unlabelled (inTurn calls) = ofCalls (calls.map (·.2)) := by
  induction calls with
  | nil => rfl
  | cons c calls ih =>
      show unlabelled (ofRequest c.1 c.2.history ++ inTurn calls) = _
      rw [unlabelled_append, unlabelled_ofRequest, ih]; rfl

theorem yields_ofSession {α : Type} {d : SessionDialogue α} {h : NodeHistory} {a : α}
    (hy : (LiveNode.ofSession d).Yields h a) :
    ∃ hs, d.Yields hs a ∧ fleetPart h = unlabelled hs := by
  obtain ⟨hs, hm, hd⟩ := Dialogue.yields_meet.1 hy
  refine ⟨hs, hd, ?_⟩
  clear hy hd
  induction hm with
  | nil => rfl
  | @cons e hs part h hpart _ ih =>
      rw [Dialogue.yields_request.1 hpart, fleetPart_append, ih]; rfl

namespace Session.Account

variable {s : Supervisor} {first table : FleetTable} {made : List SupervisorRequest}
  {calls : List (Nat × ServedCall)} {h : SessionHistory} {w : Session} {i : Nat}

theorem lt_of_mem (ha : Account s first table made calls h w) (hi : i ∈ w.granted ++ w.queue) :
    i < made.length := by
  have hlt : ∀ {request}, made[i]? = some request → i < made.length := fun hm =>
    (List.getElem?_eq_some_iff.1 hm).1
  rcases List.mem_append.1 hi with hg | hq
  · rcases ha.turn_of_granted hg with ⟨call, hc⟩ | hh
    · exact hlt (ha.finished _ hc).1
    · cases ha.stage with
      | free hn _ _ _ => exact nomatch hn.symm.trans hh
      | held hh' hmade _ _ _ _ => cases hh.symm.trans hh'; exact hlt hmade
  · obtain ⟨request, hmade, _⟩ := ha.waiting i hq
    exact hlt hmade

theorem call_of_hasFinished (ha : Account s first table made calls h w)
    (hi : w.hasFinished i = true) : ∃ call, (i, call) ∈ calls := by
  unfold hasFinished at hi
  split at hi
  · next answer ht =>
    rcases ha.cases_turn ht with ⟨_, heq, _⟩ | ⟨_, heq, _⟩ | ⟨call, _, hc⟩ | ⟨_, _, _, heq, _⟩
    · exact nomatch heq
    · exact nomatch heq
    · exact ⟨call, hc⟩
    · exact nomatch heq
  · exact nomatch hi

end Session.Account

/-! ## The bus -/

namespace Bus

variable {Handler : Type} {b : Bus Handler} {subject : String}

theorem closed_publish (b : Bus Handler) (subject : String) (payload : Payload) :
    (b.publish subject payload).2.closed = b.closed := by
  unfold publish
  split
  · rfl
  · split
    · rfl
    · split <;> rfl

theorem closed_finish (b : Bus Handler) (subject : String) : (b.finish subject).closed = b.closed := by
  unfold finish
  split <;> rfl

theorem closed_dispatch (b : Bus Handler) (subject : String) :
    (b.dispatch subject).2.closed = b.closed := by
  unfold dispatch
  split
  · rfl
  · split
    · rfl
    · split
      · rfl
      · split <;> rfl

theorem open_of_dispatch {x : Handler × Payload} {b' : Bus Handler}
    (h : b.dispatch subject = (some x, b')) : b.closed = false := by
  unfold dispatch at h
  split at h
  · exact nomatch h
  · split at h
    · exact nomatch h
    · split at h
      · exact nomatch h
      · next hopen => exact Bool.eq_false_iff.2 hopen

end Bus

/-! ## The account of a node -/

/-- Request `i` is the last one that is made.  All others have asked for the
table, and if it has asked it was the last to do so. -/
structure LastInLine (i : Nat) (made : List SupervisorRequest) (w : Session) : Prop where
  made_last : made[i]? = some .shutdown
  length : made.length = i + 1
  others : ∀ j < i, j ∈ w.granted ++ w.queue
  last : i ∈ w.granted ++ w.queue → ∃ l, w.granted ++ w.queue = l ++ [i]

namespace LiveNode

/-- How far the teardown has got. -/
def Stage (made : List SupervisorRequest) (calls : List (Nat × ServedCall)) (n : LiveNode) : Prop :=
  match n.main with
  | .joining _ => n.bus.closed = true
  | .stopping i _ => n.bus.closed = true ∧ LastInLine i made n.session
  | .ended _ => n.bus.closed = true ∧ ∃ i call, LastInLine i made n.session ∧ (i, call) ∈ calls
  | _ => True

/-- The account of a node of the configuration `c`: how it came up, the account
of its session, and its history. -/
structure Account (c : Config) (opening : FleetHistory) (first table : FleetTable)
    (made : List SupervisorRequest) (calls : List (Nat × ServedCall)) (hs : SessionHistory)
    (h : NodeHistory) (n : LiveNode) : Prop where
  launched : (Supervisor.launch c.fleet.policy c.fleet.infrastructure).Yields opening
    (.ok (n.supervisor, first))
  session : Session.Account n.supervisor first table made calls hs n.session
  prompt : n.session.Prompt
  passed : fleetPart h = opening ++ unlabelled hs
  stage : n.Stage made calls

variable {c : Config} {opening : FleetHistory} {first table : FleetTable}
  {made : List SupervisorRequest} {calls calls' : List (Nat × ServedCall)} {hs : SessionHistory}
  {h h' : NodeHistory} {n n' : LiveNode}

theorem Stage.keep (hst : n.Stage made calls) (hmain : n'.main = n.main)
    (hclosed : n.bus.closed = true → n'.bus.closed = true)
    (hline : ∀ i, LastInLine i made n.session → LastInLine i made n'.session)
    (hcalls : calls ⊆ calls') : n'.Stage made calls' := by
  unfold Stage at hst ⊢
  rw [hmain]
  split at hst
  · exact hclosed hst
  · exact ⟨hclosed hst.1, hline _ hst.2⟩
  · obtain ⟨hc, i, call, hl, hm⟩ := hst
    exact ⟨hclosed hc, i, call, hline i hl, hcalls hm⟩
  · trivial

/-- On an open bus the teardown has not got anywhere. -/
theorem Stage.of_open (hst : n.Stage made calls) (hopen : n.bus.closed = false)
    (hmain : n'.main = n.main) {made' : List SupervisorRequest} : n'.Stage made' calls' := by
  unfold Stage at hst ⊢
  rw [hmain]
  split at hst
  · exact nomatch hopen.symm.trans hst
  · exact nomatch hopen.symm.trans hst.1
  · exact nomatch hopen.symm.trans hst.1
  · trivial

namespace Account

theorem renew (ha : Account c opening first table made calls hs h n)
    (hsupervisor : n'.supervisor = n.supervisor) (hsession : n'.session = n.session)
    (hstage : n'.Stage made calls) : Account c opening first table made calls hs h n' where
  launched := by rw [hsupervisor]; exact ha.launched
  session := by rw [hsupervisor, hsession]; exact ha.session
  prompt := by rw [hsession]; exact ha.prompt
  passed := ha.passed
  stage := hstage

theorem aside (ha : Account c opening first table made calls hs h n)
    (hsupervisor : n'.supervisor = n.supervisor) (hsession : n'.session = n.session)
    (hmain : n'.main = n.main) (hclosed : n.bus.closed = true → n'.bus.closed = true) :
    Account c opening first table made calls hs h n' :=
  ha.renew hsupervisor hsession
    (ha.stage.keep hmain hclosed (fun _ hl => hsession ▸ hl) fun _ hm => hm)

/-- The line stays as it is when a request makes a step: only the last request
can still ask for the table. -/
theorem line_move (ha : Account c opening first table made calls hs h n) {i k : Nat} {w : Session}
    (hl : LastInLine i made n.session)
    (hmove : w.granted ++ w.queue =
      n.session.granted ++ n.session.queue ++ n.session.asking (.act k)) :
    LastInLine i made w := by
  simp only [Session.asking] at hmove
  split at hmove
  · next request hk =>
    obtain ⟨hmade, hgranted, hqueue⟩ := ha.session.not_asked hk
    have hlast : k = i := by
      have hlt : k < made.length := (List.getElem?_eq_some_iff.1 hmade).1
      rw [hl.length] at hlt
      refine Nat.le_antisymm (Nat.le_of_lt_succ hlt) (Nat.le_of_not_lt fun hki => ?_)
      exact (List.mem_append.1 (hl.others k hki)).elim hgranted hqueue
    refine ⟨hl.made_last, hl.length, fun j hj => ?_, fun _ => ⟨_, hlast ▸ hmove⟩⟩
    rw [hmove]
    exact List.mem_append_left _ (hl.others j hj)
  · rw [List.append_nil] at hmove
    exact ⟨hl.made_last, hl.length, fun j hj => hmove ▸ hl.others j hj, fun hi => hmove ▸ hl.last (hmove ▸ hi)⟩

theorem act (ha : Account c opening first table made calls hs h n) {i : Nat}
    (hy : (n.act i).Yields h' n') :
    ∃ table' calls' hs', Account c opening first table' made calls' hs' (h ++ h') n' := by
  obtain ⟨h₁, w, h₂, rfl, hadvance, hy₂⟩ := Dialogue.yields_bind.1 hy
  obtain ⟨rfl, rfl⟩ := Dialogue.yields_done.1 hy₂
  obtain ⟨hs', hmove, hpart⟩ := yields_ofSession hadvance
  obtain ⟨table', calls', hw, hprompt, hline⟩ := ha.session.move ha.prompt (m := .act i) hmove
  refine ⟨table', calls ++ calls', hs ++ hs', ha.launched, ?_, hprompt, ?_, ?_⟩
  · rw [← List.append_nil made]; exact hw
  · rw [List.append_nil, fleetPart_append, ha.passed, hpart, unlabelled_append, List.append_assoc]
  · exact ha.stage.keep rfl id (fun _ hl => ha.line_move hl hline) (List.subset_append_left _ _)

theorem dispatch (ha : Account c opening first table made calls hs h n) (subject : String)
    (now : Instant) :
    ∃ made', Account c opening first table made' calls hs h (n.dispatch subject now) := by
  have hclosed := Bus.closed_dispatch n.bus subject
  unfold LiveNode.dispatch
  split
  · next recipient payload bus hd =>
    have hopen := Bus.open_of_dispatch hd
    unfold deliver
    split
    · split
      · next request _ =>
        refine ⟨made ++ [request], ha.launched, ha.session.arrive request, ha.prompt, ha.passed, ?_⟩
        exact ha.stage.of_open hopen (by rfl)
      · exact ⟨made, ha.aside rfl rfl rfl fun hc => nomatch hopen.symm.trans hc⟩
    · exact ⟨made, ha.aside rfl rfl rfl fun hc => nomatch hopen.symm.trans hc⟩
  · next bus hd =>
    rw [hd] at hclosed
    exact ⟨made, ha.aside rfl rfl rfl fun hc => hclosed.trans hc⟩

theorem settle (ha : Account c opening first table made calls hs h n) (subject : String) :
    Account c opening first table made calls hs h (n.settle subject) := by
  unfold LiveNode.settle
  split
  · exact ha
  · split
    · exact ha.aside rfl rfl rfl fun hc => (Bus.closed_finish n.bus subject).trans hc
    · exact ha

/-- Once all requests have asked, the node's own request is the last in line. -/
theorem joined (ha : Account c opening first table made calls hs h n)
    (hasked : n.session.allAsked = true) :
    LastInLine n.session.turns.length (made ++ [.shutdown]) (n.session.arrive .shutdown) := by
  rw [ha.session.length]
  refine ⟨List.getElem?_concat_length .., List.length_append .., fun j hj => ?_, fun hm => ?_⟩
  · by_cases hgranted : j ∈ n.session.granted
    · exact List.mem_append_left _ hgranted
    · by_cases hqueue : j ∈ n.session.queue
      · exact List.mem_append_right _ hqueue
      · have hfresh := ha.session.fresh j _ (List.getElem?_eq_getElem hj) hgranted hqueue
        exact nomatch List.all_eq_true.1 hasked _ (List.mem_of_getElem? hfresh)
  · exact absurd (ha.session.lt_of_mem hm) (Nat.lt_irrefl _)

theorem proceed (ha : Account c opening first table made calls hs h n)
    (hy : n.proceed.Yields h' n') :
    ∃ made', Account c opening first table made' calls hs (h ++ h') n' := by
  have hpure : ∀ {m : LiveNode}, (pure m : NodeDialogue LiveNode).Yields h' n' →
      Account c opening first table made calls hs h m →
        ∃ made', Account c opening first table made' calls hs (h ++ h') n' := by
    intro m hm ha'
    obtain ⟨rfl, rfl⟩ := Dialogue.yields_done.1 hm
    exact ⟨made, (List.append_nil h).symm ▸ ha'⟩
  have hstage := ha.stage
  unfold LiveNode.proceed at hy
  unfold Stage at hstage
  split at hy
  · exact hpure hy (ha.renew rfl rfl trivial)
  · split at hy
    · exact hpure hy (ha.renew rfl rfl trivial)
    · exact hpure hy (ha.renew rfl rfl trivial)
  · exact hpure hy (ha.renew rfl rfl trivial)
  · exact hpure hy (ha.renew rfl rfl trivial)
  · split at hy
    · exact hpure hy (ha.renew rfl rfl trivial)
    · exact hpure hy (ha.renew rfl rfl trivial)
  · -- the service is opened, which the fleet does not see
    obtain ⟨answer, rest, rfl, hrest⟩ := Dialogue.yields_request_bind.1 hy
    have hpassed : fleetPart (h ++ [⟨.listen n.config.serverAddress, answer⟩]) =
        opening ++ unlabelled hs := by
      rw [fleetPart_append, ha.passed]
      exact List.append_nil _
    match answer with
    | .ok () =>
        obtain ⟨rfl, rfl⟩ := Dialogue.yields_done.1 hrest
        exact ⟨made, ha.launched, ha.session, ha.prompt, hpassed, trivial⟩
    | .error reason =>
        obtain ⟨rfl, rfl⟩ := Dialogue.yields_done.1 hrest
        exact ⟨made, ha.launched, ha.session, ha.prompt, hpassed, trivial⟩
  · split at hy
    · exact hpure hy (ha.renew rfl rfl trivial)
    · exact hpure hy ha
  · exact hpure hy (ha.renew rfl rfl rfl)
  · next r hmain =>
    rw [hmain] at hstage
    split at hy
    · next hasked =>
      obtain ⟨rfl, rfl⟩ := Dialogue.yields_done.1 hy
      rw [List.append_nil]
      exact ⟨made ++ [.shutdown], ha.launched, ha.session.arrive .shutdown, ha.prompt, ha.passed,
        hstage, ha.joined hasked⟩
    · exact hpure hy ha
  · next i r hmain =>
    rw [hmain] at hstage
    split at hy
    · next hfinished =>
      obtain ⟨call, hcall⟩ := ha.session.call_of_hasFinished hfinished
      exact hpure hy (ha.renew rfl rfl ⟨hstage.1, i, call, hstage.2, hcall⟩)
    · exact hpure hy ha
  · exact hpure hy ha

theorem fail (ha : Account c opening first table made calls hs h n) (reason : String) :
    Account c opening first table made calls hs h (n.fail reason) := by
  unfold LiveNode.fail
  split
  · exact ha.renew rfl rfl trivial
  · exact ha.renew rfl rfl trivial
  · exact ha

theorem step (ha : Account c opening first table made calls hs h n) {m : NodeMove}
    (hy : (n.step m).Yields h' n') :
    ∃ table' made' calls' hs', Account c opening first table' made' calls' hs' (h ++ h') n' := by
  have hpure : ∀ {m : LiveNode}, (pure m : NodeDialogue LiveNode).Yields h' n' →
      (∃ made', Account c opening first table made' calls hs h m) →
        ∃ table' made' calls' hs', Account c opening first table' made' calls' hs' (h ++ h') n' := by
    rintro m hm ⟨made', ha'⟩
    obtain ⟨rfl, rfl⟩ := Dialogue.yields_done.1 hm
    exact ⟨table, made', calls, hs, (List.append_nil h).symm ▸ ha'⟩
  cases m with
  | tell => exact hpure hy ⟨made, ha.aside rfl rfl rfl fun _ => rfl⟩
  | post subject payload =>
      refine hpure hy ⟨made, ha.aside rfl rfl rfl fun hc => ?_⟩
      exact (Bus.closed_publish n.bus subject payload).trans hc
  | dispatch subject now => exact hpure hy (ha.dispatch subject now)
  | act i =>
      obtain ⟨table', calls', hs', ha'⟩ := ha.act hy
      exact ⟨table', made, calls', hs', ha'⟩
  | settle subject => exact hpure hy ⟨made, ha.settle subject⟩
  | main =>
      obtain ⟨made', ha'⟩ := ha.proceed hy
      exact ⟨table, made', calls, hs, ha'⟩
  | fail reason => exact hpure hy ⟨made, ha.fail reason⟩

end Account

end LiveNode

/-! ## The life of a node -/

namespace NodeLife

variable {c : Config} {h h' : NodeHistory} {life life' : NodeLife}

/-- What the history of a life says about where it stands. -/
def Sound (c : Config) (h : NodeHistory) : NodeLife → Prop
  | .launching c' _ rest => c' = c ∧
      (Supervisor.launch c.fleet.policy c.fleet.infrastructure).Leads (fleetPart h) rest
  | .up n => ∃ opening first table made calls hs,
      LiveNode.Account c opening first table made calls hs h n
  | .failed _ cause =>
      (Supervisor.launch c.fleet.policy c.fleet.infrastructure).Yields (fleetPart h) (.error cause)

theorem sound_start (c : Config) (told : Bool) : (start c told).Sound c [] := ⟨rfl, .refl _⟩

theorem sound_enter {told : Bool} {s : Supervisor} {first : FleetTable}
    (hl : (Supervisor.launch c.fleet.policy c.fleet.infrastructure).Yields (fleetPart h) (.ok (s, first))) :
    (NodeLife.up (.enter c told s first)).Sound c h :=
  ⟨fleetPart h, first, first, [], [], [], hl, Session.account_start s first [], fun _ => rfl,
    (List.append_nil _).symm, trivial⟩

theorem Sound.step (hl : life.Sound c h) {m : NodeMove} (hy : (life.step m).Yields h' life') :
    life'.Sound c (h ++ h') := by
  have hpure : ∀ {l : NodeLife}, (pure l : NodeDialogue NodeLife).Yields h' life' →
      l.Sound c h → life'.Sound c (h ++ h') := by
    intro l hp hl'
    obtain ⟨rfl, rfl⟩ := Dialogue.yields_done.1 hp
    exact (List.append_nil h).symm ▸ hl'
  unfold NodeLife.step at hy
  split at hy
  · exact hpure hy hl
  · obtain ⟨rfl, hlead⟩ := hl
    unfold launchStep at hy
    split at hy
    · next r next =>
      obtain ⟨answer, rest, rfl, hrest⟩ := Dialogue.yields_request_bind.1 hy
      obtain ⟨rfl, rfl⟩ := Dialogue.yields_done.1 hrest
      refine ⟨rfl, ?_⟩
      rw [fleetPart_append]
      exact hlead.snoc answer
    · exact hpure hy (sound_enter hlead)
    · exact hpure hy hlead
  · obtain ⟨opening, first, table, made, calls, hs, ha⟩ := hl
    obtain ⟨h₁, n', h₂, rfl, hstep, hrest⟩ := Dialogue.yields_bind.1 hy
    obtain ⟨rfl, rfl⟩ := Dialogue.yields_done.1 hrest
    obtain ⟨table', made', calls', hs', ha'⟩ := ha.step hstep
    rw [List.append_nil]
    exact ⟨opening, first, table', made', calls', hs', ha'⟩
  · exact hpure hy hl

theorem Sound.play {moves : List NodeMove} (hl : life.Sound c h)
    (hy : (NodeLife.play moves life).Yields h' life') : life'.Sound c (h ++ h') := by
  induction moves generalizing life h h' with
  | nil =>
      obtain ⟨rfl, rfl⟩ := Dialogue.yields_done.1 hy
      rw [List.append_nil]
      exact hl
  | cons m rest ih =>
      obtain ⟨h₁, l, h₂, rfl, hstep, hrest⟩ := Dialogue.yields_bind.1 hy
      rw [← List.append_assoc]
      exact ih (hl.step hstep) hrest

end NodeLife

/-! ## The end of a life -/

theorem Supervisor.Serves.last {s : Supervisor} {first table : FleetTable} {calls : List ServedCall}
    {call : ServedCall} (hs : s.Serves first (calls ++ [call]) table) :
    ∃ table', s.Serves first calls table' ∧
      (s.serve call.request table').Yields call.history (call.answer, table) := by
  generalize hl : calls ++ [call] = l at hs
  cases hs with
  | nil => exact absurd hl (List.append_ne_nil_of_right_ne_nil _ (List.cons_ne_nil _ _))
  | snoc hs hy =>
      obtain ⟨rfl, hcall⟩ := List.append_inj' hl rfl
      cases hcall
      exact ⟨_, hs, hy⟩

namespace LiveNode

variable {c : Config} {opening : FleetHistory} {first table : FleetTable}
  {made : List SupervisorRequest} {calls : List (Nat × ServedCall)} {hs : SessionHistory}
  {h : NodeHistory} {n : LiveNode}

/-- When the main task has ended, its own request was served last, and nobody
else has or waits for the table. -/
theorem Account.last_call (ha : Account c opening first table made calls hs h n)
    {r : Except LifeError Unit} (hend : n.main = .ended r) :
    hs = inTurn calls ∧ ∃ earlier i call, calls = earlier ++ [(i, call)] ∧ call.request = .shutdown := by
  have hstage := ha.stage
  unfold Stage at hstage
  rw [hend] at hstage
  obtain ⟨_, i, call, hl, hcall⟩ := hstage
  have hserved : i ∈ calls.map (·.1) := List.mem_map_of_mem hcall
  have hgranted : i ∈ n.session.granted := by
    cases ha.session.stage with
    | free _ _ hg _ => rw [hg]; exact hserved
    | held _ _ _ _ hg _ => rw [hg]; exact List.mem_append_left _ hserved
  obtain ⟨l, hline⟩ := hl.last (List.mem_append_left _ hgranted)
  have honce := ha.session.once
  have hqueue : n.session.queue = [] := by
    rcases List.eq_nil_or_concat n.session.queue with hnil | ⟨q, k, hq⟩
    · exact hnil
    · rw [List.concat_eq_append] at hq
      rw [hq, ← List.append_assoc] at hline
      obtain ⟨_, hk⟩ := List.append_inj' hline rfl
      cases hk
      rw [hq] at honce
      exact absurd rfl ((List.nodup_append.1 honce).2.2 i hgranted i
        (List.mem_append_right _ (List.mem_singleton_self _)))
  rw [hqueue, List.append_nil] at hline honce
  cases ha.session.stage with
  | free _ _ hg hhist =>
      refine ⟨hhist, ?_⟩
      rcases List.eq_nil_or_concat calls with rfl | ⟨earlier, ⟨k, last⟩, hcalls⟩
      · exact absurd hserved List.not_mem_nil
      · rw [List.concat_eq_append] at hcalls
        subst hcalls
        rw [hg, List.map_append] at hline
        obtain ⟨_, hk⟩ := List.append_inj' hline rfl
        cases hk
        refine ⟨earlier, _, last, rfl, ?_⟩
        have hmade :=
          (ha.session.finished _ (List.mem_append_right _ (List.mem_singleton_self _))).1
        exact Option.some.inj (hmade.symm.trans hl.made_last)
  | @held k _ _ _ _ _ _ _ hg _ =>
      rw [hg] at hline honce
      obtain ⟨_, hk⟩ := List.append_inj' hline rfl
      cases hk
      exact absurd rfl ((List.nodup_append.1 honce).2.2 _ hserved _ (List.mem_singleton_self _))

/-- What has passed when the main task has ended: the launch, some calls, and
the stops of what they have left. -/
theorem Account.ended (ha : Account c opening first table made calls hs h n)
    {r : Except LifeError Unit} (hend : n.main = .ended r) :
    ∃ earlier table' stops, n.supervisor.Serves first earlier table' ∧
      Supervisor.StopsEach table'.shutdownOrder stops ∧
      fleetPart h = opening ++ ofCalls earlier ++ counted 0 :: stops := by
  obtain ⟨rfl, earlier, i, ⟨request, history, answer⟩, rfl, hrequest⟩ := ha.last_call hend
  have hserved := ha.session.served
  rw [List.map_append] at hserved
  obtain ⟨table', hearlier, hlast⟩ := hserved.last
  cases hrequest
  cases Supervisor.yields_serve.1 hlast with
  | @shutdown stops hstops =>
      refine ⟨earlier.map (·.2), table', stops, hearlier, hstops, ?_⟩
      rw [ha.passed, unlabelled_inTurn, List.map_append, ofCalls_append, List.append_assoc]
      exact congrArg _ (congrArg _ (ofCalls_singleton _))

theorem Account.onHost (ha : Account c opening first table made calls hs h n)
    {r : Except LifeError Unit} (hend : n.main = .ended r) {h' : HostHistory}
    (hhost : Dialogue.MetBy (NodeRequest.onHost c.fleet.dockerProgram) h h') :
    ∃ earlier table' stops, n.supervisor.Serves first earlier table' ∧
      Supervisor.StopsEach table'.shutdownOrder stops ∧
      fleetPart h = opening ++ ofCalls earlier ++ counted 0 :: stops ∧
      HostHistory.events h' = FleetHistory.events (opening ++ ofCalls earlier ++ counted 0 :: stops) ∧
      NamesKept (opening ++ ofCalls earlier) := by
  obtain ⟨earlier, table', stops, hserves, hstops, hpart⟩ := ha.ended hend
  have hlaunch := Supervisor.yields_launch.1 ha.launched
  have hunlinked : FleetHistory.IsUnlinked (fleetPart h) := by
    rw [hpart]
    exact (hlaunch.isUnlinked.append hserves.isUnlinked).append
      (isUnlinked_cons.2 ⟨trivial, hstops.isUnlinked⟩)
  obtain ⟨hevents, hnames⟩ := events_onHost hhost hunlinked
  rw [hpart] at hevents hnames
  exact ⟨earlier, table', stops, hserves, hstops, hpart, hevents, hnames.left⟩

end LiveNode

/-! ## What is left running -/

/-- The recorded containers are to be stopped, each once and those of agents
first, and none is started. -/
structure TornDown (table : FleetTable) (es : List ContainerEvent) : Prop where
  none_started : startedIds es = []
  once : (stopIds es).Nodup
  agents_first : ∃ agents shared : List ContainerRecord,
    stopIds es = (agents ++ shared).map (·.id) ∧ (agents ++ shared).Perm table.snapshot ∧
      (∀ r ∈ agents, r.role.isAgent = true) ∧ ∀ r ∈ shared, r.role.isAgent = false

theorem Supervisor.StopsEach.tornDown {table : FleetTable} {stops : FleetHistory}
    (hs : StopsEach table.shutdownOrder stops) (hids : table.ids.Nodup) :
    TornDown table (FleetHistory.events (counted 0 :: stops)) where
  none_started := (startedIds_events _).trans hs.askedIds.2
  once := by
    rw [stopIds_events]
    show (FleetHistory.askedIds stops).Nodup
    rw [hs.askedIds.1]
    exact (table.shutdownOrder_perm.map ContainerRecord.id).nodup_iff.2 hids
  agents_first := by
    refine ⟨table.snapshot.filter (·.role.isAgent), table.snapshot.filter (! ·.role.isAgent), ?_,
      table.shutdownOrder_perm, fun r hr => (List.mem_filter.1 hr).2, fun r hr => ?_⟩
    · rw [stopIds_events]
      exact hs.askedIds.1
    · simpa using (List.mem_filter.1 hr).2

section Stopped

variable {policy : FleetPolicy} {infra : Infrastructure} {s : Supervisor} {opening stops : FleetHistory}
  {first table : FleetTable} {calls : List ServedCall}

/-- A supervisor that has asked for the stop of all recorded containers owes
nothing. -/
theorem Supervisor.Launches.not_owed_of_stopsEach (hl : Launches policy infra opening (.ok (s, first)))
    (hne : s.scanner.name ≠ s.jsonRpc.name) (hs : s.Serves first calls table)
    (hnames : NamesKept (ofCalls calls)) (hstops : StopsEach table.shutdownOrder stops) (id : String) :
    ¬ Owed (FleetHistory.events (opening ++ ofCalls calls ++ counted 0 :: stops)) id := by
  have hsettled := ((hl.settles hne).trans (hs.settles hnames)).trans hstops.settles
  exact fun ho => nomatch hsettled.owed id ho

theorem Supervisor.Launches.ids_nodup (hl : Launches policy infra opening (.ok (s, first)))
    (hne : s.scanner.name ≠ s.jsonRpc.name) (hs : s.Serves first calls table)
    (hnames : NamesKept (opening ++ ofCalls calls))
    (hfresh : (startedIds (FleetHistory.events (opening ++ ofCalls calls))).Nodup) : table.ids.Nodup := by
  have hopens : s.Opens [] opening first := .launched (by
    rw [hl.ok_cases.1]
    exact Supervisor.yields_launch.2 hl)
  have hgiven : (givenIds (opening ++ ofCalls calls)).Nodup := startedIds_events _ ▸ hfresh
  exact FleetTable.ids_nodup (hopens.posts hs hne hnames hgiven).1.distinct

end Stopped

namespace NodeLife

/-- **A node stops what it has started.**  When a life is over, then for each
container that a process of the engine's program has started, a process to stop
it was asked for after that, whatever has failed on the way.  Unless the launch
has failed, the last processes stop the containers that were still recorded, each
once and those of agents first. -/
theorem stops_what_it_started {c : Config} {told : Bool} {moves : List NodeMove}
    {h : NodeHistory} {h' : HostHistory} {life : NodeLife} {e : LifeEnd}
    (hplay : (play moves (start c told)).Yields h life) (hend : life.end? = some e)
    (hhost : Dialogue.MetBy (NodeRequest.onHost c.fleet.dockerProgram) h h')
    (hfresh : (startedIds (HostHistory.events h')).Nodup)
    (hexclusive : NamesExclusive (HostHistory.events h')) :
    (∀ before name id after,
      HostHistory.events h' = before ++ .start name id :: after → id ∈ stopIds after) ∧
    ((∃ cause, e.result = .error (.node (.infrastructure cause))) ∨
      ∃ s first table opening earlier teardown,
        (Supervisor.launch c.fleet.policy c.fleet.infrastructure).Yields opening (.ok (s, first)) ∧
        s.Serves first earlier table ∧ fleetPart h = opening ++ ofCalls earlier ++ teardown ∧
        HostHistory.events h' =
          FleetHistory.events (opening ++ ofCalls earlier) ++ FleetHistory.events teardown ∧
        TornDown table (FleetHistory.events teardown)) := by
  have hsound := (sound_start c told).play hplay
  rw [List.nil_append] at hsound
  match life with
  | .launching _ _ _ => exact nomatch hend
  | .failed told' cause =>
      have hlaunch := Supervisor.yields_launch.1 hsound
      obtain ⟨hevents, _⟩ := events_onHost hhost hlaunch.isUnlinked
      cases hend
      refine ⟨fun before name id after heq => ?_, .inl ⟨cause, rfl⟩⟩
      rw [hevents] at heq
      exact mem_stopIds_of_not_owed (hlaunch.not_owed id) heq
  | .up n =>
      obtain ⟨opening, first, table, made, calls, hs, ha⟩ := hsound
      obtain ⟨r, hmain⟩ : ∃ r, n.main = .ended r := by
        simp only [end?] at hend
        split at hend
        · next r hmain => exact ⟨r, hmain⟩
        · exact nomatch hend
      obtain ⟨earlier, table', stops, hserves, hstops, hpart, hevents, hnames⟩ := ha.onHost hmain hhost
      have hlaunch := Supervisor.yields_launch.1 ha.launched
      rw [hevents] at hexclusive hfresh
      have hne := hlaunch.names_ne hnames.left (List.append_assoc opening _ _ ▸ hexclusive)
      refine ⟨fun before name id after heq => ?_, .inr ⟨n.supervisor, first, table', opening, earlier, _,
        ha.launched, hserves, hpart, hevents.trans (events_append _ _), hstops.tornDown ?_⟩⟩
      · rw [hevents] at heq
        exact mem_stopIds_of_not_owed (hlaunch.not_owed_of_stopsEach hne hserves hnames.right hstops id) heq
      · refine hlaunch.ids_nodup hne hserves hnames ?_
        rw [events_append, ContainerEvent.startedIds_append] at hfresh
        exact (List.nodup_append.1 hfresh).1

end NodeLife

/-! An agent is asked for, and the node is told to end before it is started. -/

namespace LateAgent

def config : Config where
  chain := ⟨1, "http://chain", none, .ofId 1⟩
  inspection := ⟨50, false, false, "http://proxy"⟩
  localMode := ⟨true, false⟩
  fleet := ⟨"docker", .standard, "net", ⟨"scanner", "scanner:1", .empty⟩, ⟨"proxy", "proxy:1", .empty⟩⟩
  server := ⟨"127.0.0.1", 8090⟩
  provenance := ⟨none, false, .chainTable⟩

/-- A host on which each process ends well, and each container has an id made
from its name. -/
def host : (r : HostRequest) → Unit → r.Answer × Unit
  | .process r, _ =>
    let line := "id of " ++ Docker.nameFlag r.command.args
    ((.ok ⟨some 0, line.toUTF8.toList, []⟩ : Except String ProcessEnd), ())
  | .publish _ _, _ => ((), ())
  | .setCount _, _ => ((), ())
  | .now, _ => ((⟨0, 0⟩ : Timestamp), ())
  | .listen _, _ => ((.ok () : Except String Unit), ())

def payload : Payload := "[\x7b\"id\":\"a\",\"image\":\"a:1\"\x7d]".toUTF8.toList

/-- The handler's request has the table when the node is told to end, and the
node's own request waits for it. -/
def moves : List NodeMove :=
  List.replicate 18 .main ++
    [.post Subject.agentsRun payload, .dispatch Subject.agentsRun 0, .act 0, .tell] ++
    List.replicate 3 .main ++ .act 1 :: List.replicate 12 (.act 0) ++
    List.replicate 7 (.act 1) ++ [.main]

def wholeLife : HostDialogue NodeLife :=
  (NodeLife.play moves (.start config false)).onHost config.fleet.dockerProgram

def history : HostHistory := wholeLife.history host ()

end LateAgent

/-- The agent is started after the teardown has begun, and is stopped. -/
theorem NodeLife.stops_what_it_started_late :
    ∃ after, HostHistory.events LateAgent.history =
        [.start "scanner" "id of scanner", .start "proxy" "id of proxy"] ++
          .start AbortedStop.first.containerName ("id of " ++ AbortedStop.first.containerName) ::
            after ∧
      "id of " ++ AbortedStop.first.containerName ∈ stopIds after := by
  obtain ⟨h, hhost, hplay⟩ := Dialogue.yields_meet.1 (Dialogue.yields_run LateAgent.host LateAgent.wholeLife ())
  obtain ⟨e, hend⟩ := Option.isSome_iff_exists.1
    (show (LateAgent.wholeLife.run LateAgent.host ()).1.end?.isSome = true by decide +kernel)
  have hevents : HostHistory.events LateAgent.history =
      [.start "scanner" "id of scanner", .start "proxy" "id of proxy"] ++
        .start AbortedStop.first.containerName ("id of " ++ AbortedStop.first.containerName) ::
          [.stop ("id of " ++ AbortedStop.first.containerName) true, .stop "id of proxy" true,
            .stop "id of scanner" true] := by
    decide +kernel
  have hfresh : (startedIds (HostHistory.events LateAgent.history)).Nodup := by
    rw [hevents]
    decide +kernel
  have hnames : (startedNames (HostHistory.events LateAgent.history)).Nodup := by
    rw [hevents]
    decide +kernel
  have hstops := stops_what_it_started hplay hend hhost hfresh (namesExclusive_of_nodup hnames)
  exact ⟨_, hevents, hstops.1 _ _ _ _ hevents⟩

end NodeKeeper
