/-
# Runs of a whole node

A run is a list of steps, each with the node before and after it and what passes
meanwhile between the node and its surroundings.  Nothing is said about the
order of the moves or about the answers, so a statement about every run is one
about all schedules and all surroundings.

**Inversions.**  A step of the inspector's tasks is one of the life of the
inspector (`WholeNode.Tends`).  A step of another task leaves the inspector
alone, or has it heed a message, or starts it (`LiveNode.Changes`).  A step of the
main task subscribes to a subject, or starts the inspector, or leaves the
subscriptions alone (`LiveNode.MainStep`).

**Proved here.**

    a run is sound for the fleet, as the life of the node is       (`Runs.sound`)
    the node keeps its configuration and the inspector's settings  (`Runs.configured`)
    before the inspector is started nothing is noted of it         (`Runs.untended`)
    every life of a node is the life of a whole one                (`runs_of_play`)
    surroundings with a state carry out a run                      (`runs_follow`)
-/
import NodeKeeper.Node.Whole
import NodeKeeper.Proofs.Inspection.Cadence
import NodeKeeper.Proofs.Node.Sequence

namespace NodeKeeper

open NodeHistory

/-! ## Steps and runs -/

structure NodeStep where
  before : WholeNode
  move : WholeMove
  /-- what passes between the node and its surroundings -/
  history : NodeHistory
  after : WholeNode

abbrev NodeSteps := List NodeStep

namespace NodeStep

/-- What is noted of the inspector's tasks. -/
def events (s : NodeStep) : InspectorLog := s.before.events s.move

/-- What the routine is given. -/
def routineCall? (s : NodeStep) : Option InspectionInputs := s.before.routineCall? s.move

end NodeStep

namespace NodeSteps

/-- All that passes between the node and its surroundings. -/
def passed (steps : NodeSteps) : NodeHistory := steps.flatMap (·.history)

/-- All that is noted of the inspector's tasks. -/
def events (steps : NodeSteps) : InspectorLog := steps.flatMap (·.events)

@[simp] theorem passed_append (steps steps' : NodeSteps) :
    passed (steps ++ steps') = passed steps ++ passed steps' := List.flatMap_append

@[simp] theorem passed_singleton (s : NodeStep) : passed [s] = s.history := List.flatMap_singleton ..

@[simp] theorem events_append (steps steps' : NodeSteps) :
    events (steps ++ steps') = events steps ++ events steps' := List.flatMap_append

@[simp] theorem events_singleton (s : NodeStep) : events [s] = s.events := List.flatMap_singleton ..

end NodeSteps

namespace WholeNode

/-- The steps lead from the first node to another one. -/
inductive Runs (first : WholeNode) : NodeSteps → WholeNode → Prop
  | nil : Runs first [] first
  | snoc {steps : NodeSteps} {w w' : WholeNode} {m : WholeMove} {h : NodeHistory} :
      Runs first steps w → (w.step m).Yields h w' → Runs first (steps ++ [⟨w, m, h, w'⟩]) w'

end WholeNode

/-! ## What a step of the node's life does to the inspector -/

/-- Is the inspector not started yet? -/
def MainTask.isStarting : MainTask → Bool
  | .subscribing _ | .building _ | .startingInspector => true
  | _ => false

theorem Inspector.lastError_heedMessage (i : Inspector) (now : Instant) (payload : Payload) :
    (i.heedMessage now payload).2.lastError = i.lastError := by
  simp only [heedMessage]
  split
  · rfl
  · next p _ =>
    simp only [heed]
    cases i.settings.targetBlock p.received <;> rfl

theorem Inspector.settings_heedMessage (i : Inspector) (now : Instant) (payload : Payload) :
    (i.heedMessage now payload).2.settings = i.settings := by
  simp only [heedMessage]
  split
  · rfl
  · exact i.settings_heed now _

theorem Node.startInspector_ok {s : InspectionSettings} {b b' : Bus Recipient} {i : Inspector}
    (h : Node.startInspector s b = .ok (i, b')) : i.settings = s ∧ i.lastError = .clear := by
  simp only [startInspector, Inspector.start] at h
  split at h
  · cases h
  · next heq =>
    cases h
    split at heq
    · cases heq
    · split at heq
      · cases heq
      · split at heq
        · cases heq
          exact ⟨rfl, rfl⟩
        · cases heq
  · next heq =>
    cases h
    split at heq
    · cases heq
      exact ⟨rfl, rfl⟩
    · split at heq
      · cases heq
      · split at heq <;> cases heq

namespace LiveNode

variable {n n' n'' : LiveNode} {m : NodeMove} {h : NodeHistory}

/-- The inspector after a move: the same, or it has heeded a message, or it has
been started. -/
inductive Changes (n : LiveNode) : NodeMove → Inspector → Prop
  | kept {m : NodeMove} : Changes n m n.inspector
  | heard {m : NodeMove} (now : Instant) (payload : Payload) :
      Changes n m (n.inspector.heedMessage now payload).2
  | started {i : Inspector} {b : Bus Recipient} : n.main = .startingInspector →
      Node.startInspector n.config.inspectionSettings n.bus = .ok (i, b) → Changes n .main i

/-- What a move leaves of a node. -/
structure Advances (n : LiveNode) (m : NodeMove) (n' : LiveNode) : Prop where
  config : n'.config = n.config
  inspector : n.Changes m n'.inspector
  /-- the inspector is started once at most, and its worker is spawned then -/
  starting : n'.main.isStarting = true → n.main.isStarting = true ∧ (m = .main → n.spawns = false)

theorem Changes.settings {i : Inspector} {c : Config} (hc : n.Changes m i) (hconfig : n.config = c)
    (hsettings : n.inspector.settings = c.inspectionSettings) :
    i.settings = c.inspectionSettings := by
  cases hc with
  | kept => exact hsettings
  | heard now payload => exact (n.inspector.settings_heedMessage now payload).trans hsettings
  | started _ hok => exact (Node.startInspector_ok hok).1.trans (hconfig ▸ rfl)

theorem Changes.lastError {i : Inspector} (hc : n.Changes m i) :
    i.lastError = n.inspector.lastError ∨ n.main.isStarting = true ∧ i.lastError = .clear := by
  cases hc with
  | kept => exact .inl rfl
  | heard now payload => exact .inl (n.inspector.lastError_heedMessage now payload)
  | started hmain hok => exact .inr ⟨hmain ▸ rfl, (Node.startInspector_ok hok).2⟩

theorem advances_of_eq (hconfig : n'.config = n.config) (hinspector : n'.inspector = n.inspector)
    (hmain : n'.main = n.main) (hm : m ≠ .main) : n.Advances m n' :=
  ⟨hconfig, hinspector ▸ .kept, fun hs => ⟨hmain ▸ hs, fun h => absurd h hm⟩⟩

theorem advances_dispatch (n : LiveNode) (subject : String) (now : Instant) :
    n.Advances (.dispatch subject now) (n.dispatch subject now) := by
  simp only [dispatch]
  split
  · next recipient payload b _ =>
    cases recipient with
    | supervisor =>
        simp only [deliver]
        split
        · exact advances_of_eq rfl rfl rfl nofun
        · exact advances_of_eq rfl rfl rfl nofun
    | inspector => exact ⟨rfl, .heard now payload, fun hs => ⟨hs, nofun⟩⟩
  · exact advances_of_eq rfl rfl rfl nofun

theorem advances_settle (n : LiveNode) (subject : String) :
    n.Advances (.settle subject) (n.settle subject) := by
  simp only [settle]
  split
  · exact advances_of_eq rfl rfl rfl nofun
  · split
    · exact advances_of_eq rfl rfl rfl nofun
    · exact advances_of_eq rfl rfl rfl nofun

theorem advances_fail (n : LiveNode) (reason : String) :
    n.Advances (.fail reason) (n.fail reason) := by
  simp only [fail]
  split
  · next hmain => exact ⟨rfl, .kept, nofun⟩
  · next hmain => exact ⟨rfl, .kept, nofun⟩
  · exact advances_of_eq rfl rfl rfl nofun

theorem advances_pure (hy : (pure n' : NodeDialogue LiveNode).Yields h n'')
    (ha : n.Advances m n') : n.Advances m n'' := by
  obtain ⟨rfl, rfl⟩ := Dialogue.yields_done.1 hy
  exact ha

/-- What one step of the main task does to bus and inspector: it subscribes the
supervisor to one more subject, or starts the inspector, or leaves both alone. -/
inductive MainStep (n : LiveNode) : LiveNode → Prop
  | subscribes {subject : String} {rest : List String} {bus : Bus Recipient} :
      n.main = .subscribing (subject :: rest) →
      n.bus.subscribe subject .supervisor = (.ok (), bus) →
      MainStep n { n with bus := bus, main := .subscribing rest }
  | starts {i : Inspector} {bus : Bus Recipient} : n.main = .startingInspector →
      Node.startInspector n.config.inspectionSettings n.bus = .ok (i, bus) →
      MainStep n { n with inspector := i, bus := bus, main := .opening }
  | goesOn {n' : LiveNode} : n'.config = n.config → n'.inspector = n.inspector →
      n'.bus.lanes = n.bus.lanes →
      (n'.main.isStarting = true → n.main.isStarting = true ∧ n.main ≠ .startingInspector) →
      (∀ left, n'.main = .subscribing left → n.main = .subscribing left) → MainStep n n'

theorem proceed_mainStep (hy : n.proceed.Yields h n') : n.MainStep n' := by
  have hends : ∀ {n₁ : LiveNode} {h : NodeHistory},
      (pure n₁ : NodeDialogue LiveNode).Yields h n' → n.MainStep n₁ → n.MainStep n' := by
    intro n₁ h hy hstep
    obtain ⟨-, rfl⟩ := Dialogue.yields_done.1 hy
    exact hstep
  have hstays : n.main.isStarting = false → n.MainStep n := fun hmain =>
    .goesOn rfl rfl rfl (fun hs => nomatch hmain.symm.trans hs) fun _ => id
  simp only [proceed] at hy
  split at hy
  case h_1 hmain => exact hends hy (.goesOn rfl rfl rfl (fun _ => hmain ▸ ⟨rfl, nofun⟩) nofun)
  case h_2 hmain =>
    split at hy
    · next hsubscribe => exact hends hy (.subscribes hmain hsubscribe)
    · exact hends hy (.goesOn rfl rfl rfl nofun nofun)
  case h_3 hmain => exact hends hy (.goesOn rfl rfl rfl (fun _ => hmain ▸ ⟨rfl, nofun⟩) nofun)
  case h_4 hmain => exact hends hy (.goesOn rfl rfl rfl (fun _ => hmain ▸ ⟨rfl, nofun⟩) nofun)
  case h_5 hmain =>
    split at hy
    · next hok => exact hends hy (.starts hmain hok)
    · exact hends hy (.goesOn rfl rfl rfl nofun nofun)
  case h_6 =>
    obtain ⟨answer, rest, rfl, hrest⟩ := Dialogue.yields_request_bind.1 hy
    match answer with
    | .ok () => exact hends hrest (.goesOn rfl rfl rfl nofun nofun)
    | .error reason => exact hends hrest (.goesOn rfl rfl rfl nofun nofun)
  case h_7 hmain =>
    split at hy
    · exact hends hy (.goesOn rfl rfl rfl nofun nofun)
    · exact hends hy (hstays (hmain ▸ rfl))
  case h_8 => exact hends hy (.goesOn rfl rfl rfl nofun nofun)
  case h_9 hmain =>
    split at hy
    · exact hends hy (.goesOn rfl rfl rfl nofun nofun)
    · exact hends hy (hstays (hmain ▸ rfl))
  case h_10 hmain =>
    split at hy
    · exact hends hy (.goesOn rfl rfl rfl nofun nofun)
    · exact hends hy (hstays (hmain ▸ rfl))
  case h_11 hmain => exact hends hy (hstays (hmain ▸ rfl))

theorem spawns_of_ne (hmain : n.main ≠ .startingInspector) : n.spawns = false := by
  simp only [spawns]

theorem MainStep.advances (hs : n.MainStep n') : n.Advances .main n' := by
  cases hs with
  | subscribes hmain =>
      exact ⟨rfl, .kept, fun _ => ⟨hmain ▸ rfl, fun _ => spawns_of_ne (hmain ▸ nofun)⟩⟩
  | starts hmain hok => exact ⟨rfl, .started hmain hok, nofun⟩
  | goesOn hconfig hinspector _ hstarting =>
      refine ⟨hconfig, hinspector ▸ .kept, fun hs => ?_⟩
      obtain ⟨hstarting, hne⟩ := hstarting hs
      exact ⟨hstarting, fun _ => spawns_of_ne hne⟩

theorem step_advances (hy : (n.step m).Yields h n') : n.Advances m n' := by
  cases m with
  | tell => exact advances_pure hy (advances_of_eq rfl rfl rfl nofun)
  | post subject payload => exact advances_pure hy (advances_of_eq rfl rfl rfl nofun)
  | dispatch subject now => exact advances_pure hy (n.advances_dispatch subject now)
  | act i =>
      obtain ⟨h₁, session, h₂, rfl, -, hrest⟩ := Dialogue.yields_bind.1 hy
      exact advances_pure hrest (advances_of_eq rfl rfl rfl nofun)
  | settle subject => exact advances_pure hy (n.advances_settle subject)
  | main => exact (proceed_mainStep hy).advances
  | fail reason => exact advances_pure hy (n.advances_fail reason)

end LiveNode

/-! ## Steps of a whole node -/

/-- What a move may make of a life, and what passes meanwhile. -/
inductive NodeLife.Steps : NodeLife → NodeMove → NodeHistory → NodeLife → Prop
  | still {life : NodeLife} {m : NodeMove} : (∀ n, life ≠ .up n) → Steps life m [] life
  | told {c : Config} {told : Bool}
      {rest : FleetDialogue (Except FleetError (Supervisor × FleetTable))} :
      Steps (.launching c told rest) .tell [] (.launching c true rest)
  | asks {c : Config} {told : Bool} {r : FleetRequest}
      {next : r.Answer → FleetDialogue (Except FleetError (Supervisor × FleetTable))}
      (answer : r.Answer) :
      Steps (.launching c told (.ask r next)) .main [⟨.fleet r, answer⟩]
        (.launching c told (next answer))
  | enters {c : Config} {told : Bool} {s : Supervisor} {table : FleetTable} :
      Steps (.launching c told (.done (.ok (s, table)))) .main [] (.up (.enter c told s table))
  | fails {c : Config} {told : Bool} {e : FleetError} :
      Steps (.launching c told (.done (.error e))) .main [] (.failed told e)
  | goes {n n' : LiveNode} {m : NodeMove} {h : NodeHistory} :
      (n.step m).Yields h n' → Steps (.up n) m h (.up n')

theorem NodeLife.step_steps {life life' : NodeLife} {m : NodeMove} {h : NodeHistory}
    (hy : (life.step m).Yields h life') : life.Steps m h life' := by
  unfold step at hy
  split at hy
  · obtain ⟨rfl, rfl⟩ := Dialogue.yields_done.1 hy
    exact .told
  · unfold launchStep at hy
    split at hy
    · obtain ⟨answer, rest, rfl, hrest⟩ := Dialogue.yields_request_bind.1 hy
      obtain ⟨rfl, rfl⟩ := Dialogue.yields_done.1 hrest
      exact .asks answer
    · obtain ⟨rfl, rfl⟩ := Dialogue.yields_done.1 hy
      exact .enters
    · obtain ⟨rfl, rfl⟩ := Dialogue.yields_done.1 hy
      exact .fails
  · obtain ⟨h₁, n', h₂, rfl, hstep, hrest⟩ := Dialogue.yields_bind.1 hy
    obtain ⟨rfl, rfl⟩ := Dialogue.yields_done.1 hrest
    rw [List.append_nil]
    exact .goes hstep
  · next hup _ _ =>
    obtain ⟨rfl, rfl⟩ := Dialogue.yields_done.1 hy
    exact .still hup

theorem InspectorLife.Happens.workers_ne_nil {life life' : InspectorLife} {log : InspectorLog}
    (h : Happens life life' log) (hne : life.workers ≠ []) : life'.workers ≠ [] := by
  cases h <;> simp_all [setStart, setWorker, withSlot, spawn]

namespace WholeNode

variable {c : Config} {told : Bool} {w w' first : WholeNode} {h : NodeHistory} {m : NodeMove}
  {t : InspectorTask} {steps : NodeSteps}

theorem yields_node :
    (w.step (.node m)).Yields h w' ↔
      ∃ life, (w.life.step m).Yields h life ∧ w' = ⟨life, w.workers ++ w.spawned m, w.probes⟩ := by
  constructor
  · intro hy
    obtain ⟨h₁, life, h₂, rfl, hlife, hrest⟩ := Dialogue.yields_bind.1 hy
    obtain ⟨rfl, rfl⟩ := Dialogue.yields_done.1 hrest
    exact ⟨life, (List.append_nil h₁).symm ▸ hlife, rfl⟩
  · rintro ⟨life, hlife, rfl⟩
    exact Dialogue.yields_bind.2 ⟨h, life, [], (List.append_nil h).symm, hlife, .refl _⟩

theorem yields_task : (w.step (.task t)).Yields h w' ↔ h = [] ∧ w' = w.tend t :=
  Dialogue.yields_done

/-- What a step of the inspector's tasks does, and what is noted of it. -/
inductive Tends : WholeNode → InspectorTask → WholeNode → InspectorLog → Prop
  | idle {w : WholeNode} {t : InspectorTask} : w.tending? t = none → Tends w t w []
  | tends {n : LiveNode} {workers : List Worker} {probes : List ChainProbe} {t : InspectorTask}
      {i : InspectorLife} {log : InspectorLog} :
      workers ≠ [] → (n.inspection workers probes).step (t.move n.bus.closed) = (i, log) →
      Tends ⟨.up n, workers, probes⟩ t ⟨.up (n.withInspector i.inspector), i.workers, i.probes⟩ log

/-- The tasks of the inspector move only in a node that is up, once they are
spawned, and then it is its inspector that they move. -/
theorem of_tending? {i : InspectorLife} {move : InspectorMove}
    (h : w.tending? t = some (i, move)) :
    ∃ n, w.life = .up n ∧ w.workers ≠ [] ∧ i = n.inspection w.workers w.probes ∧
      move = t.move n.bus.closed := by
  obtain ⟨life, workers, probes⟩ := w
  cases life with
  | launching => cases h
  | failed => cases h
  | up n =>
      cases workers with
      | nil => cases h
      | cons first rest =>
          cases h
          exact ⟨n, rfl, List.cons_ne_nil _ _, rfl, rfl⟩

theorem tend_tends (w : WholeNode) (t : InspectorTask) : w.Tends t (w.tend t) (w.events (.task t)) := by
  obtain ⟨life, workers, probes⟩ := w
  cases hw : tending? ⟨life, workers, probes⟩ t with
  | none =>
      simp only [tend, events, hw]
      exact .idle hw
  | some x =>
      simp only [tend, events, hw]
      obtain ⟨n, rfl, hne, hi, hmove⟩ := of_tending? hw
      rcases hstep : x.1.step x.2 with ⟨i, log⟩
      rw [hi, hmove] at hstep
      exact .tends hne hstep

/-! ## What every run keeps -/

/-- The configuration a node was started with, and what is not there before its
inspector is started. -/
def Kept (c : Config) (w : WholeNode) : Prop :=
  match w.life with
  | .launching c' _ _ => c' = c ∧ w.workers = []
  | .up n => n.config = c ∧ n.inspector.settings = c.inspectionSettings ∧
      (n.main.isStarting = true → w.workers = [])
  | .failed _ _ => w.workers = []

theorem kept_start (c : Config) (told : Bool) : (start c told).Kept c := ⟨rfl, rfl⟩

theorem Kept.node (hk : w.Kept c) {life : NodeLife} (hlife : (w.life.step m).Yields h life) :
    Kept c ⟨life, w.workers ++ w.spawned m, w.probes⟩ := by
  obtain ⟨before, workers, probes⟩ := w
  have hsteps : before.Steps m h life := NodeLife.step_steps hlife
  show Kept c ⟨life, workers ++ spawned ⟨before, workers, probes⟩ m, probes⟩
  clear hlife
  cases hsteps with
  | still hup =>
      cases life with
      | launching =>
          obtain ⟨hc, rfl : workers = []⟩ := hk
          cases m <;> exact ⟨hc, rfl⟩
      | up n => exact absurd rfl (hup n)
      | failed =>
          obtain rfl : workers = [] := hk
          cases m <;> rfl
  | told =>
      obtain ⟨hc, rfl : workers = []⟩ := hk
      exact ⟨hc, rfl⟩
  | asks answer =>
      obtain ⟨hc, rfl : workers = []⟩ := hk
      exact ⟨hc, rfl⟩
  | enters =>
      obtain ⟨rfl, rfl : workers = []⟩ := hk
      exact ⟨rfl, rfl, fun _ => rfl⟩
  | fails =>
      obtain ⟨-, rfl : workers = []⟩ := hk
      rfl
  | @goes n n' _ _ hstep =>
      obtain ⟨hconfig, hsettings, hworkers⟩ := hk
      have ha := LiveNode.step_advances hstep
      refine ⟨ha.config.trans hconfig, ha.inspector.settings hconfig hsettings, fun hs => ?_⟩
      obtain ⟨hs', hspawns⟩ := ha.starting hs
      obtain rfl : workers = [] := hworkers hs'
      cases m with
      | main => exact if_neg (Bool.eq_false_iff.1 (hspawns rfl))
      | _ => rfl

theorem Tends.kept {w' : WholeNode} {log : InspectorLog} (ht : w.Tends t w' log)
    (hk : w.Kept c) : w'.Kept c := by
  cases ht with
  | idle => exact hk
  | @tends n workers probes _ i log hne hi =>
      obtain ⟨hconfig, hsettings, hworkers⟩ := hk
      refine ⟨hconfig, ?_, fun hs => absurd (hworkers hs) hne⟩
      have hkeeps := (n.inspection workers probes).step_settings (t.move n.bus.closed)
      rw [hi] at hkeeps
      exact hkeeps.trans hsettings

theorem Tends.sound {log : InspectorLog} (ht : w.Tends t w' log) (hs : w.life.Sound c h) :
    w'.life.Sound c h := by
  cases ht with
  | idle => exact hs
  | tends =>
      obtain ⟨opening, first, table, made, calls, hs, ha⟩ := hs
      exact ⟨opening, first, table, made, calls, hs, ha.aside rfl rfl rfl id⟩

namespace Runs

theorem keeps {P : WholeNode → Prop} (hr : first.Runs steps w) (hfirst : P first)
    (hnode : ∀ {w m h life}, P w → (w.life.step m).Yields h life →
      P ⟨life, w.workers ++ w.spawned m, w.probes⟩)
    (htask : ∀ {w} t, P w → P (w.tend t)) : P w := by
  induction hr with
  | nil => exact hfirst
  | @snoc _ _ _ m _ _ hy ih =>
      cases m with
      | node m =>
          obtain ⟨life, hlife, rfl⟩ := yields_node.1 hy
          exact hnode ih hlife
      | task t =>
          obtain ⟨-, rfl⟩ := yields_task.1 hy
          exact htask t ih

theorem of_mem {s : NodeStep} (hr : first.Runs steps w) (hs : s ∈ steps) :
    ∃ earlier, first.Runs earlier s.before ∧ (s.before.step s.move).Yields s.history s.after := by
  induction hr with
  | nil => exact nomatch hs
  | snoc hearlier hstep ih =>
      rcases List.mem_append.1 hs with hs | hs
      · exact ih hs
      · obtain rfl := List.mem_singleton.1 hs
        exact ⟨_, hearlier, hstep⟩

theorem trans {steps' : NodeSteps} (hr : first.Runs steps w) (hr' : w.Runs steps' w') :
    first.Runs (steps ++ steps') w' := by
  induction hr' with
  | nil => exact (List.append_nil steps).symm ▸ hr
  | snoc _ hstep ih => exact List.append_assoc .. ▸ ih.snoc hstep

theorem kept (hr : (start c told).Runs steps w) : w.Kept c :=
  hr.keeps (kept_start c told) (fun hk hlife => hk.node hlife) fun t hk => (tend_tends _ t).kept hk

/-- A node keeps its configuration, and the inspector its settings. -/
theorem configured {n : LiveNode} (hr : (start c told).Runs steps w) (hup : w.life = .up n) :
    n.config = c ∧ n.inspector.settings = c.inspectionSettings := by
  have hk := hr.kept
  unfold Kept at hk
  rw [hup] at hk
  exact ⟨hk.1, hk.2.1⟩

theorem untended (hr : (start c told).Runs steps w) (hnil : w.workers = []) :
    steps.events = [] := by
  induction hr with
  | nil => rfl
  | @snoc steps w _ m _ _ hy ih =>
      rw [NodeSteps.events_append, NodeSteps.events_singleton]
      cases m with
      | node m =>
          obtain ⟨life, hlife, rfl⟩ := yields_node.1 hy
          rw [ih (List.append_eq_nil_iff.1 hnil).1]
          rfl
      | task t =>
          obtain ⟨-, rfl⟩ := yields_task.1 hy
          show _ ++ w.events (.task t) = []
          have htends := w.tend_tends t
          generalize w.tend t = w', w.events (.task t) = log at htends hnil
          cases htends with
          | idle => rw [ih hnil]; rfl
          | @tends n workers probes _ i _ hne hi =>
              have hhappens := (n.inspection workers probes).step_happens (t.move n.bus.closed)
              rw [hi] at hhappens
              exact absurd hnil (hhappens.workers_ne_nil hne)

theorem sound (hr : (start c told).Runs steps w) : w.life.Sound c steps.passed := by
  induction hr with
  | nil => exact NodeLife.sound_start c told
  | @snoc steps w _ m _ _ hy ih =>
      rw [NodeSteps.passed_append, NodeSteps.passed_singleton]
      cases m with
      | node m =>
          obtain ⟨life, hlife, rfl⟩ := yields_node.1 hy
          exact ih.step hlife
      | task t =>
          obtain ⟨rfl, rfl⟩ := yields_task.1 hy
          show NodeLife.Sound c (steps.passed ++ []) _
          rw [List.append_nil]
          exact (w.tend_tends t).sound ih

end Runs

/-! ## Runs that are there -/

/-- Lets the moves happen one after the other in surroundings with a state. -/
def follow {σ : Type} (respond : (r : NodeRequest) → σ → r.Answer × σ) :
    List WholeMove → WholeNode → σ → NodeSteps × WholeNode
  | [], w, _ => ([], w)
  | m :: rest, w, s =>
    let (w', s') := (w.step m).run respond s
    let (steps, last) := follow respond rest w' s'
    (⟨w, m, (w.step m).history respond s, w'⟩ :: steps, last)

theorem Runs.follow {σ : Type} (respond : (r : NodeRequest) → σ → r.Answer × σ)
    (moves : List WholeMove) (hr : first.Runs steps w) (s : σ) :
    first.Runs (steps ++ (WholeNode.follow respond moves w s).1)
      (WholeNode.follow respond moves w s).2 := by
  induction moves generalizing steps w s with
  | nil => exact (List.append_nil steps).symm ▸ hr
  | cons m rest ih =>
      have hstep := hr.snoc (Dialogue.yields_run respond (w.step m) s)
      have hrest := ih hstep ((w.step m).run respond s).2
      rw [List.append_assoc] at hrest
      exact hrest

theorem runs_follow {σ : Type} (respond : (r : NodeRequest) → σ → r.Answer × σ)
    (moves : List WholeMove) (w : WholeNode) (s : σ) :
    w.Runs (follow respond moves w s).1 (follow respond moves w s).2 :=
  Runs.nil.follow respond moves s

/-- Is the node up, and does it pass the test? -/
def passes (w : WholeNode) (test : LiveNode → Bool) : Bool :=
  match w.life with
  | .up n => test n
  | _ => false

theorem exists_of_passes {test : LiveNode → Bool} (h : w.passes test = true) :
    ∃ n, w.life = .up n ∧ test n = true := by
  unfold passes at h
  split at h
  · next n hup => exact ⟨n, hup, h⟩
  · cases h

/-- What may happen in the life of a node may happen in that of a whole one. -/
theorem Runs.play {moves : List NodeMove} {life' : NodeLife} (hr : first.Runs steps w)
    (hy : (NodeLife.play moves w.life).Yields h life') :
    ∃ steps' w', first.Runs (steps ++ steps') w' ∧ w'.life = life' ∧ steps'.passed = h := by
  induction moves generalizing steps w h with
  | nil =>
      obtain ⟨rfl, rfl⟩ := Dialogue.yields_done.1 hy
      exact ⟨[], w, (List.append_nil steps).symm ▸ hr, rfl, rfl⟩
  | cons m rest ih =>
      obtain ⟨h₁, l, h₂, rfl, hstep, hrest⟩ := Dialogue.yields_bind.1 hy
      obtain ⟨steps', w', hr', hlife, hpassed⟩ :=
        ih (hr.snoc (yields_node.2 ⟨l, hstep, rfl⟩)) hrest
      rw [List.append_assoc] at hr'
      exact ⟨_, w', hr', hlife, congrArg (h₁ ++ ·) hpassed⟩

theorem runs_of_play {moves : List NodeMove} {life : NodeLife}
    (hy : (NodeLife.play moves (.start c told)).Yields h life) :
    ∃ steps w, (start c told).Runs steps w ∧ w.life = life ∧ steps.passed = h :=
  Runs.nil.play hy

end WholeNode

end NodeKeeper
