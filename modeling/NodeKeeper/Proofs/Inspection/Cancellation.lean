/-
# A cancellation is final

The token of an inspector may be cancelled at any moment: while its worker waits
for a block, during an attempt, during a pause, or at the very moment at which
an attempt ends.  The worker looks at the token before everything else whenever
it goes on.  So from then on it does only what brings it to its end:

    inspecting    the inspection ends as cancelled, with nothing to publish
    waiting       the receiving end of the slot is dropped
    gone          nothing

**Proved here.**

    what a step of the worker does                         (`work_of_cancelled`)
    what any step may do                                   (`step_of_cancelled`)
    the worker ends within its turns                       (`gone_of_turns`)
    an inspection with a token of its own ends at the
    first look after its cancellation                      (`Trial.watch_append`)
    all of this for every life and every moment            (`cancellation_is_final`)
-/
import NodeKeeper.Inspection.Calls
import NodeKeeper.Proofs.Inspection.VirtualTime

namespace NodeKeeper

open InspectorLog

/-- If the move is one of the worker, it finds its token cancelled. -/
def InspectorMove.FindsCancelled : InspectorMove → Prop
  | .work _ _ cancelled _ _ => cancelled = true
  | _ => True

/-- Does worker `k` go on? -/
def InspectorMove.isTurnOf (k : Nat) : InspectorMove → Bool
  | .work k' _ _ _ _ => k' == k
  | _ => false

/-- Is the move made by anybody but a worker, and not the end of an inspection? -/
def InspectorMove.byOthers : InspectorMove → Bool
  | .work _ _ _ _ _ | .crash _ | .conclude _ _ => false
  | _ => true

/-- How often a worker whose token is cancelled goes on before it is gone. -/
def Worker.turnsLeft : Worker → Nat
  | .inspecting _ => 2
  | .waiting => 1
  | .gone => 0

/-- The event tells of a block that the worker has taken out, or of an inspection
that did not end as cancelled. -/
def InspectorEvent.GoesOn : InspectorEvent → Prop
  | .received _ => True
  | .inspected _ results result => ¬ (results = none ∧ result = .error .cancelled)
  | _ => False

/-! ## One inspection -/

namespace Trial

variable {s : InspectionSettings} {now : Instant} {next : Attempt} {t : Trial}

/-- Whatever stage it is at, and whatever is due, a cancelled inspection ends. -/
theorem step_of_cancelled :
    t.step s now true next = .ends none (.error .cancelled) := if_pos rfl

/-- An inspection that is not over when its token is cancelled makes no further
attempt and ends as cancelled. -/
theorem watch_append (s : InspectionSettings) (t : Trial) (before after : List TrialLook)
    (hcancelled : ∀ l ∈ after, l.cancelled = true) (hlook : after ≠ []) :
    t.watch s (before ++ after) =
      ((t.watch s before).1, some ((t.watch s before).2.getD (none, .error .cancelled))) := by
  induction before generalizing t with
  | nil =>
      obtain ⟨l, rest, rfl⟩ := List.exists_cons_of_ne_nil hlook
      have hl : l.cancelled = true := hcancelled l List.mem_cons_self
      simp only [List.nil_append, watch, hl, step_of_cancelled, Option.getD_none]
  | cons l rest ih =>
      simp only [List.cons_append, watch]
      cases t.step s l.now l.cancelled l.next with
      | waits => exact ih t
      | goes t' => exact ih t'
      | begins t' =>
          simp only [ih t']
      | ends results result => rfl

end Trial

theorem Simulation.inspect_of_cancelled (block : UInt64) (script : Script) (w : Simulation) :
    w.inspect block true none script = (.inspected (.error .cancelled), w) := by
  have hnothing : w.conclude none (.error .cancelled) = w := by
    unfold conclude
    exact ite_self _
  show await script (99999999 + 1) (.inspecting (.start block w.now) true none) w = _
  simp only [await, poll, runTrial, Trial.step_of_cancelled, hnothing]

namespace InspectorLife

variable {life : InspectorLife} {log : InspectorLog} {m : InspectorMove}

/-! ## One step -/

theorem work_of_cancelled (life : InspectorLife) (k : Nat) (now : Instant) (next : Attempt)
    (time : Timestamp) :
    life.work k now true next time = match life.workers[k]? with
      | some .waiting =>
        ((life.withSlot life.inspector.slot.dropReceiver).setWorker k .gone, [.lost])
      | some (.inspecting t) =>
        (life.setWorker k .waiting, [.inspected t.block none (.error .cancelled)])
      | _ => (life, []) := by
  unfold work
  cases life.workers[k]? with
  | none => rfl
  | some w =>
      cases w with
      | waiting => rfl
      | inspecting t => simp only [Trial.step_of_cancelled, Inspector.conclude]
      | gone => rfl

theorem routineCall?_of_cancelled (hm : m.FindsCancelled) : life.routineCall? m = none := by
  cases m with
  | work k now cancelled next time =>
      obtain rfl : cancelled = true := hm
      simp only [routineCall?, Trial.step_of_cancelled]
      split <;> rfl
  | _ => rfl

/-- What is done by anybody but the worker: a worker may be spawned, and what
is noted has nothing to do with the worker. -/
structure LeavesWorker (life life' : InspectorLife) (events : InspectorLog) : Prop where
  workers : life'.workers = life.workers ∨ life'.workers = life.workers ++ [.waiting]
  quiet : ∀ e ∈ events, ¬ e.GoesOn
  lastError : life'.inspector.lastError = life.inspector.lastError

theorem LeavesWorker.nothing (life : InspectorLife) : LeavesWorker life life [] :=
  ⟨.inl rfl, fun _ hm => absurd hm List.not_mem_nil, rfl⟩

theorem LeavesWorker.getElem?_eq {life' : InspectorLife} {events : InspectorLog}
    (hl : LeavesWorker life life' events) {k : Nat} {w : Worker} (hw : life.workers[k]? = some w) :
    life'.workers[k]? = some w := by
  rcases hl.workers with heq | heq
  · rw [heq, hw]
  · rw [heq, List.getElem?_append_left (List.getElem?_eq_some_iff.1 hw).1, hw]

theorem answered_leavesWorker {block : Option UInt64} {r : Option TriggerOutcome × Inspector}
    (hlast : r.2.lastError = life.inspector.lastError) (probes : List ChainProbe) :
    LeavesWorker life ({ life with probes := probes }.answered block r).1
      ({ life with probes := probes }.answered block r).2 := by
  refine ⟨.inl rfl, ?_, hlast⟩
  unfold answered
  split
  · exact List.forall_mem_singleton.2 fun h => h
  · exact fun _ hm => absurd hm List.not_mem_nil

theorem proceed_leavesWorker (life : InspectorLife) (i : Nat)
    (subscription : Except BusError Unit) :
    LeavesWorker life (life.proceed i subscription).1 (life.proceed i subscription).2 := by
  have hreturned : ∀ r, ¬ (InspectorEvent.returned r).GoesOn := fun _ h => h
  unfold proceed
  split
  case h_1 =>
    split
    case isTrue => exact ⟨.inl rfl, List.forall_mem_singleton.2 (hreturned _), rfl⟩
    case isFalse =>
      split
      case h_1 => exact ⟨.inl rfl, fun _ hm => absurd hm List.not_mem_nil, rfl⟩
      case h_2 => exact ⟨.inl rfl, List.forall_mem_singleton.2 (hreturned _), rfl⟩
  case h_2 =>
    cases subscription with
    | ok => exact ⟨.inr rfl, fun _ hm => absurd hm List.not_mem_nil, rfl⟩
    | error e =>
        refine ⟨.inl rfl, List.forall_mem_cons.2 ⟨fun h => h, ?_⟩, rfl⟩
        exact List.forall_mem_singleton.2 (hreturned _)
  case h_3 => exact ⟨.inl rfl, List.forall_mem_singleton.2 (hreturned _), rfl⟩
  case h_4 => exact .nothing life

theorem abandon_leavesWorker (life : InspectorLife) (i : Nat) :
    LeavesWorker life (life.abandon i).1 (life.abandon i).2 := by
  unfold abandon
  split
  case h_1 => exact ⟨.inl rfl, List.forall_mem_singleton.2 fun h => h, rfl⟩
  case h_2 => exact ⟨.inl rfl, fun _ hm => absurd hm List.not_mem_nil, rfl⟩
  case h_3 => exact ⟨.inl rfl, fun _ hm => absurd hm List.not_mem_nil, rfl⟩
  case h_4 => exact .nothing life

theorem settle_leavesWorker (life : InspectorLife) (k : Nat) (now : Instant) :
    LeavesWorker life (life.settle k now).1 (life.settle k now).2 := by
  unfold settle
  split
  case h_1 => exact .nothing life
  case h_2 =>
    split
    case h_1 => exact .nothing life
    case h_2 target _ =>
      refine answered_leavesWorker ?_ _
      cases target <;> rfl

theorem step_leavesWorker (hm : m.byOthers = true) :
    LeavesWorker life (life.step m).1 (life.step m).2 := by
  cases m with
  | call => exact ⟨.inl rfl, fun _ hm => absurd hm List.not_mem_nil, rfl⟩
  | start i subscription => exact proceed_leavesWorker life i subscription
  | abandon i => exact abandon_leavesWorker life i
  | progress now p =>
      refine answered_leavesWorker ?_ _
      cases ht : life.inspector.settings.targetBlock p.received with
      | none => simp only [Inspector.heed, ht]
      | some block =>
          simp only [Inspector.heed, ht]
          rfl
  | trigger block => exact answered_leavesWorker rfl _
  | look now answer =>
      simp only [step]
      split
      · exact ⟨.inl rfl, fun _ hm => absurd hm List.not_mem_nil, rfl⟩
      · exact .nothing life
  | settle k now => exact settle_leavesWorker life k now
  | take =>
      refine ⟨.inl rfl, ?_, rfl⟩
      intro e he
      obtain ⟨block, -, rfl⟩ := Option.map_eq_some_iff.1 (Option.mem_toList.1 he)
      exact fun h => h
  | work k now cancelled next time => cases hm
  | crash k => cases hm
  | conclude time result => cases hm

/-- Once its token is cancelled the worker calls for nothing, takes out nothing
and leaves the last error alone; whatever it was inspecting ends as
cancelled. -/
theorem step_of_cancelled (hm : m.FindsCancelled) :
    life.routineCall? m = none ∧ (∀ e ∈ (life.step m).2, ¬ e.GoesOn) ∧
      ((∀ time result, m ≠ .conclude time result) →
        (life.step m).1.inspector.lastError = life.inspector.lastError) := by
  have hnone : ∀ e ∈ ([] : InspectorLog), ¬ e.GoesOn := fun _ hm => absurd hm List.not_mem_nil
  have hothers : m.byOthers = true → LeavesWorker life (life.step m).1 (life.step m).2 :=
    step_leavesWorker
  refine ⟨routineCall?_of_cancelled hm, ?_⟩
  cases m with
  | work k now cancelled next time =>
      obtain rfl : cancelled = true := hm
      have hstep : life.step (.work k now true next time) = life.work k now true next time := rfl
      rw [hstep, work_of_cancelled]
      cases life.workers[k]? with
      | none => exact ⟨hnone, fun _ => rfl⟩
      | some w =>
          cases w with
          | waiting => exact ⟨List.forall_mem_singleton.2 fun h => h, fun _ => rfl⟩
          | inspecting t => exact ⟨List.forall_mem_singleton.2 fun h => h ⟨rfl, rfl⟩, fun _ => rfl⟩
          | gone => exact ⟨hnone, fun _ => rfl⟩
  | crash k =>
      simp only [step, crash]
      cases life.workers[k]? with
      | none => exact ⟨hnone, fun _ => rfl⟩
      | some w =>
          cases w with
          | waiting => exact ⟨List.forall_mem_singleton.2 fun h => h, fun _ => rfl⟩
          | inspecting t =>
              refine ⟨List.forall_mem_cons.2 ⟨fun h => h, ?_⟩, fun _ => rfl⟩
              exact List.forall_mem_singleton.2 fun h => h
          | gone => exact ⟨hnone, fun _ => rfl⟩
  | conclude time result => exact ⟨hnone, fun h => absurd rfl (h time result)⟩
  | _ => exact ⟨(hothers rfl).quiet, fun _ => (hothers rfl).lastError⟩

/-- Every turn of the worker brings it nearer to its end, and nothing takes it
away from there. -/
theorem turnsLeft_step (hm : m.FindsCancelled) {k : Nat} {w : Worker}
    (hw : life.workers[k]? = some w) :
    ∃ w', (life.step m).1.workers[k]? = some w' ∧
      w'.turnsLeft ≤ w.turnsLeft - if m.isTurnOf k then 1 else 0 := by
  have hlt : k < life.workers.length := (List.getElem?_eq_some_iff.1 hw).1
  have hsame : ∀ w', (life.workers.set k w')[k]? = some w' :=
    fun _ => List.getElem?_set_self hlt
  have hother : ∀ {k' : Nat}, k' ≠ k → ∀ w', (life.workers.set k' w')[k]? = some w :=
    fun hk _ => (List.getElem?_set_ne hk).trans hw
  cases m with
  | work k' now cancelled next time =>
      obtain rfl : cancelled = true := hm
      have hstep : life.step (.work k' now true next time) = life.work k' now true next time := rfl
      rw [hstep, work_of_cancelled]
      by_cases hk : k' = k
      · subst hk
        rw [hw]
        cases w with
        | waiting => exact ⟨.gone, hsame .gone, Nat.zero_le _⟩
        | inspecting t =>
            refine ⟨.waiting, hsame .waiting, ?_⟩
            simp [InspectorMove.isTurnOf, Worker.turnsLeft]
        | gone => exact ⟨.gone, hw, Nat.zero_le _⟩
      · refine ⟨w, ?_, by simp [InspectorMove.isTurnOf, hk]⟩
        cases life.workers[k']? with
        | none => exact hw
        | some w₁ =>
            cases w₁ with
            | waiting => exact hother hk .gone
            | inspecting t => exact hother hk .waiting
            | gone => exact hw
  | crash k' =>
      simp only [step, crash]
      by_cases hk : k' = k
      · subst hk
        rw [hw]
        cases w with
        | waiting => exact ⟨.gone, hsame .gone, Nat.zero_le _⟩
        | inspecting t => exact ⟨.gone, hsame .gone, Nat.zero_le _⟩
        | gone => exact ⟨.gone, hw, Nat.zero_le _⟩
      · refine ⟨w, ?_, Nat.le_refl _⟩
        cases life.workers[k']? with
        | none => exact hw
        | some w₁ =>
            cases w₁ with
            | waiting => exact hother hk .gone
            | inspecting t => exact hother hk .gone
            | gone => exact hw
  | conclude time result => exact ⟨w, hw, Nat.le_refl _⟩
  | _ => exact ⟨w, (step_leavesWorker (by rfl)).getElem?_eq hw, Nat.le_refl _⟩

/-! ## Every moment -/

/-- Whoever holds a block of the slot has got it from the receiving end, which
the worker has. -/
theorem Happens.away {life' : InspectorLife} {events : InspectorLog} (h : Happens life life' events)
    (haway : life.inspector.slot.receiver ≠ .home) :
    life'.inspector.slot.receiver ≠ .home ∧ InspectorLog.taken events = [] := by
  have hdrop : life.inspector.slot.dropReceiver.receiver ≠ .home := by
    unfold PendingSlot.dropReceiver
    rw [if_neg haway]
    exact nofun
  cases h with
  | aside hslot => exact ⟨hslot ▸ haway, rfl⟩
  | called => exact ⟨haway, rfl⟩
  | declined => exact ⟨haway, rfl⟩
  | handedOut _ hhome => exact absurd hhome haway
  | subscribed => exact ⟨haway, rfl⟩
  | refused => exact ⟨hdrop, rfl⟩
  | dropped => exact ⟨hdrop, rfl⟩
  | started => exact ⟨haway, rfl⟩
  | givenUp => exact ⟨haway, rfl⟩
  | offered hslot =>
      refine ⟨?_, rfl⟩
      rw [PendingSlot.receiver_of_offer hslot]
      exact haway
  | taken hhome => exact absurd hhome haway
  | received => exact ⟨haway, rfl⟩
  | stepped => exact ⟨haway, rfl⟩
  | inspected _ hslot => exact ⟨hslot ▸ haway, rfl⟩
  | ended => exact ⟨hdrop, rfl⟩
  | fell => exact ⟨hdrop, rfl⟩

/-- Once the receiving end has been handed out only the worker takes blocks. -/
theorem taken_of_away (moves : List InspectorMove)
    (haway : life.inspector.slot.receiver ≠ .home) : taken (play moves life).2 = [] := by
  induction moves generalizing life with
  | nil => rfl
  | cons m rest ih =>
      obtain ⟨hnext, hnone⟩ := (step_happens life m).away haway
      show taken ((life.step m).2 ++ (play rest (life.step m).1).2) = []
      rw [taken_append, hnone, ih hnext]
      rfl

theorem quiet_of_cancelled (after : List InspectorMove)
    (hcancelled : ∀ m ∈ after, m.FindsCancelled) :
    along routineCall? after life = [] ∧ ∀ e ∈ (play after life).2, ¬ e.GoesOn := by
  induction after generalizing life with
  | nil => exact ⟨rfl, fun _ hm => absurd hm List.not_mem_nil⟩
  | cons m rest ih =>
      obtain ⟨hm, hrest⟩ := List.forall_mem_cons.1 hcancelled
      obtain ⟨hcall, hquiet, -⟩ : life.routineCall? m = none ∧
          (∀ e ∈ (life.step m).2, ¬ e.GoesOn) ∧ _ := step_of_cancelled hm
      obtain ⟨hcalls, hlater⟩ : along routineCall? rest (life.step m).1 = [] ∧
          ∀ e ∈ (play rest (life.step m).1).2, ¬ e.GoesOn := ih hrest
      refine ⟨?_, List.forall_mem_append.2 ⟨hquiet, hlater⟩⟩
      simp only [along, hcall, hcalls, Option.toList_none, List.append_nil]

theorem gone_of_turns (after : List InspectorMove) (hcancelled : ∀ m ∈ after, m.FindsCancelled)
    {k : Nat} {w : Worker} (hw : life.workers[k]? = some w)
    (hturns : w.turnsLeft ≤ after.countP (·.isTurnOf k)) :
    (play after life).1.workers[k]? = some .gone := by
  induction after generalizing life w with
  | nil =>
      cases w with
      | gone => exact hw
      | waiting => exact absurd hturns (by simp [Worker.turnsLeft])
      | inspecting t => exact absurd hturns (by simp [Worker.turnsLeft])
  | cons m rest ih =>
      obtain ⟨hm, hrest⟩ := List.forall_mem_cons.1 hcancelled
      obtain ⟨w', hw', hle⟩ := turnsLeft_step hm hw
      rw [List.countP_cons] at hturns
      exact ih hrest hw' (by omega)

end InspectorLife

theorem Roster.gone_of_worker {life : InspectorLife} {log : InspectorLog} (hr : Roster life log)
    {k : Nat} (hw : life.workers[k]? = some .gone) : life.inspector.slot.receiver = .gone := by
  obtain ⟨hholders, hopen, -, hworkers⟩ := hr
  have hlt : k < life.workers.length := (List.getElem?_eq_some_iff.1 hw).1
  have hspent := life.inspector.slot.receiver.spent_le
  have hone : life.workers = [.gone] := by
    match hws : life.workers, k, hw with
    | [x], 0, hw => exact congrArg (fun y => [y]) (Option.some.inj hw)
    | _ :: _ :: _, _, _ =>
        rw [hws] at hworkers
        simp only [List.length_cons] at hworkers
        omega
  rw [hone] at hholders hworkers
  simp only [List.map_cons, List.map_nil, List.sum_cons, List.sum_nil, Worker.holding,
    List.length_cons, List.length_nil] at hholders hworkers
  cases hreceiver : life.inspector.slot.receiver with
  | home => simp [hreceiver, Receiver.spent] at hworkers
  | taken =>
      simp only [hreceiver, Receiver.spent, Receiver.holders] at hworkers hholders
      omega
  | shut => exact absurd hreceiver hopen
  | gone => rfl

open InspectorLife in
/-- **A cancellation is final.**  From any moment on at which the token of the
worker is cancelled, whatever has been and whatever else happens:

* the routine is not called, and the worker takes no block out of the slot;
  neither does anybody else once there is a worker;
* an inspection that was under way ends as cancelled, with nothing to publish;
  no other is begun or ends, and no move but the end of somebody else's
  inspection changes the last error;
* the worker is gone after two turns, or one if it was waiting, and stays so;
  every offer is then answered with closed.

Somebody else's inspection, whatever its stage, ends as cancelled at the first
look after its token has been cancelled, unless it is over, and makes no attempt
any more; one whose token is cancelled already leaves everything as it is. -/
theorem cancellation_is_final (s : InspectionSettings) (before after : List InspectorMove)
    (hcancelled : ∀ m ∈ after, m.FindsCancelled) :
    let life := (play before (.idle s)).1
    let last := (play after life).1
    let log := (play after life).2
    along routineCall? after life = [] ∧ received log = [] ∧
    (life.workers ≠ [] → taken log = []) ∧
    (∀ block results result, .inspected block results result ∈ log →
      block ∈ life.atWork ∧ results = none ∧ result = .error .cancelled) ∧
    finished log ++ last.atWork = life.atWork ∧
    (∀ earlier m later, after = earlier ++ m :: later → (∀ time result, m ≠ .conclude time result) →
      ((play earlier life).1.step m).1.inspector.lastError =
        (play earlier life).1.inspector.lastError) ∧
    (∀ (k : Nat) (w : Worker), life.workers[k]? = some w →
      w.turnsLeft ≤ after.countP (·.isTurnOf k) → last.workers[k]? = some .gone) ∧
    (∀ k : Nat, last.workers[k]? = some .gone → ∀ m block outcome,
      .offered block outcome ∈ (last.step m).2 → outcome = .closed) ∧
    (∀ (t : Trial) (looks looks' : List TrialLook),
      (∀ l ∈ looks', l.cancelled = true) → looks' ≠ [] →
      t.watch s (looks ++ looks') =
        ((t.watch s looks).1, some ((t.watch s looks).2.getD (none, .error .cancelled)))) ∧
    ∀ (block : UInt64) (script : Script) (w : Simulation),
      w.inspect block true none script = (.inspected (.error .cancelled), w) := by
  intro life last log
  have hbefore : Accounts life (play before (.idle s)).2 := (Accounts.idle s).play before
  have hafter : Accounts last ((play before (.idle s)).2 ++ log) := hbefore.play after
  obtain ⟨hcalls, hquiet⟩ : along routineCall? after life = [] ∧ ∀ e ∈ log, ¬ e.GoesOn :=
    quiet_of_cancelled after hcancelled
  have hreceived : received log = [] :=
    List.filterMap_eq_nil_iff.2 fun e he => by
      cases e with
      | received block => exact absurd trivial (hquiet _ he)
      | _ => rfl
  -- what was received before is finished before or after, or still at work
  have hwork : finished log ++ last.atWork = life.atWork := by
    have hlast := hafter.worklog
    have hfirst := hbefore.worklog
    unfold Worklog at hlast hfirst
    rw [finished_append, received_append, hreceived, List.append_nil, ← hfirst,
      List.append_assoc] at hlast
    exact List.append_cancel_left hlast
  refine ⟨hcalls, hreceived, fun hworkers => ?_, fun block results result he => ?_, hwork, ?_,
    fun k w hw hturns => gone_of_turns after hcancelled hw hturns,
    fun k hk m block outcome hm => ?_,
    fun t looks looks' hlooks hne => t.watch_append s looks looks' hlooks hne,
    Simulation.inspect_of_cancelled⟩
  · refine taken_of_away after fun hhome => ?_
    have hspent := hbefore.roster.workers
    rw [hhome] at hspent
    simp only [Receiver.spent] at hspent
    exact hworkers (List.eq_nil_of_length_eq_zero (by omega))
  · have hfinished : block ∈ finished log := List.mem_filterMap.2 ⟨_, he, rfl⟩
    refine ⟨hwork ▸ List.mem_append_left _ hfinished, ?_⟩
    exact Classical.not_not.1 (hquiet _ he)
  · rintro earlier m later rfl hother
    exact (step_of_cancelled (hcancelled m (by simp))).2.2 hother
  · have hgone := hafter.roster.gone_of_worker hk
    have hoffer := (step_happens last m).offer_eq hm
    exact (PendingSlot.offer_exact hafter.roster.open_ hafter.ledger.empty hoffer).2.2.1.2 hgone

/-! ## During an attempt -/

namespace CancelledAttempt

def settings : InspectionSettings := .standard 5 "http://chain" "http://proxy"

/-- The inspector is started, and its worker has begun an attempt for block 10. -/
def before : List InspectorMove :=
  undisturbed 0 (.ok ()) ++
    [.trigger 10, .work 0 0 false .hangs default, .work 0 0 false .hangs default]

/-- The token is cancelled while block 15 waits. -/
def after : List InspectorMove :=
  [.trigger 15, .work 0 1 true .hangs default, .work 0 1 true .hangs default]

end CancelledAttempt

open InspectorLife CancelledAttempt in
/-- The attempt is the only one, block 15 is not taken out, and the worker is
gone. -/
theorem cancellation_is_final_during_attempt :
    received (play after (play before (.idle settings)).1).2 = [] ∧
      (play after (play before (.idle settings)).1).1.workers[0]? = some .gone := by
  have hfinal := cancellation_is_final settings before after (by
    simp [after, InspectorMove.FindsCancelled])
  exact ⟨hfinal.2.1, hfinal.2.2.2.2.2.2.1 0 _ rfl (by decide)⟩

end NodeKeeper
