/-
# An inspection follows its reference

What an inspection comes to is decided by its attempts alone.  The reference
(`Retries`) says when each attempt would begin and how it would end, as if the
inspection went on for ever:

    begun n       the first attempt begins with the inspection, the next one when
                  the pause after its predecessor is over
    overAt n      an attempt is over when it ends or its time limit is reached;
                  timers go off on whole milliseconds
    outcome? n    what it yields, if it is over because it has ended
    IsLast n      it has ended without an error, or the pause after it would be
                  too long

Attempts are numbered from 0.  The inspection ends with the first that is the
last in this sense; what it answers, publishes and records is of that attempt
(`inspect_follows_reference`).

**The way there.**  `Proceeds` is the inspection step by step, without fuel: a
step of the trial, or time moving to its earliest timer.  With enough fuel a
simulation takes these steps (`Proceeds.await`).  A few of them lead from the
begin of an attempt to its judgement (`proceeds_attempt`), and from there to the
begin of the next (`proceeds_pause`), and so on to the last
(`proceeds_to_last`).
-/
import Mathlib.Data.List.Basic
import NodeKeeper.Inspection.Simulation
import NodeKeeper.Proofs.Inspection.Delays

namespace NodeKeeper

/-! ## The reference -/

namespace Attempt

/-- When an attempt is over that begins at a time and has a time limit. -/
def overAt (limit : Duration) (begun : Instant) : Attempt → Instant
  | ends after _ => waitUntil begun (min (dueAfter begun after) (dueAfter begun limit))
  | hangs => waitUntil begun (dueAfter begun limit)

/-- Its outcome, if it comes to its end in time, which it does when it ends with
the limit. -/
def outcome? (limit : Duration) (begun : Instant) : Attempt → Option InspectionOutcome
  | ends after outcome =>
    if dueAfter begun after ≤ dueAfter begun limit then some outcome else none
  | hangs => none

variable {limit after : Duration} {begun : Instant} {outcome : InspectionOutcome}

theorem overAt_of_le (h : dueAfter begun after ≤ dueAfter begun limit) :
    (ends after outcome).overAt limit begun = waitUntil begun (dueAfter begun after) :=
  congrArg (waitUntil begun) (Nat.min_eq_left h)

theorem overAt_of_not_le (h : ¬ dueAfter begun after ≤ dueAfter begun limit) :
    (ends after outcome).overAt limit begun = waitUntil begun (dueAfter begun limit) :=
  congrArg (waitUntil begun) (Nat.min_eq_right (Nat.le_of_not_le h))

theorem outcome?_of_le (h : dueAfter begun after ≤ dueAfter begun limit) :
    (ends after outcome).outcome? limit begun = some outcome := if_pos h

theorem outcome?_of_not_le (h : ¬ dueAfter begun after ≤ dueAfter begun limit) :
    (ends after outcome).outcome? limit begun = none := if_neg h

end Attempt

/-- An inspection: its settings, what its attempts do, and when it began. -/
structure Retries where
  settings : InspectionSettings
  attempt : Nat → Attempt
  started : Instant

namespace Retries

/-- The pause after attempt `n`. -/
def pause (r : Retries) (n : Nat) : Duration := r.settings.retry.intervalAfter (n + 1)

/-- When attempt `n` begins. -/
def begun (r : Retries) : Nat → Instant
  | 0 => r.started
  | n + 1 =>
    let ended := (r.attempt n).overAt r.settings.attemptTimeout (r.begun n)
    waitUntil ended (dueAfter ended (r.pause n))

/-- When attempt `n` is over. -/
def overAt (r : Retries) (n : Nat) : Instant :=
  (r.attempt n).overAt r.settings.attemptTimeout (r.begun n)

/-- The outcome of attempt `n`, if it comes to its end in time. -/
def outcome? (r : Retries) (n : Nat) : Option InspectionOutcome :=
  (r.attempt n).outcome? r.settings.attemptTimeout (r.begun n)

/-- The time since the inspection began, when attempt `n` is over. -/
def elapsed (r : Retries) (n : Nat) : Duration := passed r.started (r.overAt n)

/-- What attempt `n` fails with. -/
def failure? (r : Retries) (n : Nat) : Option InspectionError :=
  match r.outcome? n with
  | some outcome => outcome.error
  | none => some (.timeout r.settings.attemptTimeout)

/-- The results of attempt `n`, if it comes to its end in time and has any. -/
def results? (r : Retries) (n : Nat) : Option InspectionResults :=
  (r.outcome? n).bind (·.results)

/-- There is no attempt after this one: it comes to its end in time and without
an error, or with the pause after it the inspection would exceed its total
time. -/
def IsLast (r : Retries) (n : Nat) : Prop :=
  r.failure? n = none ∨ r.settings.retry.maxElapsed < (r.elapsed n).add (r.pause n)

/-- What the inspection answers if attempt `n` is its last. -/
def answer (r : Retries) (n : Nat) : Except InspectionError Unit :=
  match r.failure? n with
  | none => .ok ()
  | some e => .error (.exhausted (n + 1) (r.elapsed n) e.message)

end Retries

/-! ## Timers -/

theorem waitUntil_div (now : Instant) (tick : Tick) :
    waitUntil now tick / 1000000 = max (now / 1000000) tick := by
  unfold waitUntil
  rw [Nat.add_mul_div_right _ _ (by decide), Nat.add_comm, Nat.sub_add_eq_max, Nat.max_comm]

theorem waitUntil_eq_self {now : Instant} {tick : Tick} (h : tick ≤ now / 1000000) :
    waitUntil now tick = now := by
  show now + (tick - now / 1000000) * 1000000 = now
  rw [Nat.sub_eq_zero_of_le h, Nat.zero_mul, Nat.add_zero]

theorem le_dueAfter (now : Instant) (d : Duration) : now / 1000000 ≤ dueAfter now d :=
  Nat.div_le_div_right (Nat.le_add_right_of_le (Nat.le_add_right now (timerSpan d)))

theorem earliest?_singleton (tick : Tick) : earliest? [tick] = some tick := rfl

theorem earliest?_pair (tick tick' : Tick) : earliest? [tick, tick'] = some (min tick tick') := rfl

theorem isDue_eq_true_iff {now : Instant} {tick : Tick} :
    isDue now tick = true ↔ tick ≤ now / 1000000 := decide_eq_true_iff

theorem isDue_eq_false_iff {now : Instant} {tick : Tick} :
    isDue now tick = false ↔ now / 1000000 < tick := by
  rw [← Bool.not_eq_true, isDue_eq_true_iff, Nat.not_le]

theorem isDue_waitUntil (now : Instant) (tick : Tick) : isDue (waitUntil now tick) tick = true := by
  rw [isDue_eq_true_iff, waitUntil_div]
  exact Nat.le_max_right _ _

/-! ## Steps of a trial -/

namespace Trial

variable {s : InspectionSettings} {next : Attempt} {t : Trial} {now T : Instant}

/-- What an attempt is waited for with. -/
def deadline (begun : Instant) : Attempt → Option (Tick × InspectionOutcome)
  | .ends after outcome => some (dueAfter begun after, outcome)
  | .hangs => none

/-- What follows an attempt that is over, with its outcome if it came to its end
in time. -/
def judge (s : InspectionSettings) (now : Instant) (t : Trial) :
    Option InspectionOutcome → TrialStep
  | some outcome => t.afterOutcome s now outcome
  | none => t.afterFailure s now none (.timeout s.attemptTimeout)

theorem afterFailure_of_some {results : Option InspectionResults} {e : InspectionError}
    {delay : Duration}
    (h : s.retry.nextDelay t.attempts (passed t.started now) = some delay) :
    t.afterFailure s now results e = .goes { t with stage := .pausing (dueAfter now delay) } := by
  simp only [afterFailure, h]

theorem afterFailure_of_none {results : Option InspectionResults} {e : InspectionError}
    (h : s.retry.nextDelay t.attempts (passed t.started now) = none) :
    t.afterFailure s now results e =
      .ends results (.error (.exhausted t.attempts (passed t.started now) e.message)) := by
  simp only [afterFailure, h]

/-- The trial does nothing before this point in time. -/
def WaitsUntil (s : InspectionSettings) (next : Attempt) (t : Trial) (now T : Instant) : Prop :=
  T = now ∨ t.step s now false next = .waits ∧
    ∃ tick, earliest? t.timers = some tick ∧ T = waitUntil now tick

theorem waitsUntil_pausing {resume : Tick} (hstage : t.stage = .pausing resume) :
    t.WaitsUntil s next now (waitUntil now resume) := by
  cases hdue : isDue now resume with
  | true => exact .inl (waitUntil_eq_self (isDue_eq_true_iff.1 hdue))
  | false =>
      refine .inr ⟨?_, resume, ?_, rfl⟩
      · simp only [step, hstage, hdue, Bool.false_eq_true, if_false]
      · simp only [timers, hstage]
        exact earliest?_singleton _

theorem step_pausing {resume : Tick} (hstage : t.stage = .pausing resume)
    (hdue : isDue now resume = true) : t.step s now false next = .goes { t with stage := .ready } := by
  simp only [step, hstage, hdue, Bool.false_eq_true, if_false, if_true]

section attempting

variable {ending : Option (Tick × InspectionOutcome)} {limit : Tick}
  (hstage : t.stage = .attempting ending limit)

include hstage

theorem step_at_end {tick : Tick} {outcome : InspectionOutcome} (hending : ending = some (tick, outcome))
    (hdue : isDue now tick = true) : t.step s now false next = t.judge s now (some outcome) := by
  simp only [step, hstage, hending, hdue, judge, Bool.false_eq_true, if_false, if_true]

theorem step_at_limit (hend : ∀ e ∈ ending, isDue now e.1 = false) (hdue : isDue now limit = true) :
    t.step s now false next = t.judge s now none := by
  cases ending with
  | none => simp only [step, hstage, hdue, judge, Bool.false_eq_true, if_false, if_true]
  | some e =>
      have hnot := hend e rfl
      simp only [step, hstage, hdue, hnot, judge, Bool.false_eq_true, if_false, if_true]

theorem step_in_time (hend : ∀ e ∈ ending, isDue now e.1 = false) (hdue : isDue now limit = false) :
    t.step s now false next = .waits := by
  cases ending with
  | none => simp only [step, hstage, hdue, Bool.false_eq_true, if_false]
  | some e =>
      have hnot := hend e rfl
      simp only [step, hstage, hdue, hnot, Bool.false_eq_true, if_false]

end attempting

section attempting

variable {a : Attempt} {begun : Instant}
  (hstage : t.stage = .attempting (deadline begun a) (dueAfter begun s.attemptTimeout))

include hstage

theorem waitsUntil_over : t.WaitsUntil s next begun (a.overAt s.attemptTimeout begun) := by
  cases a with
  | hangs =>
      cases hdue : isDue begun (dueAfter begun s.attemptTimeout) with
      | true => exact .inl (waitUntil_eq_self (isDue_eq_true_iff.1 hdue))
      | false =>
          refine .inr ⟨step_in_time hstage nofun hdue, dueAfter begun s.attemptTimeout, ?_, rfl⟩
          simp only [timers, hstage, deadline, Option.map_none, Option.toList_none, List.nil_append]
          exact earliest?_singleton _
  | ends after outcome =>
      -- the earlier of the two timers is the one that counts
      by_cases hdue : min (dueAfter begun after) (dueAfter begun s.attemptTimeout) ≤ begun / 1000000
      · exact .inl (waitUntil_eq_self hdue)
      · rw [Nat.not_le, Nat.lt_min] at hdue
        refine .inr ⟨step_in_time hstage ?_ (isDue_eq_false_iff.2 hdue.2),
          min (dueAfter begun after) (dueAfter begun s.attemptTimeout), ?_, rfl⟩
        · rintro e ⟨⟩
          exact isDue_eq_false_iff.2 hdue.1
        · simp only [timers, hstage, deadline, Option.map_some, Option.toList_some,
            List.cons_append, List.nil_append]
          exact earliest?_pair _ _

theorem step_over :
    t.step s (a.overAt s.attemptTimeout begun) false next =
      t.judge s (a.overAt s.attemptTimeout begun) (a.outcome? s.attemptTimeout begun) := by
  cases a with
  | hangs => exact step_at_limit hstage nofun (isDue_waitUntil _ _)
  | ends after outcome =>
      by_cases hle : dueAfter begun after ≤ dueAfter begun s.attemptTimeout
      · rw [Attempt.overAt_of_le hle, Attempt.outcome?_of_le hle]
        exact step_at_end hstage rfl (isDue_waitUntil _ _)
      · rw [Attempt.overAt_of_not_le hle, Attempt.outcome?_of_not_le hle]
        refine step_at_limit hstage ?_ (isDue_waitUntil _ _)
        -- at its time limit the attempt is not at its end
        rintro e ⟨⟩
        rw [isDue_eq_false_iff, waitUntil_div, Nat.max_eq_right (le_dueAfter begun s.attemptTimeout)]
        exact Nat.lt_of_not_le hle

end attempting

end Trial

/-! ## Steps of an inspection, without fuel -/

namespace Simulation

variable {script : Script} {w w' : Simulation} {t t' : Trial} {n m : Nat}
  {result : Except InspectionError Unit}

/-- What the routine does if it is called now for a block. -/
def nextAttempt (script : Script) (w : Simulation) (block : UInt64) : Attempt :=
  script.attempt w.attempts.length (w.inspector.settings.inputsFor block)

/-- In at most `n` steps the inspection ends with a result and leaves `w'`. -/
inductive Proceeds (script : Script) :
    Trial → Simulation → Nat → Except InspectionError Unit → Simulation → Prop
  | ends {t : Trial} {w : Simulation} {results : Option InspectionResults}
      {result : Except InspectionError Unit} (n : Nat) :
      t.step w.inspector.settings w.now false (nextAttempt script w t.block) =
        .ends results result →
      Proceeds script t w n result (w.conclude results result)
  | goes {t t' : Trial} {w w' : Simulation} {n : Nat} {result : Except InspectionError Unit} :
      t.step w.inspector.settings w.now false (nextAttempt script w t.block) = .goes t' →
      Proceeds script t' w n result w' → Proceeds script t w (n + 1) result w'
  | begins {t t' : Trial} {w w' : Simulation} {n : Nat} {result : Except InspectionError Unit} :
      t.step w.inspector.settings w.now false (nextAttempt script w t.block) = .begins t' →
      Proceeds script t'
        { w with attempts := w.inspector.settings.inputsFor t.block :: w.attempts } n result w' →
      Proceeds script t w (n + 1) result w'
  | waits {t : Trial} {w w' : Simulation} {n : Nat} {result : Except InspectionError Unit}
      {tick : Tick} :
      t.step w.inspector.settings w.now false (nextAttempt script w t.block) = .waits →
      earliest? t.timers = some tick →
      Proceeds script t { w with now := waitUntil w.now tick } n result w' →
      Proceeds script t w (n + 1) result w'

theorem Proceeds.mono (h : Proceeds script t w n result w') (hle : n ≤ m) :
    Proceeds script t w m result w' := by
  induction h generalizing m with
  | ends _ hstep => exact .ends m hstep
  | goes hstep _ ih =>
      obtain ⟨m, rfl⟩ := Nat.exists_eq_add_one_of_ne_zero (Nat.ne_zero_of_lt hle)
      exact .goes hstep (ih (Nat.le_of_succ_le_succ hle))
  | begins hstep _ ih =>
      obtain ⟨m, rfl⟩ := Nat.exists_eq_add_one_of_ne_zero (Nat.ne_zero_of_lt hle)
      exact .begins hstep (ih (Nat.le_of_succ_le_succ hle))
  | waits hstep htick _ ih =>
      obtain ⟨m, rfl⟩ := Nat.exists_eq_add_one_of_ne_zero (Nat.ne_zero_of_lt hle)
      exact .waits hstep htick (ih (Nat.le_of_succ_le_succ hle))

/-- Waiting takes one step at most. -/
theorem Proceeds.after_wait {T : Instant}
    (hwait : t.WaitsUntil w.inspector.settings (nextAttempt script w t.block) w.now T)
    (h : Proceeds script t { w with now := T } n result w') :
    Proceeds script t w (n + 1) result w' := by
  rcases hwait with rfl | ⟨hstep, tick, htick, rfl⟩
  · exact h.mono (Nat.le_succ n)
  · exact .waits hstep htick h

/-! ### With fuel -/

/-- Nobody but the caller has anything to do. -/
structure Quiet (w : Simulation) : Prop where
  ready : w.ready = []
  worker : w.worker.timers = []
  watchdog : w.watchdog.timers = []

theorem wakeDue_of_quiet (hw : w.Quiet) : w.wakeDue = w := by
  refine List.foldl_fixed' (fun task => ?_) _
  cases task with
  | worker => simp [hw.worker]
  | watchdog => simp [hw.watchdog]

theorem toNextTimer_of_quiet (hw : w.Quiet) {timers : List Tick} {tick : Tick}
    (h : earliest? timers = some tick) :
    toNextTimer timers w = { w with now := waitUntil w.now tick } := by
  unfold toNextTimer
  rw [hw.worker, hw.watchdog, List.append_nil, List.append_nil, h]
  exact wakeDue_of_quiet ⟨hw.ready, hw.worker, hw.watchdog⟩

theorem ready_runTrial (script : Script) (cancelled : Bool) (fuel : Nat) (t : Trial)
    (w : Simulation) : (runTrial script cancelled fuel t w).2.ready = w.ready := by
  fun_induction runTrial script cancelled fuel t w with
  | case1 => rfl
  | case2 => rfl
  | case3 _ _ _ _ _ _ _ ih => exact ih
  | case4 _ _ _ _ _ _ _ ih => exact ih
  | case5 =>
      unfold conclude
      simp only
      split <;> rfl

/-- The caller goes on after its inspection has been looked at. -/
def afterLook (script : Script) (fuel : Nat) :
    Sum Trial (Except InspectionError Unit) × Simulation → CallerResult × Simulation
  | (.inr result, w) => (.inspected result, w)
  | (.inl t, w) => await script fuel (.inspecting t false none) (toNextTimer t.timers w)

theorem await_succ (hw : w.Quiet) (fuel : Nat) :
    await script (fuel + 1) (.inspecting t false none) w =
      afterLook script fuel (runTrial script false (fuel + 1) t w) := by
  have hready := ready_runTrial script false (fuel + 1) t w
  rw [hw.ready] at hready
  unfold await poll
  simp only
  cases hrun : runTrial script false (fuel + 1) t w with
  | mk out w' =>
      rw [hrun] at hready
      cases out with
      | inr result => rfl
      | inl t' =>
          have hempty : w'.ready.isEmpty = true := List.isEmpty_iff.2 hready
          simp only [hempty, if_true, afterLook, Caller.timers, Option.toList_none,
            List.append_nil]

/-- Each step uses up one unit of the fuel of the look it is in, or of the fuel
for looks. -/
theorem Proceeds.afterLook (h : Proceeds script t w n result w') (hw : w.Quiet) {fuel looks : Nat}
    (hfuel : n < fuel) (hlooks : n ≤ looks) :
    Simulation.afterLook script looks (runTrial script false fuel t w) =
      (.inspected result, w') := by
  induction h generalizing fuel looks with
  | ends n hstep =>
      obtain ⟨fuel, rfl⟩ := Nat.exists_eq_add_one_of_ne_zero (Nat.ne_zero_of_lt hfuel)
      unfold nextAttempt at hstep
      simp only [runTrial, hstep]
      rfl
  | goes hstep _ ih =>
      obtain ⟨fuel, rfl⟩ := Nat.exists_eq_add_one_of_ne_zero (Nat.ne_zero_of_lt hfuel)
      unfold nextAttempt at hstep
      simp only [runTrial, hstep]
      exact ih hw (Nat.lt_of_succ_lt_succ hfuel) (Nat.le_of_succ_le hlooks)
  | begins hstep _ ih =>
      obtain ⟨fuel, rfl⟩ := Nat.exists_eq_add_one_of_ne_zero (Nat.ne_zero_of_lt hfuel)
      unfold nextAttempt at hstep
      simp only [runTrial, hstep]
      exact ih ⟨hw.ready, hw.worker, hw.watchdog⟩ (Nat.lt_of_succ_lt_succ hfuel)
        (Nat.le_of_succ_le hlooks)
  | @waits t w _ _ _ tick hstep htick _ ih =>
      obtain ⟨fuel, rfl⟩ := Nat.exists_eq_add_one_of_ne_zero (Nat.ne_zero_of_lt hfuel)
      obtain ⟨looks, rfl⟩ := Nat.exists_eq_add_one_of_ne_zero (Nat.ne_zero_of_lt hlooks)
      unfold nextAttempt at hstep
      simp only [runTrial, hstep, Simulation.afterLook]
      have hnext : Quiet { w with now := waitUntil w.now tick } :=
        ⟨hw.ready, hw.worker, hw.watchdog⟩
      rw [toNextTimer_of_quiet hw htick, await_succ hnext]
      exact ih hnext hlooks (Nat.le_of_succ_le_succ hlooks)

theorem Proceeds.await (h : Proceeds script t w n result w') (hw : w.Quiet) {fuel : Nat}
    (hfuel : n < fuel) :
    Simulation.await script fuel (.inspecting t false none) w = (.inspected result, w') := by
  obtain ⟨fuel, rfl⟩ := Nat.exists_eq_add_one_of_ne_zero (Nat.ne_zero_of_lt hfuel)
  rw [await_succ hw]
  exact h.afterLook hw hfuel (Nat.le_of_lt_succ hfuel)

/-! ## From attempt to attempt -/

/-- The inspection of a block that begins now. -/
def retries (script : Script) (w : Simulation) (block : UInt64) : Retries where
  settings := w.inspector.settings
  attempt := fun n =>
    script.attempt (w.attempts.length + n) (w.inspector.settings.inputsFor block)
  started := w.now

/-- The simulation at a time when the routine has been called `n` times for the
block. -/
def afterCalls (w : Simulation) (block : UInt64) (n : Nat) (now : Instant) : Simulation :=
  { w with
    now := now
    attempts := List.replicate n (w.inspector.settings.inputsFor block) ++ w.attempts }

/-- The simulation when the inspection has ended with attempt `n`. -/
def afterInspection (script : Script) (w : Simulation) (block : UInt64) (n : Nat) : Simulation :=
  (w.afterCalls block (n + 1) ((w.retries script block).overAt n)).conclude
    ((w.retries script block).results? n) ((w.retries script block).answer n)

variable {block : UInt64} {r : Retries}

/-- The trial before attempt `n`. -/
def trialBefore (r : Retries) (block : UInt64) (n : Nat) : Trial := ⟨block, r.started, n, .ready⟩

/-- The trial during attempt `n`. -/
def trialDuring (r : Retries) (block : UInt64) (n : Nat) : Trial :=
  ⟨block, r.started, n + 1,
    .attempting (Trial.deadline (r.begun n) (r.attempt n))
      (dueAfter (r.begun n) r.settings.attemptTimeout)⟩

/-- The trial during the pause after attempt `n`. -/
def trialAfter (r : Retries) (block : UInt64) (n : Nat) : Trial :=
  ⟨block, r.started, n + 1, .pausing (dueAfter (r.overAt n) (r.pause n))⟩

theorem step_trialBefore (r : Retries) (block : UInt64) (n : Nat) :
    (trialBefore r block n).step r.settings (r.begun n) false (r.attempt n) =
      .begins (trialDuring r block n) := by
  cases h : r.attempt n <;> simp [Trial.step, trialBefore, trialDuring, Trial.deadline, h]

theorem afterFailure_trialDuring (results : Option InspectionResults) (e : InspectionError) :
    (trialDuring r block n).afterFailure r.settings (r.overAt n) results e =
      if r.settings.retry.maxElapsed < (r.elapsed n).add (r.pause n) then
        .ends results (.error (.exhausted (n + 1) (r.elapsed n) e.message))
      else .goes (trialAfter r block n) := by
  have hdelay : r.settings.retry.nextDelay (n + 1) (r.elapsed n) =
      if (r.elapsed n).add (r.pause n) ≤ r.settings.retry.maxElapsed then some (r.pause n)
      else none := RetryPolicy.nextDelay_of_pos _ (Nat.succ_pos n) _
  by_cases hle : (r.elapsed n).add (r.pause n) ≤ r.settings.retry.maxElapsed
  · have hlt : ¬ r.settings.retry.maxElapsed < (r.elapsed n).add (r.pause n) := Nat.not_lt.2 hle
    rw [if_pos hle] at hdelay
    rw [if_neg hlt]
    exact Trial.afterFailure_of_some hdelay
  · have hlt : r.settings.retry.maxElapsed < (r.elapsed n).add (r.pause n) := Nat.lt_of_not_le hle
    rw [if_neg hle] at hdelay
    rw [if_pos hlt]
    exact Trial.afterFailure_of_none hdelay

theorem judge_trialDuring :
    (r.IsLast n → (trialDuring r block n).judge r.settings (r.overAt n) (r.outcome? n) =
      .ends (r.results? n) (r.answer n)) ∧
    (¬ r.IsLast n → (trialDuring r block n).judge r.settings (r.overAt n) (r.outcome? n) =
      .goes (trialAfter r block n)) := by
  unfold Retries.IsLast Retries.answer Retries.results? Retries.failure?
  cases r.outcome? n with
  | none =>
      simp only [Trial.judge, afterFailure_trialDuring, Option.bind_none, reduceCtorEq, false_or]
      exact ⟨fun h => if_pos h, fun h => if_neg h⟩
  | some outcome =>
      simp only [Trial.judge, Trial.afterOutcome, Option.bind_some]
      cases outcome.error with
      | none => simp only [true_or, not_true, forall_const, false_implies, and_true]
      | some e =>
          simp only [afterFailure_trialDuring, reduceCtorEq, false_or]
          exact ⟨fun h => if_pos h, fun h => if_neg h⟩

/-! ### The whole inspection -/

theorem nextAttempt_afterCalls (now : Instant) :
    nextAttempt script (w.afterCalls block n now) block = (w.retries script block).attempt n := by
  unfold nextAttempt retries afterCalls
  rw [List.length_append, List.length_replicate, Nat.add_comm]

theorem proceeds_attempt
    (h : Proceeds script (trialDuring (w.retries script block) block m)
      (w.afterCalls block (m + 1) ((w.retries script block).overAt m)) n result w') :
    Proceeds script (trialBefore (w.retries script block) block m)
      (w.afterCalls block m ((w.retries script block).begun m)) (n + 2) result w' := by
  have hbegins := step_trialBefore (w.retries script block) block m
  rw [← nextAttempt_afterCalls] at hbegins
  exact .begins hbegins (.after_wait (Trial.waitsUntil_over rfl) h)

theorem proceeds_pause (hnot : ¬ (w.retries script block).IsLast m)
    (h : Proceeds script (trialBefore (w.retries script block) block (m + 1))
      (w.afterCalls block (m + 1) ((w.retries script block).begun (m + 1))) n result w') :
    Proceeds script (trialDuring (w.retries script block) block m)
      (w.afterCalls block (m + 1) ((w.retries script block).overAt m)) (n + 3) result w' := by
  refine .goes ((Trial.step_over rfl).trans (judge_trialDuring.2 hnot)) ?_
  refine .after_wait (Trial.waitsUntil_pausing rfl) ?_
  exact .goes (Trial.step_pausing rfl (isDue_waitUntil _ _)) h

/-- From the begin of an attempt to the end of the inspection: the attempts that
are left, one after the other. -/
theorem proceeds_to_last (hlast : (w.retries script block).IsLast n)
    (hfirst : ∀ m < n, ¬ (w.retries script block).IsLast m) (left : Nat) :
    ∀ m, m + left = n →
      Proceeds script (trialBefore (w.retries script block) block m)
        (w.afterCalls block m ((w.retries script block).begun m)) (5 * left + 2)
        ((w.retries script block).answer n) (w.afterInspection script block n) := by
  induction left with
  | zero =>
      rintro m rfl
      exact proceeds_attempt (.ends 0 ((Trial.step_over rfl).trans (judge_trialDuring.1 hlast)))
  | succ left ih =>
      intro m hm
      have hrest := ih (m + 1) (by omega)
      exact proceeds_attempt (proceeds_pause (hfirst m (by omega)) hrest)

theorem afterInspection_eq (script : Script) (w : Simulation) (block : UInt64) (n : Nat) :
    w.afterInspection script block n =
      { w with
        now := (w.retries script block).overAt n
        attempts := List.replicate (n + 1) (w.inspector.settings.inputsFor block) ++ w.attempts
        published := (if w.busClosed then [] else ((w.retries script block).results? n).toList) ++
          w.published
        inspector := { w.inspector with
          lastError := match (w.retries script block).answer n with
            | .ok () => .clear
            | .error e => .keep e.message wallClock } } := by
  have hconclude : w.inspector.conclude wallClock ((w.retries script block).answer n) =
      { w.inspector with
        lastError := match (w.retries script block).answer n with
          | .ok () => .clear
          | .error e => .keep e.message wallClock } := by
    unfold Retries.answer
    split <;> rfl
  unfold afterInspection conclude afterCalls
  rw [← hconclude]
  cases w.busClosed <;> rfl

end Simulation

/-- **An inspection follows its reference.**  Take any block, any settings and
any attempts, and a simulation in which nobody else has anything to do.  If some
attempt is the last and attempt `n`, counted from 0, is the first such, and the
counter of attempts has room for it, then the inspection, when nobody cancels it,
calls the routine `n + 1` times with the inputs for the block.  It answers for
that attempt: that all is well if the attempt came to its end in time and without
an error, and otherwise that it gave up after `n + 1` attempts and the time passed
by then.  It publishes the results of that attempt, if it came to its end in time
and has any, and nothing else, and what it answers decides about the last
error. -/
theorem inspect_follows_reference {script : Script} {w : Simulation} {block : UInt64} {n : Nat}
    (hquiet : w.Quiet) (hlast : (w.retries script block).IsLast n)
    (hfirst : ∀ m < n, ¬ (w.retries script block).IsLast m) (hcounter : n + 1 ≤ 0xFFFFFFFF) :
    Simulation.inspect block false none script w =
      (.inspected ((w.retries script block).answer n),
       { w with
         now := (w.retries script block).overAt n
         attempts := List.replicate (n + 1) (w.inspector.settings.inputsFor block) ++ w.attempts
         published := (if w.busClosed then [] else ((w.retries script block).results? n).toList) ++
           w.published
         inspector := { w.inspector with
           lastError := match (w.retries script block).answer n with
             | .ok () => .clear
             | .error e => .keep e.message Simulation.wallClock } }) := by
  have hsteps := Simulation.proceeds_to_last hlast hfirst n 0 (Nat.zero_add n)
  rw [Simulation.afterInspection_eq] at hsteps
  refine hsteps.await hquiet ?_
  unfold Simulation.patience
  omega

/-! ### Three attempts

The first attempt hangs, the second ends early with partial results, and the
third ends with its time limit and succeeds. -/

namespace ThirdAttempt

def settings : InspectionSettings := .standard 10 "http://scan" "http://proxy"

/-- What the second and the third attempt find. -/
def partially : InspectionResults :=
  (InspectionResults.start (settings.inputsFor 100) default).setMetadata "scan" "unreachable"

def wholly : InspectionResults := .start (settings.inputsFor 100) default

def script : Script where
  attempt := fun number _ =>
    match number with
    | 0 => .hangs
    | 1 => .ends (.ofMillis 500) (.incomplete partially (.routine "no answer"))
    | _ => .ends (.ofSecs 120) (.success wholly)
  chain := fun _ => .hangs

def retries : Retries := (Simulation.start settings).retries script 100

instance (n : Nat) : Decidable (retries.IsLast n) :=
  inferInstanceAs (Decidable (_ = none ∨ _ < _))

theorem outcome?_third : retries.outcome? 2 = some (.success wholly) :=
  Attempt.outcome?_of_le (by decide +kernel)

end ThirdAttempt

/-- The routine is called three times, and only what the third attempt finds is
published. -/
theorem inspect_follows_reference_third :
    (Simulation.inspect 100 false none ThirdAttempt.script
        (.start ThirdAttempt.settings)).1 = .inspected (.ok ()) ∧
    (Simulation.inspect 100 false none ThirdAttempt.script
        (.start ThirdAttempt.settings)).2.published = [ThirdAttempt.wholly] ∧
    (Simulation.inspect 100 false none ThirdAttempt.script
        (.start ThirdAttempt.settings)).2.attempts =
      List.replicate 3 (ThirdAttempt.settings.inputsFor 100) := by
  have hquiet : (Simulation.start ThirdAttempt.settings).Quiet := ⟨rfl, rfl, rfl⟩
  have hlast : ThirdAttempt.retries.IsLast 2 := by decide +kernel
  have hfirst : ∀ m < 2, ¬ ThirdAttempt.retries.IsLast m := by decide +kernel
  have hfailure : ThirdAttempt.retries.failure? 2 = none := by
    rw [Retries.failure?, ThirdAttempt.outcome?_third]
    rfl
  have hanswer : ThirdAttempt.retries.answer 2 = .ok () := by
    rw [Retries.answer, hfailure]
  have hresults : ThirdAttempt.retries.results? 2 = some ThirdAttempt.wholly := by
    rw [Retries.results?, ThirdAttempt.outcome?_third]
    rfl
  have hend := inspect_follows_reference hquiet hlast hfirst (by decide)
  refine ⟨?_, ?_, ?_⟩
  · rw [hend]
    exact congrArg Simulation.CallerResult.inspected hanswer
  · rw [hend]
    show (ThirdAttempt.retries.results? 2).toList ++ [] = _
    rw [hresults]
    rfl
  · rw [hend]
    rfl

end NodeKeeper
