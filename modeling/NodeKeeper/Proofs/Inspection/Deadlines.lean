/-
# An inspection comes to its end in time

Nothing in an inspection counts down.  What grows is the time that has been
waited: after `k` attempts it is at least `waited k`, the sum of the first `k`
pauses, and a further attempt is made only if the next pause still fits into the
total time.  So the number of attempts is bounded by how many pauses fit.

An inspection goes on when somebody looks at it.  Whoever does is woken by its
timers, which go off on whole milliseconds, and comes at most `late` nanoseconds
after them (`LookedAt`); `late` is 0 for a clock that shows whole milliseconds.

    ready         an attempt begins at once; the pauses so far fit
    attempting    the attempt has begun in time, and its limit is set
    pausing       the pause ends in time, and with it the pauses so far fit

This is kept by every look (`OnTime.afterLook`), and it bounds the times of all
looks (`OnTime.look_lt`) and the number of attempts (`OnTime.waited_le`).

A pause of 2 ^ 63 seconds or more cannot be added to a point in time, and is
waited as thirty years (`timerSpan`).  What is counted is what is waited.
-/
import Mathlib.Algebra.BigOperators.Intervals
import NodeKeeper.Proofs.Inspection.Cancellation
import NodeKeeper.Proofs.Inspection.Delays
import NodeKeeper.Proofs.Inspection.Retries

namespace NodeKeeper

/-! ## Spans and timers -/

theorem timerSpan_le (d : Duration) : timerSpan d ≤ d.nanos := by
  unfold timerSpan
  split
  · exact Nat.le_refl _
  · next h =>
    have hsecs : 0x8000000000000000 ≤ d.nanos / 1000000000 := Nat.le_of_not_lt h
    omega

/-- A timer is never early, and less than a millisecond late. -/
theorem dueAfter_bounds (now : Instant) (d : Duration) :
    now + timerSpan d ≤ dueAfter now d * 1000000 ∧
      dueAfter now d * 1000000 < now + timerSpan d + 1000000 := by
  unfold dueAfter dueAt
  lia

theorem le_of_isDue {now : Instant} {tick : Tick} (h : isDue now tick = true) :
    tick * 1000000 ≤ now := by
  have hdiv := isDue_eq_true_iff.1 h
  lia

namespace RetryPolicy

/-- How long an inspection pauses between its first `k + 1` attempts. -/
def waited (p : RetryPolicy) (k : Nat) : Nat :=
  ((List.range k).map fun i => timerSpan (p.intervalAfter (i + 1))).sum

theorem waited_succ (p : RetryPolicy) (k : Nat) :
    p.waited (k + 1) = p.waited k + timerSpan (p.intervalAfter (k + 1)) := by
  simp [waited, List.range_succ]

theorem waited_mono (p : RetryPolicy) {k k' : Nat} (h : k ≤ k') : p.waited k ≤ p.waited k' := by
  induction h with
  | refl => exact Nat.le_refl _
  | step _ ih =>
      rw [waited_succ]
      exact Nat.le_add_right_of_le ih

theorem le_waited {p : RetryPolicy} {d bound : Nat}
    (hd : ∀ n, 0 < n → n ≤ bound → d ≤ timerSpan (p.intervalAfter n)) {k : Nat} (hk : k ≤ bound) :
    k * d ≤ p.waited k := by
  induction k with
  | zero => exact Nat.le_of_eq (Nat.zero_mul d)
  | succ k ih =>
      rw [waited_succ, Nat.succ_mul]
      exact Nat.add_le_add (ih (Nat.le_of_succ_le hk)) (hd (k + 1) (Nat.succ_pos k) hk)

theorem le_div_of_waited_le {p : RetryPolicy} {d bound total : Nat}
    (hd : ∀ n, 0 < n → n ≤ bound → d ≤ timerSpan (p.intervalAfter n)) (hpos : 0 < d)
    (hsmall : total < bound * d) {k : Nat} (hk : p.waited k ≤ total) : k ≤ total / d := by
  have hbound : k ≤ bound := by
    by_contra hlt
    have hfits := (p.waited_mono (Nat.le_of_not_le hlt)).trans hk
    exact absurd hsmall (Nat.not_lt.2 ((le_waited hd (Nat.le_refl bound)).trans hfits))
  exact (Nat.le_div_iff_mul_le hpos).2 ((le_waited hd hbound).trans hk)

/-- How many attempts a policy allows: one more than pauses of at least `d` fit
into the total time, where the counter of attempts has room for that, and
fourteen with the standard policy. -/
inductive Allows (p : RetryPolicy) : Nat → Prop
  | spaced {d : Nat} : 0 < d →
      (∀ n, 0 < n → n ≤ 0xFFFFFFFF → d ≤ timerSpan (p.intervalAfter n)) →
      p.maxElapsed.nanos < 0xFFFFFFFF * d → Allows p (p.maxElapsed.nanos / d + 1)
  | standard : p = RetryPolicy.standard → Allows p 14

/-- Fourteen pauses of the standard policy take 302.34375 seconds. -/
theorem standard_waited : standard.maxElapsed.nanos < standard.waited 14 := by decide +kernel

section allows

variable {p : RetryPolicy} {most : Nat}

theorem Allows.lt_waited (h : p.Allows most) : p.maxElapsed.nanos < p.waited most := by
  cases h with
  | spaced hpos hd hsmall =>
      rw [← Nat.not_le]
      intro hfit
      exact Nat.not_succ_le_self _ (le_div_of_waited_le hd hpos hsmall hfit)
  | standard hp =>
      rw [hp]
      exact standard_waited

theorem Allows.pos (h : p.Allows most) : 0 < most := by
  cases h with
  | spaced => exact Nat.succ_pos _
  | standard => decide

theorem Allows.le_counter (h : p.Allows most) : most ≤ 0xFFFFFFFF := by
  cases h with
  | spaced hpos _ hsmall => exact (Nat.div_lt_iff_lt_mul hpos).2 hsmall
  | standard => decide

theorem Allows.le_of_waited_le (h : p.Allows most) {count : Nat}
    (hfits : ∀ i < count, p.waited i ≤ p.maxElapsed.nanos) : count ≤ most := by
  by_contra hmore
  exact absurd (hfits most (Nat.lt_of_not_le hmore)) (Nat.not_le.2 h.lt_waited)

end allows

/-- The pause that is granted fits into the total time, if the clock has not run
for longer than the longest duration. -/
theorem fits_of_nextDelay {p : RetryPolicy} {failed : Nat} {started now : Instant} {delay : Duration}
    (hfailed : 0 < failed) (h : p.nextDelay failed (passed started now) = some delay) :
    delay = p.intervalAfter failed ∧
      (maxNanos ≤ p.maxElapsed.nanos ∨ now - started + delay.nanos ≤ p.maxElapsed.nanos) := by
  obtain ⟨hdelay, hle⟩ := (p.nextDelay_eq_some_iff hfailed).1 h
  -- both sums stop at the longest duration
  have hcut (passed pause longest total : Nat)
      (hle : min (min passed longest + pause) longest ≤ total) :
      longest ≤ total ∨ passed + pause ≤ total := by omega
  exact ⟨hdelay, hcut _ _ _ _ hle⟩

end RetryPolicy

/-! ## Looks and when they come -/

namespace Trial

variable {s : InspectionSettings} {late : Nat} {now : Instant} {t t' : Trial} {l : TrialLook}
  {looks : List TrialLook}

/-- What a look leaves of an inspection, unless it ends it. -/
def afterLook? (s : InspectionSettings) (l : TrialLook) (t : Trial) : Option Trial :=
  match t.step s l.now l.cancelled l.next with
  | .waits => some t
  | .goes t' => some t'
  | .begins t' => some t'
  | .ends _ _ => none

/-- Does an attempt begin with this look? -/
def begins (s : InspectionSettings) (l : TrialLook) (t : Trial) : Bool :=
  match t.step s l.now l.cancelled l.next with
  | .begins _ => true
  | _ => false

/-- When the attempts have begun. -/
def begunAt (s : InspectionSettings) : List TrialLook → Trial → List Instant
  | [], _ => []
  | l :: rest, t =>
    (if t.begins s l then [l.now] else []) ++
      match t.afterLook? s l with
      | none => []
      | some t' => begunAt s rest t'

/-- When the inspection has ended, if it has. -/
def endedAt? (s : InspectionSettings) : List TrialLook → Trial → Option Instant
  | [], _ => none
  | l :: rest, t =>
    match t.afterLook? s l with
    | none => some l.now
    | some t' => endedAt? s rest t'

/-- What is seen of an inspection is as many calls of the routine as attempts have
begun, and its end. -/
theorem watch_eq (s : InspectionSettings) (looks : List TrialLook) (t : Trial) :
    (t.watch s looks).1 = List.replicate (begunAt s looks t).length (s.inputsFor t.block) ∧
      ((t.watch s looks).2.isSome = (endedAt? s looks t).isSome) := by
  induction looks generalizing t with
  | nil => exact ⟨rfl, rfl⟩
  | cons l rest ih =>
      cases hstep : t.step s l.now l.cancelled l.next with
      | waits => simpa [watch, begunAt, endedAt?, afterLook?, begins, hstep] using ih t
      | goes t' =>
          obtain ⟨hcalls, hend⟩ := ih t'
          rw [block_of_goes hstep] at hcalls
          simp [watch, begunAt, endedAt?, afterLook?, begins, hstep, hcalls, hend]
      | begins t' =>
          obtain ⟨hcalls, hend⟩ := ih t'
          have hblock := block_of_begins hstep
          rw [hblock] at hcalls
          simp [watch, begunAt, endedAt?, afterLook?, begins, hstep, hcalls, hend, hblock,
            List.replicate_succ]
      | ends => simp [watch, begunAt, endedAt?, afterLook?, begins, hstep]

/-- The latest time at which an inspection is looked at again, when the last look
was now: an attempt begins at once, and otherwise a timer goes off. -/
def latestLook (late : Nat) (now : Instant) (t : Trial) : Instant :=
  match t.stage with
  | .ready => now
  | .attempting _ limit => limit * 1000000 + late
  | .pausing resume => resume * 1000000 + late

/-- The inspection is looked at in time until it ends. -/
def LookedAt (s : InspectionSettings) (late : Nat) : List TrialLook → Instant → Trial → Prop
  | [], _, _ => True
  | l :: rest, now, t =>
    now ≤ l.now ∧ l.now ≤ t.latestLook late now ∧
      match t.afterLook? s l with
      | none => True
      | some t' => LookedAt s late rest l.now t'

/-- Whether the inspection is looked at in time can be computed. -/
def decLookedAt (s : InspectionSettings) (late : Nat) :
    (looks : List TrialLook) → (now : Instant) → (t : Trial) → Decidable (LookedAt s late looks now t)
  | [], _, _ => .isTrue trivial
  | l :: rest, _, t =>
    have _later : Decidable (match t.afterLook? s l with
        | none => True
        | some t' => LookedAt s late rest l.now t') :=
      match t.afterLook? s l with
      | none => .isTrue trivial
      | some t' => decLookedAt s late rest l.now t'
    inferInstanceAs (Decidable (_ ∧ _ ∧ _))

instance (s : InspectionSettings) (late : Nat) (looks : List TrialLook) (now : Instant) (t : Trial) :
    Decidable (LookedAt s late looks now t) := decLookedAt s late looks now t

/-! ## What every look keeps -/

/-- By when an attempt has begun, in an inspection that began at a time: the
total time, one timer and one late look. -/
def beginBound (s : InspectionSettings) (late : Nat) (started : Instant) : Instant :=
  started + s.retry.maxElapsed.nanos + (1000000 + late)

/-- By when the inspection is over. -/
def endBound (s : InspectionSettings) (late : Nat) (started : Instant) : Instant :=
  started + s.retry.maxElapsed.nanos + s.attemptTimeout.nanos + 2 * (1000000 + late)

/-- The inspection is on time: the pauses so far are over and fit into the total
time. -/
def OnTime (s : InspectionSettings) (late : Nat) (now : Instant) (t : Trial) : Prop :=
  match t.stage with
  | .ready => t.started + s.retry.waited t.attempts ≤ now ∧ now < beginBound s late t.started ∧
      s.retry.waited t.attempts ≤ s.retry.maxElapsed.nanos
  | .attempting _ limit => 0 < t.attempts ∧ ∃ begun, begun ≤ now ∧
      t.started + s.retry.waited (t.attempts - 1) ≤ begun ∧ begun < beginBound s late t.started ∧
      limit = dueAfter begun s.attemptTimeout
  | .pausing resume => t.started + s.retry.waited t.attempts ≤ resume * 1000000 ∧
      (maxNanos ≤ s.retry.maxElapsed.nanos ∨
        resume * 1000000 < t.started + s.retry.maxElapsed.nanos + 1000000 ∧
        s.retry.waited t.attempts ≤ s.retry.maxElapsed.nanos)

theorem onTime_start (s : InspectionSettings) (late : Nat) (block : UInt64) (now : Instant) :
    OnTime s late now (.start block now) := by
  refine ⟨Nat.le_refl _, ?_, Nat.zero_le _⟩
  show now < beginBound s late now
  unfold beginBound
  lia

theorem OnTime.look_lt (ht : OnTime s late now t) (hlook : l.now ≤ t.latestLook late now)
    (hclock : l.now ≤ t.started + maxNanos) : l.now < endBound s late t.started := by
  have hspan := timerSpan_le s.attemptTimeout
  unfold OnTime beginBound at ht
  unfold latestLook at hlook
  unfold endBound
  cases hstage : t.stage with
  | ready =>
      rw [hstage] at ht hlook
      obtain ⟨-, hnow, -⟩ := ht
      simp only at hlook
      lia
  | attempting ending limit =>
      rw [hstage] at ht hlook
      obtain ⟨-, begun, -, -, hbegun, rfl⟩ := ht
      obtain ⟨-, hlimit⟩ := dueAfter_bounds begun s.attemptTimeout
      simp only at hlook
      lia
  | pausing resume =>
      rw [hstage] at ht hlook
      obtain ⟨-, hmax | ⟨hresume, -⟩⟩ := ht
      · lia
      · simp only at hlook
        lia

/-- What a look can leave of an inspection. -/
inductive Advances (s : InspectionSettings) (l : TrialLook) (t : Trial) : Trial → Prop
  | waits : t.stage ≠ .ready → t.begins s l = false → Advances s l t t
  | begins {ending : Option (Tick × InspectionOutcome)} : t.stage = .ready → t.begins s l = true →
      Advances s l t { t with
        attempts := t.attempts + 1
        stage := .attempting ending (dueAfter l.now s.attemptTimeout) }
  | pauses {ending : Option (Tick × InspectionOutcome)} {limit : Tick} {delay : Duration} :
      t.stage = .attempting ending limit → t.begins s l = false →
      s.retry.nextDelay t.attempts (passed t.started l.now) = some delay →
      Advances s l t { t with stage := .pausing (dueAfter l.now delay) }
  | resumes {resume : Tick} : t.stage = .pausing resume → t.begins s l = false →
      isDue l.now resume = true → Advances s l t { t with stage := .ready }

theorem afterFailure_cases (s : InspectionSettings) (now : Instant) (t : Trial)
    (results : Option InspectionResults) (e : InspectionError) :
    (∃ result, t.afterFailure s now results e = .ends results result) ∨
      ∃ delay, s.retry.nextDelay t.attempts (passed t.started now) = some delay ∧
        t.afterFailure s now results e = .goes { t with stage := .pausing (dueAfter now delay) } := by
  cases hdelay : s.retry.nextDelay t.attempts (passed t.started now) with
  | none => exact .inl ⟨_, afterFailure_of_none hdelay⟩
  | some delay => exact .inr ⟨delay, rfl, afterFailure_of_some hdelay⟩

theorem judge_cases (s : InspectionSettings) (now : Instant) (t : Trial)
    (outcome? : Option InspectionOutcome) :
    (∃ results result, t.judge s now outcome? = .ends results result) ∨
      ∃ delay, s.retry.nextDelay t.attempts (passed t.started now) = some delay ∧
        t.judge s now outcome? = .goes { t with stage := .pausing (dueAfter now delay) } := by
  match outcome? with
  | none => exact (afterFailure_cases s now t none _).imp_left fun h => ⟨none, h⟩
  | some outcome =>
      simp only [judge, afterOutcome]
      cases outcome.error with
      | none => exact .inl ⟨_, _, rfl⟩
      | some e => exact (afterFailure_cases s now t _ e).imp_left fun h => ⟨_, h⟩

theorem step_attempting (s : InspectionSettings) {ending : Option (Tick × InspectionOutcome)}
    {limit : Tick} (hstage : t.stage = .attempting ending limit) (now : Instant) (next : Attempt) :
    t.step s now false next = .waits ∨
      ∃ outcome?, t.step s now false next = t.judge s now outcome? := by
  by_cases hend : ∀ e ∈ ending, isDue now e.1 = false
  · cases hlimit : isDue now limit with
    | true => exact .inr ⟨none, step_at_limit hstage hend hlimit⟩
    | false => exact .inl (step_in_time hstage hend hlimit)
  · push Not at hend
    obtain ⟨⟨tick, outcome⟩, he, hdue⟩ := hend
    exact .inr ⟨some outcome, step_at_end hstage he (Bool.of_not_eq_false hdue)⟩

/-- An inspection that a look has not ended was not cancelled, and has advanced
by one stage or not at all. -/
theorem advances_of_afterLook (h : t.afterLook? s l = some t') : Advances s l t t' := by
  have hgoing : l.cancelled = false := by
    by_contra hcancelled
    simp [afterLook?, Bool.of_not_eq_false hcancelled, step_of_cancelled] at h
  cases hstage : t.stage with
  | ready =>
      have hbegins : t.begins s l = true := by simp [begins, step, hgoing, hstage]
      simp only [afterLook?, step, hgoing, hstage, Bool.false_eq_true, if_false,
        Option.some.injEq] at h
      subst h
      exact .begins hstage hbegins
  | attempting ending limit =>
      rcases step_attempting s hstage l.now l.next with hstep | ⟨outcome?, hstep⟩
      · simp only [afterLook?, hgoing, hstep, Option.some.injEq] at h
        subst h
        exact .waits (by simp [hstage]) (by simp [begins, hgoing, hstep])
      · rcases judge_cases s l.now t outcome? with ⟨results, result, hjudge⟩ | ⟨delay, hdelay, hjudge⟩
        · simp [afterLook?, hgoing, hstep, hjudge] at h
        · simp only [afterLook?, hgoing, hstep, hjudge, Option.some.injEq] at h
          subst h
          exact .pauses hstage (by simp [begins, hgoing, hstep, hjudge]) hdelay
  | pausing resume =>
      cases hdue : isDue l.now resume with
      | true =>
          have hstep : t.step s l.now false l.next = .goes { t with stage := .ready } :=
            step_pausing hstage hdue
          simp only [afterLook?, hgoing, hstep, Option.some.injEq] at h
          subst h
          exact .resumes hstage (by simp [begins, hgoing, hstep]) hdue
      | false =>
          have hstep : t.step s l.now false l.next = .waits := by simp [step, hstage, hdue]
          simp only [afterLook?, hgoing, hstep, Option.some.injEq] at h
          subst h
          exact .waits (by simp [hstage]) (by simp [begins, hgoing, hstep])

theorem Advances.started_eq (h : Advances s l t t') : t'.started = t.started := by
  cases h <;> rfl

theorem Advances.attempts_eq (h : Advances s l t t') :
    t'.attempts = t.attempts + (if t.begins s l then 1 else 0) := by
  cases h with
  | waits _ hb => rw [hb]; rfl
  | begins _ hb => rw [hb]; rfl
  | pauses _ hb _ => rw [hb]; rfl
  | resumes _ hb _ => rw [hb]; rfl

theorem OnTime.advance (ht : OnTime s late now t) (ha : Advances s l t t') (hfrom : now ≤ l.now)
    (hlook : l.now ≤ t.latestLook late now) (hclock : l.now ≤ t.started + maxNanos) :
    OnTime s late l.now t' := by
  cases ha with
  | waits hstage _ =>
      unfold OnTime at ht ⊢
      cases hs : t.stage with
      | ready => exact absurd hs hstage
      | attempting ending limit =>
          rw [hs] at ht
          obtain ⟨hpos, begun, hbegun, hrest⟩ := ht
          exact ⟨hpos, begun, Nat.le_trans hbegun hfrom, hrest⟩
      | pausing resume =>
          rw [hs] at ht
          exact ht
  | begins hstage _ =>
      unfold OnTime at ht
      unfold latestLook at hlook
      rw [hstage] at ht hlook
      obtain ⟨hwaited, hbound, -⟩ := ht
      refine ⟨Nat.succ_pos _, l.now, Nat.le_refl _, ?_, Nat.lt_of_le_of_lt hlook hbound, rfl⟩
      exact Nat.le_trans hwaited hfrom
  | @pauses ending limit delay hstage _ hdelay =>
      unfold OnTime at ht
      rw [hstage] at ht
      obtain ⟨hpos, begun, hbegun, hwaited, -, -⟩ := ht
      obtain ⟨rfl, hfits⟩ := RetryPolicy.fits_of_nextDelay hpos hdelay
      obtain ⟨hearly, hlate⟩ := dueAfter_bounds l.now (s.retry.intervalAfter t.attempts)
      have hspan := timerSpan_le (s.retry.intervalAfter t.attempts)
      have hsum := s.retry.waited_succ (t.attempts - 1)
      rw [Nat.sub_add_cancel hpos] at hsum
      refine ⟨?_, hfits.imp_right fun hfits => ⟨?_, ?_⟩⟩
      · show t.started + s.retry.waited t.attempts ≤ dueAfter l.now _ * 1000000
        lia
      · show dueAfter l.now _ * 1000000 < t.started + s.retry.maxElapsed.nanos + 1000000
        lia
      · show s.retry.waited t.attempts ≤ s.retry.maxElapsed.nanos
        lia
  | @resumes resume hstage _ hdue =>
      unfold OnTime at ht
      unfold latestLook at hlook
      rw [hstage] at ht hlook
      obtain ⟨hwaited, hfits⟩ := ht
      have hreached := le_of_isDue hdue
      refine ⟨Nat.le_trans hwaited hreached, ?_, ?_⟩
      · show l.now < beginBound s late t.started
        unfold beginBound
        lia
      · show s.retry.waited t.attempts ≤ s.retry.maxElapsed.nanos
        lia

theorem OnTime.begins (ht : OnTime s late now t) (hlook : l.now ≤ t.latestLook late now)
    (hb : t.begins s l = true) :
    l.now < beginBound s late t.started ∧
      s.retry.waited t.attempts ≤ s.retry.maxElapsed.nanos := by
  have hready : t.stage = .ready := by
    cases hstep : t.step s l.now l.cancelled l.next with
    | begins t' =>
        have hafter : t.afterLook? s l = some t' := by simp only [afterLook?, hstep]
        cases advances_of_afterLook hafter with
        | begins hstage _ => exact hstage
        | waits _ hnot => exact nomatch hb.symm.trans hnot
        | pauses _ hnot _ => exact nomatch hb.symm.trans hnot
        | resumes _ hnot _ => exact nomatch hb.symm.trans hnot
    | _ => simp [Trial.begins, hstep] at hb
  unfold OnTime at ht
  unfold latestLook at hlook
  rw [hready] at ht hlook
  exact ⟨Nat.lt_of_le_of_lt hlook ht.2.1, ht.2.2⟩

/-! ## The whole inspection -/

theorem OnTime.begunAt (ht : OnTime s late now t) (hl : LookedAt s late looks now t)
    (hclock : ∀ l ∈ looks, l.now ≤ t.started + maxNanos) :
    (∀ begun ∈ begunAt s looks t, begun < beginBound s late t.started) ∧
      ∀ i < (Trial.begunAt s looks t).length,
        s.retry.waited (t.attempts + i) ≤ s.retry.maxElapsed.nanos := by
  induction looks generalizing now t with
  | nil => exact ⟨fun _ hm => absurd hm List.not_mem_nil, fun _ hi => absurd hi (Nat.not_lt_zero _)⟩
  | cons l rest ih =>
      obtain ⟨hfrom, hlook, hrest⟩ := hl
      obtain ⟨hnow, hclock⟩ := List.forall_mem_cons.1 hclock
      have hlater : ∃ later,
          Trial.begunAt s (l :: rest) t = (if t.begins s l then [l.now] else []) ++ later ∧
          (∀ begun ∈ later, begun < beginBound s late t.started) ∧
          ∀ i < later.length, s.retry.waited (t.attempts + (if t.begins s l then 1 else 0) + i) ≤
            s.retry.maxElapsed.nanos := by
        cases hafter : t.afterLook? s l with
        | none =>
            refine ⟨[], by simp only [Trial.begunAt, hafter], fun _ hm => absurd hm List.not_mem_nil, ?_⟩
            exact fun _ hi => absurd hi (Nat.not_lt_zero _)
        | some t' =>
            rw [hafter] at hrest
            have hadvance := advances_of_afterLook hafter
            have hnext := ih (ht.advance hadvance hfrom hlook hnow) hrest
              (by rw [hadvance.started_eq]; exact hclock)
            rw [hadvance.started_eq, hadvance.attempts_eq] at hnext
            exact ⟨Trial.begunAt s rest t', by simp only [Trial.begunAt, hafter], hnext⟩
      obtain ⟨later, heq, hbounds, hfits⟩ := hlater
      rw [heq]
      cases hb : t.begins s l with
      | false =>
          rw [hb] at hfits
          exact ⟨hbounds, hfits⟩
      | true =>
          rw [hb] at hfits
          obtain ⟨hfirst, hfit⟩ := ht.begins hlook hb
          refine ⟨List.forall_mem_cons.2 ⟨hfirst, hbounds⟩, fun i hi => ?_⟩
          cases i with
          | zero => exact hfit
          | succ i =>
              have hi : i < later.length := Nat.lt_of_succ_lt_succ hi
              have hlast := hfits i hi
              rwa [Nat.add_right_comm] at hlast

/-- The inspection ends in time, and while it has not ended the time is not up. -/
theorem OnTime.endedAt (ht : OnTime s late now t) (hl : LookedAt s late looks now t)
    (hclock : ∀ l ∈ looks, l.now ≤ t.started + maxNanos) :
    (∀ ended ∈ endedAt? s looks t, ended < endBound s late t.started) ∧
      (endedAt? s looks t = none → ∀ l ∈ looks, l.now < endBound s late t.started) := by
  induction looks generalizing now t with
  | nil => exact ⟨nofun, fun _ _ hm => absurd hm List.not_mem_nil⟩
  | cons l rest ih =>
      obtain ⟨hfrom, hlook, hrest⟩ := hl
      obtain ⟨hnow, hclock⟩ := List.forall_mem_cons.1 hclock
      have hbefore := ht.look_lt hlook hnow
      cases hafter : t.afterLook? s l with
      | none =>
          simp only [endedAt?, hafter]
          exact ⟨fun ended he => Option.some.inj he ▸ hbefore, nofun⟩
      | some t' =>
          rw [hafter] at hrest
          have hadvance := advances_of_afterLook hafter
          have hnext := ih (ht.advance hadvance hfrom hlook hnow) hrest
            (by rw [hadvance.started_eq]; exact hclock)
          rw [hadvance.started_eq] at hnext
          simp only [endedAt?, hafter]
          exact ⟨hnext.1, fun hgoing => List.forall_mem_cons.2 ⟨hbefore, hnext.2 hgoing⟩⟩

end Trial

/-! ## In virtual time

Here nobody is late, but the clock may begin at a fraction of a millisecond, and
only whole milliseconds are waited. -/

theorem le_waitUntil (now : Instant) (tick : Tick) : now ≤ waitUntil now tick := Nat.le_add_right _ _

theorem waitUntil_mono (now : Instant) {tick tick' : Tick} (h : tick ≤ tick') :
    waitUntil now tick ≤ waitUntil now tick' :=
  Nat.add_le_add_left (Nat.mul_le_mul_right _ (Nat.sub_le_sub_right h _)) now

theorem waitUntil_dueAfter_bounds (now : Instant) (d : Duration) :
    now + timerSpan d ≤ waitUntil now (dueAfter now d) ∧
      waitUntil now (dueAfter now d) < now + timerSpan d + 2000000 := by
  have hceil (now span : Nat) :
      now + span ≤ now + ((now + span + 999999) / 1000000 - now / 1000000) * 1000000 ∧
        now + ((now + span + 999999) / 1000000 - now / 1000000) * 1000000 <
          now + span + 2000000 := by omega
  exact hceil now (timerSpan d)

namespace Retries

variable {r : Retries} {n : Nat}

theorem begun_le_overAt (r : Retries) (n : Nat) : r.begun n ≤ r.overAt n := by
  unfold overAt Attempt.overAt
  split <;> exact le_waitUntil _ _

theorem overAt_lt (r : Retries) (n : Nat) :
    r.overAt n < r.begun n + timerSpan r.settings.attemptTimeout + 2000000 := by
  have hlimit := (waitUntil_dueAfter_bounds (r.begun n) r.settings.attemptTimeout).2
  unfold overAt Attempt.overAt
  split
  · exact Nat.lt_of_le_of_lt (waitUntil_mono _ (Nat.min_le_right _ _)) hlimit
  · exact hlimit

theorem waited_le_begun (r : Retries) (n : Nat) :
    r.started + r.settings.retry.waited n ≤ r.begun n := by
  induction n with
  | zero => exact Nat.le_refl _
  | succ n ih =>
      have hover := r.begun_le_overAt n
      have hpause := (waitUntil_dueAfter_bounds (r.overAt n) (r.pause n)).1
      have hsum := r.settings.retry.waited_succ n
      show _ ≤ waitUntil (r.overAt n) (dueAfter (r.overAt n) (r.pause n))
      unfold pause at hpause ⊢
      lia

theorem fits_of_not_last (hmax : r.settings.retry.maxElapsed.nanos < maxNanos) (h : ¬ r.IsLast n) :
    r.overAt n - r.started + (r.pause n).nanos ≤ r.settings.retry.maxElapsed.nanos := by
  have hle : (r.elapsed n).add (r.pause n) ≤ r.settings.retry.maxElapsed :=
    Nat.le_of_not_lt fun hlt => h (.inr hlt)
  have hdelay : r.settings.retry.nextDelay (n + 1) (r.elapsed n) = some (r.pause n) :=
    (RetryPolicy.nextDelay_eq_some_iff _ (Nat.succ_pos n)).2 ⟨rfl, hle⟩
  obtain ⟨-, hfar | hfits⟩ := RetryPolicy.fits_of_nextDelay (Nat.succ_pos n) hdelay
  · exact absurd hmax (Nat.not_lt.2 hfar)
  · exact hfits

theorem begun_lt (hmax : r.settings.retry.maxElapsed.nanos < maxNanos)
    (hnot : ∀ m < n, ¬ r.IsLast m) :
    r.begun n < Trial.beginBound r.settings 1000000 r.started := by
  unfold Trial.beginBound
  cases n with
  | zero =>
      show r.started < _
      lia
  | succ n =>
      have hfits := fits_of_not_last hmax (hnot n (Nat.lt_succ_self n))
      have hover := r.begun_le_overAt n
      have hbegun := r.waited_le_begun n
      have hpause := (waitUntil_dueAfter_bounds (r.overAt n) (r.pause n)).2
      have hspan := timerSpan_le (r.pause n)
      show waitUntil (r.overAt n) (dueAfter (r.overAt n) (r.pause n)) < _
      lia

/-- One of the attempts that the policy allows is the last. -/
theorem exists_last {most : Nat} (hallows : r.settings.retry.Allows most)
    (hmax : r.settings.retry.maxElapsed.nanos < maxNanos) : ∃ n < most, r.IsLast n := by
  obtain ⟨n, rfl⟩ := Nat.exists_eq_add_one_of_ne_zero (Nat.ne_of_gt hallows.pos)
  refine ⟨n, Nat.lt_succ_self n, ?_⟩
  by_contra hnot
  have hfits := fits_of_not_last hmax hnot
  have hover := r.begun_le_overAt n
  have hbegun := r.waited_le_begun n
  have hsum := r.settings.retry.waited_succ n
  have hspan := timerSpan_le (r.pause n)
  have hmore := hallows.lt_waited
  unfold pause at hfits hspan
  lia

end Retries

theorem Simulation.inspect_returns {script : Script} {w : Simulation} (block : UInt64) {most : Nat}
    (hquiet : w.Quiet) (hallows : w.inspector.settings.retry.Allows most)
    (hmax : w.inspector.settings.retry.maxElapsed.nanos < maxNanos) :
    ∃ n < most,
      Simulation.inspect block false none script w =
        (.inspected ((w.retries script block).answer n), w.afterInspection script block n) ∧
      (∀ m ≤ n, (w.retries script block).begun m <
        Trial.beginBound w.inspector.settings 1000000 w.now) ∧
      (w.retries script block).overAt n < Trial.endBound w.inspector.settings 1000000 w.now := by
  classical
  have hexists := Retries.exists_last (r := w.retries script block) hallows hmax
  have hlast : ∃ n, (w.retries script block).IsLast n := hexists.imp fun n h => h.2
  obtain ⟨m, hm, hmlast⟩ := hexists
  have hle : Nat.find hlast ≤ m := Nat.find_min' hlast hmlast
  have hfirst : ∀ m < Nat.find hlast, ¬ (w.retries script block).IsLast m :=
    fun m hm => Nat.find_min hlast hm
  have hbegun : ∀ m ≤ Nat.find hlast, (w.retries script block).begun m <
      Trial.beginBound w.inspector.settings 1000000 w.now :=
    fun m hm => Retries.begun_lt (r := w.retries script block) hmax
      fun m' hm' => hfirst m' (Nat.lt_of_lt_of_le hm' hm)
  refine ⟨Nat.find hlast, Nat.lt_of_le_of_lt hle hm, ?_, hbegun, ?_⟩
  · have hcounter := hallows.le_counter
    have hsteps :=
      Simulation.proceeds_to_last (Nat.find_spec hlast) hfirst (Nat.find hlast) 0 (Nat.zero_add _)
    refine hsteps.await hquiet ?_
    unfold Simulation.patience
    omega
  · have hover := (w.retries script block).overAt_lt (Nat.find hlast)
    have hbefore := hbegun _ (Nat.le_refl _)
    have hspan := timerSpan_le w.inspector.settings.attemptTimeout
    unfold Trial.beginBound at hbefore
    unfold Trial.endBound
    have htimeout : (w.retries script block).settings = w.inspector.settings := rfl
    rw [htimeout] at hover
    lia

/-- **An inspection comes to its end in time.**  Take any settings, with a policy
that allows so many attempts: one more than pauses of at least `d` fit into the
total time, where a pause counts as it is waited, or fourteen with the standard
policy.  The counter of attempts has room for them.  Whatever the attempts do,
whether the inspection is cancelled or not, and however it is looked at, as long
as nobody comes more than `late` after a timer and the clock has not run for
longer than the longest duration:

* it makes no more attempts than that;
* each begins within the total time after the first, give or take one timer and
  one late look;
* it ends within the total time and one time limit of an attempt, give or take
  two timers and two late looks, and while it has not ended nobody has looked at
  it after that.

In virtual time an inspection that nobody cancels returns, after no more attempts
and within these bounds, unless its total time is the longest duration, which no
sum exceeds. -/
theorem retries_end_in_time {s : InspectionSettings} {most : Nat} (hallows : s.retry.Allows most) :
    most ≤ 0xFFFFFFFF ∧
    (∀ late block started looks, Trial.LookedAt s late looks started (.start block started) →
      (∀ l ∈ looks, l.now ≤ started + maxNanos) →
      let begun := Trial.begunAt s looks (.start block started)
      let ended := Trial.endedAt? s looks (.start block started)
      ((Trial.start block started).watch s looks).1 =
        List.replicate begun.length (s.inputsFor block) ∧
      ((Trial.start block started).watch s looks).2.isSome = ended.isSome ∧
      begun.length ≤ most ∧ (∀ time ∈ begun, time < Trial.beginBound s late started) ∧
      (∀ time ∈ ended, time < Trial.endBound s late started) ∧
      (ended = none → ∀ l ∈ looks, l.now < Trial.endBound s late started)) ∧
    (s.retry.maxElapsed.nanos < maxNanos → ∀ script w block, w.inspector.settings = s → w.Quiet →
      ∃ n < most,
        Simulation.inspect block false none script w =
          (.inspected ((w.retries script block).answer n), w.afterInspection script block n) ∧
        (∀ m ≤ n, (w.retries script block).begun m < Trial.beginBound s 1000000 w.now) ∧
        (w.retries script block).overAt n < Trial.endBound s 1000000 w.now) := by
  refine ⟨hallows.le_counter, ?_, ?_⟩
  · intro late block started looks hlooks hclock begun ended
    have hstart := Trial.onTime_start s late block started
    obtain ⟨hbegun, hfits⟩ := hstart.begunAt hlooks hclock
    obtain ⟨hended, hgoing⟩ := hstart.endedAt hlooks hclock
    obtain ⟨hcalls, hend⟩ := Trial.watch_eq s looks (.start block started)
    refine ⟨hcalls, hend, hallows.le_of_waited_le fun i hi => ?_, hbegun, hended, hgoing⟩
    have hfit := hfits i hi
    rwa [show (Trial.start block started).attempts = 0 from rfl, Nat.zero_add] at hfit
  · rintro hmax script w block rfl hquiet
    exact Simulation.inspect_returns block hquiet hallows hmax

/-! ## Pauses that do not grow

With the factor 1 all pauses are the same. -/

theorem Number.powerBySquaring_one (n : Nat) : Number.powerBySquaring 1.0 n = 1.0 := by
  have hone : (1.0 : Float) * 1.0 = 1.0 := by decide +kernel
  have hgo : ∀ fuel n, Number.powerBySquaring.go fuel 1.0 1.0 n = 1.0 := by
    intro fuel
    induction fuel with
    | zero => exact fun _ => rfl
    | succ fuel ih =>
        intro n
        simp only [Number.powerBySquaring.go, hone, ite_self, ih]
  exact hgo _ n

theorem RetryPolicy.intervalAfter_steady {p : RetryPolicy} (h : p.multiplier = 1.0) (n : Nat) :
    p.intervalAfter n = p.intervalAfter 1 := by
  simp only [intervalAfter, h, Number.powerBySquaring_one]

/-! ### Three attempts

All attempts fail at once; the pauses are of one second, and there are two and a
half seconds in all. -/

namespace SteadyRetries

def settings : InspectionSettings :=
  { InspectionSettings.standard 10 "http://scan" "http://proxy" with
    retry := ⟨.ofSecs 1, 1.0, .ofSecs 1, .ofMillis 2500⟩ }

def look (now : Instant) : TrialLook := ⟨now, false, .ends .zero (.failure (.routine "no answer"))⟩

/-- Each attempt begins and fails, and the pauses after the first and the second
end. -/
def looks : List TrialLook :=
  [look 0, look 0, look 1000000000, look 1000000000, look 1000000000, look 2000000000,
    look 2000000000, look 2000000000]

def script : Script where
  attempt := fun _ _ => .ends .zero (.failure (.routine "no answer"))
  chain := fun _ => .hangs

theorem allows : settings.retry.Allows 3 := by
  refine .spaced (d := 1000000000) (by decide) (fun n _ _ => ?_) (by decide +kernel)
  rw [RetryPolicy.intervalAfter_steady rfl]
  decide +kernel

end SteadyRetries

theorem retries_end_in_time_steady :
    (Trial.begunAt SteadyRetries.settings SteadyRetries.looks (.start 100 0)).length ≤ 3 ∧
    Trial.endedAt? SteadyRetries.settings SteadyRetries.looks (.start 100 0) = some 2000000000 ∧
    ∃ n < 3, (Simulation.inspect 100 false none SteadyRetries.script
        (.start SteadyRetries.settings)).1 =
      .inspected (((Simulation.start SteadyRetries.settings).retries SteadyRetries.script 100).answer
        n) := by
  obtain ⟨-, hlooks, hreturns⟩ := retries_end_in_time SteadyRetries.allows
  obtain ⟨-, -, hmost, -, -, -⟩ := hlooks 0 100 0 SteadyRetries.looks (by decide +kernel)
    (by decide +kernel)
  obtain ⟨n, hn, hresult, -, -⟩ := hreturns (by decide +kernel) SteadyRetries.script
    (.start SteadyRetries.settings) 100 rfl ⟨rfl, rfl, rfl⟩
  exact ⟨hmost, by decide +kernel, n, hn, congrArg Prod.fst hresult⟩

/-! ### Pauses that are cut

A pause of 2 ^ 63 seconds is waited as thirty years, so more of them fit into the
total time than their lengths say. -/

namespace LongPauses

/-- The length of every pause. -/
def pause : Nat := 0x8000000000000000 * 1000000000

def settings : InspectionSettings :=
  { InspectionSettings.standard 10 "http://scan" "http://proxy" with
    retry := ⟨.ofSecs 0x8000000000000000, 1.0, .ofSecs 0x8000000000000000,
      .ofSecs 0xFFFFFFFFFFFFFFFF⟩ }

def thirtyYears : Instant := 946080000 * 1000000000

def fails (now : Instant) : TrialLook :=
  ⟨now, false, .ends .zero (.failure (.routine "no answer"))⟩

def succeeds (now : Instant) : TrialLook :=
  ⟨now, false, .ends .zero (.success (.start (settings.inputsFor 100) default))⟩

/-- The first two attempts fail at once, and the third succeeds. -/
def looks : List TrialLook :=
  [fails 0, fails 0, fails thirtyYears, fails thirtyYears, fails thirtyYears,
    fails (2 * thirtyYears), succeeds (2 * thirtyYears), succeeds (2 * thirtyYears)]

end LongPauses

/-- All pauses are so long that one more than fit would be two attempts, and the
inspection, at which nobody looks late, makes three. -/
theorem more_attempts_than_pauses_fit :
    (∀ n, 0 < n → n ≤ 0xFFFFFFFF →
      LongPauses.pause ≤ (LongPauses.settings.retry.intervalAfter n).nanos) ∧
    LongPauses.settings.retry.maxElapsed.nanos < 0xFFFFFFFF * LongPauses.pause ∧
    LongPauses.settings.retry.maxElapsed.nanos / LongPauses.pause + 1 = 2 ∧
    Trial.LookedAt LongPauses.settings 0 LongPauses.looks 0 (.start 100 0) ∧
    ((Trial.start 100 0).watch LongPauses.settings LongPauses.looks).1.length = 3 ∧
    ((Trial.start 100 0).watch LongPauses.settings LongPauses.looks).2.isSome = true := by
  refine ⟨fun n _ _ => ?_, by decide +kernel, by decide +kernel, by decide +kernel,
    by decide +kernel, by decide +kernel⟩
  rw [RetryPolicy.intervalAfter_steady rfl]
  decide +kernel

end NodeKeeper
