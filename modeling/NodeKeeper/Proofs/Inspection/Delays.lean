/-
# Delays are bounded, and do not depend on the time that has passed

The delay before a further attempt goes through doubles.  It is the product of
the first delay and a power, so it may come out negative, as no number, or far
too long, and a policy is not kept from any of this: its factor is any double.

`reckon` does the same reckoning once more, in steps that may fail.

    lessOne       fails at zero
    signed        fails beyond 31 bits; then the largest exponent is used
    powerWithin   fails when it runs out of rounds
    toDuration    fails below zero, on no number, and beyond the longest
                  duration; then the largest delay is used
    plus          fails beyond the longest duration; then that one is used

Three of the failures have something to use instead.  The other two would be
failures of the whole, and do not happen: attempts are counted from one, and an
exponent of 31 bits is used up in 31 rounds (`powerWithin_eq`).  So the whole
never fails, and comes to `nextDelay` (`reckon_eq`).

The time that has passed is only compared with what is left after the delay,
and that is why a later time can turn a delay into none, and nothing else.
-/
import NodeKeeper.Inspection.Backoff

namespace NodeKeeper

open Number

/-! ## Durations -/

namespace Duration

/-- The longest duration. -/
def longest : Duration := ofNanos maxNanos

theorem shorter_le_right (a b : Duration) : a.shorter b ≤ b := by
  unfold shorter
  split
  · next h => exact h
  · exact Nat.le_refl b.nanos

theorem lt_iff_not_le {a b : Duration} : a < b ↔ ¬ b ≤ a :=
  Nat.not_le.symm

theorem le_trans {a b c : Duration} (hab : a ≤ b) (hbc : b ≤ c) : a ≤ c :=
  Nat.le_trans hab hbc

theorem add_le_add_left {a b : Duration} (h : a ≤ b) (d : Duration) : a.add d ≤ b.add d := by
  have hsum : a.nanos + d.nanos ≤ b.nanos + d.nanos := Nat.add_le_add_right h d.nanos
  show min (a.nanos + d.nanos) maxNanos ≤ min (b.nanos + d.nanos) maxNanos
  omega

end Duration

/-! ## Steps that may fail -/

/-- What may go wrong while a delay is reckoned. -/
inductive DelayFault where
  | belowZero
  /-- more than 31 bits -/
  | tooManyBits
  /-- a power needs more rounds -/
  | unfinished
  | negative
  /-- infinite or NaN -/
  | notFinite
  | tooLong
  deriving DecidableEq, Repr

namespace DelayFault

def lessOne : Nat → Except DelayFault Nat
  | 0 => .error .belowZero
  | n + 1 => .ok n

/-- A number as an exponent of 31 bits. -/
def signed (n : Nat) : Except DelayFault Nat :=
  if n ≤ 0x7FFFFFFF then .ok n else .error .tooManyBits

/-- `r * a ^ n` by repeated squaring, in at most the given number of rounds. -/
def powerWithin : Nat → Float → Float → Nat → Except DelayFault Float
  | 0, _, _, _ => .error .unfinished
  | rounds + 1, r, a, n =>
    let r := if n % 2 = 1 then r * a else r
    if n / 2 = 0 then .ok r else powerWithin rounds r (a * a) (n / 2)

def toDuration (x : Float) : Except DelayFault Duration :=
  if x < 0.0 then .error .negative
  else if ¬ isFinite x then .error .notFinite
  else
    let n := roundedUnits .toEven x 1000000000
    if h : n ≤ maxNanos then .ok ⟨n, h⟩ else .error .tooLong

def plus (a b : Duration) : Except DelayFault Duration :=
  if h : a.nanos + b.nanos ≤ maxNanos then .ok ⟨a.nanos + b.nanos, h⟩ else .error .tooLong

/-! ### What the steps come to -/

theorem lessOne_eq {n : Nat} (h : 0 < n) : lessOne n = .ok (n - 1) := by
  cases n with
  | zero => exact absurd h (Nat.lt_irrefl 0)
  | succ n => rfl

theorem getD_signed (n : Nat) : (signed n).toOption.getD 0x7FFFFFFF = min n 0x7FFFFFFF := by
  unfold signed
  split
  · next h => exact (Nat.min_eq_left h).symm
  · next h => exact (Nat.min_eq_right (Nat.le_of_not_le h)).symm

theorem toOption_toDuration (x : Float) : (toDuration x).toOption = Duration.ofSeconds? x := by
  unfold toDuration Duration.ofSeconds?
  by_cases hneg : x < 0.0
  · simp [hneg, Except.toOption]
  · by_cases hfin : isFinite x = true
    · simp only [hneg, hfin, not_true_eq_false, decide_false, Bool.false_or, if_false,
        Bool.false_eq_true]
      split <;> rfl
    · simp [hneg, hfin, Except.toOption]

theorem getD_plus (a b : Duration) : (plus a b).toOption.getD .longest = a.add b := by
  unfold plus Duration.add Duration.longest Duration.ofNanos
  split
  · next h =>
    simp only [Except.toOption, Option.getD_some, Duration.mk.injEq]
    exact (Nat.min_eq_left h).symm
  · next h =>
    simp only [Except.toOption, Option.getD_none, Duration.mk.injEq, Nat.min_self]
    exact (Nat.min_eq_right (Nat.le_of_not_le h)).symm

/-! ### Powers -/

/-- Every round uses up a binary digit of the exponent, so as many rounds as it
has digits are enough, and it does not matter how many more there are. -/
theorem powerWithin_eq {rounds fuel n : Nat} (hrounds : n.log2 ≤ rounds) (hfuel : n.log2 ≤ fuel)
    (r a : Float) :
    powerWithin (rounds + 1) r a n = .ok (powerBySquaring.go (fuel + 1) r a n) := by
  induction rounds generalizing fuel n r a with
  | zero =>
      have hdone : n / 2 = 0 := by
        rw [Nat.log2_def] at hrounds
        split at hrounds <;> omega
      simp only [powerWithin, powerBySquaring.go, hdone, if_true]
  | succ rounds ih =>
      rw [powerWithin, powerBySquaring.go]
      by_cases hdone : n / 2 = 0
      · simp only [hdone, if_true]
      · have hdigits : n.log2 = (n / 2).log2 + 1 := by
          rw [Nat.log2_def, if_pos (by omega)]
        obtain ⟨fuel, rfl⟩ : ∃ k, fuel = k + 1 := Nat.exists_eq_add_one.2 (by omega)
        simp only [hdone, if_false]
        exact ih (by omega) (by omega) _ _

theorem powerWithin_31 {n : Nat} (h : n ≤ 0x7FFFFFFF) (a : Float) :
    powerWithin 31 1.0 a n = .ok (powerBySquaring a n) := by
  have hdigits : n.log2 ≤ 30 := by
    by_cases hzero : n = 0
    · simp [hzero]
    · exact Nat.le_of_lt_succ ((Nat.log2_lt hzero).2 (by omega))
  exact powerWithin_eq hdigits (Nat.le_refl n.log2) 1.0 a

end DelayFault

/-! ## The reckoning -/

namespace RetryPolicy

open DelayFault

/-- The delay before the next attempt, or none to give up, in steps that may
fail. -/
def reckon (p : RetryPolicy) (failed : Nat) (elapsed : Duration) :
    Except DelayFault (Option Duration) := do
  if failed = 0 then return some .zero
  let exponent := (signed (← lessOne failed)).toOption.getD 0x7FFFFFFF
  let power ← powerWithin 31 1.0 p.multiplier exponent
  let wanted := (toDuration (p.initial.toSeconds * power)).toOption.getD p.maxInterval
  let delay := wanted.shorter p.maxInterval
  let total := (plus elapsed delay).toOption.getD .longest
  if p.maxElapsed < total then return none
  return some delay

theorem reckon_eq (p : RetryPolicy) (failed : Nat) (elapsed : Duration) :
    p.reckon failed elapsed = .ok (p.nextDelay failed elapsed) := by
  unfold reckon nextDelay
  by_cases hzero : failed = 0
  · simp only [hzero, if_true]
    rfl
  · have hpower := powerWithin_31 (Nat.min_le_right (failed - 1) 0x7FFFFFFF) p.multiplier
    simp only [hzero, if_false, lessOne_eq (Nat.pos_of_ne_zero hzero), getD_signed, hpower,
      toOption_toDuration, getD_plus, bind, Except.bind, pure, Except.pure]
    -- both compare the same sum, and name the two answers in opposite orders
    show (if p.maxElapsed < elapsed.add (p.intervalAfter failed) then Except.ok none
      else Except.ok (some (p.intervalAfter failed))) = _
    simp only [Duration.lt_iff_not_le, ite_not]
    split <;> rfl

/-- The delay is cut off at the largest one, also where it is no duration. -/
theorem intervalAfter_le (p : RetryPolicy) (failed : Nat) : p.intervalAfter failed ≤ p.maxInterval :=
  Duration.shorter_le_right _ _

/-- A delay is granted if and only if it does not take the operation beyond the
total time. -/
theorem nextDelay_of_pos (p : RetryPolicy) {failed : Nat} (h : 0 < failed) (elapsed : Duration) :
    p.nextDelay failed elapsed =
      if elapsed.add (p.intervalAfter failed) ≤ p.maxElapsed then some (p.intervalAfter failed)
      else none := by
  rw [nextDelay, if_neg (Nat.ne_of_gt h)]

theorem nextDelay_eq_some_iff (p : RetryPolicy) {failed : Nat} (h : 0 < failed)
    {elapsed d : Duration} : p.nextDelay failed elapsed = some d ↔
      d = p.intervalAfter failed ∧ elapsed.add d ≤ p.maxElapsed := by
  rw [p.nextDelay_of_pos h]
  constructor
  · intro hd
    split at hd
    · next hfits =>
      obtain rfl := Option.some.inj hd
      exact ⟨rfl, hfits⟩
    · exact nomatch hd
  · rintro ⟨rfl, hfits⟩
    exact if_pos hfits

theorem nextDelay_earlier (p : RetryPolicy) {failed : Nat} (h : 0 < failed)
    {earlier elapsed d : Duration} (hle : earlier ≤ elapsed)
    (hd : p.nextDelay failed elapsed = some d) : p.nextDelay failed earlier = some d := by
  obtain ⟨hdelay, hfits⟩ := (p.nextDelay_eq_some_iff h).1 hd
  have hsooner := Duration.add_le_add_left hle d
  exact (p.nextDelay_eq_some_iff h).2 ⟨hdelay, Duration.le_trans hsooner hfits⟩

theorem nextDelay_later (p : RetryPolicy) {failed : Nat} (h : 0 < failed)
    {elapsed later : Duration} (hle : elapsed ≤ later) (hnone : p.nextDelay failed elapsed = none) :
    p.nextDelay failed later = none := by
  cases hlater : p.nextDelay failed later with
  | none => rfl
  | some d =>
      rw [p.nextDelay_earlier h hle hlater] at hnone
      exact nomatch hnone

/-! ## What a policy decides -/

/-- **Decisions are bounded and monotone.**  For every policy, whatever its
factor, and every number of failed attempts there is one delay, not longer than
the largest one, such that at every time that has passed

  * the reckoning comes to an answer, and none of its steps fails,
  * the answer is that delay if it does not take the operation beyond the total
    time, and to give up otherwise,
  * a delay that is granted is bounded by the policy, and is granted at every
    earlier time, and
  * giving up is for good. -/
theorem decisions_bounded_monotone (p : RetryPolicy) {failed : Nat} (hfailed : 0 < failed) :
    ∃ delay, delay ≤ p.maxInterval ∧ ∀ elapsed,
      p.reckon failed elapsed = .ok (p.nextDelay failed elapsed) ∧
      (p.nextDelay failed elapsed =
        if elapsed.add delay ≤ p.maxElapsed then some delay else none) ∧
      (∀ d, p.nextDelay failed elapsed = some d →
        d ≤ p.maxInterval ∧ elapsed.add d ≤ p.maxElapsed ∧
        ∀ earlier ≤ elapsed, p.nextDelay failed earlier = some d) ∧
      (p.nextDelay failed elapsed = none →
        ∀ later, elapsed ≤ later → p.nextDelay failed later = none) := by
  refine ⟨p.intervalAfter failed, p.intervalAfter_le failed, fun elapsed => ⟨?_, ?_, ?_, ?_⟩⟩
  · exact p.reckon_eq failed elapsed
  · exact p.nextDelay_of_pos hfailed elapsed
  · intro d hd
    obtain ⟨rfl, hfits⟩ := (p.nextDelay_eq_some_iff hfailed).1 hd
    exact ⟨p.intervalAfter_le failed, hfits,
      fun earlier hle => p.nextDelay_earlier hfailed hle hd⟩
  · intro hnone later hle
    exact p.nextDelay_later hfailed hle hnone

/-- A policy whose factor is no number. -/
def withoutFactor : RetryPolicy := ⟨.ofSecs 3, 0.0 / 0.0, .ofSecs 30, .ofSecs 300⟩

/-- After as many attempts as the counter can hold, a policy whose factor is no
number grants its largest delay up to 270 seconds, and gives up from 271. -/
theorem decisions_without_factor :
    (∀ earlier ≤ Duration.ofSecs 270,
      withoutFactor.nextDelay 0xFFFFFFFF earlier = some (.ofSecs 30)) ∧
    ∀ later, Duration.ofSecs 271 ≤ later → withoutFactor.nextDelay 0xFFFFFFFF later = none := by
  obtain ⟨_, -, h⟩ := decisions_bounded_monotone withoutFactor (by decide : 0 < 0xFFFFFFFF)
  have hgranted : withoutFactor.nextDelay 0xFFFFFFFF (.ofSecs 270) = some (.ofSecs 30) := by
    decide +kernel
  have hnone : withoutFactor.nextDelay 0xFFFFFFFF (.ofSecs 271) = none := by decide +kernel
  exact ⟨((h (.ofSecs 270)).2.2.1 _ hgranted).2.2, (h (.ofSecs 271)).2.2.2 hnone⟩

end RetryPolicy

end NodeKeeper
