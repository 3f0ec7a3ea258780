/-
# When block progress is silent

The clock keeps the millisecond in which progress was last heard of, and compares
it with the millisecond of the look at it, so up to a millisecond is lost at
either end.  A threshold of whole milliseconds is never found exceeded too early,
and at most one millisecond too late:

    heard ├──────── threshold ────────┤┄ 1 ms ┄┤
          │         not silent        │ either │ silent

What happens between two looks matters only by the progress that is heard of, so
the clock after any moves is the one that was signalled at the last of those
moments (`clock_play`).

    heardAt moves       when progress is heard of in a series of moves
    d.IsWhole           the duration is a whole number of milliseconds

**Proved here.**

    what a signalled clock answers, to the nanosecond   (`isSilent_signal_iff`)
    silence lasts until the next signal                 (`isSilent_mono`)
    what a look at the clock makes of every life        (`silence_judged_soundly`)
-/
import Mathlib.Data.List.Pairwise
import NodeKeeper.Proofs.Inspection.Cadence

namespace NodeKeeper

/-- A whole number of milliseconds. -/
def Duration.IsWhole (d : Duration) : Prop := 1000000 ∣ d.nanos

instance (d : Duration) : Decidable d.IsWhole := inferInstanceAs (Decidable (_ ∣ _))

/-! ## The clock -/

namespace WatchdogClock

-- Moments are plain numbers here, so that arithmetic sees through them.
variable {heard now now' : Nat} {threshold : Duration}

/-- The nanoseconds for which a clock tells the milliseconds apart. -/
def lifetime : Nat := 0xFFFFFFFFFFFFFFFE * 1000000

theorem millisOf_eq_min (now : Nat) : millisOf now = min (now / 1000000) 0xFFFFFFFFFFFFFFFE := rfl

theorem millisOf_eq (h : now < lifetime) : millisOf now = now / 1000000 := by
  unfold lifetime at h
  rw [millisOf_eq_min]
  omega

theorem millisOf_mono (h : now ≤ now') : millisOf now ≤ millisOf now' := by
  rw [millisOf_eq_min, millisOf_eq_min]
  omega

theorem isSilent_signal_iff :
    (signal heard).isSilent now threshold = true ↔
      threshold.nanos < (millisOf now - millisOf heard) * 1000000 := by
  have hbound : (millisOf now - millisOf heard) * 1000000 ≤ maxNanos := by
    rw [millisOf_eq_min, millisOf_eq_min]
    unfold maxNanos
    omega
  show decide (threshold.nanos < min ((millisOf now - millisOf heard) * 1000000) maxNanos) = true ↔
    _
  rw [decide_eq_true_iff, Nat.min_eq_left hbound]

/-- Silence is not found too early.  The milliseconds differ by at least one more
than the threshold, and the moments by less than one less than they do. -/
theorem lt_of_isSilent (hwhole : threshold.IsWhole)
    (h : (signal heard).isSilent now threshold = true) : threshold.nanos < now - heard := by
  obtain ⟨t, ht⟩ := hwhole
  rw [isSilent_signal_iff, ht, millisOf_eq_min, millisOf_eq_min] at h
  rw [ht]
  omega

/-- With half a millisecond as the threshold it can be: one nanosecond has passed
here. -/
example : (signal 999999).isSilent 1000000 (.ofNanos 500000) = true := by decide

/-- It is found at most one millisecond too late. -/
theorem isSilent_of_le (hwhole : threshold.IsWhole) (hyoung : now < lifetime)
    (h : threshold.nanos + 1000000 ≤ now - heard) :
    (signal heard).isSilent now threshold = true := by
  obtain ⟨t, ht⟩ := hwhole
  have hheard : heard < lifetime := by omega
  rw [isSilent_signal_iff, millisOf_eq hyoung, millisOf_eq hheard, ht]
  rw [ht] at h
  omega

theorem isSilent_mono (h : now ≤ now') (hsilent : (signal heard).isSilent now threshold = true) :
    (signal heard).isSilent now' threshold = true := by
  rw [isSilent_signal_iff] at hsilent ⊢
  exact Nat.lt_of_lt_of_le hsilent
    (Nat.mul_le_mul_right _ (Nat.sub_le_sub_right (millisOf_mono h) _))

end WatchdogClock

/-! ## Progress in the life of an inspector -/

/-- When a move tells of progress. -/
def InspectorMove.heard? : InspectorMove → Option Instant
  | .progress now _ => some now
  | _ => none

namespace InspectorLife

variable {life : InspectorLife}

/-- The moments at which progress is told of. -/
def heardAt (moves : List InspectorMove) : List Instant := moves.filterMap InspectorMove.heard?

theorem clock_heed (i : Inspector) (now : Instant) (p : Progress) :
    (i.heed now p).2.clock = .signal now := by
  cases ht : i.settings.targetBlock p.received with
  | none => simp only [Inspector.heed, ht]
  | some block =>
      simp only [Inspector.heed, ht]
      rfl

theorem clock_conclude (i : Inspector) (time : Timestamp) (result : Except InspectionError Unit) :
    (i.conclude time result).clock = i.clock := by
  unfold Inspector.conclude
  split <;> rfl

theorem clock_proceed (life : InspectorLife) (i : Nat) (subscription : Except BusError Unit) :
    (life.proceed i subscription).1.inspector.clock = life.inspector.clock := by
  unfold proceed
  repeat' split
  all_goals rfl

theorem clock_settle (life : InspectorLife) (k : Nat) (now : Instant) :
    (life.settle k now).1.inspector.clock = life.inspector.clock := by
  rw [settle_eq]
  split
  · rfl
  · next target _ => cases target <;> rfl

theorem clock_work (life : InspectorLife) (k : Nat) (now : Instant) (cancelled : Bool)
    (next : Attempt) (time : Timestamp) :
    (life.work k now cancelled next time).1.inspector.clock = life.inspector.clock := by
  unfold work
  repeat' split
  case h_4 => exact clock_conclude ..
  all_goals rfl

/-- Nothing but progress sets the clock. -/
theorem clock_step (life : InspectorLife) (m : InspectorMove) :
    (life.step m).1.inspector.clock = (m.heard?.map .signal).getD life.inspector.clock := by
  cases m with
  | start i subscription => exact clock_proceed life i subscription
  | abandon i =>
      simp only [step, abandon]
      split <;> rfl
  | progress now p => exact clock_heed life.inspector now p
  | look now answer =>
      simp only [step]
      split <;> rfl
  | settle k now => exact clock_settle life k now
  | work k now cancelled next time => exact clock_work life k now cancelled next time
  | crash k =>
      simp only [step, crash]
      split <;> rfl
  | conclude time result => exact clock_conclude life.inspector time result
  | call | trigger | take => rfl

theorem clock_play (moves : List InspectorMove) (life : InspectorLife) :
    (play moves life).1.inspector.clock =
      ((heardAt moves).getLast?.map .signal).getD life.inspector.clock := by
  induction moves generalizing life with
  | nil => rfl
  | cons m rest ih =>
      have hlast : (heardAt (m :: rest)).getLast? = (heardAt rest).getLast?.or m.heard? := by
        rw [heardAt, List.filterMap_cons]
        cases m.heard? with
        | none => exact Option.or_none.symm
        | some now =>
            rw [List.getLast?_cons]
            cases h : (heardAt rest).getLast? <;> rw [heardAt] at h <;> rw [h] <;> rfl
      show (play rest (life.step m).1).1.inspector.clock = _
      rw [ih, clock_step, hlast]
      cases (heardAt rest).getLast? <;> rfl

theorem isSome_question?_look (life : InspectorLife) (now : Instant) (answer : ChainAnswer) :
    (life.question? (.look now answer)).isSome =
      life.inspector.clock.isSilent now life.inspector.settings.silenceThreshold := by
  show (if life.inspector.isSilent now then _ else none : Option ChainProbe).isSome =
    life.inspector.isSilent now
  cases life.inspector.isSilent now <;> rfl

theorem step_look_of_not_silent {now : Instant} (answer : ChainAnswer)
    (h : life.inspector.isSilent now = false) :
    life.question? (.look now answer) = none ∧ life.step (.look now answer) = (life, []) := by
  simp [question?, step, h]

end InspectorLife

open InspectorLife WatchdogClock in
/-- **Silence is judged soundly.**  After any moves, progress being told of in the
order of time:

* before any progress the clock is silent, whatever the threshold;
* with a threshold of whole milliseconds, a silent clock means that more than the
  threshold has passed since the last progress, and while the clock is young it is
  silent once a millisecond more has passed;
* a look at the clock asks the chain just when the clock is silent;
* a look that comes within the threshold after some progress, whether or not that
  called for a block, asks nothing, offers nothing and changes nothing;
* a clock that is silent stays so, whatever is done, until progress is told of. -/
theorem silence_judged_soundly (s : InspectionSettings) (moves : List InspectorMove) (now : Instant)
    (horder : (heardAt moves).Pairwise (· ≤ ·)) :
    let life := (play moves (.idle s)).1
    (heardAt moves = [] → ∀ threshold, life.inspector.clock.isSilent now threshold = true) ∧
    (∀ heard threshold, (heardAt moves).getLast? = some heard → threshold.IsWhole →
      (life.inspector.clock.isSilent now threshold = true → threshold.nanos < now - heard) ∧
      (now < lifetime → threshold.nanos + 1000000 ≤ now - heard →
        life.inspector.clock.isSilent now threshold = true)) ∧
    (∀ answer, (life.question? (.look now answer)).isSome =
      life.inspector.clock.isSilent now s.silenceThreshold) ∧
    (s.silenceThreshold.IsWhole → ∀ heard ∈ heardAt moves,
      now ≤ heard + s.silenceThreshold.nanos → ∀ answer,
        life.question? (.look now answer) = none ∧ life.step (.look now answer) = (life, [])) ∧
    (∀ threshold, life.inspector.clock.isSilent now threshold = true →
      ∀ later now', heardAt later = [] → now ≤ now' →
        (play later life).1.inspector.clock.isSilent now' threshold = true) := by
  intro life
  have hsettings : life.inspector.settings = s := play_settings moves _
  have hclock : life.inspector.clock = ((heardAt moves).getLast?.map signal).getD unheard :=
    clock_play moves _
  refine ⟨fun hnone threshold => ?_, fun heard threshold hlast hwhole => ?_, fun answer => ?_,
    fun hwhole heard hheard hwithin answer => ?_, fun threshold hsilent later now' hlater hle => ?_⟩
  · rw [hclock, hnone]
    rfl
  · rw [hclock, hlast]
    exact ⟨lt_of_isSilent hwhole, isSilent_of_le hwhole⟩
  · rw [isSome_question?_look, hsettings]
  · -- The last progress is no earlier than this one, so it is within the threshold, too.
    have hne : heardAt moves ≠ [] := List.ne_nil_of_mem hheard
    have hle : heard ≤ (heardAt moves).getLast hne := horder.rel_getLast hheard
    refine step_look_of_not_silent answer (Bool.not_eq_true _ ▸ fun hsilent => ?_)
    rw [Inspector.isSilent, hsettings, hclock, List.getLast?_eq_some_getLast hne] at hsilent
    have hlate : s.silenceThreshold.nanos < now - (heardAt moves).getLast hne :=
      lt_of_isSilent hwhole hsilent
    exact absurd (Nat.le_trans hwithin (Nat.add_le_add_right hle _))
      (Nat.not_le.2 (Nat.lt_sub_iff_add_lt'.1 hlate))
  · have hkept : (play later life).1.inspector.clock = life.inspector.clock := by
      rw [clock_play, hlater]
      rfl
    rw [hkept]
    rw [hclock] at hsilent ⊢
    cases hlast : (heardAt moves).getLast? with
    | none => rfl
    | some heard =>
        rw [hlast] at hsilent
        exact isSilent_mono hle hsilent

/-! ## To the nanosecond -/

namespace SilenceEdges

/-- A threshold of ten minutes. -/
def settings : InspectionSettings := .standard 10 "http://chain" "http://proxy"

/-- Progress is told of twice, on the cadence and off it, the second time at the
end of a millisecond; then the pending block is taken out. -/
def moves : List InspectorMove :=
  [.progress 500000 ⟨20, 20, none⟩, .progress 1999999 ⟨25, 25, none⟩, .take]

end SilenceEdges

open InspectorLife SilenceEdges in
/-- Ten minutes after the last progress nothing is done, one millisecond later
the clock is silent, and it still is when a block has been offered since. -/
theorem silence_judged_soundly_at_edges :
    let life := (play moves (.idle settings)).1
    life.step (.look 600001999999 .hangs) = (life, []) ∧
      life.inspector.clock.isSilent 600002999999 (.ofSecs 600) = true ∧
      (Duration.ofSecs 600).nanos < 600002999999 - 1999999 ∧
      (play [.trigger 30] life).1.inspector.clock.isSilent 700000000000 (.ofSecs 600) = true := by
  intro life
  have hwhole : (Duration.ofSecs 600).IsWhole := by decide
  have horder : (heardAt moves).Pairwise (· ≤ ·) := by decide
  have hheard : 1999999 ∈ heardAt moves := by decide
  have hlast : (heardAt moves).getLast? = some 1999999 := by decide
  obtain ⟨-, -, -, hquiet, -⟩ := silence_judged_soundly settings moves 600001999999 horder
  obtain ⟨-, hjudged, -, -, hlasting⟩ := silence_judged_soundly settings moves 600002999999 horder
  have hsilent : life.inspector.clock.isSilent 600002999999 (.ofSecs 600) = true :=
    (hjudged 1999999 (.ofSecs 600) hlast hwhole).2 (by decide) (by decide)
  exact ⟨(hquiet hwhole 1999999 hheard (by decide) .hangs).2, hsilent,
    (hjudged 1999999 (.ofSecs 600) hlast hwhole).1 hsilent,
    hlasting (.ofSecs 600) hsilent [.trigger 30] 700000000000 rfl (by decide)⟩

end NodeKeeper
