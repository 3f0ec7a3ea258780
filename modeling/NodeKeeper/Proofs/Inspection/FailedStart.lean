/-
# A start that the bus refuses is the last

A start takes the receiving end of the slot before it asks the bus, and drops it
when the bus refuses.  There is no other receiving end, so the inspector does not
go back to what it was before the start:

    the pending block           is dropped with the receiving end
    offers                      are turned away as closed, not queued
    the taker                   finds nothing
    later starts                are refused because there has been one, whatever
                                the bus would say now

`Lost` is this state.  Nobody has the receiving end and nobody gets it, so no
step leads out of it (`Lost.step`), and all that is ever noted are refusals
(`failed_start_is_final`).
-/
import NodeKeeper.Proofs.Inspection.Cadence

namespace NodeKeeper

/-- Nothing has come of an offer, or of a start. -/
def InspectorEvent.IsRefusal (event : InspectorEvent) : Prop :=
  (∃ block, event = .offered block .closed) ∨
    event = .returned (.error (.inspection .alreadyStarted))

namespace InspectorLife

variable {life : InspectorLife} {i : Nat} {log : InspectorLog}

/-! ## Only an enabled inspector asks the bus -/

/-- No start has the receiving end or has given it to a worker. -/
def NoneHoping (life : InspectorLife) : Prop := ∀ stage ∈ life.starts, stage.hoping = 0

theorem NoneHoping.setStart (hn : NoneHoping life) {stage : StartStage} (hs : stage.hoping = 0) :
    NoneHoping (life.setStart i stage) := by
  intro other hm
  rcases List.mem_or_eq_of_mem_set hm with hm | rfl
  · exact hn other hm
  · exact hs

theorem NoneHoping.of_starts (hn : NoneHoping life) {life' : InspectorLife}
    (hstarts : life'.starts = life.starts) : NoneHoping life' := by
  intro stage hm
  exact hn stage (hstarts ▸ hm)

theorem NoneHoping.hoping_eq (hn : NoneHoping life) {stage : StartStage}
    (hs : life.starts[i]? = some stage) : stage.hoping = 0 :=
  hn stage (List.mem_of_getElem? hs)

theorem starts_settle (life : InspectorLife) (k : Nat) (now : Instant) :
    (life.settle k now).1.starts = life.starts := by
  rw [settle_eq]
  split
  · rfl
  · rfl

theorem starts_work (life : InspectorLife) (k : Nat) (now : Instant) (cancelled : Bool)
    (next : Attempt) (time : Timestamp) :
    (life.work k now cancelled next time).1.starts = life.starts := by
  unfold work
  repeat' split
  all_goals rfl

theorem starts_crash (life : InspectorLife) (k : Nat) : (life.crash k).1.starts = life.starts := by
  unfold crash
  split <;> rfl

theorem NoneHoping.step (hn : NoneHoping life) (m : InspectorMove)
    (hstart : ∀ i subscription, m = .start i subscription →
      NoneHoping (life.proceed i subscription).1) : NoneHoping (life.step m).1 := by
  cases m with
  | call =>
      intro stage hm
      rcases List.mem_append.1 hm with hm | hm
      · exact hn stage hm
      · rw [List.mem_singleton.1 hm]
        rfl
  | start i subscription => exact hstart i subscription rfl
  | abandon i =>
      simp only [InspectorLife.step, InspectorLife.abandon]
      split
      · exact hn.setStart rfl
      · exact hn.setStart rfl
      · exact hn.setStart rfl
      · exact hn
  | look now answer =>
      simp only [InspectorLife.step]
      split
      · exact hn
      · exact hn
  | settle k now => exact hn.of_starts (starts_settle life k now)
  | work k now cancelled next time => exact hn.of_starts (starts_work life k now cancelled next time)
  | crash k => exact hn.of_starts (starts_crash life k)
  | progress | trigger | take | conclude => exact hn

theorem NoneHoping.proceed_disabled (hn : NoneHoping life)
    (hdisabled : life.inspector.settings.enabled = false) (i : Nat)
    (subscription : Except BusError Unit) : NoneHoping (life.proceed i subscription).1 := by
  unfold proceed
  split
  case h_1 =>
    rw [if_pos (by simp [hdisabled])]
    exact hn.setStart rfl
  case h_2 hs => exact nomatch hn.hoping_eq hs
  case h_3 hs => exact nomatch hn.hoping_eq hs
  case h_4 => exact hn

theorem noneHoping_play_disabled (moves : List InspectorMove) (hn : NoneHoping life)
    (hdisabled : life.inspector.settings.enabled = false) : NoneHoping (play moves life).1 := by
  induction moves generalizing life with
  | nil => exact hn
  | cons m rest ih =>
      refine ih (hn.step m fun i subscription _ => hn.proceed_disabled hdisabled i subscription) ?_
      exact (congrArg InspectionSettings.enabled (step_settings life m)).trans hdisabled

theorem enabled_of_subscribing {s : InspectionSettings} {moves : List InspectorMove}
    (hs : (play moves (.idle s)).1.starts[i]? = some .subscribing) : s.enabled = true := by
  rw [← Bool.not_eq_false]
  intro hdisabled
  have hn : NoneHoping (idle s) := fun _ hm => absurd hm List.not_mem_nil
  exact nomatch (noneHoping_play_disabled moves hn hdisabled).hoping_eq hs

/-! ## When the receiving end is lost before there is a worker -/

/-- The receiving end is gone, and there is no worker and will be none. -/
structure Lost (life : InspectorLife) : Prop where
  enabled : life.inspector.settings.enabled = true
  slot : life.inspector.slot = ⟨none, .gone⟩
  starts : NoneHoping life
  workers : life.workers = []

theorem Lost.answered (hl : Lost life) {target : Option UInt64}
    {r : Option TriggerOutcome × Inspector} (ho : life.inspector.Offers target r)
    (probes : List ChainProbe) :
    ({ life with probes := probes }.answered target r).1.inspector.slot = ⟨none, .gone⟩ ∧
      ∀ event ∈ ({ life with probes := probes }.answered target r).2, event.IsRefusal := by
  cases ho with
  | nothing hslot => exact ⟨hslot.trans hl.slot, fun _ hm => absurd hm List.not_mem_nil⟩
  | @offer block outcome i hslot =>
      rw [hl.slot] at hslot
      have houtcome : outcome = .closed := (congrArg Prod.fst hslot).symm
      refine ⟨(congrArg Prod.snd hslot).symm, fun event hm => .inl ⟨block, ?_⟩⟩
      rw [List.mem_singleton.1 hm, houtcome]

theorem Lost.proceed (hl : Lost life) (i : Nat) (subscription : Except BusError Unit) :
    (life.proceed i subscription).1.inspector = life.inspector ∧
      NoneHoping (life.proceed i subscription).1 ∧
      (life.proceed i subscription).1.workers = [] ∧
      ∀ event ∈ (life.proceed i subscription).2, event.IsRefusal := by
  have haway : life.inspector.slot.receiver ≠ .home := by
    rw [hl.slot]
    nofun
  unfold InspectorLife.proceed
  split
  case h_1 =>
    rw [if_neg (by simp [hl.enabled]), PendingSlot.takeReceiver_away haway]
    exact ⟨rfl, hl.starts.setStart rfl, hl.workers, fun _ hm => .inr (List.mem_singleton.1 hm)⟩
  case h_2 hs => exact nomatch hl.starts.hoping_eq hs
  case h_3 hs => exact nomatch hl.starts.hoping_eq hs
  case h_4 => exact ⟨rfl, hl.starts, hl.workers, fun _ hm => absurd hm List.not_mem_nil⟩

theorem Lost.abandon (hl : Lost life) (i : Nat) :
    (life.abandon i).1.inspector = life.inspector ∧ (life.abandon i).1.workers = [] ∧
      (life.abandon i).2 = [] := by
  unfold InspectorLife.abandon
  split
  case h_1 hs => exact nomatch hl.starts.hoping_eq hs
  all_goals exact ⟨rfl, hl.workers, rfl⟩

theorem Lost.settle (hl : Lost life) (k : Nat) (now : Instant) :
    (life.settle k now).1.inspector.slot = ⟨none, .gone⟩ ∧ (life.settle k now).1.workers = [] ∧
      ∀ event ∈ (life.settle k now).2, event.IsRefusal := by
  rw [settle_eq]
  split
  · exact ⟨hl.slot, hl.workers, fun _ hm => absurd hm List.not_mem_nil⟩
  · next target _ =>
    obtain ⟨hslot, hevents⟩ :=
      hl.answered (life.inspector.afterProbe_offers target) (life.probes.eraseIdx k)
    exact ⟨hslot, hl.workers, hevents⟩

theorem Lost.take (hl : Lost life) : life.step .take = (life, []) := by
  simp only [InspectorLife.step, Inspector.takePending]
  rw [PendingSlot.tryTake_away (by simp [hl.slot])]
  rfl

theorem Lost.work (hl : Lost life) (k : Nat) (now : Instant) (cancelled : Bool) (next : Attempt)
    (time : Timestamp) : life.step (.work k now cancelled next time) = (life, []) := by
  simp only [InspectorLife.step, InspectorLife.work, hl.workers, List.getElem?_nil]

theorem Lost.crash (hl : Lost life) (k : Nat) : life.step (.crash k) = (life, []) := by
  simp only [InspectorLife.step, InspectorLife.crash, hl.workers, List.getElem?_nil]

/-- No step gets the receiving end back, and what is noted are refusals. -/
theorem Lost.step (hl : Lost life) (m : InspectorMove) :
    Lost (life.step m).1 ∧ ∀ event ∈ (life.step m).2, event.IsRefusal := by
  have henabled : (life.step m).1.inspector.settings.enabled = true :=
    (congrArg InspectionSettings.enabled (step_settings life m)).trans hl.enabled
  have hstarts : NoneHoping (life.step m).1 :=
    hl.starts.step m fun i subscription _ => (hl.proceed i subscription).2.1
  have hnone : ∀ event ∈ ([] : InspectorLog), event.IsRefusal :=
    fun _ hm => absurd hm List.not_mem_nil
  cases m with
  | call => exact ⟨⟨henabled, hl.slot, hstarts, hl.workers⟩, hnone⟩
  | start i subscription =>
      obtain ⟨hinspector, -, hworkers, hevents⟩ := hl.proceed i subscription
      have hslot := (congrArg Inspector.slot hinspector).trans hl.slot
      exact ⟨⟨henabled, hslot, hstarts, hworkers⟩, hevents⟩
  | abandon i =>
      obtain ⟨hinspector, hworkers, hevents⟩ := hl.abandon i
      have hslot := (congrArg Inspector.slot hinspector).trans hl.slot
      exact ⟨⟨henabled, hslot, hstarts, hworkers⟩, hevents ▸ hnone⟩
  | progress now p =>
      obtain ⟨hslot, hevents⟩ := hl.answered (life.inspector.heed_offers now p) life.probes
      exact ⟨⟨henabled, hslot, hstarts, hl.workers⟩, hevents⟩
  | trigger block =>
      obtain ⟨hslot, hevents⟩ := hl.answered (life.inspector.trigger_offers block) life.probes
      exact ⟨⟨henabled, hslot, hstarts, hl.workers⟩, hevents⟩
  | look now answer =>
      simp only [InspectorLife.step]
      split
      · exact ⟨⟨hl.enabled, hl.slot, hl.starts, hl.workers⟩, hnone⟩
      · exact ⟨hl, hnone⟩
  | settle k now =>
      obtain ⟨hslot, hworkers, hevents⟩ := hl.settle k now
      exact ⟨⟨henabled, hslot, hstarts, hworkers⟩, hevents⟩
  | take =>
      rw [hl.take]
      exact ⟨hl, hnone⟩
  | work k now cancelled next time =>
      rw [hl.work]
      exact ⟨hl, hnone⟩
  | crash k =>
      rw [hl.crash]
      exact ⟨hl, hnone⟩
  | conclude time result =>
      have hslot := (life.inspector.slot_conclude time result).trans hl.slot
      exact ⟨⟨henabled, hslot, hstarts, hl.workers⟩, hnone⟩

theorem Lost.play (hl : Lost life) (moves : List InspectorMove) :
    Lost (play moves life).1 ∧ ∀ event ∈ (InspectorLife.play moves life).2, event.IsRefusal := by
  induction moves generalizing life with
  | nil => exact ⟨hl, fun _ hm => absurd hm List.not_mem_nil⟩
  | cons m rest ih =>
      obtain ⟨hnext, hevents⟩ := hl.step m
      obtain ⟨hlast, hlater⟩ := ih hnext
      exact ⟨hlast, fun event hm => (List.mem_append.1 hm).elim (hevents event) (hlater event)⟩

/-! ## A start that is refused -/

/-- A start that asks the bus is the only one, and there is no worker. -/
theorem Roster.alone_of_subscribing (hr : Roster life log)
    (hs : life.starts[i]? = some .subscribing) {stage : StartStage} (hstage : stage.hoping = 0) :
    life.workers = [] ∧ NoneHoping (life.setStart i stage) := by
  have hholding : 1 ≤ (life.starts.map StartStage.holding).sum :=
    le_sum_map (f := StartStage.holding) hs
  have hhoping := sum_map_set (f := StartStage.hoping) stage hs
  have hspent := life.inspector.slot.receiver.spent_le
  obtain ⟨-, -, hstarts, hworkers⟩ := hr
  refine ⟨List.eq_nil_of_length_eq_zero (by omega), fun other hm => ?_⟩
  have hsum : ((life.starts.set i stage).map StartStage.hoping).sum = 0 := by
    simp only [StartStage.hoping] at hhoping hstage
    omega
  obtain ⟨j, hj⟩ := List.getElem?_of_mem hm
  have hle : other.hoping ≤ ((life.starts.set i stage).map StartStage.hoping).sum :=
    le_sum_map (f := StartStage.hoping) hj
  omega

theorem step_refused (hs : life.starts[i]? = some .subscribing) (e : BusError) :
    life.step (.start i (.error e)) =
      ((life.withSlot life.inspector.slot.dropReceiver).setStart i (.returned (.error (.bus e))),
        [.lost, .returned (.error (.bus e))]) := by
  simp only [step, proceed, hs]

theorem trigger_taken {i : Inspector} (ht : i.slot.receiver = .taken) (block : UInt64) :
    (i.trigger block).1 = if i.slot.pending.isSome then .busy else .queued := by
  simp only [Inspector.trigger, PendingSlot.offer, PendingSlot.isOpen, ht]
  cases i.slot.pending <;> rfl

end InspectorLife

open InspectorLife

/-- **A start that the bus refuses is the last.**  Take any inspector, whatever
has happened to it, with a start that asks the bus, and let the bus refuse for
any reason.  Until then an offer is queued, or finds the pending block.  The
start returns the error of the bus and drops the receiving end, and the pending
block with it; the rest of the inspector stays as it is.  Whatever happens
afterwards, nothing comes of it: offers are turned away as closed, nobody gets a
block, and starts are refused because there has been one. -/
theorem failed_start_is_final (s : InspectionSettings) (earlier later : List InspectorMove)
    (i : Nat) (e : BusError)
    (hs : (play earlier (.idle s)).1.starts[i]? = some .subscribing) :
    let life := (play earlier (.idle s)).1
    let after := (life.step (.start i (.error e))).1
    (∀ block, (life.inspector.trigger block).1 =
      if life.inspector.slot.pending.isSome then .busy else .queued) ∧
    (life.step (.start i (.error e))).2 = [.lost, .returned (.error (.bus e))] ∧
    after.inspector = { life.inspector with slot := ⟨none, .gone⟩ } ∧
    (play later after).1.inspector.slot = ⟨none, .gone⟩ ∧ (play later after).1.workers = [] ∧
    ∀ event ∈ (play later after).2, (∃ block, event = .offered block .closed) ∨
      event = .returned (.error (.inspection .alreadyStarted)) := by
  intro life after
  have hroster : Roster life (play earlier (.idle s)).2 := ((Accounts.idle s).play earlier).roster
  have htaken := hroster.taken_of_start hs
  have hreturned : (StartStage.returned (.error (.bus e))).hoping = 0 := rfl
  obtain ⟨hworkers, hstarts⟩ := Roster.alone_of_subscribing hroster hs hreturned
  have hrefused := step_refused hs e
  have hinspector : after.inspector = { life.inspector with slot := ⟨none, .gone⟩ } := by
    show (life.step (.start i (.error e))).1.inspector = _
    rw [hrefused]
    show { life.inspector with slot := life.inspector.slot.dropReceiver } = _
    rw [PendingSlot.dropReceiver_taken htaken]
  have hsettings : life.inspector.settings = s := play_settings earlier (.idle s)
  have hlost : Lost after := {
    enabled := by
      rw [hinspector]
      exact (congrArg InspectionSettings.enabled hsettings).trans (enabled_of_subscribing hs)
    slot := by rw [hinspector]
    starts := by
      show NoneHoping (life.step (.start i (.error e))).1
      rw [hrefused]
      exact hstarts.of_starts rfl
    workers := by
      show (life.step (.start i (.error e))).1.workers = []
      rw [hrefused]
      exact hworkers }
  obtain ⟨hend, hevents⟩ := hlost.play later
  exact ⟨trigger_taken htaken, congrArg Prod.snd hrefused, hinspector, hend.slot, hend.workers,
    hevents⟩

/-! ## A bus that is closed for a while

A block is pending when the bus refuses a start.  Later the bus is open again. -/

namespace RefusedStart

def settings : InspectionSettings := .standard 10 "http://scan" "http://proxy"

/-- Block 90 is offered; a start gets the receiving end and asks the bus. -/
def asking : List InspectorMove := [.trigger 90, .call, .start 0 (.ok ())]

/-- Block 100 is offered, the pending block is taken out, and there is a start
which the bus does not refuse. -/
def later (i : Nat) : List InspectorMove :=
  [.trigger 100, .take, .call, .start i (.ok ()), .start i (.ok ()), .start i (.ok ())]

end RefusedStart

theorem failed_start_is_final_closed :
    let after := ((play RefusedStart.asking (.idle RefusedStart.settings)).1.step
      (.start 0 (.error .closed))).1
    after.inspector.slot = ⟨none, .gone⟩ ∧
    ∀ event ∈ (play (RefusedStart.later 1) after).2, (∃ block, event = .offered block .closed) ∨
      event = .returned (.error (.inspection .alreadyStarted)) := by
  obtain ⟨-, -, hinspector, -, -, hevents⟩ :=
    failed_start_is_final RefusedStart.settings RefusedStart.asking (RefusedStart.later 1) 0 .closed
      rfl
  exact ⟨congrArg Inspector.slot hinspector, hevents⟩

/-- After the start that was refused, the same moves come to something else than
they would without it: the second offer, the taker and the second start. -/
theorem failed_start_leaves_traces :
    (play (RefusedStart.asking ++ .start 0 (.error .closed) :: RefusedStart.later 1)
        (.idle RefusedStart.settings)).2 =
      [.offered 90 .queued, .lost, .returned (.error (.bus .closed)), .offered 100 .closed,
        .returned (.error (.inspection .alreadyStarted))] ∧
    (play (.trigger 90 :: RefusedStart.later 0) (.idle RefusedStart.settings)).2 =
      [.offered 90 .queued, .offered 100 .busy, .taken 90, .returned (.ok true)] :=
  ⟨rfl, rfl⟩

end NodeKeeper
