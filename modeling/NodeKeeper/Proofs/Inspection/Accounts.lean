/-
# What becomes of the blocks

Blocks are offered by anybody at any time, and one worker inspects them.  For
every order in which starts, offers, looks at the clock, takers and the worker
take their steps, the blocks are accounted for:

    accepted log    the blocks whose offers were queued
    taken log       those taken out of the slot by anybody but the worker
    received log    those the worker has taken out
    finished log    those it is done with

**Proved here.**

    one start has the receiving end, then one worker          (`Happens.roster`)
    accepted = taken ++ received ++ what the slot holds       (`Happens.ledger`)
    received = finished ++ what the worker is at work on      (`Happens.worklog`)
    all of this at every moment                               (`inspects_in_order`)
-/
import Mathlib.Algebra.GroupWithZero.Nat
import NodeKeeper.Proofs.Inspection.Steps

namespace NodeKeeper

/-! ## Readings of a log -/

namespace InspectorEvent

def accepted? : InspectorEvent → Option UInt64
  | .offered block .queued => some block
  | _ => none

def taken? : InspectorEvent → Option UInt64
  | .taken block => some block
  | _ => none

def received? : InspectorEvent → Option UInt64
  | .received block => some block
  | _ => none

/-- The block of an inspection by the worker that is over. -/
def finished? : InspectorEvent → Option UInt64
  | .inspected block _ _ | .broken block => some block
  | _ => none

/-- Has a start returned that it was the one? -/
def isStart : InspectorEvent → Bool
  | .returned (.ok true) => true
  | _ => false

end InspectorEvent

namespace InspectorLog

def accepted (log : InspectorLog) : List UInt64 := log.filterMap (·.accepted?)

def taken (log : InspectorLog) : List UInt64 := log.filterMap (·.taken?)

def received (log : InspectorLog) : List UInt64 := log.filterMap (·.received?)

def finished (log : InspectorLog) : List UInt64 := log.filterMap (·.finished?)

/-- How many starts have returned that they were the one. -/
def startsMade (log : InspectorLog) : Nat := log.countP (·.isStart)

variable (log log' : InspectorLog)

@[simp] theorem accepted_append : accepted (log ++ log') = accepted log ++ accepted log' :=
  List.filterMap_append

@[simp] theorem taken_append : taken (log ++ log') = taken log ++ taken log' :=
  List.filterMap_append

@[simp] theorem received_append : received (log ++ log') = received log ++ received log' :=
  List.filterMap_append

@[simp] theorem finished_append : finished (log ++ log') = finished log ++ finished log' :=
  List.filterMap_append

@[simp] theorem startsMade_append :
    startsMade (log ++ log') = startsMade log + startsMade log' :=
  List.countP_append

end InspectorLog

open InspectorLog

/-! ## Sums over a list -/

section Sums

variable {α : Type} {l : List α} {i : Nat} {a : α}

theorem sum_map_set {f : α → Nat} (b : α) (h : l[i]? = some a) :
    ((l.set i b).map f).sum + f a = (l.map f).sum + f b := by
  induction l generalizing i with
  | nil => cases h
  | cons x l ih =>
      cases i with
      | zero =>
          obtain rfl : x = a := Option.some.inj h
          simp only [List.set_cons_zero, List.map_cons, List.sum_cons]
          omega
      | succ i =>
          have := ih (i := i) h
          simp only [List.set_cons_succ, List.map_cons, List.sum_cons]
          omega

theorem le_sum_map {f : α → Nat} (h : l[i]? = some a) : f a ≤ (l.map f).sum := by
  obtain ⟨before, after, rfl⟩ := List.append_of_mem (List.mem_of_getElem? h)
  simp only [List.map_append, List.map_cons, List.sum_append, List.sum_cons]
  omega

end Sums

/-! ## Who has the receiving end -/

/-- One for a start that has the receiving end. -/
def StartStage.holding : StartStage → Nat
  | .subscribing => 1
  | _ => 0

/-- One for a start that may still return that it was the one. -/
def StartStage.hoping : StartStage → Nat
  | .subscribing | .noting => 1
  | _ => 0

/-- How many have the receiving end. -/
def Receiver.holders : Receiver → Nat
  | .taken => 1
  | _ => 0

/-- One once the receiving end has been handed out. -/
def Receiver.spent : Receiver → Nat
  | .home => 0
  | _ => 1

theorem Receiver.spent_le (r : Receiver) : r.spent ≤ 1 := by cases r <;> decide

/-- One for a worker that has the receiving end. -/
def Worker.holding : Worker → Nat
  | .gone => 0
  | _ => 1

/-- The receiving end is with the slot, or one has it, or it is gone; who has
had it was the only one. -/
structure Roster (life : InspectorLife) (log : InspectorLog) : Prop where
  holders : (life.starts.map StartStage.holding).sum + (life.workers.map Worker.holding).sum =
    life.inspector.slot.receiver.holders
  open_ : life.inspector.slot.receiver ≠ .shut
  starts : startsMade log + (life.starts.map StartStage.hoping).sum ≤
    life.inspector.slot.receiver.spent
  workers : life.workers.length + (life.starts.map StartStage.holding).sum ≤
    life.inspector.slot.receiver.spent

namespace Roster

variable {life : InspectorLife} {log : InspectorLog} {i k : Nat} {w : Worker}

theorem idle (s : InspectionSettings) : Roster (.idle s) [] where
  holders := rfl
  open_ := nofun
  starts := Nat.le_refl _
  workers := Nat.le_refl _

/-- While anybody has the receiving end, nobody else has it. -/
theorem taken (hr : Roster life log) {a b : Nat}
    (ha : a ≤ (life.starts.map StartStage.holding).sum) (hb : b ≤ (life.workers.map Worker.holding).sum)
    (hab : 0 < a + b) : life.inspector.slot.receiver = .taken := by
  have := hr.holders
  cases h : life.inspector.slot.receiver with
  | taken => rfl
  | _ =>
      rw [h] at this
      simp only [Receiver.holders] at this
      omega

theorem taken_of_start (hr : Roster life log) (hs : life.starts[i]? = some .subscribing) :
    life.inspector.slot.receiver = .taken :=
  hr.taken (le_sum_map hs) (Nat.zero_le _) (by decide)

theorem taken_of_worker (hr : Roster life log) (hw : life.workers[k]? = some w)
    (hlive : w.holding = 1) : life.inspector.slot.receiver = .taken :=
  hr.taken (Nat.zero_le _) (le_sum_map hw) (by omega)

theorem workers_le (hr : Roster life log) : life.workers.length ≤ 1 := by
  have := hr.workers
  have := life.inspector.slot.receiver.spent_le
  omega

section

variable {life' : InspectorLife} {events : InspectorLog} {r r' : Receiver}

theorem setStart {a b : StartStage} (hr : Roster life log) (hs : life.starts[i]? = some a)
    (hfrom : life.inspector.slot.receiver = r) (hto : life'.inspector.slot.receiver = r')
    (hstarts : life'.starts = life.starts.set i b) (hworkers : life'.workers = life.workers)
    (hopen : r' ≠ .shut) (hhold : b.holding + r.holders = a.holding + r'.holders)
    (hhope : startsMade events + b.hoping + r.spent ≤ a.hoping + r'.spent)
    (hspawn : b.holding + r.spent ≤ a.holding + r'.spent) : Roster life' (log ++ events) := by
  have hold := sum_map_set (f := StartStage.holding) b hs
  have hope := sum_map_set (f := StartStage.hoping) b hs
  obtain ⟨h₁, h₂, h₃, h₄⟩ := hr
  rw [hfrom] at h₁ h₃ h₄
  refine ⟨?_, hto ▸ hopen, ?_, ?_⟩ <;> rw [hstarts, hto]
  · rw [hworkers]
    omega
  · rw [startsMade_append]
    omega
  · rw [hworkers]
    omega

theorem setWorker {w' : Worker} (hr : Roster life log) (hw : life.workers[k]? = some w)
    (hfrom : life.inspector.slot.receiver = r) (hto : life'.inspector.slot.receiver = r')
    (hstarts : life'.starts = life.starts) (hworkers : life'.workers = life.workers.set k w')
    (hopen : r' ≠ .shut) (hhold : w'.holding + r.holders = w.holding + r'.holders)
    (hspent : r'.spent = r.spent) (hmade : startsMade events = 0) :
    Roster life' (log ++ events) := by
  have hold := sum_map_set (f := Worker.holding) w' hw
  obtain ⟨h₁, h₂, h₃, h₄⟩ := hr
  rw [hfrom] at h₁ h₃ h₄
  refine ⟨?_, hto ▸ hopen, ?_, ?_⟩ <;> rw [hstarts, hto]
  · rw [hworkers]
    omega
  · rw [startsMade_append, hmade]
    omega
  · rw [hworkers, List.length_set]
    omega

theorem setSlot (hr : Roster life log) (hstarts : life'.starts = life.starts)
    (hworkers : life'.workers = life.workers)
    (hreceiver : life'.inspector.slot.receiver = life.inspector.slot.receiver)
    (hmade : startsMade events = 0) : Roster life' (log ++ events) := by
  obtain ⟨h₁, h₂, h₃, h₄⟩ := hr
  refine ⟨?_, ?_, ?_, ?_⟩ <;> rw [hreceiver]
  · rwa [hstarts, hworkers]
  · exact h₂
  · rwa [hstarts, startsMade_append, hmade]
  · rwa [hstarts, hworkers]

end

end Roster

namespace InspectorLife

variable {life life' : InspectorLife} {log events : InspectorLog}

/-- At most one start returns that it was the one, and there is at most one
worker, whatever happens. -/
theorem Happens.roster (h : Happens life life' events) (hr : Roster life log) :
    Roster life' (log ++ events) := by
  cases h with
  | aside hslot => exact hr.setSlot rfl rfl (congrArg PendingSlot.receiver hslot) rfl
  | called =>
      obtain ⟨h₁, h₂, h₃, h₄⟩ := hr
      exact ⟨by simpa [StartStage.holding] using h₁, h₂, by simpa [StartStage.hoping] using h₃,
        by simpa [StartStage.holding] using h₄⟩
  | @declined i r hs hne =>
      have hmade : startsMade [.returned r] = 0 := by
        rcases r with e | (_ | _)
        · rfl
        · rfl
        · exact absurd rfl hne
      refine hr.setStart hs rfl rfl rfl rfl hr.open_ rfl ?_ (Nat.le_refl _)
      rw [hmade]
      exact Nat.le_refl _
  | handedOut hs hhome =>
      exact hr.setStart hs hhome rfl rfl rfl nofun rfl (Nat.le_refl _) (Nat.le_refl _)
  | subscribed hs =>
      have hold := sum_map_set (f := StartStage.holding) .noting hs
      have hope := sum_map_set (f := StartStage.hoping) .noting hs
      obtain ⟨h₁, h₂, h₃, h₄⟩ := hr
      simp only [StartStage.holding, StartStage.hoping] at hold hope
      refine ⟨?_, h₂, ?_, ?_⟩ <;>
        simp only [InspectorLife.setStart, InspectorLife.spawn, List.map_append, List.sum_append,
          List.map_cons, List.map_nil, List.sum_cons, List.sum_nil, List.length_append,
          List.length_cons, List.length_nil, List.append_nil, Worker.holding] <;>
        omega
  | refused hs =>
      have ht := hr.taken_of_start hs
      have hto := congrArg PendingSlot.receiver (PendingSlot.dropReceiver_taken ht)
      exact hr.setStart hs ht hto rfl rfl nofun rfl (Nat.le_succ 1) (Nat.le_succ 1)
  | dropped hs =>
      have ht := hr.taken_of_start hs
      have hto := congrArg PendingSlot.receiver (PendingSlot.dropReceiver_taken ht)
      exact hr.setStart hs ht hto rfl rfl nofun rfl (Nat.le_succ 1) (Nat.le_succ 1)
  | started hs =>
      exact hr.setStart hs rfl rfl rfl rfl hr.open_ rfl (Nat.le_refl _) (Nat.le_refl _)
  | givenUp hs hstage =>
      rcases hstage with rfl | rfl
      · exact hr.setStart hs rfl rfl rfl rfl hr.open_ rfl (Nat.le_refl _) (Nat.le_refl _)
      · exact hr.setStart hs rfl rfl rfl rfl hr.open_ rfl
          (Nat.add_le_add_right (Nat.zero_le 1) _) (Nat.le_refl _)
  | offered hslot => exact hr.setSlot rfl rfl (PendingSlot.receiver_of_offer hslot) rfl
  | taken hhome hp => exact hr.setSlot rfl rfl rfl rfl
  | received hw hp => exact hr.setWorker hw rfl rfl rfl rfl hr.open_ rfl rfl rfl
  | stepped hw hblock => exact hr.setWorker hw rfl rfl rfl rfl hr.open_ rfl rfl rfl
  | inspected hw hslot =>
      have hto := congrArg PendingSlot.receiver hslot
      exact hr.setWorker hw rfl hto rfl rfl hr.open_ rfl rfl rfl
  | ended hw =>
      have ht := hr.taken_of_worker hw rfl
      have hto := congrArg PendingSlot.receiver (PendingSlot.dropReceiver_taken ht)
      exact hr.setWorker hw ht hto rfl rfl nofun rfl rfl rfl
  | fell hw =>
      have ht := hr.taken_of_worker hw rfl
      have hto := congrArg PendingSlot.receiver (PendingSlot.dropReceiver_taken ht)
      exact hr.setWorker hw ht hto rfl rfl nofun rfl rfl rfl

end InspectorLife

/-! ## What the slot holds -/

/-- The blocks whose offers were queued are those that were taken out, in this
order, and then the one the slot holds, unless it was lost with the receiving
end. -/
structure Ledger (slot : PendingSlot) (log : InspectorLog) : Prop where
  queue : ∃ left : Option UInt64, accepted log = taken log ++ received log ++ left.toList ∧
    (.lost ∉ log → slot.pending = left)
  gone : slot.receiver = .gone ↔ .lost ∈ log
  empty : slot.receiver = .gone → slot.pending = none
  home : slot.receiver = .home → received log = []

namespace Ledger

variable {slot slot' : PendingSlot} {log events : InspectorLog} {block : UInt64}
  {outcome : TriggerOutcome}

theorem idle : Ledger .empty [] where
  queue := ⟨none, rfl, fun _ => rfl⟩
  gone := ⟨nofun, nofun⟩
  empty := fun _ => rfl
  home := fun _ => rfl

theorem aside (hl : Ledger slot log) (haccepted : accepted events = []) (htaken : taken events = [])
    (hreceived : received events = []) (hlost : .lost ∉ events) : Ledger slot (log ++ events) := by
  have hmem : .lost ∈ log ++ events ↔ .lost ∈ log := by simp [hlost]
  obtain ⟨⟨left, heq, hp⟩, h₂, h₃, h₄⟩ := hl
  refine ⟨⟨left, ?_, fun h => hp fun hm => h (hmem.2 hm)⟩, h₂.trans hmem.symm, h₃, ?_⟩
  · simpa [haccepted, htaken, hreceived] using heq
  · intro hh
    simpa [hreceived] using h₄ hh

/-- The slot holds what is left, as long as the receiving end is there. -/
theorem queue_eq (hl : Ledger slot log) (hr : slot.receiver ≠ .gone) :
    accepted log = taken log ++ received log ++ slot.pending.toList := by
  obtain ⟨left, heq, hp⟩ := hl.queue
  rw [hp fun hm => hr (hl.gone.2 hm)]
  exact heq

theorem handOut (hl : Ledger slot log) (hr : slot.receiver = .home) :
    Ledger { slot with receiver := .taken } log where
  queue := hl.queue
  gone := by
    have := hl.gone
    rw [hr] at this
    exact ⟨nofun, fun h => nomatch this.2 h⟩
  empty := nofun
  home := nofun

theorem drop (hl : Ledger slot log) (haccepted : accepted events = []) (htaken : taken events = [])
    (hreceived : received events = []) (hlost : .lost ∈ events) :
    Ledger ⟨none, .gone⟩ (log ++ events) := by
  obtain ⟨left, heq, _⟩ := hl.queue
  have hmem : .lost ∈ log ++ events := List.mem_append_right _ hlost
  refine ⟨⟨left, ?_, fun h => absurd hmem h⟩, iff_of_true rfl hmem, fun _ => rfl, nofun⟩
  simpa [haccepted, htaken, hreceived] using heq

theorem offer (hl : Ledger slot log)
    (ho : slot.offer block = (outcome, slot')) :
    Ledger slot' (log ++ [.offered block outcome]) := by
  rcases PendingSlot.offer_cases ho with ⟨rfl, _, rfl⟩ | ⟨rfl, _, _, rfl⟩ | ⟨rfl, hop, hp, rfl⟩
  · exact hl.aside rfl rfl rfl (by simp)
  · exact hl.aside rfl rfl rfl (by simp)
  · have hr := PendingSlot.ne_gone_of_isOpen hop
    have heq := hl.queue_eq hr
    rw [hp, Option.toList_none, List.append_nil] at heq
    refine ⟨⟨some block, ?_, fun _ => rfl⟩, by simpa using hl.gone, fun h => absurd h hr, ?_⟩
    · rw [accepted_append, taken_append, received_append, heq]
      exact congrArg (· ++ [block]) (by simp [taken, received, InspectorEvent.taken?,
        InspectorEvent.received?])
    · intro h
      rw [received_append, hl.home h]
      rfl

theorem takeOut (hl : Ledger slot log) {e : InspectorEvent} (hr : slot.receiver ≠ .gone)
    (hp : slot.pending = some block)
    (he : e = .taken block ∧ slot.receiver = .home ∨ e = .received block ∧ slot.receiver = .taken) :
    Ledger { slot with pending := none } (log ++ [e]) := by
  have heq := hl.queue_eq hr
  rw [hp, Option.toList_some] at heq
  rcases he with ⟨rfl, hhome⟩ | ⟨rfl, htaken⟩
  · have hnone := hl.home hhome
    rw [hnone, List.append_nil] at heq
    refine ⟨⟨none, ?_, fun _ => rfl⟩, by simpa using hl.gone, fun _ => rfl, ?_⟩
    · rw [accepted_append, taken_append, received_append, heq, hnone]
      simp [accepted, taken, received, InspectorEvent.accepted?, InspectorEvent.taken?,
        InspectorEvent.received?]
    · intro _
      rw [received_append, hnone]
      rfl
  · refine ⟨⟨none, ?_, fun _ => rfl⟩, by simpa using hl.gone, fun _ => rfl, ?_⟩
    · rw [accepted_append, taken_append, received_append, heq]
      simp [accepted, taken, received, InspectorEvent.accepted?, InspectorEvent.taken?,
        InspectorEvent.received?]
    · intro h
      rw [htaken] at h
      cases h

end Ledger

namespace InspectorLife

variable {life life' : InspectorLife} {log events : InspectorLog}

theorem Happens.ledger (h : Happens life life' events) (hr : Roster life log)
    (hl : Ledger life.inspector.slot log) : Ledger life'.inspector.slot (log ++ events) := by
  cases h with
  | aside hslot =>
      rw [List.append_nil]
      exact hslot ▸ hl
  | called => rwa [List.append_nil]
  | declined => exact hl.aside rfl rfl rfl (by simp)
  | handedOut _ hhome =>
      rw [List.append_nil]
      exact hl.handOut hhome
  | subscribed => rwa [List.append_nil]
  | refused hs =>
      show Ledger life.inspector.slot.dropReceiver _
      rw [PendingSlot.dropReceiver_taken (hr.taken_of_start hs)]
      exact hl.drop rfl rfl rfl List.mem_cons_self
  | dropped hs =>
      show Ledger life.inspector.slot.dropReceiver _
      rw [PendingSlot.dropReceiver_taken (hr.taken_of_start hs)]
      exact hl.drop rfl rfl rfl List.mem_cons_self
  | started => exact hl.aside rfl rfl rfl (by simp)
  | givenUp => rwa [List.append_nil]
  | offered hslot => exact hl.offer hslot
  | taken hhome hp => exact hl.takeOut (by simp [hhome]) hp (.inl ⟨rfl, hhome⟩)
  | received hw hp =>
      have ht := hr.taken_of_worker hw rfl
      exact hl.takeOut (by simp [ht]) hp (.inr ⟨rfl, ht⟩)
  | stepped => rwa [List.append_nil]
  | @inspected i _ _ _ _ _ hslot =>
      show Ledger i.slot _
      rw [hslot]
      exact hl.aside rfl rfl rfl (by simp)
  | ended hw =>
      show Ledger life.inspector.slot.dropReceiver _
      rw [PendingSlot.dropReceiver_taken (hr.taken_of_worker hw rfl)]
      exact hl.drop rfl rfl rfl List.mem_cons_self
  | fell hw =>
      show Ledger life.inspector.slot.dropReceiver _
      rw [PendingSlot.dropReceiver_taken (hr.taken_of_worker hw rfl)]
      exact hl.drop rfl rfl rfl (by simp)

end InspectorLife

/-! ## What the worker does with its blocks -/

/-- The block a worker is at work on. -/
def Worker.block? : Worker → Option UInt64
  | .inspecting t => some t.block
  | _ => none

namespace InspectorLife

/-- The blocks that are being inspected by workers. -/
def atWork (life : InspectorLife) : List UInt64 := life.workers.filterMap (·.block?)

/-- What the worker has taken out it is done with, or at work on. -/
def Worklog (life : InspectorLife) (log : InspectorLog) : Prop :=
  finished log ++ life.atWork = received log

variable {life life' : InspectorLife} {log events : InspectorLog}

theorem Worklog.aside (hk : Worklog life log) (hworkers : life'.atWork = life.atWork)
    (hfinished : finished events = []) (hreceived : received events = []) :
    Worklog life' (log ++ events) := by
  simpa [Worklog, hworkers, hfinished, hreceived] using hk

theorem Worklog.setWorker (hk : Worklog life log) {k : Nat} {w w' : Worker}
    (hone : life.workers.length ≤ 1) (hw : life.workers[k]? = some w)
    (hworkers : life'.workers = life.workers.set k w')
    (hbalance : w.block?.toList ++ received events = finished events ++ w'.block?.toList) :
    Worklog life' (log ++ events) := by
  have hsingle : life.workers = [w] ∧ k = 0 := by
    match hws : life.workers, k, hw with
    | [x], 0, hw => exact ⟨congrArg (fun y => [y]) (Option.some.inj hw), rfl⟩
    | _ :: _ :: _, _, _ =>
        rw [hws] at hone
        simp at hone
  obtain ⟨hws, rfl⟩ := hsingle
  have hatWork : ∀ {life : InspectorLife} {w : Worker}, life.workers = [w] →
      life.atWork = w.block?.toList := by
    intro life w h
    unfold atWork
    rw [h]
    cases hb : w.block? <;> simp [hb]
  have hws' : life'.workers = [w'] := by rw [hworkers, hws]; rfl
  unfold Worklog at hk ⊢
  rw [finished_append, received_append, ← hk, hatWork hws, hatWork hws', List.append_assoc,
    List.append_assoc, hbalance]

theorem Happens.worklog (h : Happens life life' events) (hone : life.workers.length ≤ 1)
    (hk : Worklog life log) : Worklog life' (log ++ events) := by
  cases h with
  | aside => exact hk.aside rfl rfl rfl
  | called => exact hk.aside rfl rfl rfl
  | declined => exact hk.aside rfl rfl rfl
  | handedOut => exact hk.aside rfl rfl rfl
  | subscribed =>
      refine hk.aside ?_ rfl rfl
      exact (List.filterMap_append (l := life.workers)).trans (List.append_nil _)
  | refused => exact hk.aside rfl rfl rfl
  | dropped => exact hk.aside rfl rfl rfl
  | started => exact hk.aside rfl rfl rfl
  | givenUp => exact hk.aside rfl rfl rfl
  | offered => exact hk.aside rfl rfl rfl
  | taken => exact hk.aside rfl rfl rfl
  | received hw _ => exact hk.setWorker hone hw rfl rfl
  | @stepped _ t t' hw hblock =>
      refine hk.setWorker hone hw rfl ?_
      show [t.block] ++ [] = [] ++ [t'.block]
      rw [hblock]
      rfl
  | inspected hw _ => exact hk.setWorker hone hw rfl rfl
  | ended hw => exact hk.setWorker hone hw rfl rfl
  | fell hw => exact hk.setWorker hone hw rfl rfl

/-! ## At every moment -/

/-- The accounts of a life. -/
structure Accounts (life : InspectorLife) (log : InspectorLog) : Prop where
  roster : Roster life log
  ledger : Ledger life.inspector.slot log
  worklog : Worklog life log

theorem Accounts.idle (s : InspectionSettings) : Accounts (.idle s) [] where
  roster := .idle s
  ledger := .idle
  worklog := rfl

theorem Happens.accounts (h : Happens life life' events) (ha : Accounts life log) :
    Accounts life' (log ++ events) where
  roster := h.roster ha.roster
  ledger := h.ledger ha.roster ha.ledger
  worklog := h.worklog ha.roster.workers_le ha.worklog

theorem Accounts.play (ha : Accounts life log) (moves : List InspectorMove) :
    Accounts (play moves life).1 (log ++ (InspectorLife.play moves life).2) := by
  induction moves generalizing life log with
  | nil => exact (List.append_nil log).symm ▸ ha
  | cons m rest ih =>
      have hstep := ih ((step_happens life m).accounts ha)
      rwa [List.append_assoc] at hstep

/-- What is noted of an offer is what became of it. -/
theorem Happens.offer_eq (h : Happens life life' events) {block : UInt64}
    {outcome : TriggerOutcome} (hm : .offered block outcome ∈ events) :
    life.inspector.slot.offer block = (outcome, life'.inspector.slot) := by
  cases h with
  | offered hslot =>
      obtain ⟨rfl, rfl⟩ := InspectorEvent.offered.inj (List.mem_singleton.1 hm)
      exact hslot
  | _ => simp at hm

end InspectorLife

open InspectorLife in
/-- **No lost, doubled, reordered or overlapping inspection.**  Whatever starts,
offers, looks at the clock, takers and the worker do, in any order, at every
moment:

* at most one start has returned that it was the one;
* the blocks whose offers were queued are those taken out before there was a
  worker, then those the worker has taken out, in this order, and then at most
  one that was left waiting; the slot holds that one until the receiving end is
  gone, and nothing afterwards;
* the next offer, whoever makes it, is queued just if the slot holds no block and
  has its receiving end, and is turned away as busy just if the slot holds a
  block, or as closed just if the receiving end is gone, and then the slot stays
  as it is;
* what the worker has taken out are the blocks it is done with, in this order,
  and at most one it is at work on; there is no other worker. -/
theorem inspects_in_order (s : InspectionSettings) (moves : List InspectorMove) :
    let life := (play moves (.idle s)).1
    let log := (play moves (.idle s)).2
    startsMade log ≤ 1 ∧
    (∃ left : Option UInt64, accepted log = taken log ++ received log ++ left.toList ∧
      (.lost ∉ log → life.inspector.slot.pending = left) ∧
      (.lost ∈ log → life.inspector.slot.pending = none)) ∧
    (life.inspector.slot.receiver = .gone ↔ .lost ∈ log) ∧
    (∀ m block outcome, .offered block outcome ∈ (life.step m).2 →
      (outcome = .queued ↔
        life.inspector.slot.pending = none ∧ life.inspector.slot.receiver ≠ .gone) ∧
      (outcome = .busy ↔ life.inspector.slot.pending ≠ none) ∧
      (outcome = .closed ↔ life.inspector.slot.receiver = .gone) ∧
      (outcome = .queued → (life.step m).1.inspector.slot.pending = some block) ∧
      (outcome ≠ .queued → (life.step m).1.inspector.slot = life.inspector.slot)) ∧
    life.workers.length ≤ 1 ∧ life.atWork.length ≤ 1 ∧
    finished log ++ life.atWork = received log := by
  intro life log
  have ha : Accounts life log := (Accounts.idle s).play moves
  obtain ⟨left, hqueue, hleft⟩ := ha.ledger.queue
  refine ⟨?_, ⟨left, hqueue, hleft, fun h => ha.ledger.empty (ha.ledger.gone.2 h)⟩,
    ha.ledger.gone, ?_, ha.roster.workers_le, ?_, ha.worklog⟩
  · have := ha.roster.starts
    have := life.inspector.slot.receiver.spent_le
    omega
  · intro m block outcome hm
    exact PendingSlot.offer_exact ha.roster.open_ ha.ledger.empty
      ((step_happens life m).offer_eq hm)
  · exact Nat.le_trans (List.length_filterMap_le _ _) ha.roster.workers_le

end NodeKeeper
