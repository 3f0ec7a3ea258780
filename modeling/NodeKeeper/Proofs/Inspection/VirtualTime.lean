/-
# An inspector in virtual time lives

A simulation runs an inspector with a caller, its worker and its watchdog, and
decides who goes on and when.  Each thing one of them does is one or more moves
in the life of the inspector, so a simulation, whatever its script, is one of
the lives, and what holds of every life holds of it.

    Lived s i worker out    some life leaves the inspector `i`, the worker and
                            the questions `out` to the chain
    w.IsLife s own          this is so of the simulation `w`, with the caller's
                            own questions
    Simulated script s w    `w` has come from an idle simulation by calls

**Proved here.**

    a start that nobody disturbs is `Inspector.start`       (`play_undisturbed`)
    worker, watchdog and caller make moves until they wait  (`IsLife.runWorker`,
                                            `IsLife.runWatchdog`, `IsLife.await`)
    every simulation is a life                              (`Simulated.isLife`)
-/
import NodeKeeper.Inspection.Simulation
import NodeKeeper.Proofs.Inspection.Accounts

namespace NodeKeeper

open InspectorLife

/-! ## What a life can come to -/

/-- A life has left the inspector like this, with the worker, if there has been
one, and with these questions to the chain.  Others may have been asked and given
up. -/
structure InspectorLife.Leaves (life : InspectorLife) (i : Inspector) (worker : Worker)
    (out : List ChainProbe) : Prop where
  inspector : life.inspector = i
  workers : life.workers = [] ∧ worker = .gone ∨ life.workers = [worker]
  probes : ∃ givenUp, life.probes.Perm (out ++ givenUp)

/-- Some life leaves this. -/
def Lived (s : InspectionSettings) (i : Inspector) (worker : Worker) (out : List ChainProbe) :
    Prop :=
  ∃ moves, (play moves (.idle s)).1.Leaves i worker out

theorem InspectorLife.play_append (moves moves' : List InspectorMove) (life : InspectorLife) :
    (play (moves ++ moves') life).1 = (play moves' (play moves life).1).1 := by
  induction moves generalizing life with
  | nil => rfl
  | cons m rest ih => exact ih _

theorem InspectorLife.Leaves.alone {life : InspectorLife} {i : Inspector} {worker : Worker}
    {out : List ChainProbe} (h : life.Leaves i worker out) (hlive : worker ≠ .gone) :
    life.workers = [worker] := by
  rcases h.workers with ⟨_, hgone⟩ | hw
  · exact absurd hgone hlive
  · exact hw

/-- A start that goes on until it returns. -/
def undisturbed (i : Nat) (subscription : Except BusError Unit) : List InspectorMove :=
  [.call, .start i subscription, .start i subscription, .start i subscription]

/-- A start that nobody disturbs is `Inspector.start`. -/
theorem InspectorLife.play_undisturbed (life : InspectorLife)
    (subscription : Except BusError Unit) :
    (play (undisturbed life.starts.length subscription) life).1 =
      { life with
        inspector := (life.inspector.start subscription).2
        starts := life.starts ++ [.returned (life.inspector.start subscription).1]
        workers := match (life.inspector.start subscription).1 with
          | .ok true => life.workers ++ [.waiting]
          | _ => life.workers } := by
  by_cases henabled : life.inspector.settings.enabled
  · by_cases hhome : life.inspector.slot.receiver = .home
    · cases subscription <;>
        simp [undisturbed, play, step, proceed, Inspector.start, henabled,
          PendingSlot.takeReceiver_home hhome, InspectorLife.setStart, InspectorLife.withSlot,
          InspectorLife.spawn]
    · simp [undisturbed, play, step, proceed, Inspector.start, henabled,
        PendingSlot.takeReceiver_away hhome, InspectorLife.setStart]
  · simp [undisturbed, play, step, proceed, Inspector.start, henabled, InspectorLife.setStart]

/-- Only a slot that has its receiving end lets a start be the one. -/
theorem Inspector.home_of_start {i i' : Inspector} {subscription : Except BusError Unit}
    (hs : i.start subscription = (.ok true, i')) : i.slot.receiver = .home := by
  unfold start at hs
  split at hs
  case isTrue => cases hs
  case isFalse =>
    by_cases hhome : i.slot.receiver = .home
    · exact hhome
    · rw [PendingSlot.takeReceiver_away hhome] at hs
      cases hs

namespace Lived

variable {s : InspectionSettings} {i i' : Inspector} {worker worker' : Worker}
  {out out' : List ChainProbe}

theorem idle (s : InspectionSettings) : Lived s (.idle s) .gone [] :=
  ⟨[], rfl, .inl ⟨rfl, rfl⟩, [], .refl _⟩

theorem moves (h : Lived s i worker out)
    (hmore : ∀ life log, Accounts life log → life.Leaves i worker out →
      ∃ more, (play more life).1.Leaves i' worker' out') : Lived s i' worker' out' := by
  obtain ⟨before, hl⟩ := h
  obtain ⟨more, hl'⟩ := hmore _ _ ((Accounts.idle s).play before) hl
  refine ⟨before ++ more, ?_⟩
  rw [play_append]
  exact hl'

theorem move (h : Lived s i worker out) (m : InspectorMove)
    (hm : ∀ life : InspectorLife, life.Leaves i worker out →
      (life.step m).1.Leaves i' worker' out') : Lived s i' worker' out' :=
  h.moves fun life _ _ hl => ⟨[m], hm life hl⟩

/-! ### Moves that leave worker and questions alone -/

theorem trigger (h : Lived s i worker out) (block : UInt64) :
    Lived s (i.trigger block).2 worker out :=
  h.move (.trigger block) fun _ hl => ⟨hl.inspector ▸ rfl, hl.workers, hl.probes⟩

theorem heed (h : Lived s i worker out) (now : Instant) (p : Progress) :
    Lived s (i.heed now p).2 worker out :=
  h.move (.progress now p) fun _ hl => ⟨hl.inspector ▸ rfl, hl.workers, hl.probes⟩

theorem heedMessage (h : Lived s i worker out) (now : Instant) (payload : List UInt8) :
    Lived s (i.heedMessage now payload).2 worker out := by
  unfold Inspector.heedMessage
  split
  · exact h
  · exact h.heed now _

theorem takePending (h : Lived s i worker out) : Lived s i.takePending.2 worker out :=
  h.move .take fun _ hl => ⟨hl.inspector ▸ rfl, hl.workers, hl.probes⟩

theorem conclude (h : Lived s i worker out) (time : Timestamp)
    (result : Except InspectionError Unit) : Lived s (i.conclude time result) worker out :=
  h.move (.conclude time result) fun _ hl => ⟨hl.inspector ▸ rfl, hl.workers, hl.probes⟩

/-! ### Questions to the chain -/

theorem forget (h : Lived s i worker (out ++ out')) : Lived s i worker out := by
  obtain ⟨moves, hi, hw, givenUp, ho⟩ := h
  exact ⟨moves, hi, hw, out' ++ givenUp, by rwa [← List.append_assoc]⟩

theorem perm (h : Lived s i worker out) (hp : out.Perm out') : Lived s i worker out' := by
  obtain ⟨moves, hi, hw, givenUp, ho⟩ := h
  exact ⟨moves, hi, hw, givenUp, ho.trans (hp.append_right _)⟩

theorem ask (h : Lived s i worker out) {now : Instant} (hs : i.isSilent now = true)
    (answer : ChainAnswer) : Lived s i worker (.start i.settings now answer :: out) := by
  refine h.move (.look now answer) ?_
  rintro life ⟨rfl, hw, givenUp, ho⟩
  simp only [step, hs, if_true]
  exact ⟨rfl, hw, givenUp, List.perm_append_comm.trans (ho.cons _)⟩

theorem settle {p : ChainProbe} {now : Instant} {target : Option UInt64}
    (h : Lived s i worker (p :: out)) (hs : p.settle? i.settings now = some target) :
    Lived s (i.afterProbe target).2 worker out := by
  refine h.moves ?_
  rintro life _ _ ⟨rfl, hw, givenUp, ho⟩
  obtain ⟨before, after, heq⟩ := List.append_of_mem (ho.mem_iff.2 List.mem_cons_self)
  refine ⟨[.settle before.length now], ?_⟩
  have hget : life.probes[before.length]? = some p := by simp [heq]
  have herase : life.probes.eraseIdx before.length = before ++ after := by
    simp [heq, List.eraseIdx_append_of_length_le]
  simp only [play, step, InspectorLife.settle, hget, hs, herase]
  refine ⟨rfl, hw, givenUp, ?_⟩
  rw [heq] at ho
  exact (List.perm_middle.symm.trans ho).cons_inv

/-! ### The worker -/

theorem leave (h : Lived s i .waiting out) :
    Lived s { i with slot := i.slot.dropReceiver } .gone out := by
  refine h.move (.work 0 0 true .hangs default) ?_
  intro life hl
  have hw := hl.alone nofun
  obtain ⟨rfl, _, hprobes⟩ := hl
  simp only [step, work, hw, List.getElem?_cons_zero, if_true]
  exact ⟨rfl, .inr (by simp [InspectorLife.setWorker, InspectorLife.withSlot, hw]), hprobes⟩

theorem receive (h : Lived s i .waiting out) {block : UInt64} {slot : PendingSlot}
    (hr : i.slot.receive = (some block, slot)) (now : Instant) :
    Lived s { i with slot := slot } (.inspecting (.start block now)) out := by
  refine h.move (.work 0 now false .hangs default) ?_
  intro life hl
  have hw := hl.alone nofun
  obtain ⟨rfl, _, hprobes⟩ := hl
  simp only [step, work, hw, List.getElem?_cons_zero, hr]
  exact ⟨rfl, .inr (by simp [InspectorLife.setWorker, InspectorLife.withSlot, hw]), hprobes⟩

section trial

variable {t t' : Trial} {now : Instant} {cancelled : Bool} {next : Attempt}

theorem goOn (h : Lived s i (.inspecting t) out)
    (ht : t.step i.settings now cancelled next = .goes t' ∨
      t.step i.settings now cancelled next = .begins t') : Lived s i (.inspecting t') out := by
  refine h.move (.work 0 now cancelled next default) ?_
  intro life hl
  have hw := hl.alone nofun
  obtain ⟨rfl, _, hprobes⟩ := hl
  have hset : (life.setWorker 0 (.inspecting t')).workers = [.inspecting t'] := by
    simp [InspectorLife.setWorker, hw]
  rcases ht with ht | ht <;> simp only [step, work, hw, List.getElem?_cons_zero, ht]
  · exact ⟨rfl, .inr hset, hprobes⟩
  · exact ⟨rfl, .inr hset, hprobes⟩

theorem finish (h : Lived s i (.inspecting t) out) {results : Option InspectionResults}
    {result : Except InspectionError Unit}
    (ht : t.step i.settings now cancelled next = .ends results result) (time : Timestamp) :
    Lived s (i.conclude time result) .waiting out := by
  refine h.move (.work 0 now cancelled next time) ?_
  intro life hl
  have hw := hl.alone nofun
  obtain ⟨rfl, _, hprobes⟩ := hl
  simp only [step, work, hw, List.getElem?_cons_zero, ht]
  exact ⟨rfl, .inr (by simp [InspectorLife.setWorker]), hprobes⟩

end trial

/-! ### Starts -/

theorem start {subscription : Except BusError Unit} (h : Lived s i worker out)
    (hs : i.start subscription = (.ok true, i')) : Lived s i' .waiting out := by
  refine h.moves ?_
  rintro life log ha ⟨rfl, _, hprobes⟩
  refine ⟨undisturbed life.starts.length subscription, ?_⟩
  rw [play_undisturbed, hs]
  -- before the start the slot had the receiving end, so there was no worker
  have hhome := Inspector.home_of_start hs
  have hnone := ha.roster.workers
  rw [hhome] at hnone
  have hnil : life.workers = [] :=
    List.length_eq_zero_iff.1 (Nat.le_zero.1 (Nat.le_trans (Nat.le_add_right _ _) hnone))
  exact ⟨rfl, .inr (by simp [hnil]), hprobes⟩

theorem decline {subscription : Except BusError Unit} {r : Except Failure Bool}
    (h : Lived s i worker out) (hs : i.start subscription = (r, i')) (hr : r ≠ .ok true) :
    Lived s i' worker out := by
  refine h.moves ?_
  rintro life log ha ⟨rfl, hw, hprobes⟩
  refine ⟨undisturbed life.starts.length subscription, ?_⟩
  rw [play_undisturbed, hs]
  refine ⟨rfl, ?_, hprobes⟩
  show (match r with | .ok true => _ | _ => _) = [] ∧ _ ∨ _
  split
  · exact absurd rfl hr
  · exact hw

end Lived

/-! ## Simulations -/

/-- The questions a watchdog has out. -/
def Watchdog.probes : Watchdog → List ChainProbe
  | .probing p _ => [p]
  | _ => []

namespace Simulation

/-- The questions a caller has out. -/
def Caller.probes : Caller → List ChainProbe
  | .probing p => [p]
  | _ => []

/-- The questions of a caller that may have got what it waited for. -/
def stillOut : Sum Caller CallerResult → List ChainProbe
  | .inl c => c.probes
  | .inr _ => []

/-- What the worker is with a trial that may be over. -/
def trialWorker : Sum Trial (Except InspectionError Unit) → Worker
  | .inl t => .inspecting t
  | .inr _ => .waiting

/-- A simulation is a life, with the questions `own` of the caller. -/
def IsLife (s : InspectionSettings) (w : Simulation) (own : List ChainProbe) : Prop :=
  Lived s w.inspector w.worker (w.watchdog.probes ++ own)

variable {s : InspectionSettings} {script : Script} {w w' : Simulation} {own : List ChainProbe}

/-! ### Whatever is woken stays what it is -/

/-- The simulations have the same inspector, worker and watchdog. -/
structure SameParties (w w' : Simulation) : Prop where
  inspector : w'.inspector = w.inspector
  worker : w'.worker = w.worker
  watchdog : w'.watchdog = w.watchdog

theorem SameParties.isLife (hs : SameParties w w') (h : w.IsLife s own) : w'.IsLife s own := by
  unfold IsLife
  rw [hs.inspector, hs.worker, hs.watchdog]
  exact h

theorem sameParties_wake (w : Simulation) (t : Task) : SameParties w (w.wake t) := by
  unfold wake
  split <;> exact ⟨rfl, rfl, rfl⟩

theorem sameParties_wakeForBlock (w : Simulation) : SameParties w w.wakeForBlock := by
  unfold wakeForBlock
  split
  · split
    · exact sameParties_wake w .worker
    · exact ⟨rfl, rfl, rfl⟩
  · exact ⟨rfl, rfl, rfl⟩

theorem IsLife.foldl {α : Type} {f : Simulation → α → Simulation}
    (hf : ∀ w a, SameParties w (f w a)) (l : List α) (h : w.IsLife s own) :
    (l.foldl f w).IsLife s own := by
  induction l generalizing w with
  | nil => exact h
  | cons a l ih => exact ih ((hf w a).isLife h)

theorem IsLife.wakeDue (h : w.IsLife s own) : w.wakeDue.IsLife s own := by
  have hif : ∀ (w : Simulation) (t : Task) (p : Prop) [Decidable p],
      SameParties w (if p then w.wake t else w) := by
    intro w t p _
    split
    · exact sameParties_wake w t
    · exact ⟨rfl, rfl, rfl⟩
  refine h.foldl ?_ _
  intro w t
  cases t <;> exact hif w _ _

theorem IsLife.withInspector {i : Inspector}
    (h : Lived s i w.worker (w.watchdog.probes ++ own)) : (w.withInspector i).IsLife s own :=
  (sameParties_wakeForBlock { w with inspector := i }).isLife h

/-! ### Trials -/

theorem conclude_inspector (w : Simulation) (results : Option InspectionResults)
    (result : Except InspectionError Unit) :
    (w.conclude results result).inspector = w.inspector.conclude wallClock result := by
  unfold conclude
  simp only
  split <;> rfl

theorem runTrial_aside (script : Script) (cancelled : Bool) (fuel : Nat) (t : Trial) (w : Simulation) :
    (runTrial script cancelled fuel t w).2.worker = w.worker ∧
      (runTrial script cancelled fuel t w).2.watchdog = w.watchdog := by
  fun_induction runTrial script cancelled fuel t w with
  | case1 => exact ⟨rfl, rfl⟩
  | case2 => exact ⟨rfl, rfl⟩
  | case3 _ _ _ _ _ _ _ ih => exact ih
  | case4 _ _ _ _ _ _ _ ih => exact ih
  | case5 =>
      unfold conclude
      simp only
      split <;> exact ⟨rfl, rfl⟩

theorem lived_runTrial {out : List ChainProbe} (script : Script) (cancelled : Bool) (fuel : Nat) (t : Trial)
    (w : Simulation) (h : Lived s w.inspector (.inspecting t) out) :
    Lived s (runTrial script cancelled fuel t w).2.inspector
      (trialWorker (runTrial script cancelled fuel t w).1) out := by
  fun_induction runTrial script cancelled fuel t w with
  | case1 => exact h
  | case2 => exact h
  | case3 _ _ _ _ _ _ ht ih => exact ih (h.goOn (.inl ht))
  | case4 _ _ _ _ _ _ ht ih => exact ih (h.goOn (.inr ht))
  | case5 _ _ _ _ _ _ _ ht =>
      rw [conclude_inspector]
      exact h.finish ht wallClock

/-- A trial of the caller's own leaves a trace only when it is over. -/
theorem lived_runTrial_own {worker : Worker} {out : List ChainProbe} (script : Script)
    (cancelled : Bool) (fuel : Nat) (t : Trial) (w : Simulation) (h : Lived s w.inspector worker out) :
    Lived s (runTrial script cancelled fuel t w).2.inspector worker out := by
  fun_induction runTrial script cancelled fuel t w with
  | case1 => exact h
  | case2 => exact h
  | case3 _ _ _ _ _ _ _ ih => exact ih h
  | case4 _ _ _ _ _ _ _ ih => exact ih h
  | case5 =>
      rw [conclude_inspector]
      exact h.conclude wallClock _

theorem IsLife.runTrial (h : w.IsLife s own) (script : Script) (cancelled : Bool) (fuel : Nat)
    (t : Trial) :
    (runTrial script cancelled fuel t w).2.IsLife s own := by
  obtain ⟨hworker, hwatchdog⟩ := runTrial_aside script cancelled fuel t w
  rw [IsLife, hworker, hwatchdog]
  exact lived_runTrial_own script cancelled fuel t w h

/-! ### Worker and watchdog -/

theorem IsLife.runWorker (fuel : Nat) (h : w.IsLife s own) :
    (runWorker script fuel w).IsLife s own := by
  induction fuel generalizing w with
  | zero => exact h
  | succ fuel ih =>
      unfold IsLife at h
      unfold Simulation.runWorker
      split
      case h_1 => exact h
      case h_2 hw =>
        rw [hw] at h
        split
        case isTrue => exact h.leave
        case isFalse =>
          split
          case h_1 => rw [IsLife, hw]; exact h
          case h_2 hr => exact ih (h.receive hr w.now)
      case h_3 t hw =>
        rw [hw] at h
        have hrun := lived_runTrial script w.cancelled (fuel + 1) t w h
        have haside := (runTrial_aside script w.cancelled (fuel + 1) t w).2
        rw [← haside] at hrun
        split
        case h_1 heq => rw [heq] at hrun; exact hrun
        case h_2 heq => rw [heq] at hrun; exact ih hrun

theorem IsLife.runWatchdog (fuel : Nat) (h : w.IsLife s own) :
    (runWatchdog script fuel w).IsLife s own := by
  induction fuel generalizing w with
  | zero => exact h
  | succ fuel ih =>
      unfold Simulation.runWatchdog
      split
      case h_1 => exact h
      case h_2 hd =>
        have hquiet : Lived s w.inspector w.worker ([] ++ own) := by
          rw [IsLife, hd] at h
          exact h
        split
        case isTrue => exact hquiet
        case isFalse => exact ih hquiet
      case h_3 due hd =>
        have hquiet : Lived s w.inspector w.worker ([] ++ own) := by
          rw [IsLife, hd] at h
          exact h
        split
        case isTrue => exact hquiet
        case isFalse =>
          split
          case isTrue => exact h
          case isFalse =>
            split
            case isTrue hsilent => exact ih (hquiet.ask hsilent _)
            case isFalse => exact ih hquiet
      case h_4 p next hd =>
        split
        case h_1 => exact h
        case h_2 target hsettled =>
          have hout : Lived s w.inspector w.worker (p :: own) := by
            rw [IsLife, hd] at h
            exact h
          have hafter := hout.settle hsettled
          have hsame := sameParties_wakeForBlock
            { w with inspector := (w.inspector.afterProbe target).2 }
          refine ih ?_
          show Lived s (w.withInspector _).inspector (w.withInspector _).worker ([] ++ own)
          rw [show (w.withInspector (w.inspector.afterProbe target).2).inspector = _
            from hsame.inspector, show (w.withInspector (w.inspector.afterProbe target).2).worker = _
            from hsame.worker]
          exact hafter

theorem IsLife.runTask (fuel : Nat) (t : Task) (h : w.IsLife s own) :
    (runTask script fuel t w).IsLife s own := by
  cases t with
  | worker => exact IsLife.runWorker fuel h
  | watchdog => exact IsLife.runWatchdog fuel h

theorem IsLife.drain (fuel : Nat) (h : w.IsLife s own) : (drain script fuel w).IsLife s own := by
  induction fuel generalizing w with
  | zero => exact h
  | succ fuel ih =>
      unfold Simulation.drain
      split
      case h_1 => exact h
      case h_2 => exact ih (IsLife.runTask (fuel + 1) _ h)

theorem IsLife.toNextTimer (timers : List Tick) (h : w.IsLife s own) :
    (toNextTimer timers w).IsLife s own := by
  unfold Simulation.toNextTimer
  split
  case h_1 => exact h
  case h_2 => exact IsLife.wakeDue (SameParties.isLife (w := w) ⟨rfl, rfl, rfl⟩ h)

/-! ### The caller -/

theorem IsLife.poll {c : Caller} (h : w.IsLife s c.probes) (script : Script) (fuel : Nat) :
    (poll script fuel c w).2.IsLife s (stillOut (poll script fuel c w).1) := by
  cases c with
  | sleeping tick =>
      show w.IsLife s (stillOut (if _ then _ else _))
      split <;> exact h
  | probing p =>
      unfold Simulation.poll
      simp only
      split
      case h_1 => exact h
      case h_2 target hsettled =>
        have hout : Lived s w.inspector w.worker (p :: w.watchdog.probes) :=
          Lived.perm h List.perm_append_comm
        refine IsLife.withInspector ?_
        rw [stillOut, List.append_nil]
        exact hout.settle hsettled
  | inspecting t cancelled cancelAt =>
      have hrun := h.runTrial script cancelled fuel t
      unfold Simulation.poll
      simp only
      split
      case h_1 result w' heq =>
        rw [heq] at hrun
        cases cancelAt with
        | none => exact hrun
        | some tick =>
            show w'.IsLife s (stillOut (if _ then _ else _))
            split <;> exact hrun
      case h_2 t' w' heq =>
        rw [heq] at hrun
        cases cancelAt with
        | none => exact hrun
        | some tick =>
            simp only
            split
            case isTrue =>
              have hlast := hrun.runTrial script true fuel t'
              split
              case h_1 heq' => rw [heq'] at hlast; exact hlast
              case h_2 heq' => rw [heq'] at hlast; exact hlast
            case isFalse => exact hrun
  | inspected result tick =>
      show w.IsLife s (stillOut (if _ then _ else _))
      split <;> exact h
  | joining tasks limit =>
      show w.IsLife s (stillOut (if _ then _ else _))
      split <;> exact h

theorem IsLife.await (fuel : Nat) (c : Caller) (h : w.IsLife s c.probes) :
    (await script fuel c w).2.IsLife s [] := by
  induction fuel generalizing c w with
  | zero =>
      rw [IsLife, List.append_nil]
      exact Lived.forget h
  | succ fuel ih =>
      have hpoll := h.poll script (fuel + 1)
      unfold Simulation.await
      split
      case h_1 r w' heq =>
        rw [heq] at hpoll
        exact hpoll
      case h_2 c' w' heq =>
        rw [heq] at hpoll
        split
        case isTrue => exact ih c' (IsLife.toNextTimer _ hpoll)
        case isFalse => exact ih c' (IsLife.drain _ hpoll)

/-! ### Calls -/

theorem IsLife.begin (h : w.IsLife s []) : w.begin.2.IsLife s [] := by
  unfold Simulation.begin
  simp only
  split
  case h_1 i hs =>
    -- a watchdog of an earlier start would be forgotten
    have hstarted : Lived s i .waiting ([] ++ (w.watchdog.probes ++ [])) := Lived.start h hs
    exact hstarted.forget
  case h_2 r i hr hs =>
    refine Lived.decline h hs ?_
    rintro rfl
    exact hr rfl

theorem IsLife.cancel (h : w.IsLife s own) : w.cancel.IsLife s own := by
  have hwoken : (if ({ w with cancelled := true } : Simulation).isOver .worker
      then { w with cancelled := true }
      else ({ w with cancelled := true } : Simulation).wake .worker).IsLife s own := by
    split
    · exact h
    · exact (sameParties_wake { w with cancelled := true } .worker).isLife h
  unfold Simulation.cancel
  simp only
  split
  case h_1 => exact (sameParties_wake _ .watchdog).isLife hwoken
  case h_2 => exact hwoken

theorem IsLife.advance (d : Duration) (h : w.IsLife s own) :
    (advance d script w).IsLife s own := by
  unfold Simulation.advance
  exact IsLife.wakeDue (IsLife.drain patience (SameParties.isLife (w := w) ⟨rfl, rfl, rfl⟩ h))

/-- `sleep` as a function; unfolded at an argument it would be run. -/
theorem sleep_eq : Simulation.sleep =
    fun d script w => (await script patience (.sleeping (dueAfter w.now d)) w).2 := by
  delta Simulation.sleep
  rfl

theorem IsLife.sleep (d : Duration) (h : w.IsLife s []) : (sleep d script w).IsLife s [] := by
  rw [sleep_eq]
  exact IsLife.await patience (.sleeping (dueAfter w.now d)) h

theorem IsLife.lookOnce (h : w.IsLife s []) : (lookOnce script w).2.IsLife s [] := by
  unfold Simulation.lookOnce
  split
  case isTrue hsilent =>
    simp only [Simulation.ask]
    refine IsLife.await patience (.probing _) ?_
    have hasked := Lived.ask h hsilent (script.chain w.chainCalls)
    rw [List.append_nil] at hasked
    exact hasked.perm (List.perm_append_singleton _ _).symm
  case isFalse => exact h

theorem IsLife.inspect (block : UInt64) (cancelled : Bool) (cancelAfter : Option Duration)
    (h : w.IsLife s []) : (inspect block cancelled cancelAfter script w).2.IsLife s [] := by
  unfold Simulation.inspect
  exact IsLife.await patience (.inspecting ..) h

theorem IsLife.shutdown (h : w.IsLife s []) : (shutdown script w).IsLife s [] := by
  unfold Simulation.shutdown
  exact IsLife.await patience (.joining ..) h

/-- What a simulation can come to by calls, one after the other. -/
inductive Simulated (script : Script) (s : InspectionSettings) : Simulation → Prop where
  | start : Simulated script s (.start s)
  | progress {w : Simulation} (p : Progress) : Simulated script s w →
      Simulated script s (w.withInspector (w.inspector.heed w.now p).2)
  | message {w : Simulation} (payload : List UInt8) : Simulated script s w →
      Simulated script s (w.withInspector (w.inspector.heedMessage w.now payload).2)
  | trigger {w : Simulation} (block : UInt64) : Simulated script s w →
      Simulated script s (w.withInspector (w.inspector.trigger block).2)
  | take {w : Simulation} : Simulated script s w →
      Simulated script s (w.withInspector w.inspector.takePending.2)
  | begin {w : Simulation} : Simulated script s w → Simulated script s w.begin.2
  | lookOnce {w : Simulation} : Simulated script s w → Simulated script s (w.lookOnce script).2
  | inspect {w : Simulation} (block : UInt64) (cancelled : Bool) (cancelAfter : Option Duration) :
      Simulated script s w →
      Simulated script s (Simulation.inspect block cancelled cancelAfter script w).2
  | advance {w : Simulation} (d : Duration) : Simulated script s w →
      Simulated script s (Simulation.advance d script w)
  | sleep {w : Simulation} (d : Duration) : Simulated script s w →
      Simulated script s (Simulation.sleep d script w)
  | cancel {w : Simulation} : Simulated script s w → Simulated script s w.cancel
  | shutdown {w : Simulation} : Simulated script s w → Simulated script s (w.shutdown script)
  /-- the bus is closed or opened, and what was published is read -/
  | surroundings {w : Simulation} (busClosed : Bool) (published : List InspectionResults) :
      Simulated script s w →
      Simulated script s { w with busClosed := busClosed, published := published }

/-- Every simulation is a life of its inspector. -/
theorem Simulated.isLife (h : Simulated script s w) : w.IsLife s [] := by
  induction h with
  | start => exact Lived.idle s
  | progress p _ ih => exact IsLife.withInspector (Lived.heed ih _ p)
  | message payload _ ih => exact IsLife.withInspector (Lived.heedMessage ih _ payload)
  | trigger block _ ih => exact IsLife.withInspector (Lived.trigger ih block)
  | take _ ih => exact IsLife.withInspector (Lived.takePending ih)
  | begin _ ih => exact ih.begin
  | lookOnce _ ih => exact ih.lookOnce
  | inspect block cancelled cancelAfter _ ih => exact ih.inspect block cancelled cancelAfter
  | advance d _ ih => exact ih.advance d
  | sleep d _ ih => exact ih.sleep d
  | cancel _ ih => exact ih.cancel
  | shutdown _ ih => exact ih.shutdown
  | surroundings _ _ _ ih => exact ih

end Simulation

end NodeKeeper
