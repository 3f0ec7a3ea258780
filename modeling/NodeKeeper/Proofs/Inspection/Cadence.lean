/-
# Only blocks on the cadence are inspected

Two things make an inspector offer a block of its own accord.  When progress has
reached a positive multiple of the cadence, it offers the block one cadence
below.  When a look at the clock finds that progress is silent, it asks the
chain, and offers the head if that is on the cadence, or block 0 if the chain
answers with an error or not in time.  All of them go to the same slot, so
whatever waits there, is taken out or is handed to the routine is a multiple of
the cadence, in whatever order progress, looks, answers and the worker take
turns.

Numbers of blocks are words of 64 bits; divisibility and sums are those of the
natural numbers they stand for, so that nothing wraps around.  The only multiple
of a cadence 0 is block 0.

    offered log             the blocks that were offered, whatever came of it
    p.Found now head        the chain has answered question `p` with its head
    p.Failed now            it has answered with an error, or not in time
    p.ComesTo s now target  the question leads to an offer of the target, or to none

**Proved here.**

    which progress calls for which block          (`targetBlock_eq_some_iff`)
    what a settled question comes to              (`settle?_eq_some_iff`)
    a step offers what it calls for, and no more  (`offered_step`)
    a question is settled at most once            (`questions_perm`)
    who holds a block has it from an offer        (`Accounts.mem_offered`)
    all of this for every life       (`inspects_only_cadence_blocks`)
-/
import NodeKeeper.Inspection.Calls
import NodeKeeper.Proofs.Inspection.Accounts

namespace NodeKeeper

open InspectorLog

/-! ## Which blocks are called for -/

namespace InspectionSettings

variable {s : InspectionSettings} {latest block : UInt64}

theorem dvd_toNat_iff (cadence block : UInt64) :
    cadence.toNat ∣ block.toNat ↔ block % cadence = 0 := by
  rw [Nat.dvd_iff_mod_eq_zero, ← UInt64.toNat_mod, ← UInt64.toNat_inj]
  rfl

theorem toNat_pos_iff (n : UInt64) : 0 < n.toNat ↔ n ≠ 0 :=
  UInt64.lt_iff_toNat_lt.symm.trans UInt64.pos_iff_ne_zero

/-- The target is one cadence below a positive multiple of the cadence; with
cadence 0 there are none. -/
theorem targetBlock_eq_some_iff :
    s.targetBlock latest = some block ↔
      (0 < latest.toNat ∧ s.cadence.toNat ∣ latest.toNat) ∧
        block.toNat + s.cadence.toNat = latest.toNat := by
  unfold targetBlock
  split
  case isTrue hoff =>
    refine iff_of_false nofun fun ⟨⟨hpos, hdvd⟩, _⟩ => ?_
    rcases hoff with hcadence | hlatest | hmod
    · rw [hcadence] at hdvd
      exact Nat.ne_of_gt hpos (Nat.eq_zero_of_zero_dvd hdvd)
    · exact (toNat_pos_iff latest).1 hpos hlatest
    · exact hmod ((dvd_toNat_iff ..).1 hdvd)
  case isFalse hon =>
    obtain ⟨-, hlatest, hmod⟩ : s.cadence ≠ 0 ∧ latest ≠ 0 ∧ latest % s.cadence = 0 := by
      simpa only [not_or, Decidable.not_not] using hon
    have hpos : 0 < latest.toNat := (toNat_pos_iff latest).2 hlatest
    have hdvd : s.cadence.toNat ∣ latest.toNat := (dvd_toNat_iff ..).2 hmod
    have hle : s.cadence.toNat ≤ latest.toNat := Nat.le_of_dvd hpos hdvd
    have hsub : (latest - s.cadence).toNat = latest.toNat - s.cadence.toNat :=
      UInt64.toNat_sub_of_le _ _ hle
    rw [Option.some.injEq, ← UInt64.toNat_inj, hsub]
    constructor
    · intro h
      exact ⟨⟨hpos, hdvd⟩, by omega⟩
    · rintro ⟨-, h⟩
      omega

theorem isSome_targetBlock_iff :
    (s.targetBlock latest).isSome = true ↔ 0 < latest.toNat ∧ s.cadence.toNat ∣ latest.toNat := by
  constructor
  · intro h
    obtain ⟨block, hblock⟩ := Option.isSome_iff_exists.1 h
    exact (targetBlock_eq_some_iff.1 hblock).1
  · rintro ⟨hpos, hdvd⟩
    have hle : s.cadence.toNat ≤ latest.toNat := Nat.le_of_dvd hpos hdvd
    refine Option.isSome_iff_exists.2 ⟨latest - s.cadence, targetBlock_eq_some_iff.2 ?_⟩
    rw [UInt64.toNat_sub_of_le _ _ hle]
    exact ⟨⟨hpos, hdvd⟩, Nat.sub_add_cancel hle⟩

theorem isInspectionBlock_iff :
    s.isInspectionBlock block = true ↔ 0 < s.cadence.toNat ∧ s.cadence.toNat ∣ block.toNat := by
  rw [dvd_toNat_iff, toNat_pos_iff]
  simp [isInspectionBlock]

end InspectionSettings

namespace ChainProbe

variable {s : InspectionSettings} {now : Instant} {p : ChainProbe} {target : Option UInt64}

/-- The chain has answered the question with its head. -/
def Found (now : Instant) (p : ChainProbe) (head : UInt64) : Prop :=
  ∃ tick, p.answer = some (tick, .ok head) ∧ isDue now tick

/-- The chain has answered with an error, or it has not answered and the time
limit is reached. -/
def Failed (now : Instant) (p : ChainProbe) : Prop :=
  (∃ tick e, p.answer = some (tick, .error e) ∧ isDue now tick) ∨
    isDue now p.limit ∧ ∀ tick latest, p.answer = some (tick, latest) → ¬ isDue now tick

/-- What a question leads to: a head is inspected if it is a multiple of a
cadence that is not zero, and block 0 if the question failed. -/
def ComesTo (s : InspectionSettings) (now : Instant) (p : ChainProbe) (target : Option UInt64) :
    Prop :=
  (∃ head, p.Found now head ∧
    target = if 0 < s.cadence.toNat ∧ s.cadence.toNat ∣ head.toNat then some head else none) ∨
  p.Failed now ∧ target = some 0

theorem target_ok (s : InspectionSettings) (head : UInt64) :
    ChainProbe.target s (.ok head) =
      if 0 < s.cadence.toNat ∧ s.cadence.toNat ∣ head.toNat then some head else none := by
  simp only [ChainProbe.target, InspectionSettings.isInspectionBlock_iff]

section Answer

variable {tick : Tick} {latest : Except InspectionError UInt64}

theorem found_iff (h : p.answer = some (tick, latest)) (head : UInt64) :
    p.Found now head ↔ latest = .ok head ∧ isDue now tick := by
  constructor
  · rintro ⟨tick', hanswer, hdue⟩
    obtain ⟨rfl, rfl⟩ := Prod.mk.inj (Option.some.inj (h.symm.trans hanswer))
    exact ⟨rfl, hdue⟩
  · rintro ⟨rfl, hdue⟩
    exact ⟨tick, h, hdue⟩

theorem failed_iff (h : p.answer = some (tick, latest)) :
    p.Failed now ↔
      (∃ e, latest = .error e) ∧ isDue now tick ∨ isDue now p.limit ∧ ¬ isDue now tick := by
  constructor
  · rintro (⟨tick', e, hanswer, hdue⟩ | ⟨hlimit, hlate⟩)
    · obtain ⟨rfl, rfl⟩ := Prod.mk.inj (Option.some.inj (h.symm.trans hanswer))
      exact .inl ⟨⟨e, rfl⟩, hdue⟩
    · exact .inr ⟨hlimit, hlate tick latest h⟩
  · rintro (⟨⟨e, rfl⟩, hdue⟩ | ⟨hlimit, hlate⟩)
    · exact .inl ⟨tick, e, h, hdue⟩
    · refine .inr ⟨hlimit, fun tick' latest' hanswer => ?_⟩
      obtain ⟨rfl, rfl⟩ := Prod.mk.inj (Option.some.inj (h.symm.trans hanswer))
      exact hlate

end Answer

theorem settle?_eq_some_iff : p.settle? s now = some target ↔ p.ComesTo s now target := by
  have hsome : ∀ x, some x = some target ↔ target = x :=
    fun x => Option.some.injEq x target ▸ eq_comm
  unfold settle? ComesTo
  split
  case h_1 tick latest hanswer =>
    simp only [found_iff hanswer, failed_iff hanswer]
    by_cases hdue : isDue now tick
    · -- the answer comes before the time limit
      rw [if_pos hdue, hsome]
      cases latest with
      | ok head => simp [hdue, target_ok]
      | error e => simp [hdue, ChainProbe.target]
    · by_cases hlimit : isDue now p.limit <;> simp [hdue, hlimit, hsome]
  case h_2 hanswer =>
    by_cases hlimit : isDue now p.limit <;> simp [Found, Failed, hanswer, hlimit, hsome]

theorem ComesTo.dvd {block : UInt64} (h : p.ComesTo s now (some block)) :
    s.cadence.toNat ∣ block.toNat := by
  rcases h with ⟨head, -, htarget⟩ | ⟨-, htarget⟩
  · split at htarget
    case isTrue hon => exact Option.some.inj htarget ▸ hon.2
    case isFalse => cases htarget
  · cases htarget
    exact Nat.dvd_zero _

/-- With cadence 0 only a question that failed leads to an offer. -/
theorem ComesTo.failed_of_zero {block : UInt64} (h : p.ComesTo s now (some block))
    (hzero : s.cadence = 0) : p.Failed now := by
  rcases h with ⟨head, -, htarget⟩ | ⟨hfailed, -⟩
  · rw [if_neg (by simp [hzero])] at htarget
    cases htarget
  · exact hfailed

end ChainProbe

/-! ## One step -/

/-- The block of an offer, whatever came of it. -/
def InspectorEvent.offered? : InspectorEvent → Option UInt64
  | .offered block _ => some block
  | _ => none

/-- Progress, offers, looks at the clock and answers of the chain. -/
def InspectorMove.isSignal : InspectorMove → Bool
  | .progress _ _ | .trigger _ | .look _ _ | .settle _ _ => true
  | _ => false

namespace InspectorLog

/-- The blocks that were offered. -/
def offered (log : InspectorLog) : List UInt64 := log.filterMap (·.offered?)

@[simp] theorem offered_append (log log' : InspectorLog) :
    offered (log ++ log') = offered log ++ offered log' :=
  List.filterMap_append

theorem mem_offered_of_mem_accepted {log : InspectorLog} {block : UInt64}
    (h : block ∈ accepted log) : block ∈ offered log := by
  obtain ⟨e, he, hblock⟩ := List.mem_filterMap.1 h
  refine List.mem_filterMap.2 ⟨e, he, ?_⟩
  cases e with
  | offered block' outcome =>
      cases outcome with
      | queued => exact hblock
      | busy => cases hblock
      | closed => cases hblock
  | _ => cases hblock

end InspectorLog

namespace InspectorLife

variable {life : InspectorLife} {log : InspectorLog} {m : InspectorMove} {block : UInt64}

theorem settlement?_eq_some_iff {k : Nat} {now : Instant} {p : ChainProbe}
    {target : Option UInt64} :
    life.settlement? (.settle k now) = some (p, target) ↔
      life.probes[k]? = some p ∧ p.ComesTo life.inspector.settings now target := by
  rw [← ChainProbe.settle?_eq_some_iff]
  simp only [settlement?]
  cases life.probes[k]? with
  | none => exact iff_of_false nofun fun h => nomatch h.1
  | some p' =>
      simp only [Option.map_eq_some_iff, Prod.mk.injEq, Option.some.injEq]
      constructor
      · rintro ⟨target', h, rfl, rfl⟩
        exact ⟨rfl, h⟩
      · rintro ⟨rfl, h⟩
        exact ⟨target, h, rfl, rfl⟩

theorem settle_eq (life : InspectorLife) (k : Nat) (now : Instant) :
    life.settle k now = match life.settlement? (.settle k now) with
      | none => (life, [])
      | some (_, target) =>
        { life with probes := life.probes.eraseIdx k }.answered target
          (life.inspector.afterProbe target) := by
  simp only [settle, settlement?]
  cases life.probes[k]? with
  | none => rfl
  | some p => cases hp : p.settle? life.inspector.settings now <;> simp only [hp] <;> rfl

theorem offered_answered {target : Option UInt64} {r : Option TriggerOutcome × Inspector}
    (ho : life.inspector.Offers target r) (probes : List ChainProbe) :
    offered ({ life with probes := probes }.answered target r).2 = target.toList := by
  cases ho with
  | nothing => rfl
  | offer => rfl

/-- Nothing has been offered, and settings and questions are as they were. -/
structure KeepsQuestions (life life' : InspectorLife) (events : InspectorLog) : Prop where
  settings : life'.inspector.settings = life.inspector.settings
  probes : life'.probes = life.probes
  offered : offered events = []

theorem work_keepsQuestions (life : InspectorLife) (k : Nat) (now : Instant) (cancelled : Bool)
    (next : Attempt) (time : Timestamp) :
    KeepsQuestions life (life.work k now cancelled next time).1
      (life.work k now cancelled next time).2 := by
  unfold work
  split
  case h_1 =>
    split
    case isTrue => exact ⟨rfl, rfl, rfl⟩
    case isFalse => split <;> exact ⟨rfl, rfl, rfl⟩
  case h_2 =>
    split
    case h_4 => exact ⟨Inspector.settings_conclude .., rfl, rfl⟩
    all_goals exact ⟨rfl, rfl, rfl⟩
  case h_3 => exact ⟨rfl, rfl, rfl⟩

theorem step_keepsQuestions (hm : m.isSignal = false) :
    KeepsQuestions life (life.step m).1 (life.step m).2 := by
  cases m with
  | call => exact ⟨rfl, rfl, rfl⟩
  | start i subscription =>
      simp only [step, proceed]
      repeat' split
      all_goals exact ⟨rfl, rfl, rfl⟩
  | abandon i =>
      simp only [step, abandon]
      split <;> exact ⟨rfl, rfl, rfl⟩
  | take =>
      refine ⟨rfl, rfl, ?_⟩
      simp only [step]
      cases life.inspector.takePending.1 <;> rfl
  | work k now cancelled next time => exact work_keepsQuestions life k now cancelled next time
  | crash k =>
      simp only [step, crash]
      split <;> exact ⟨rfl, rfl, rfl⟩
  | conclude time result => exact ⟨Inspector.settings_conclude .., rfl, rfl⟩
  | _ => cases hm

theorem step_settings (life : InspectorLife) (m : InspectorMove) :
    (life.step m).1.inspector.settings = life.inspector.settings := by
  cases m with
  | progress now p => exact Inspector.settings_heed life.inspector now p
  | trigger block => rfl
  | look now answer =>
      simp only [step]
      split <;> rfl
  | settle k now =>
      simp only [step, settle_eq]
      split
      case h_1 => rfl
      case h_2 target _ => cases target <;> rfl
  | _ => exact (step_keepsQuestions rfl).settings

theorem offered_step (life : InspectorLife) (m : InspectorMove) :
    offered (life.step m).2 = (life.offer? m).toList := by
  cases m with
  | progress now p => exact offered_answered (life.inspector.heed_offers now p) _
  | trigger block => rfl
  | look now answer =>
      simp only [step]
      split <;> rfl
  | settle k now =>
      have hoffer : life.offer? (.settle k now) = (life.settlement? (.settle k now)).bind (·.2) :=
        rfl
      simp only [step, settle_eq, hoffer]
      cases life.settlement? (.settle k now) with
      | none => rfl
      | some found => exact offered_answered (life.inspector.afterProbe_offers found.2) _
  | _ => exact (step_keepsQuestions rfl).offered

theorem probes_look (life : InspectorLife) (now : Instant) (answer : ChainAnswer) :
    (life.step (.look now answer)).1.probes =
      life.probes ++ (life.question? (.look now answer)).toList := by
  simp only [step, question?]
  split
  case isTrue => rfl
  case isFalse => exact (List.append_nil _).symm

theorem questions_step (life : InspectorLife) (m : InspectorMove) :
    (life.probes ++ (life.question? m).toList).Perm
      ((life.settlement? m).toList.map (·.1) ++ (life.step m).1.probes) := by
  have hsame : ∀ {probes : List ChainProbe}, probes = life.probes →
      (life.probes ++ []).Perm ([] ++ probes) := by
    rintro _ rfl
    rw [List.append_nil, List.nil_append]
  cases m with
  | progress now p => exact hsame rfl
  | trigger block => exact hsame rfl
  | look now answer =>
      rw [probes_look]
      exact .refl _
  | settle k now =>
      simp only [step, settle_eq]
      cases hs : life.settlement? (.settle k now) with
      | none => exact hsame rfl
      | some found =>
          obtain ⟨hp, -⟩ := settlement?_eq_some_iff.1 hs
          obtain ⟨hk, heq⟩ := List.getElem?_eq_some_iff.1 hp
          have hsplit : life.probes.take k ++ found.1 :: life.probes.drop (k + 1) = life.probes := by
            rw [← heq, List.getElem_cons_drop, List.take_append_drop]
          show (life.probes ++ []).Perm (found.1 :: life.probes.eraseIdx k)
          rw [List.append_nil, List.eraseIdx_eq_take_drop_succ]
          exact (List.Perm.of_eq hsplit.symm).trans List.perm_middle
  | _ => exact hsame (step_keepsQuestions rfl).probes

/-! ## Every moment -/

theorem play_settings (moves : List InspectorMove) (life : InspectorLife) :
    (play moves life).1.inspector.settings = life.inspector.settings := by
  induction moves generalizing life with
  | nil => rfl
  | cons m rest ih => exact (ih (life.step m).1).trans (step_settings life m)

theorem offered_play (moves : List InspectorMove) (life : InspectorLife) :
    offered (play moves life).2 = along offer? moves life := by
  induction moves generalizing life with
  | nil => rfl
  | cons m rest ih =>
      show offered ((life.step m).2 ++ (play rest (life.step m).1).2) = _
      rw [offered_append, offered_step, ih]
      rfl

/-- Every question that was asked has been settled once, or is still out. -/
theorem questions_perm (moves : List InspectorMove) (life : InspectorLife) :
    (life.probes ++ along question? moves life).Perm
      ((along settlement? moves life).map (·.1) ++ (play moves life).1.probes) := by
  induction moves generalizing life with
  | nil =>
      show (life.probes ++ []).Perm ([] ++ life.probes)
      rw [List.append_nil, List.nil_append]
  | cons m rest ih =>
      simp only [along, play, List.map_append, List.append_assoc]
      rw [← List.append_assoc]
      exact ((questions_step life m).append_right _).trans
        (by rw [List.append_assoc]; exact (ih (life.step m).1).append_left _)

theorem mem_along_iff {α : Type} {f : InspectorLife → InspectorMove → Option α} {a : α}
    {moves : List InspectorMove} :
    a ∈ along f moves life ↔
      ∃ earlier m later, moves = earlier ++ m :: later ∧ f (play earlier life).1 m = some a := by
  constructor
  · intro h
    induction moves generalizing life with
    | nil => cases h
    | cons m rest ih =>
        rcases List.mem_append.1 h with hm | hrest
        · exact ⟨[], m, rest, rfl, Option.mem_toList.1 hm⟩
        · obtain ⟨earlier, m', later, rfl, hm'⟩ := ih hrest
          exact ⟨m :: earlier, m', later, rfl, hm'⟩
  · rintro ⟨earlier, m, later, rfl, hm⟩
    induction earlier generalizing life with
    | nil => exact List.mem_append_left _ (Option.mem_toList.2 hm)
    | cons m' rest ih => exact List.mem_append_right _ (ih hm)

theorem asked_of_mem {s : InspectionSettings} {moves : List InspectorMove} {p : ChainProbe}
    (hs : life.inspector.settings = s) (h : p ∈ along question? moves life) :
    ∃ asked answer, .look asked answer ∈ moves ∧ p = .start s asked answer := by
  obtain ⟨earlier, m, later, rfl, hm⟩ := mem_along_iff.1 h
  have hsettings : (play earlier life).1.inspector.settings = s :=
    (play_settings earlier life).trans hs
  cases m with
  | look asked answer =>
      refine ⟨asked, answer, by simp, ?_⟩
      simp only [question?, hsettings] at hm
      split at hm
      · exact (Option.some.inj hm).symm
      · cases hm
  | _ => cases hm

/-- What the inspector offers of its own accord is called for by progress, or by
a question that is settled. -/
theorem offer?_eq_some (h : life.offer? m = some block) :
    m = .trigger block ∨
    (∃ now p, m = .progress now p ∧
      life.inspector.settings.targetBlock p.received = some block) ∨
    ∃ k now p, m = .settle k now ∧ life.settlement? m = some (p, some block) := by
  cases m with
  | trigger block' => exact .inl (congrArg _ (Option.some.inj h))
  | progress now p => exact .inr (.inl ⟨now, p, rfl, h⟩)
  | settle k now =>
      obtain ⟨⟨p, target⟩, hs, htarget⟩ := Option.bind_eq_some_iff.1 h
      obtain rfl : target = some block := htarget
      exact .inr (.inr ⟨k, now, p, rfl, hs⟩)
  | _ => cases h

theorem block_of_routineCall? {inputs : InspectionInputs} (h : life.routineCall? m = some inputs) :
    inputs.block ∈ life.atWork := by
  cases m with
  | work k now cancelled next time =>
      simp only [routineCall?] at h
      split at h
      case h_1 t hw =>
        split at h
        case h_1 t' hbegins =>
          obtain rfl := Option.some.inj h
          refine List.mem_filterMap.2 ⟨_, List.mem_of_getElem? hw, ?_⟩
          exact congrArg some (Trial.block_of_begins hbegins).symm
        case h_2 => cases h
      case h_2 => cases h
  | _ => cases h

theorem Accounts.mem_offered (ha : Accounts life log)
    (h : life.inspector.slot.pending = some block ∨ block ∈ taken log ∨ block ∈ received log ∨
      block ∈ life.atWork) :
    block ∈ offered log := by
  obtain ⟨left, hqueue, -⟩ := ha.ledger.queue
  have hreceived : block ∈ received log → block ∈ offered log := fun hr =>
    mem_offered_of_mem_accepted (hqueue ▸ List.mem_append_left _ (List.mem_append_right _ hr))
  rcases h with hpending | htaken | hr | hwork
  · have hthere : life.inspector.slot.receiver ≠ .gone := fun hgone =>
      nomatch (ha.ledger.empty hgone).symm.trans hpending
    refine mem_offered_of_mem_accepted ?_
    rw [ha.ledger.queue_eq hthere, hpending]
    exact List.mem_append_right _ List.mem_cons_self
  · exact mem_offered_of_mem_accepted
      (hqueue ▸ List.mem_append_left _ (List.mem_append_left _ htaken))
  · exact hreceived hr
  · exact hreceived (ha.worklog ▸ List.mem_append_right _ hwork)

/-- Progress that has reached a positive multiple of the cadence makes for one
offer, and other progress for none. -/
theorem offered_progress (life : InspectorLife) (now : Instant) (p : Progress) :
    (0 < p.received.toNat ∧ life.inspector.settings.cadence.toNat ∣ p.received.toNat →
      ∃ block, offered (life.step (.progress now p)).2 = [block] ∧
        block.toNat + life.inspector.settings.cadence.toNat = p.received.toNat) ∧
    (¬ (0 < p.received.toNat ∧ life.inspector.settings.cadence.toNat ∣ p.received.toNat) →
      offered (life.step (.progress now p)).2 = []) := by
  have hoffered : offered (life.step (.progress now p)).2 =
      (life.inspector.settings.targetBlock p.received).toList := offered_step life _
  rw [hoffered, ← InspectionSettings.isSome_targetBlock_iff]
  constructor
  · intro hon
    obtain ⟨block, hblock⟩ := Option.isSome_iff_exists.1 hon
    obtain ⟨-, hsum⟩ := InspectionSettings.targetBlock_eq_some_iff.1 hblock
    exact ⟨block, by rw [hblock, Option.toList_some], hsum⟩
  · intro hoff
    rw [Option.not_isSome_iff_eq_none.1 hoff, Option.toList_none]

theorem offered_look (life : InspectorLife) (now : Instant) (answer : ChainAnswer) :
    offered (life.step (.look now answer)).2 = [] := offered_step life _

theorem offered_settle (life : InspectorLife) (k : Nat) (now : Instant) :
    offered (life.step (.settle k now)).2 =
      ((life.settlement? (.settle k now)).bind (·.2)).toList := offered_step life _

section Own

variable {s : InspectionSettings} {moves : List InspectorMove}

theorem dvd_of_offered (hown : ∀ block, .trigger block ∉ moves)
    (h : block ∈ offered (play moves (.idle s)).2) : s.cadence.toNat ∣ block.toNat := by
  rw [offered_play] at h
  obtain ⟨earlier, m, later, rfl, hm⟩ := mem_along_iff.1 h
  have hsettings : (play earlier (.idle s)).1.inspector.settings = s := play_settings earlier _
  rcases offer?_eq_some hm with rfl | ⟨now, p, rfl, htarget⟩ | ⟨k, now, p, rfl, hsettled⟩
  · exact absurd (List.mem_append_right _ List.mem_cons_self) (hown block)
  · rw [hsettings] at htarget
    obtain ⟨⟨-, hdvd⟩, hsum⟩ := InspectionSettings.targetBlock_eq_some_iff.1 htarget
    rw [← hsum] at hdvd
    exact (Nat.dvd_add_left (Nat.dvd_refl _)).1 hdvd
  · obtain ⟨-, hcomes⟩ := settlement?_eq_some_iff.1 hsettled
    rw [hsettings] at hcomes
    exact hcomes.dvd

theorem dvd_of_held (hown : ∀ block, .trigger block ∉ moves)
    (h : (play moves (.idle s)).1.inspector.slot.pending = some block ∨
      block ∈ taken (play moves (.idle s)).2 ∨ block ∈ received (play moves (.idle s)).2 ∨
      block ∈ (play moves (.idle s)).1.atWork) :
    s.cadence.toNat ∣ block.toNat := by
  have ha := (Accounts.idle s).play moves
  exact dvd_of_offered hown (ha.mem_offered h)

theorem dvd_of_routineCall (hown : ∀ block, .trigger block ∉ moves) {inputs : InspectionInputs}
    (h : inputs ∈ along routineCall? moves (.idle s)) :
    s.cadence.toNat ∣ inputs.block.toNat := by
  obtain ⟨earlier, m, later, rfl, hm⟩ := mem_along_iff.1 h
  have hearlier : ∀ block, .trigger block ∉ earlier :=
    fun block hmem => hown block (List.mem_append_left _ hmem)
  exact dvd_of_held hearlier (.inr (.inr (.inr (block_of_routineCall? hm))))

/-- With cadence 0 an offer comes from a question that failed. -/
theorem failed_of_offered (hown : ∀ block, .trigger block ∉ moves) (hzero : s.cadence = 0)
    (h : block ∈ offered (play moves (.idle s)).2) :
    ∃ k now p, .settle k now ∈ moves ∧ p ∈ along question? moves (.idle s) ∧ p.Failed now := by
  rw [offered_play] at h
  obtain ⟨earlier, m, later, hmoves, hm⟩ := mem_along_iff.1 h
  have hsettings : (play earlier (.idle s)).1.inspector.settings = s := play_settings earlier _
  have hmem : m ∈ moves := hmoves ▸ List.mem_append_right _ List.mem_cons_self
  rcases offer?_eq_some hm with rfl | ⟨now, p, rfl, htarget⟩ | ⟨k, now, p, rfl, hsettled⟩
  · exact absurd hmem (hown block)
  · rw [hsettings] at htarget
    obtain ⟨⟨hpos, hdvd⟩, -⟩ := InspectionSettings.targetBlock_eq_some_iff.1 htarget
    rw [hzero] at hdvd
    exact absurd (Nat.eq_zero_of_zero_dvd hdvd) (Nat.ne_of_gt hpos)
  · obtain ⟨-, hcomes⟩ := settlement?_eq_some_iff.1 hsettled
    rw [hsettings] at hcomes
    have hmine : p ∈ (along settlement? moves (.idle s)).map (·.1) :=
      List.mem_map.2 ⟨_, mem_along_iff.2 ⟨earlier, _, later, hmoves, hsettled⟩, rfl⟩
    refine ⟨k, now, p, hmem, ?_, hcomes.failed_of_zero hzero⟩
    exact (questions_perm moves (.idle s)).mem_iff.2 (List.mem_append_left _ hmine)

end Own

end InspectorLife

open InspectorLife in
/-- **Only blocks on the cadence are inspected.**  Whatever progress is told,
looks at the clock are taken, questions to the chain are settled and steps the
worker and everybody else take, in any order, as long as nobody offers blocks by
hand:

* every block that was ever offered, waits in the slot, was taken out, is being
  inspected or was handed to the routine is a multiple of the cadence;
* with cadence 0 it is block 0, and a question to the chain has failed.

And at every moment, with `s.cadence` for the cadence:

* progress makes for one offer if it has reached a positive multiple of the
  cadence, of the block one cadence below, and for none otherwise;
* a look at the clock offers nothing, and asks at most one question;
* whoever finds a question settled offers what it has come to, and nothing else:
  the head of the chain if it is a multiple of a cadence that is not zero, block 0
  if the question failed, and otherwise nothing.

Every question that was asked has been settled once, or is still out. -/
theorem inspects_only_cadence_blocks (s : InspectionSettings) (moves : List InspectorMove)
    (hown : ∀ block, .trigger block ∉ moves) :
    let life := (play moves (.idle s)).1
    let log := (play moves (.idle s)).2
    (∀ block, (block ∈ offered log ∨ life.inspector.slot.pending = some block ∨
        block ∈ taken log ∨ block ∈ received log ∨ block ∈ life.atWork ∨
        ∃ inputs ∈ along routineCall? moves (.idle s), inputs.block = block) →
      s.cadence.toNat ∣ block.toNat) ∧
    (s.cadence = 0 → ∀ block ∈ offered log, block = 0 ∧
      ∃ asked answer k now, .look asked answer ∈ moves ∧ .settle k now ∈ moves ∧
        (ChainProbe.start s asked answer).Failed now) ∧
    (∀ now p,
      (0 < p.received.toNat ∧ s.cadence.toNat ∣ p.received.toNat →
        ∃ block, offered (life.step (.progress now p)).2 = [block] ∧
          block.toNat + s.cadence.toNat = p.received.toNat) ∧
      (¬ (0 < p.received.toNat ∧ s.cadence.toNat ∣ p.received.toNat) →
        offered (life.step (.progress now p)).2 = [])) ∧
    (∀ now answer, offered (life.step (.look now answer)).2 = [] ∧
      (life.step (.look now answer)).1.probes =
        life.probes ++ (life.question? (.look now answer)).toList) ∧
    (∀ k now, match life.settlement? (.settle k now) with
      | none => offered (life.step (.settle k now)).2 = []
      | some (p, target) =>
        offered (life.step (.settle k now)).2 = target.toList ∧ p.ComesTo s now target ∧
          ∃ asked answer, .look asked answer ∈ moves ∧ p = .start s asked answer) ∧
    (along question? moves (.idle s)).Perm
      ((along settlement? moves (.idle s)).map (·.1) ++ life.probes) := by
  intro life log
  have hsettings : life.inspector.settings = s := play_settings moves _
  have hquestions : (along question? moves (.idle s)).Perm
      ((along settlement? moves (.idle s)).map (·.1) ++ life.probes) :=
    questions_perm moves (.idle s)
  refine ⟨fun block hblock => ?_, fun hzero block hblock => ⟨?_, ?_⟩, fun now p => ?_,
    fun now answer => ⟨offered_look life now answer, probes_look life now answer⟩,
    fun k now => ?_, hquestions⟩
  · rcases hblock with hoffered | hpending | htaken | hreceived | hwork | ⟨inputs, hcall, rfl⟩
    · exact dvd_of_offered hown hoffered
    · exact dvd_of_held hown (.inl hpending)
    · exact dvd_of_held hown (.inr (.inl htaken))
    · exact dvd_of_held hown (.inr (.inr (.inl hreceived)))
    · exact dvd_of_held hown (.inr (.inr (.inr hwork)))
    · exact dvd_of_routineCall hown hcall
  · have hdvd := dvd_of_offered hown hblock
    rw [hzero] at hdvd
    exact UInt64.toNat_inj.1 (Nat.eq_zero_of_zero_dvd hdvd)
  · obtain ⟨k, now, p, hsettle, hasked, hfailed⟩ := failed_of_offered hown hzero hblock
    obtain ⟨asked, answer, hlook, rfl⟩ := asked_of_mem rfl hasked
    exact ⟨asked, answer, k, now, hlook, hsettle, hfailed⟩
  · exact hsettings ▸ offered_progress life now p
  · rw [offered_settle]
    cases hs : life.settlement? (.settle k now) with
    | none => rfl
    | some found =>
        obtain ⟨hp, hcomes⟩ := settlement?_eq_some_iff.1 hs
        have hout : found.1 ∈ life.probes := List.mem_of_getElem? hp
        have hasked := asked_of_mem rfl (hquestions.mem_iff.2 (List.mem_append_right _ hout))
        exact ⟨rfl, hsettings ▸ hcomes, hasked⟩

/-! ## A chain that does not answer -/

namespace UnansweredQuestion

/-- The cadence is 0. -/
def settings : InspectionSettings := .standard 0 "http://chain" "http://proxy"

/-- Progress reaches block 15 and falls silent, and the chain answers with an
error. -/
def moves : List InspectorMove :=
  [.progress 0 ⟨15, 15, none⟩, .look 700000000000 (.answers (.ofSecs 1) (.error (.rpc "down"))),
    .settle 0 701000000000]

end UnansweredQuestion

open InspectorLife UnansweredQuestion in
/-- Block 0 is offered once, since the question failed. -/
theorem inspects_only_cadence_blocks_unanswered :
    offered (play moves (.idle settings)).2 = [0] ∧
      ∃ asked answer k now, .look asked answer ∈ moves ∧ .settle k now ∈ moves ∧
        (ChainProbe.start settings asked answer).Failed now := by
  have hoffered : offered (play moves (.idle settings)).2 = [0] := by decide
  have hcadence := inspects_only_cadence_blocks settings moves (by simp [moves])
  exact ⟨hoffered, (hcadence.2.1 rfl 0 (hoffered ▸ List.mem_cons_self)).2⟩

end NodeKeeper
