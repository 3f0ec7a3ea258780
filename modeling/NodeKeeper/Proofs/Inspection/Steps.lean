/-
# What a step of an inspector may change

A step of the life of an inspector moves one start, or makes one offer, or takes
out one block, or moves one worker.  `Happens` lists what may happen and what is
noted of it, and `step_happens` says that there is nothing else; what holds of
every life is proved from this list.

    Offers i block r    the inspector has been told something that called for an
                        offer of the block, or of none, and `r` came of it
    Happens l l' log    in one step `l` has become `l'`, and `log` was noted
-/
import NodeKeeper.Inspection.Life

namespace NodeKeeper

/-- What has been noted of an inspector, in order. -/
abbrev InspectorLog := List InspectorEvent

/-! ## Slot, trials and inspector -/

namespace PendingSlot

variable {slot slot' : PendingSlot} {block : UInt64} {outcome : TriggerOutcome}

theorem takeReceiver_home (h : slot.receiver = .home) :
    slot.takeReceiver = (true, { slot with receiver := .taken }) := if_pos h

theorem takeReceiver_away (h : slot.receiver ≠ .home) : slot.takeReceiver = (false, slot) :=
  if_neg h

theorem tryTake_home (h : slot.receiver = .home) :
    slot.tryTake = (slot.pending, { slot with pending := none }) := if_pos h

theorem tryTake_away (h : slot.receiver ≠ .home) : slot.tryTake = (none, slot) := if_neg h

theorem receive_eq_some (h : slot.receive = (some block, slot')) :
    slot.pending = some block ∧ slot' = { slot with pending := none } := by
  unfold receive at h
  split at h
  · exact ⟨congrArg Prod.fst h, (congrArg Prod.snd h).symm⟩
  · cases h

theorem offer_cases (h : slot.offer block = (outcome, slot')) :
    (outcome = .closed ∧ slot.isOpen = false ∧ slot' = slot) ∨
    (outcome = .busy ∧ slot.isOpen = true ∧ slot.pending ≠ none ∧ slot' = slot) ∨
    (outcome = .queued ∧ slot.isOpen = true ∧ slot.pending = none ∧
      slot' = { slot with pending := some block }) := by
  unfold offer at h
  split at h
  case isTrue hopen =>
    cases h
    exact .inl ⟨rfl, Bool.not_eq_true _ ▸ hopen, rfl⟩
  case isFalse hopen =>
    have hopen : slot.isOpen = true := Decidable.not_not.1 hopen
    split at h <;> cases h
    case isTrue hp => exact .inr (.inl ⟨rfl, hopen, Option.isSome_iff_ne_none.1 hp, rfl⟩)
    case isFalse hp =>
      exact .inr (.inr ⟨rfl, hopen, Option.not_isSome_iff_eq_none.1 hp, rfl⟩)

theorem receiver_of_offer (h : slot.offer block = (outcome, slot')) :
    slot'.receiver = slot.receiver := by
  rcases offer_cases h with ⟨_, _, rfl⟩ | ⟨_, _, _, rfl⟩ | ⟨_, _, _, rfl⟩ <;> rfl

theorem ne_gone_of_isOpen (h : slot.isOpen = true) : slot.receiver ≠ .gone := by
  intro hg
  simp [isOpen, hg] at h

theorem isOpen_eq_false_iff (h : slot.receiver ≠ .shut) :
    slot.isOpen = false ↔ slot.receiver = .gone := by
  unfold isOpen
  cases hr : slot.receiver <;> simp_all

/-- What an offer answers says what the slot holds, and only a queued one
changes it. -/
theorem offer_exact (hopen : slot.receiver ≠ .shut)
    (hempty : slot.receiver = .gone → slot.pending = none)
    (h : slot.offer block = (outcome, slot')) :
    (outcome = .queued ↔ slot.pending = none ∧ slot.receiver ≠ .gone) ∧
    (outcome = .busy ↔ slot.pending ≠ none) ∧
    (outcome = .closed ↔ slot.receiver = .gone) ∧
    (outcome = .queued → slot'.pending = some block) ∧
    (outcome ≠ .queued → slot' = slot) := by
  rcases offer_cases h with ⟨rfl, hop, rfl⟩ | ⟨rfl, hop, hp, rfl⟩ | ⟨rfl, hop, hp, rfl⟩
  · have hgone := (isOpen_eq_false_iff hopen).1 hop
    simp [hgone, hempty hgone]
  · simp [ne_gone_of_isOpen hop, hp]
  · simp [ne_gone_of_isOpen hop, hp]

theorem dropReceiver_taken (h : slot.receiver = .taken) : slot.dropReceiver = ⟨none, .gone⟩ :=
  if_neg (by simp [h])

end PendingSlot

namespace Trial

variable {s : InspectionSettings} {now : Instant} {cancelled : Bool} {next : Attempt} {t t' : Trial}

theorem block_of_afterFailure {results : Option InspectionResults} {e : InspectionError}
    (h : t.afterFailure s now results e = .goes t') : t'.block = t.block := by
  simp only [afterFailure] at h
  split at h
  · cases h
  · cases h; rfl

theorem block_of_afterOutcome {o : InspectionOutcome} (h : t.afterOutcome s now o = .goes t') :
    t'.block = t.block := by
  unfold afterOutcome at h
  split at h
  · cases h
  · exact block_of_afterFailure h

theorem block_of_goes (h : t.step s now cancelled next = .goes t') : t'.block = t.block := by
  unfold step at h
  grind [block_of_afterOutcome, block_of_afterFailure]

theorem block_of_begins (h : t.step s now cancelled next = .begins t') : t'.block = t.block := by
  unfold step afterOutcome afterFailure at h
  grind

end Trial

namespace Inspector

theorem slot_conclude (i : Inspector) (time : Timestamp) (result : Except InspectionError Unit) :
    (i.conclude time result).slot = i.slot := by
  unfold conclude
  split <;> rfl

theorem settings_conclude (i : Inspector) (time : Timestamp)
    (result : Except InspectionError Unit) : (i.conclude time result).settings = i.settings := by
  unfold conclude
  split <;> rfl

theorem settings_heed (i : Inspector) (now : Instant) (p : Progress) :
    (i.heed now p).2.settings = i.settings := by
  cases ht : i.settings.targetBlock p.received with
  | none => simp only [heed, ht]
  | some block =>
      simp only [heed, ht]
      rfl

/-- What the inspector says to something that may have called for an offer, and
what becomes of it. -/
inductive Offers (i : Inspector) : Option UInt64 → Option TriggerOutcome × Inspector → Prop where
  | nothing {i' : Inspector} : i'.slot = i.slot → Offers i none (none, i')
  | offer {block : UInt64} {outcome : TriggerOutcome} {i' : Inspector} :
      i.slot.offer block = (outcome, i'.slot) → Offers i (some block) (some outcome, i')

theorem trigger_offers (i : Inspector) (block : UInt64) :
    i.Offers (some block) (some (i.trigger block).1, (i.trigger block).2) := .offer rfl

theorem heed_offers (i : Inspector) (now : Instant) (p : Progress) :
    i.Offers (i.settings.targetBlock p.received) (i.heed now p) := by
  cases ht : i.settings.targetBlock p.received with
  | none =>
      simp only [heed, ht]
      exact .nothing rfl
  | some block =>
      simp only [heed, ht]
      exact .offer rfl

theorem afterProbe_offers (i : Inspector) (target : Option UInt64) :
    i.Offers target (i.afterProbe target) := by
  cases target with
  | none => exact .nothing rfl
  | some block => exact .offer rfl

end Inspector

/-! ## What a step may change -/

namespace InspectorLife

/-- What may happen in one step, and what is noted of it. -/
inductive Happens (life : InspectorLife) : InspectorLife → InspectorLog → Prop where
  /-- nothing that concerns slot, starts or workers -/
  | aside {i : Inspector} {probes : List ChainProbe} :
      i.slot = life.inspector.slot →
      Happens life { life with inspector := i, probes := probes } []
  | called : Happens life { life with starts := life.starts ++ [.fresh] } []
  /-- a start returns without the receiving end -/
  | declined {i : Nat} {r : Except Failure Bool} :
      life.starts[i]? = some .fresh → r ≠ .ok true →
      Happens life (life.setStart i (.returned r)) [.returned r]
  /-- a start gets the receiving end -/
  | handedOut {i : Nat} :
      life.starts[i]? = some .fresh → life.inspector.slot.receiver = .home →
      Happens life ((life.withSlot { life.inspector.slot with receiver := .taken }).setStart i
        .subscribing) []
  /-- a start gives the receiving end to a worker -/
  | subscribed {i : Nat} :
      life.starts[i]? = some .subscribing → Happens life (life.spawn.setStart i .noting) []
  | refused {i : Nat} {e : BusError} :
      life.starts[i]? = some .subscribing →
      Happens life ((life.withSlot life.inspector.slot.dropReceiver).setStart i
        (.returned (.error (.bus e)))) [.lost, .returned (.error (.bus e))]
  | dropped {i : Nat} :
      life.starts[i]? = some .subscribing →
      Happens life ((life.withSlot life.inspector.slot.dropReceiver).setStart i .abandoned) [.lost]
  | started {i : Nat} :
      life.starts[i]? = some .noting →
      Happens life (life.setStart i (.returned (.ok true))) [.returned (.ok true)]
  | givenUp {i : Nat} {stage : StartStage} :
      life.starts[i]? = some stage → (stage = .fresh ∨ stage = .noting) →
      Happens life (life.setStart i .abandoned) []
  | offered {i : Inspector} {probes : List ChainProbe} {block : UInt64} {outcome : TriggerOutcome} :
      life.inspector.slot.offer block = (outcome, i.slot) →
      Happens life { life with inspector := i, probes := probes } [.offered block outcome]
  | taken {block : UInt64} :
      life.inspector.slot.receiver = .home → life.inspector.slot.pending = some block →
      Happens life (life.withSlot { life.inspector.slot with pending := none }) [.taken block]
  /-- a worker begins to inspect the pending block -/
  | received {k : Nat} {block : UInt64} {now : Instant} :
      life.workers[k]? = some .waiting → life.inspector.slot.pending = some block →
      Happens life ((life.withSlot { life.inspector.slot with pending := none }).setWorker k
        (.inspecting (.start block now))) [.received block]
  /-- an inspection goes on -/
  | stepped {k : Nat} {t t' : Trial} :
      life.workers[k]? = some (.inspecting t) → t'.block = t.block →
      Happens life (life.setWorker k (.inspecting t')) []
  | inspected {i : Inspector} {k : Nat} {t : Trial} {results : Option InspectionResults}
      {result : Except InspectionError Unit} :
      life.workers[k]? = some (.inspecting t) → i.slot = life.inspector.slot →
      Happens life ({ life with inspector := i }.setWorker k .waiting)
        [.inspected t.block results result]
  /-- a worker ends -/
  | ended {k : Nat} :
      life.workers[k]? = some .waiting →
      Happens life ((life.withSlot life.inspector.slot.dropReceiver).setWorker k .gone) [.lost]
  /-- a worker crashes over its block -/
  | fell {k : Nat} {t : Trial} :
      life.workers[k]? = some (.inspecting t) →
      Happens life ((life.withSlot life.inspector.slot.dropReceiver).setWorker k .gone)
        [.broken t.block, .lost]

variable {life life' : InspectorLife} {log events : InspectorLog}

theorem Happens.nothing (life : InspectorLife) : Happens life life [] := .aside rfl

theorem proceed_happens (life : InspectorLife) (i : Nat) (subscription : Except BusError Unit) :
    Happens life (life.proceed i subscription).1 (life.proceed i subscription).2 := by
  unfold proceed
  split
  case h_1 hs =>
    split
    case isTrue => exact .declined hs nofun
    case isFalse =>
      by_cases hr : life.inspector.slot.receiver = .home
      · rw [PendingSlot.takeReceiver_home hr]
        exact .handedOut hs hr
      · rw [PendingSlot.takeReceiver_away hr]
        exact .declined hs nofun
  case h_2 hs =>
    cases subscription with
    | ok => exact .subscribed hs
    | error e => exact .refused hs
  case h_3 hs => exact .started hs
  case h_4 => exact .nothing life

theorem abandon_happens (life : InspectorLife) (i : Nat) :
    Happens life (life.abandon i).1 (life.abandon i).2 := by
  unfold abandon
  split
  case h_1 hs => exact .dropped hs
  case h_2 hs => exact .givenUp hs (.inl rfl)
  case h_3 hs => exact .givenUp hs (.inr rfl)
  case h_4 => exact .nothing life

theorem answered_happens {target : Option UInt64} {r : Option TriggerOutcome × Inspector}
    (ho : life.inspector.Offers target r) (probes : List ChainProbe) :
    Happens life ({ life with probes := probes }.answered target r).1
      ({ life with probes := probes }.answered target r).2 := by
  cases ho with
  | nothing hslot => exact .aside hslot
  | offer hslot => exact .offered hslot

theorem settle_happens (life : InspectorLife) (k : Nat) (now : Instant) :
    Happens life (life.settle k now).1 (life.settle k now).2 := by
  unfold settle
  split
  case h_1 => exact .nothing life
  case h_2 =>
    split
    case h_1 => exact .nothing life
    case h_2 target _ => exact answered_happens (life.inspector.afterProbe_offers target) _

theorem work_happens (life : InspectorLife) (k : Nat) (now : Instant) (cancelled : Bool)
    (next : Attempt) (time : Timestamp) :
    Happens life (life.work k now cancelled next time).1
      (life.work k now cancelled next time).2 := by
  unfold work
  split
  case h_1 hw =>
    split
    case isTrue => exact .ended hw
    case isFalse =>
      split
      case h_1 => exact .nothing life
      case h_2 block slot heq =>
        obtain ⟨hp, rfl⟩ := PendingSlot.receive_eq_some heq
        exact .received hw hp
  case h_2 t hw =>
    split
    case h_1 => exact .nothing life
    case h_2 t' heq => exact .stepped hw (Trial.block_of_goes heq)
    case h_3 t' heq => exact .stepped hw (Trial.block_of_begins heq)
    case h_4 => exact .inspected hw (Inspector.slot_conclude ..)
  case h_3 => exact .nothing life

theorem crash_happens (life : InspectorLife) (k : Nat) :
    Happens life (life.crash k).1 (life.crash k).2 := by
  unfold crash
  split
  case h_1 hw => exact .ended hw
  case h_2 hw => exact .fell hw
  case h_3 => exact .nothing life

theorem take_happens (life : InspectorLife) :
    Happens life (life.step .take).1 (life.step .take).2 := by
  simp only [step, Inspector.takePending]
  by_cases hr : life.inspector.slot.receiver = .home
  · rw [PendingSlot.tryTake_home hr]
    cases hp : life.inspector.slot.pending with
    | none =>
        refine .aside ?_
        show { life.inspector.slot with pending := none } = life.inspector.slot
        rw [← hp]
    | some block => exact .taken hr hp
  · rw [PendingSlot.tryTake_away hr]
    exact .nothing life

theorem step_happens (life : InspectorLife) (m : InspectorMove) :
    Happens life (life.step m).1 (life.step m).2 := by
  cases m with
  | call => exact .called
  | start i subscription => exact proceed_happens life i subscription
  | abandon i => exact abandon_happens life i
  | progress now p => exact answered_happens (life.inspector.heed_offers now p) _
  | trigger block => exact answered_happens (life.inspector.trigger_offers block) _
  | look now answer =>
      simp only [step]
      split
      case isTrue => exact .aside rfl
      case isFalse => exact .nothing life
  | settle k now => exact settle_happens life k now
  | take => exact take_happens life
  | work k now cancelled next time => exact work_happens life k now cancelled next time
  | crash k => exact crash_happens life k
  | conclude time result => exact .aside (Inspector.slot_conclude ..)

end InspectorLife

end NodeKeeper
