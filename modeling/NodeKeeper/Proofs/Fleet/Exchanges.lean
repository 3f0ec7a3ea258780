/-
# What passes between the fleet and its surroundings

The exchanges that matter to the bookkeeping, and what a history says:

    givenIds h         the ids that successful starts have given, in order
    askedIds h         the ids that were to be stopped
    stoppedIds h       those of them whose stop has succeeded
    unstoppedIds h     those of them whose stop has failed
    publications h     what has been published
    liveAfter live h   the ids that are live after `h`, when those of `live` were before

An id is live when its start has succeeded and no stop on it has succeeded
since (`mem_liveAfter_iff`).
-/
import NodeKeeper.Fleet.Session
import NodeKeeper.Proofs.History

namespace NodeKeeper

abbrev FleetExchange : Type := Exchange FleetRequest FleetRequest.Answer

abbrev FleetHistory : Type := List FleetExchange

namespace FleetExchange

/-! ## Exchanges by name -/

/-- The engine has answered a call. -/
abbrev answered (c : RuntimeCall) (answer : c.Answer) : FleetExchange := ⟨.runtime c, answer⟩

abbrev started (spec : ContainerSpec) (handle : Handle) : FleetExchange :=
  answered (.start spec) (.ok handle)

abbrev startFailed (spec : ContainerSpec) (cause : RuntimeError) : FleetExchange :=
  answered (.start spec) (.error cause)

abbrev stopped (id : String) : FleetExchange := answered (.stop id) (.ok ())

abbrev stopFailed (id : String) (cause : RuntimeError) : FleetExchange :=
  answered (.stop id) (.error cause)

abbrev attached (container network : String) (how : Attachment) : FleetExchange :=
  answered (.attach container network) (.ok how)

abbrev attachFailed (container network : String) (cause : RuntimeError) : FleetExchange :=
  answered (.attach container network) (.error cause)

abbrev published (subject : String) (batch : List Agent) : FleetExchange :=
  ⟨.publish subject batch, ()⟩

abbrev counted (n : Nat) : FleetExchange := ⟨.setCount n, ()⟩

/-! ## What an exchange says of ids -/

/-- The id of the container that has been started. -/
def givenId? : FleetExchange → Option String
  | ⟨.runtime (.start _), .ok handle⟩ => some handle.id
  | _ => none

/-- The id of the container that was to be stopped. -/
def askedId? : FleetExchange → Option String
  | ⟨.runtime (.stop id), _⟩ => some id
  | _ => none

/-- The id of the container that has been stopped. -/
def stoppedId? : FleetExchange → Option String
  | ⟨.runtime (.stop id), .ok _⟩ => some id
  | _ => none

/-- The id of the container whose stop has failed. -/
def unstoppedId? : FleetExchange → Option String
  | ⟨.runtime (.stop id), .error _⟩ => some id
  | _ => none

/-- What has been published, under which subject. -/
def publication? : FleetExchange → Option (String × List Agent)
  | ⟨.publish subject batch, _⟩ => some (subject, batch)
  | _ => none

/-- An exchange that asks neither for a start nor for a stop. -/
def IsQuiet (e : FleetExchange) : Prop :=
  match e.request with
  | .runtime (.start _) => False
  | .runtime (.stop _) => False
  | _ => True

/-- A container that is started has the name that was asked for. -/
def KeepsName : FleetExchange → Prop
  | ⟨.runtime (.start spec), .ok handle⟩ => handle.name = spec.name
  | _ => True

instance : DecidablePred KeepsName := fun e => by
  unfold KeepsName
  split
  · infer_instance
  · infer_instance

theorem stoppedId?_eq_some {e : FleetExchange} {id : String} :
    e.stoppedId? = some id ↔ e = stopped id := by
  constructor
  · intro h
    unfold stoppedId? at h
    split at h
    · cases h; rfl
    · exact nomatch h
  · rintro rfl; rfl

theorem unstoppedId?_eq_some {e : FleetExchange} {id : String} :
    e.unstoppedId? = some id ↔ ∃ cause, e = stopFailed id cause := by
  constructor
  · intro h
    unfold unstoppedId? at h
    split at h
    · cases h; exact ⟨_, rfl⟩
    · exact nomatch h
  · rintro ⟨cause, rfl⟩; rfl

theorem askedId?_eq_some {e : FleetExchange} {id : String} :
    e.askedId? = some id ↔ ∃ answer, e = answered (.stop id) answer := by
  constructor
  · intro h
    unfold askedId? at h
    split at h
    · cases h; exact ⟨_, rfl⟩
    · exact nomatch h
  · rintro ⟨answer, rfl⟩; rfl

theorem askedId?_eq_some_iff {e : FleetExchange} {id : String} :
    e.askedId? = some id ↔ e.stoppedId? = some id ∨ e.unstoppedId? = some id := by
  rw [askedId?_eq_some, stoppedId?_eq_some, unstoppedId?_eq_some]
  constructor
  · rintro ⟨answer, rfl⟩
    match answer with
    | .ok () => exact .inl rfl
    | .error cause => exact .inr ⟨cause, rfl⟩
  · rintro (rfl | ⟨cause, rfl⟩)
    · exact ⟨_, rfl⟩
    · exact ⟨_, rfl⟩

theorem stoppedId?_of_givenId? {e : FleetExchange} {id : String} (h : e.givenId? = some id) :
    e.stoppedId? = none := by
  unfold givenId? at h
  split at h
  · rfl
  · exact nomatch h

theorem IsQuiet.givenId? {e : FleetExchange} (h : e.IsQuiet) : e.givenId? = none := by
  unfold FleetExchange.givenId?
  split
  · exact h.elim
  · rfl

theorem IsQuiet.askedId? {e : FleetExchange} (h : e.IsQuiet) : e.askedId? = none := by
  unfold FleetExchange.askedId?
  split
  · exact h.elim
  · rfl

theorem stoppedId?_of_askedId? {e : FleetExchange} (h : e.askedId? = none) :
    e.stoppedId? = none :=
  Option.eq_none_iff_forall_ne_some.2 fun _ hs =>
    nomatch (askedId?_eq_some_iff.2 (.inl hs)).symm.trans h

theorem unstoppedId?_of_askedId? {e : FleetExchange} (h : e.askedId? = none) :
    e.unstoppedId? = none :=
  Option.eq_none_iff_forall_ne_some.2 fun _ hs =>
    nomatch (askedId?_eq_some_iff.2 (.inr hs)).symm.trans h

/-! ## What an exchange does to the set of live containers -/

/-- The live containers after an exchange. -/
def liveAfter (live : List String) (e : FleetExchange) : List String :=
  (e.givenId?.toList ++ live).filter fun id => e.stoppedId? ≠ some id

theorem mem_liveAfter {live : List String} {e : FleetExchange} {id : String} :
    id ∈ e.liveAfter live ↔ (e.givenId? = some id ∨ id ∈ live) ∧ e.stoppedId? ≠ some id := by
  simp only [liveAfter, List.mem_filter, List.mem_append, Option.mem_toList, decide_eq_true_eq]

@[simp] theorem liveAfter_started (live : List String) (spec : ContainerSpec) (handle : Handle) :
    (started spec handle).liveAfter live = handle.id :: live := by
  simp [liveAfter, givenId?, stoppedId?]

@[simp] theorem liveAfter_startFailed (live : List String) (spec : ContainerSpec)
    (cause : RuntimeError) : (startFailed spec cause).liveAfter live = live := by
  simp [liveAfter, givenId?, stoppedId?]

@[simp] theorem liveAfter_stopFailed (live : List String) (id : String) (cause : RuntimeError) :
    (stopFailed id cause).liveAfter live = live := by
  simp [liveAfter, givenId?, stoppedId?]

@[simp] theorem liveAfter_stopped (live : List String) (id : String) :
    (stopped id).liveAfter live = live.filter fun id' => id ≠ id' := by
  simp [liveAfter, givenId?, stoppedId?]

theorem IsQuiet.liveAfter {e : FleetExchange} (h : e.IsQuiet) (live : List String) :
    e.liveAfter live = live := by
  have hnone : e.stoppedId? = none := stoppedId?_of_askedId? h.askedId?
  simp [FleetExchange.liveAfter, h.givenId?, hnone]

end FleetExchange

namespace FleetHistory

open FleetExchange

variable {h h' : FleetHistory} {live : List String} {id : String}

/-- The ids that successful starts have given. -/
def givenIds (h : FleetHistory) : List String := h.filterMap givenId?

/-- The ids that were to be stopped. -/
def askedIds (h : FleetHistory) : List String := h.filterMap askedId?

/-- The ids whose stop has succeeded. -/
def stoppedIds (h : FleetHistory) : List String := h.filterMap stoppedId?

/-- The ids whose stop has failed. -/
def unstoppedIds (h : FleetHistory) : List String := h.filterMap unstoppedId?

/-- What has been published, in order, with the subjects. -/
def publications (h : FleetHistory) : List (String × List Agent) := h.filterMap publication?

/-- The live containers after a history. -/
def liveAfter (live : List String) (h : FleetHistory) : List String :=
  h.foldl FleetExchange.liveAfter live

@[simp] theorem givenIds_append (h h' : FleetHistory) :
    givenIds (h ++ h') = givenIds h ++ givenIds h' :=
  List.filterMap_append

@[simp] theorem askedIds_append (h h' : FleetHistory) :
    askedIds (h ++ h') = askedIds h ++ askedIds h' :=
  List.filterMap_append

@[simp] theorem stoppedIds_append (h h' : FleetHistory) :
    stoppedIds (h ++ h') = stoppedIds h ++ stoppedIds h' :=
  List.filterMap_append

@[simp] theorem unstoppedIds_append (h h' : FleetHistory) :
    unstoppedIds (h ++ h') = unstoppedIds h ++ unstoppedIds h' :=
  List.filterMap_append

@[simp] theorem publications_append (h h' : FleetHistory) :
    publications (h ++ h') = publications h ++ publications h' :=
  List.filterMap_append

theorem liveAfter_append (live : List String) (h h' : FleetHistory) :
    liveAfter live (h ++ h') = liveAfter (liveAfter live h) h' :=
  List.foldl_append

@[simp] theorem liveAfter_nil (live : List String) : liveAfter live [] = live := rfl

@[simp] theorem liveAfter_cons (live : List String) (e : FleetExchange) (h : FleetHistory) :
    liveAfter live (e :: h) = liveAfter (e.liveAfter live) h := rfl

theorem mem_givenIds : id ∈ givenIds h ↔ ∃ e ∈ h, e.givenId? = some id := List.mem_filterMap

theorem mem_stoppedIds : id ∈ stoppedIds h ↔ stopped id ∈ h := by
  refine List.mem_filterMap.trans ⟨?_, fun hm => ⟨_, hm, rfl⟩⟩
  rintro ⟨e, he, hid⟩
  rw [stoppedId?_eq_some] at hid
  exact hid ▸ he

theorem mem_unstoppedIds : id ∈ unstoppedIds h ↔ ∃ cause, stopFailed id cause ∈ h := by
  refine List.mem_filterMap.trans ⟨?_, fun ⟨_, hm⟩ => ⟨_, hm, rfl⟩⟩
  rintro ⟨e, he, hid⟩
  obtain ⟨cause, rfl⟩ := unstoppedId?_eq_some.1 hid
  exact ⟨cause, he⟩

theorem mem_askedIds_iff : id ∈ askedIds h ↔ id ∈ stoppedIds h ∨ id ∈ unstoppedIds h := by
  simp only [askedIds, stoppedIds, unstoppedIds, List.mem_filterMap, askedId?_eq_some_iff,
    and_or_left, exists_or]

/-- A container is live when it has been started and not stopped since, or was
live before and has not been stopped. -/
theorem mem_liveAfter_iff :
    id ∈ liveAfter live h ↔
      (∃ before e after, h = before ++ e :: after ∧ e.givenId? = some id ∧
        ∀ e' ∈ after, e'.stoppedId? ≠ some id) ∨
      (id ∈ live ∧ ∀ e ∈ h, e.stoppedId? ≠ some id) := by
  induction h generalizing live with
  | nil => simp
  | cons e h ih =>
      rw [liveAfter_cons, ih]
      constructor
      · rintro (⟨before, e', after, rfl, hg, hs⟩ | ⟨hl, hs⟩)
        · exact .inl ⟨e :: before, e', after, rfl, hg, hs⟩
        · obtain ⟨hg | hl, he⟩ := mem_liveAfter.1 hl
          · exact .inl ⟨[], e, h, rfl, hg, hs⟩
          · exact .inr ⟨hl, List.forall_mem_cons.2 ⟨he, hs⟩⟩
      · rintro (⟨before, e', after, heq, hg, hs⟩ | ⟨hl, hs⟩)
        · cases before with
          | nil =>
              obtain ⟨rfl, rfl⟩ := List.cons.inj heq
              have he : e.stoppedId? ≠ some id := by simp [stoppedId?_of_givenId? hg]
              exact .inr ⟨mem_liveAfter.2 ⟨.inl hg, he⟩, hs⟩
          | cons b before =>
              obtain ⟨rfl, rfl⟩ := List.cons.inj heq
              exact .inl ⟨before, e', after, rfl, hg, hs⟩
        · obtain ⟨he, hs⟩ := List.forall_mem_cons.1 hs
          exact .inr ⟨mem_liveAfter.2 ⟨.inr hl, he⟩, hs⟩

theorem mem_liveAfter_of_not_given (hg : id ∉ givenIds h) :
    id ∈ liveAfter live h ↔ id ∈ live ∧ id ∉ stoppedIds h := by
  have hs : (∀ e ∈ h, e.stoppedId? ≠ some id) ↔ id ∉ stoppedIds h := by
    simp only [stoppedIds, List.mem_filterMap, not_exists, not_and, ne_eq]
  rw [mem_liveAfter_iff, ← hs]
  constructor
  · rintro (⟨before, e, after, rfl, he, _⟩ | hl)
    · exact absurd (mem_givenIds.2 ⟨e, by simp, he⟩) hg
    · exact hl
  · exact .inr

/-! ## Quiet histories -/

/-- A history in which no start and no stop is asked for. -/
def IsQuiet (h : FleetHistory) : Prop := ∀ e ∈ h, e.IsQuiet

theorem isQuiet_nil : IsQuiet [] := fun _ h => absurd h List.not_mem_nil

theorem isQuiet_cons {e : FleetExchange} : IsQuiet (e :: h) ↔ e.IsQuiet ∧ IsQuiet h :=
  List.forall_mem_cons

theorem IsQuiet.append (hh : IsQuiet h) (hh' : IsQuiet h') : IsQuiet (h ++ h') :=
  List.forall_mem_append.2 ⟨hh, hh'⟩

theorem IsQuiet.givenIds (hh : IsQuiet h) : givenIds h = [] :=
  List.filterMap_eq_nil_iff.2 fun e he => (hh e he).givenId?

theorem IsQuiet.askedIds (hh : IsQuiet h) : askedIds h = [] :=
  List.filterMap_eq_nil_iff.2 fun e he => (hh e he).askedId?

theorem IsQuiet.stoppedIds (hh : IsQuiet h) : stoppedIds h = [] :=
  List.filterMap_eq_nil_iff.2 fun e he => stoppedId?_of_askedId? (hh e he).askedId?

theorem IsQuiet.unstoppedIds (hh : IsQuiet h) : unstoppedIds h = [] :=
  List.filterMap_eq_nil_iff.2 fun e he => unstoppedId?_of_askedId? (hh e he).askedId?

theorem IsQuiet.liveAfter (hh : IsQuiet h) (live : List String) : liveAfter live h = live := by
  induction h generalizing live with
  | nil => rfl
  | cons e h ih =>
      obtain ⟨he, hh⟩ := isQuiet_cons.1 hh
      rw [liveAfter_cons, he.liveAfter, ih hh]

/-! ## The first start -/

variable {before : FleetHistory}

theorem IsQuiet.givenIds_start (hq : IsQuiet before) (spec : ContainerSpec) (handle : Handle)
    (h : FleetHistory) :
    FleetHistory.givenIds (before ++ started spec handle :: h) =
      handle.id :: FleetHistory.givenIds h := by
  rw [givenIds_append, hq.givenIds]; rfl

theorem IsQuiet.unstoppedIds_start (hq : IsQuiet before) (spec : ContainerSpec) (handle : Handle)
    (h : FleetHistory) :
    FleetHistory.unstoppedIds (before ++ started spec handle :: h) =
      FleetHistory.unstoppedIds h := by
  rw [unstoppedIds_append, hq.unstoppedIds]; rfl

theorem IsQuiet.liveAfter_start (hq : IsQuiet before) (live : List String) (spec : ContainerSpec)
    (handle : Handle) (h : FleetHistory) :
    FleetHistory.liveAfter live (before ++ started spec handle :: h) =
      FleetHistory.liveAfter (handle.id :: live) h := by
  rw [liveAfter_append, hq.liveAfter, liveAfter_cons, liveAfter_started]

end FleetHistory

end NodeKeeper
