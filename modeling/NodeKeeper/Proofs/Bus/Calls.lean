/-
# What has been asked for and accepted

A call that puts a payload into a queue, or gives a subject its handler, is
settled with that.  So what stands in the queues was published, every payload once
for the call that published it and as it was given, and likewise for handlers.

    asked moves     the calls that were made, in order
    accepted log    the calls that got a place in a queue or a lane, with what
                    they asked for, in the order in which they got it

**Proved here.**

    a call gets what it asked for at most once           (`Paperwork.step`)
    at every moment of every run                         (`Paperwork.play`)
-/
import NodeKeeper.Proofs.Bus.Steps

namespace NodeKeeper

variable {Handler : Type}

/-- The call that somebody makes. -/
def BusMove.call? : BusMove Handler → Option (BusCall Handler)
  | .publish subject payload => some (.publishing subject payload)
  | .subscribe subject handler => some (.subscribing subject handler)
  | _ => none

/-- The calls that are made, in order. -/
def asked (moves : List (BusMove Handler)) : List (BusCall Handler) := moves.filterMap (·.call?)

theorem asked_append (moves moves' : List (BusMove Handler)) :
    asked (moves ++ moves') = asked moves ++ asked moves' :=
  List.filterMap_append

/-- The call that has got what it asked for, if one has. -/
def BusNote.accepted? : BusNote Handler → Option (Nat × BusCall Handler)
  | .queued i subject payload => some (i, .publishing subject payload)
  | .subscribed i subject handler => some (i, .subscribing subject handler)
  | _ => none

namespace TrafficLog

/-- The calls that have got what they asked for, in this order. -/
def accepted (log : TrafficLog Handler) : List (Nat × BusCall Handler) :=
  log.filterMap (·.accepted?)

@[simp] theorem accepted_append (log log' : TrafficLog Handler) :
    accepted (log ++ log') = accepted log ++ accepted log' :=
  List.filterMap_append

theorem accepted_on_sublist (subject : String) (log : TrafficLog Handler) :
    (accepted (on subject log)).Sublist (accepted log) :=
  List.Sublist.filterMap _ List.filter_sublist

end TrafficLog

open TrafficLog

theorem Lane.Happens.accepted {cancelled : Bool} {subject : String} {lane lane' : Lane Handler}
    {notes : TrafficLog Handler} (h : Lane.Happens cancelled subject lane lane' notes) :
    notes.accepted = [] := by
  cases h <;> rfl

/-- Has the call got what it asked for, or never will? -/
def BusCall.isSettled : BusCall Handler → Bool
  | .noting | .done => true
  | .publishing _ _ | .subscribing _ _ => false

namespace Traffic

variable {reads : Handler → Payload → Bool} {t t' : Traffic Handler}
  {calls : List (BusCall Handler)} {got : List (Nat × BusCall Handler)} {i : Nat}
  {c c' : BusCall Handler}

/-- What holds of the calls that were made and of those that have got what they
asked for. -/
structure Paperwork (calls : List (BusCall Handler)) (t : Traffic Handler)
    (got : List (Nat × BusCall Handler)) : Prop where
  made : t.calls.length = calls.length
  waiting : ∀ (i : Nat) (c : BusCall Handler), t.calls[i]? = some c →
    c.isSettled = true ∨ calls[i]? = some c
  wanted : ∀ (i : Nat) (c : BusCall Handler), (i, c) ∈ got → calls[i]? = some c
  settled : ∀ (i : Nat) (c : BusCall Handler), (i, c) ∈ got →
    ∃ c', t.calls[i]? = some c' ∧ c'.isSettled = true
  once : (got.map (·.1)).Nodup

namespace Paperwork

theorem opened : Paperwork ([] : List (BusCall Handler)) opened [] :=
  ⟨rfl, nofun, nofun, nofun, .nil⟩

theorem congr (hp : Paperwork calls t got) (hcalls : t'.calls = t.calls) :
    Paperwork calls t' got := by
  obtain ⟨hmade, hwaiting, hwanted, hsettled, honce⟩ := hp
  rw [← hcalls] at hmade hwaiting hsettled
  exact ⟨hmade, hwaiting, hwanted, hsettled, honce⟩

/-- Somebody calls; the call waits, or is settled at once. -/
theorem ask (hp : Paperwork calls t got) (hcalls : t'.calls = t.calls ++ [c'])
    (hc : c'.isSettled = true ∨ c' = c) : Paperwork (calls ++ [c]) t' got := by
  refine ⟨?_, ?_, ?_, ?_, hp.once⟩
  · simp [hcalls, hp.made]
  · intro i d hd
    rw [hcalls] at hd
    rcases getElem?_snoc_iff.1 hd with hd | ⟨rfl, rfl⟩
    · exact (hp.waiting i d hd).imp id fun h => getElem?_snoc_iff.2 (.inl h)
    · exact hc.imp id fun h => getElem?_snoc_iff.2 (.inr ⟨hp.made, h.symm⟩)
  · intro i d hd
    exact getElem?_snoc_iff.2 (.inl (hp.wanted i d hd))
  · intro i d hd
    obtain ⟨d', hget, hd'⟩ := hp.settled i d hd
    rw [hcalls]
    exact ⟨d', getElem?_snoc_iff.2 (.inl hget), hd'⟩

theorem settle (hp : Paperwork calls t got) (hcalls : t'.calls = t.calls.set i c')
    (hc' : c'.isSettled = true) : Paperwork calls t' got := by
  refine ⟨?_, ?_, hp.wanted, ?_, hp.once⟩
  · rw [hcalls, List.length_set]
    exact hp.made
  · intro k d hd
    rw [hcalls, List.getElem?_set] at hd
    split at hd
    case isTrue hk =>
      split at hd
      · cases hd
        exact .inl hc'
      · cases hd
    case isFalse hk => exact hp.waiting k d hd
  · intro k d hd
    obtain ⟨d', hget, hd'⟩ := hp.settled k d hd
    rw [hcalls, List.getElem?_set]
    split
    case isTrue hk =>
      subst hk
      obtain ⟨hlt, _⟩ := List.getElem?_eq_some_iff.1 hget
      exact ⟨c', by simp [hlt], hc'⟩
    case isFalse hk => exact ⟨d', hget, hd'⟩

theorem accept (hp : Paperwork calls t got) (hwaits : t.calls[i]? = some c)
    (hc : c.isSettled = false) (hcalls : t'.calls = t.calls.set i c')
    (hc' : c'.isSettled = true) : Paperwork calls t' (got ++ [(i, c)]) := by
  obtain ⟨hmade, hwaiting, _, hsettled, _⟩ := hp.settle hcalls hc'
  have hnew : ∀ {k d}, (k, d) ∈ got ++ [(i, c)] → (k, d) ∈ got ∨ k = i ∧ d = c := by
    intro k d h
    rcases List.mem_append.1 h with h | h
    · exact .inl h
    · exact .inr (Prod.mk.inj (List.mem_singleton.1 h))
  refine ⟨hmade, hwaiting, ?_, ?_, ?_⟩
  · intro k d h
    rcases hnew h with h | ⟨rfl, rfl⟩
    · exact hp.wanted k d h
    · exact (hp.waiting k d hwaits).resolve_left (by simp [hc])
  · intro k d h
    rcases hnew h with h | ⟨rfl, rfl⟩
    · exact hsettled k d h
    · obtain ⟨hlt, _⟩ := List.getElem?_eq_some_iff.1 hwaits
      exact ⟨c', by rw [hcalls, List.getElem?_set_self hlt], hc'⟩
  · -- what was accepted before is settled, and this call was not
    rw [List.map_append, List.nodup_append]
    refine ⟨hp.once, by simp, ?_⟩
    rintro k hk k' hk' rfl
    obtain rfl : k = i := List.mem_singleton.1 hk'
    obtain ⟨⟨_, d⟩, hd, rfl⟩ := List.mem_map.1 hk
    obtain ⟨d', hget, hd'⟩ := hp.settled _ d hd
    rw [hwaits] at hget
    cases hget
    rw [hc] at hd'
    cases hd'

/-! ## Every step -/

theorem call (hp : Paperwork calls t got) (c : BusCall Handler) :
    Paperwork (calls ++ [c]) (t.call c).1 (got ++ accepted (t.call c).2) := by
  unfold Traffic.call
  split <;> simp only [accepted, List.filterMap_cons, List.filterMap_nil, BusNote.accepted?,
    List.append_nil]
  · exact hp.ask rfl (.inl rfl)
  · exact hp.ask rfl (.inr rfl)

theorem enter (hp : Paperwork calls t got) (i : Nat) :
    Paperwork calls (t.enter i).1 (got ++ accepted (t.enter i).2) := by
  have hclose : ∀ result : Except BusError Unit, Paperwork calls (t.setCall i .done)
      (got ++ accepted ([.answered i result] : TrafficLog Handler)) := by
    intro result
    exact (List.append_nil got).symm ▸ hp.settle rfl rfl
  unfold Traffic.enter
  split
  case h_1 s payload hwaits =>
    split
    case h_1 => exact hclose _
    case h_2 =>
      split
      case isTrue => exact hclose _
      case isFalse => exact hp.accept hwaits rfl rfl rfl
  case h_2 s handler hwaits =>
    split
    case h_1 => exact hclose _
    case h_2 => exact hp.accept hwaits rfl rfl rfl
  case h_3 => exact hclose _
  case h_4 => exact (List.append_nil got).symm ▸ hp

theorem moveLane (hp : Paperwork calls t got) (n : Nat) (m : LaneMove) :
    Paperwork calls (t.moveLane reads n m).1 (got ++ accepted (t.moveLane reads n m).2) := by
  unfold Traffic.moveLane
  split
  case h_1 => exact (List.append_nil got).symm ▸ hp
  case h_2 =>
    rw [(Lane.step_happens ..).accepted, List.append_nil]
    exact hp.congr rfl

theorem step (hp : Paperwork calls t got) (reads : Handler → Payload → Bool) (m : BusMove Handler) :
    Paperwork (calls ++ asked [m]) (t.step reads m).1 (got ++ accepted (t.step reads m).2) := by
  have hquiet : ∀ t' : Traffic Handler, Paperwork calls t' got →
      Paperwork (calls ++ []) t' (got ++ []) := by
    intro t' h
    rw [List.append_nil, List.append_nil]
    exact h
  cases m with
  | publish s payload => exact hp.call _
  | subscribe s handler => exact hp.call _
  | enter i => exact (List.append_nil calls).symm ▸ hp.enter i
  | giveUp i => exact hquiet _ (hp.settle rfl rfl)
  | cancel => exact hquiet _ (hp.congr rfl)
  | clear =>
      refine hquiet _ (hp.congr ?_)
      simp only [Traffic.step]
      split <;> rfl
  | lane n m => exact (List.append_nil calls).symm ▸ hp.moveLane n m

theorem play (hp : Paperwork calls t got) (moves : List (BusMove Handler)) :
    Paperwork (calls ++ asked moves) (play reads moves t).1
      (got ++ accepted (play reads moves t).2) := by
  induction moves generalizing calls t got with
  | nil => simpa [asked, accepted, Traffic.play] using hp
  | cons m rest ih =>
      have hrest := ih (hp.step reads m)
      rw [List.append_assoc, List.append_assoc, ← asked_append, ← accepted_append] at hrest
      exact hrest

end Paperwork

end Traffic

end NodeKeeper
