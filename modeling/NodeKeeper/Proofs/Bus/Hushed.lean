/-
# A bus without the payloads that nobody can read

`b.hush reads` is the bus `b` without the waiting payloads that are not readable
on their subject.  What a bus does, it does without them as well:

    subscribing, finishing, closing      as it is            (`hush_subscribe`, `hush_finish`)
    publishing a readable payload        as it is            (`hush_publish`)
    publishing any other                 nothing             (`hush_publish_unread`)
    handing over a readable payload,
      or none                            as it is            (`hush_dispatch`)
    handing over any other, and back     nothing             (`hush_handed_back`)

Buses are told apart by their lanes, so each of these is an equation between
buses; it comes from the fact that dictionaries with the same look-ups are equal
(`Dictionary.ext_get?`).
-/
import NodeKeeper.Bus.Bus
import NodeKeeper.Proofs.Dictionaries

namespace NodeKeeper

/-! ## Lanes and buses -/

variable {Handler : Type}

/-- The lane without the payloads that cannot be read. -/
def Lane.hush (reads : Payload → Bool) (lane : Lane Handler) : Lane Handler :=
  { lane with queue := lane.queue.filter reads }

namespace Bus

/-- The bus without the payloads that cannot be read on their subjects. -/
def hush (reads : String → Payload → Bool) (b : Bus Handler) : Bus Handler :=
  { b with lanes := b.lanes.mapEntries fun subject lane => lane.hush (reads subject) }

variable {reads : String → Payload → Bool} {b b' : Bus Handler} {subject : String}
  {handler : Handler} {payload : Payload} {lane : Lane Handler}

theorem get?_hush (reads : String → Payload → Bool) (b : Bus Handler) (subject : String) :
    (b.hush reads).lanes.get? subject = (b.lanes.get? subject).map (Lane.hush (reads subject)) :=
  Dictionary.get?_mapEntries ..

theorem hush_setLane (reads : String → Payload → Bool) (b : Bus Handler) (subject : String)
    (lane : Lane Handler) :
    (b.setLane subject lane).hush reads =
      (b.hush reads).setLane subject (lane.hush (reads subject)) :=
  congrArg (fun lanes => ({ b with lanes := lanes } : Bus Handler)) (Dictionary.mapEntries_put ..)

theorem setLane_setLane (b : Bus Handler) (subject : String) (lane lane' : Lane Handler) :
    (b.setLane subject lane).setLane subject lane' = b.setLane subject lane' :=
  congrArg (fun lanes => ({ b with lanes := lanes } : Bus Handler)) (Dictionary.put_put ..)

theorem setLane_of_get? (h : b.lanes.get? subject = some lane) : b.setLane subject lane = b :=
  congrArg (fun lanes => ({ b with lanes := lanes } : Bus Handler)) (Dictionary.put_of_get? h)

@[simp] theorem closed_hush : (b.hush reads).closed = b.closed := rfl

/-! ### What leaves the queues alone -/

theorem hush_subscribe (reads : String → Payload → Bool) (b : Bus Handler) (subject : String)
    (handler : Handler) :
    (b.hush reads).subscribe subject handler =
      ((b.subscribe subject handler).1, (b.subscribe subject handler).2.hush reads) := by
  simp only [subscribe, closed_hush, get?_hush]
  split
  · rfl
  · cases b.lanes.get? subject with
    | some lane => rfl
    | none =>
        dsimp only [Option.map_none]
        rw [hush_setLane]
        rfl

theorem inHand_hush (reads : String → Payload → Bool) (b : Bus Handler) (subject : String) :
    (b.hush reads).inHand subject = b.inHand subject := by
  simp only [inHand, get?_hush]
  cases b.lanes.get? subject <;> rfl

theorem hush_finish (reads : String → Payload → Bool) (b : Bus Handler) (subject : String) :
    (b.hush reads).finish subject = (b.finish subject).hush reads := by
  simp only [finish, get?_hush, inHand_hush]
  cases b.lanes.get? subject with
  | none => rfl
  | some lane =>
      cases b.inHand subject with
      | none => rfl
      | some _ =>
          dsimp only [Option.map_some]
          rw [hush_setLane]
          rfl

/-! ### What puts payloads into them -/

theorem hush_publish (b : Bus Handler) (hread : reads subject payload = true) :
    (b.hush reads).publish subject payload =
      ((b.publish subject payload).1, (b.publish subject payload).2.hush reads) := by
  simp only [publish, closed_hush, get?_hush]
  split
  · rfl
  · cases b.lanes.get? subject with
    | none => rfl
    | some lane =>
        show (if lane.stage = .ended then _ else _) = _
        dsimp only
        split
        · rfl
        · rw [hush_setLane]
          simp [Lane.hush, hread]

/-- A payload that cannot be read leaves no trace. -/
theorem hush_publish_unread (b : Bus Handler) (hunread : reads subject payload = false) :
    (b.publish subject payload).2.hush reads = b.hush reads := by
  unfold publish
  split
  · rfl
  · split
    · rfl
    · next lane hlane =>
      split
      · rfl
      · have hsame : Lane.hush (reads subject) { lane with queue := lane.queue ++ [payload] } =
            lane.hush (reads subject) := by
          simp [Lane.hush, hunread]
        rw [hush_setLane, hsame]
        exact setLane_of_get? (by rw [get?_hush, hlane]; rfl)

/-! ### What takes payloads out of them -/

theorem of_dispatch (h : b.dispatch subject = (some (handler, payload), b')) :
    ∃ lane rest, b.lanes.get? subject = some lane ∧ lane.handler = handler ∧
      lane.queue = payload :: rest ∧ lane.stage = .idle ∧
      b' = b.setLane subject { lane with queue := rest, stage := .handling payload } := by
  unfold dispatch at h
  split at h
  · cases h
  · next lane hlane =>
    split at h
    · cases h
    · next hidle =>
      split at h
      · cases h
      · split at h
        · cases h
        · next payload' rest hqueue =>
          cases h
          exact ⟨lane, rest, hlane, rfl, hqueue, Decidable.not_not.1 hidle, rfl⟩

/-- Whoever is handed a readable payload, or none, is handed the same. -/
theorem hush_dispatch (b : Bus Handler) (subject : String)
    (hread : ∀ handler payload, (b.dispatch subject).1 = some (handler, payload) →
      reads subject payload = true) :
    (b.hush reads).dispatch subject =
      ((b.dispatch subject).1, (b.dispatch subject).2.hush reads) := by
  revert hread
  simp only [dispatch, closed_hush, get?_hush]
  cases b.lanes.get? subject with
  | none => exact fun _ => rfl
  | some lane =>
      obtain ⟨handler, queue, stage⟩ := lane
      dsimp only [Option.map_some, Lane.hush]
      by_cases hidle : stage = .idle
      · by_cases hclosed : b.closed = true
        · intro _
          simp [hidle, hclosed, hush_setLane, Lane.hush]
        · simp only [hidle, hclosed, ne_eq, not_true_eq_false, if_false]
          cases queue with
          | nil => exact fun _ => rfl
          | cons payload rest =>
              intro hread
              have hhead : reads subject payload = true := hread handler payload rfl
              simp [hhead, hush_setLane, Lane.hush]
      · intro _
        simp [hidle]

theorem finish_dispatch (h : b.dispatch subject = (some (handler, payload), b')) :
    ∃ lane rest, b.lanes.get? subject = some lane ∧ lane.queue = payload :: rest ∧
      lane.stage = .idle ∧ b'.finish subject = b.setLane subject ⟨lane.handler, rest, .idle⟩ := by
  obtain ⟨lane, rest, hlane, -, hqueue, hidle, rfl⟩ := of_dispatch h
  have hget : (b.setLane subject
      { lane with queue := rest, stage := .handling payload }).lanes.get? subject =
        some { lane with queue := rest, stage := .handling payload } := by
    show (b.lanes.put _ _).get? subject = _
    rw [Dictionary.get?_put, if_pos rfl]
  refine ⟨lane, rest, hlane, hqueue, hidle, ?_⟩
  simp only [finish, inHand, hget]
  exact setLane_setLane ..

/-- A payload that cannot be read is handed over and is done with, and leaves no
trace. -/
theorem hush_handed_back (h : b.dispatch subject = (some (handler, payload), b'))
    (hunread : reads subject payload = false) :
    (b'.finish subject).hush reads = b.hush reads := by
  obtain ⟨lane, rest, hlane, hqueue, hidle, hfinish⟩ := finish_dispatch h
  have hsame : Lane.hush (reads subject) ⟨lane.handler, rest, .idle⟩ =
      lane.hush (reads subject) := by
    simp [Lane.hush, hqueue, hunread, hidle]
  rw [hfinish, hush_setLane, hsame]
  exact setLane_of_get? (by rw [get?_hush, hlane]; rfl)

/-! ## Handlers -/

theorem handler?_setLane (b : Bus Handler) (subject : String) (lane : Lane Handler)
    (other : String) :
    (b.setLane subject lane).handler? other =
      if other = subject then some lane.handler else b.handler? other := by
  show ((b.lanes.put subject lane).get? other).map _ = _
  rw [Dictionary.get?_put]
  split <;> rfl

theorem handler?_setLane_of (h : b.lanes.get? subject = some lane) (queue : List Payload)
    (stage : LaneStage) (other : String) :
    (b.setLane subject ⟨lane.handler, queue, stage⟩).handler? other = b.handler? other := by
  rw [handler?_setLane]
  split
  · next heq =>
    rw [heq, handler?, h]
    rfl
  · rfl

theorem handler?_publish (b : Bus Handler) (subject : String) (payload : Payload)
    (other : String) : (b.publish subject payload).2.handler? other = b.handler? other := by
  unfold publish
  split
  · rfl
  · split
    · rfl
    · next hlane =>
      split
      · rfl
      · exact handler?_setLane_of hlane _ _ other

theorem handler?_dispatch (b : Bus Handler) (subject other : String) :
    (b.dispatch subject).2.handler? other = b.handler? other := by
  unfold dispatch
  split
  · rfl
  · next hlane =>
    split
    · rfl
    · split
      · exact handler?_setLane_of hlane _ _ other
      · split
        · rfl
        · exact handler?_setLane_of hlane _ _ other

theorem handler?_finish (b : Bus Handler) (subject other : String) :
    (b.finish subject).handler? other = b.handler? other := by
  unfold finish
  split
  · next hlane _ => exact handler?_setLane_of hlane _ _ other
  · rfl

theorem of_handler?_subscribe {other : String} {handler' : Handler}
    (h : (b.subscribe subject handler).2.handler? other = some handler') :
    b.handler? other = some handler' ∨ other = subject ∧ handler' = handler := by
  unfold subscribe at h
  split at h
  · exact .inl h
  · split at h
    · exact .inl h
    · rw [handler?_setLane] at h
      split at h
      · next heq => exact .inr ⟨heq, (Option.some.inj h).symm⟩
      · exact .inl h

end Bus

end NodeKeeper
