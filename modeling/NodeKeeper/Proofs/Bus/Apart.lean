/-
# Subjects do not hold each other back

What the dispatcher and the handler of one subject do, or do not do, makes no
difference to another subject.  Leaving out all that the other lanes do from a
run, as if their handlers never came to an end, changes nothing that is told of
the subject.

    m.concerns names s    the move is one of everybody, or of a lane of `s`
    t.Alike s u           nobody can tell `t` and `u` apart who only sees `s`

**Proved here.**

    a move of another lane cannot be seen                  (`Alike.unseen`)
    any other move keeps what is alike                     (`Alike.step`)
    nothing is lost by leaving the other lanes out         (`play_apart`)
-/
import NodeKeeper.Proofs.Bus.Delivery

namespace NodeKeeper

open TrafficLog

variable {Handler : Type}

/-- Is the move one of everybody or of a lane of the subject?  `names` are the
subjects of the lanes. -/
def BusMove.concerns (names : List String) (subject : String) : BusMove Handler → Bool
  | .lane n _ => names[n]? = some subject
  | _ => true

theorem Lane.Happens.on_other {cancelled : Bool} {subject s : String} {lane lane' : Lane Handler}
    {notes : TrafficLog Handler} (h : Lane.Happens cancelled s lane lane' notes)
    (hne : s ≠ subject) : on subject notes = [] := by
  cases h with
  | nothing => rfl
  | stopped => rfl
  | _ => exact on_of_not_isOn (by simp [BusNote.isOn, hne])

namespace Traffic

variable {reads : Handler → Payload → Bool} {t u v : Traffic Handler} {subject : String} {n : Nat}
  {lane lane' : Lane Handler}

/-! ## What a subject sees -/

/-- The two differ in nothing but lanes of other subjects. -/
structure Alike (subject : String) (t u : Traffic Handler) : Prop where
  cancelled : u.cancelled = t.cancelled
  routes : u.routes = t.routes
  calls : u.calls = t.calls
  names : u.names = t.names
  lanes : ∀ n : Nat, t.names[n]? = some subject → u.lanes[n]? = t.lanes[n]?

namespace Alike

theorem refl (subject : String) (t : Traffic Handler) : Alike subject t t :=
  ⟨rfl, rfl, rfl, rfl, fun _ _ => rfl⟩

theorem symm (h : Alike subject t u) : Alike subject u t :=
  ⟨h.cancelled.symm, h.routes.symm, h.calls.symm, h.names.symm,
    fun n hn => (h.lanes n (h.names ▸ hn)).symm⟩

theorem trans (h : Alike subject t u) (h' : Alike subject u v) : Alike subject t v :=
  ⟨h'.cancelled.trans h.cancelled, h'.routes.trans h.routes, h'.calls.trans h.calls,
    h'.names.trans h.names,
    fun n hn => (h'.lanes n (h.names.symm ▸ hn)).trans (h.lanes n hn)⟩

theorem setCall (h : Alike subject t u) (i : Nat) (c : BusCall Handler) :
    Alike subject (t.setCall i c) (u.setCall i c) :=
  ⟨h.cancelled, h.routes, congrArg (List.set · i c) h.calls, h.names, h.lanes⟩

theorem length_lanes (h : Alike subject t u) : u.lanes.length = t.lanes.length := by
  simpa [Traffic.names] using congrArg List.length h.names

theorem setOther {s : String} (hl : t.lanes[n]? = some (s, lane)) (hne : s ≠ subject) :
    Alike subject t (t.setLane n s lane') := by
  refine ⟨rfl, rfl, rfl, names_setLane hl, fun k hk => ?_⟩
  have hkn : n ≠ k := by
    rintro rfl
    rw [names_getElem? hl] at hk
    exact hne (Option.some.inj hk)
  exact List.getElem?_set_ne hkn

theorem setLane {s : String} {lane₂ : Lane Handler} (h : Alike subject t u)
    (hl : t.lanes[n]? = some (s, lane)) (hl' : u.lanes[n]? = some (s, lane₂)) :
    Alike subject (t.setLane n s lane') (u.setLane n s lane') := by
  refine ⟨h.cancelled, h.routes, h.calls, ?_, fun k hk => ?_⟩
  · rw [names_setLane hl, names_setLane hl', h.names]
  · rw [names_setLane hl] at hk
    simp only [Traffic.setLane, List.getElem?_set, h.length_lanes, h.lanes k hk]

theorem lane_iff (h : Alike subject t u) :
    u.lanes[n]? = some (subject, lane) ↔ t.lanes[n]? = some (subject, lane) := by
  constructor
  · intro hu
    rw [← h.lanes n (h.names ▸ names_getElem? hu)]
    exact hu
  · intro ht
    rw [h.lanes n (names_getElem? ht)]
    exact ht

theorem unseen (reads : Handler → Payload → Bool) (hn : t.names[n]? ≠ some subject)
    (m : LaneMove) :
    Alike subject t (t.step reads (.lane n m)).1 ∧
      on subject (t.step reads (.lane n m)).2 = [] := by
  simp only [step, moveLane]
  split
  case h_1 => exact ⟨.refl subject t, rfl⟩
  case h_2 s lane hl =>
    have hne : s ≠ subject := by
      rintro rfl
      exact hn (names_getElem? hl)
    exact ⟨setOther hl hne, (Lane.step_happens ..).on_other hne⟩

/-! ### Moves that are seen -/

theorem call (h : Alike subject t u) (c : BusCall Handler) :
    Alike subject (t.call c).1 (u.call c).1 ∧
      on subject (t.call c).2 = on subject (u.call c).2 := by
  unfold Traffic.call
  rw [h.cancelled, h.calls]
  split <;> exact ⟨⟨rfl, h.routes, rfl, h.names, h.lanes⟩, rfl⟩

theorem moveLane (h : Alike subject t u) (hn : t.names[n]? = some subject ∨ t.names[n]? = none)
    (m : LaneMove) :
    Alike subject (t.moveLane reads n m).1 (u.moveLane reads n m).1 ∧
      on subject (t.moveLane reads n m).2 = on subject (u.moveLane reads n m).2 := by
  rcases hn with hn | hn
  · obtain ⟨lane, hl⟩ := exists_lane hn
    have hl' := h.lane_iff.2 hl
    unfold Traffic.moveLane
    rw [hl, hl', h.cancelled]
    exact ⟨h.setLane hl hl', rfl⟩
  · have hnone : ∀ t : Traffic Handler, t.names[n]? = none → t.lanes[n]? = none := by
      intro t hn
      simpa [Traffic.names] using hn
    unfold Traffic.moveLane
    rw [hnone t hn, hnone u (h.names ▸ hn)]
    exact ⟨h, rfl⟩

theorem route?_eq (h : Alike subject t u) (ht : t.Routed) :
    u.route? subject = t.route? subject := by
  unfold route?
  rw [h.routes]
  cases hroute : t.routes.get? subject with
  | none => rfl
  | some n =>
      simp only
      rw [h.lanes n (ht.leads _ _ hroute)]

/-- A call to publish on another subject is over, and nothing else is seen of it. -/
theorem enter_other {i : Nat} {s : String} {payload : Payload} (ht : t.Routed)
    (hcall : t.calls[i]? = some (.publishing s payload)) (hne : s ≠ subject) :
    Alike subject (t.setCall i .done) (t.enter i).1 ∧ on subject (t.enter i).2 = [] := by
  unfold Traffic.enter
  rw [hcall]
  simp only
  split
  case h_1 => exact ⟨.refl _ _, rfl⟩
  case h_2 n lane hroute =>
    split
    case isTrue => exact ⟨.refl _ _, rfl⟩
    case isFalse =>
      obtain ⟨_, hl⟩ := ht.of_route? hroute
      exact ⟨setOther (t := t.setCall i .done) hl hne, by simp [on, BusNote.isOn, hne]⟩

theorem openLane (h : Alike subject t u) (s : String) (handler : Handler) :
    Alike subject (t.openLane s handler) (u.openLane s handler) := by
  refine ⟨h.cancelled, ?_, h.calls, ?_, ?_⟩
  · show u.routes.put s u.lanes.length = t.routes.put s t.lanes.length
    rw [h.routes, h.length_lanes]
  · rw [names_openLane, names_openLane, h.names]
  · intro n hn
    show (u.lanes ++ [_])[n]? = (t.lanes ++ [_])[n]?
    rw [List.getElem?_append, List.getElem?_append, h.length_lanes]
    split
    case isFalse => rfl
    case isTrue hlt =>
      refine h.lanes n ?_
      rwa [names_openLane, List.getElem?_append_left (length_names.symm ▸ hlt)] at hn

theorem enter (h : Alike subject t u) (ht : t.Routed) (hu : u.Routed) (i : Nat) :
    Alike subject (t.enter i).1 (u.enter i).1 ∧
      on subject (t.enter i).2 = on subject (u.enter i).2 := by
  cases hcall : t.calls[i]? with
  | none =>
      simp only [Traffic.enter, h.calls, hcall]
      exact ⟨h, trivial⟩
  | some c =>
    cases c with
    | done =>
        simp only [Traffic.enter, h.calls, hcall]
        exact ⟨h, trivial⟩
    | noting =>
        simp only [Traffic.enter, h.calls, hcall]
        exact ⟨h.setCall i .done, trivial⟩
    | publishing s payload =>
        by_cases hsubject : s = subject
        · subst hsubject
          simp only [Traffic.enter, h.calls, hcall, h.route?_eq ht]
          split
          case h_1 => exact ⟨h.setCall i .done, rfl⟩
          case h_2 n lane hroute =>
            obtain ⟨_, hl⟩ := ht.of_route? hroute
            split
            case isTrue => exact ⟨h.setCall i .done, rfl⟩
            case isFalse => exact ⟨(h.setCall i .done).setLane hl (h.lane_iff.2 hl), rfl⟩
        · obtain ⟨hclose, hon⟩ := enter_other ht hcall hsubject
          obtain ⟨hclose', hon'⟩ := enter_other hu (h.calls ▸ hcall) hsubject
          exact ⟨hclose.symm.trans ((h.setCall i .done).trans hclose'), hon.trans hon'.symm⟩
    | subscribing s handler =>
        simp only [Traffic.enter, h.calls, hcall, h.routes]
        split
        case h_1 => exact ⟨h.setCall i .done, rfl⟩
        case h_2 => exact ⟨(h.setCall i .noting).openLane s handler, rfl⟩

theorem step (h : Alike subject t u) (reads : Handler → Payload → Bool) (ht : t.Routed)
    (hu : u.Routed) {m : BusMove Handler}
    (hm : ∀ n m', m = .lane n m' → t.names[n]? = some subject ∨ t.names[n]? = none) :
    Alike subject (t.step reads m).1 (u.step reads m).1 ∧
      on subject (t.step reads m).2 = on subject (u.step reads m).2 := by
  cases m with
  | publish s payload => exact h.call _
  | subscribe s handler => exact h.call _
  | enter i => exact h.enter ht hu i
  | giveUp i => exact ⟨h.setCall i .done, rfl⟩
  | cancel => exact ⟨⟨rfl, h.routes, h.calls, h.names, h.lanes⟩, rfl⟩
  | clear =>
      refine ⟨?_, rfl⟩
      simp only [Traffic.step, h.cancelled]
      split
      case isTrue => exact ⟨rfl, rfl, h.calls, h.names, h.lanes⟩
      case isFalse => exact h
  | lane n m => exact h.moveLane (hm n m rfl) m

end Alike

/-! ## Leaving the other lanes out -/

theorem Happens.names_prefix {notes : TrafficLog Handler} (h : Happens t u notes) :
    t.names <+: u.names := by
  cases h with
  | queued _ hl => exact (names_setLane hl).symm ▸ List.prefix_rfl
  | subscribed => exact names_openLane _ ▸ List.prefix_append _ _
  | moved hl => exact (names_setLane hl).symm ▸ List.prefix_rfl
  | _ => exact List.prefix_rfl

theorem names_prefix_play (ht : t.Routed) (moves : List (BusMove Handler)) :
    t.names <+: (play reads moves t).1.names := by
  induction moves generalizing t with
  | nil => exact List.prefix_rfl
  | cons m rest ih =>
      have hstep : Happens t (t.step reads m).1 (t.step reads m).2 := step_happens ht m
      exact hstep.names_prefix.trans (ih (hstep.routed ht))

theorem names_kept {names : List String} (hgrow : t.names <+: names) {s : String}
    (h : t.names[n]? = some s) : names[n]? = some s := by
  obtain ⟨hn, hs⟩ := List.getElem?_eq_some_iff.1 h
  rw [List.prefix_iff_getElem?.1 hgrow n hn, hs]

/-- What happens on a subject does not depend on what other lanes do. -/
theorem play_apart (h : Alike subject t u) (ht : t.Routed) (hu : u.Routed)
    {names : List String} (moves : List (BusMove Handler))
    (hnames : (play reads moves t).1.names = names) :
    on subject (play reads moves t).2 =
      on subject (play reads (moves.filter (·.concerns names subject)) u).2 := by
  induction moves generalizing t u with
  | nil => rfl
  | cons m rest ih =>
      have hgrow : t.names <+: names := hnames ▸ names_prefix_play ht (m :: rest)
      have ht' : (t.step reads m).1.Routed := (step_happens ht m).routed ht
      rw [play_cons, on_append]
      cases hm : m.concerns names subject with
      | true =>
          have hseen : ∀ n m', m = .lane n m' →
              t.names[n]? = some subject ∨ t.names[n]? = none := by
            rintro n m' rfl
            cases hn : t.names[n]? with
            | none => exact .inr rfl
            | some s =>
                have hlast := names_kept hgrow hn
                simp only [BusMove.concerns, hlast, decide_eq_true_eq] at hm
                exact .inl hm
          obtain ⟨halike, hon⟩ := h.step reads ht hu hseen
          rw [List.filter_cons_of_pos hm, play_cons, on_append, hon,
            ih halike ht' ((step_happens hu m).routed hu) hnames]
      | false =>
          cases m with
          | lane n m =>
              have hn : t.names[n]? ≠ some subject := by
                intro hn
                simp [BusMove.concerns, names_kept hgrow hn] at hm
              obtain ⟨halike, hnone⟩ := Alike.unseen reads hn m
              rw [List.filter_cons_of_neg (by simp [hm]), ih (halike.symm.trans h) ht' hu hnames]
              exact congrArg (· ++ _) hnone
          | _ => cases hm

end Traffic

end NodeKeeper
