/-
# A bus in virtual time is traffic

`Bus` has one caller at a time, and a call gets all it waits for before anything
else happens.  So a bus stands where some traffic does, and what it answers and hands
to handlers is what the traffic notes.  A simulation does nothing to its bus but
by these operations, so what holds of all traffic holds of every simulation.

    t.Carries b                the lanes and the token are the same
    Goes reads t b handed      the traffic can go on to where the bus is, and hand
                               this to handlers on the way
    Carried reads b handed     some traffic has come there from the start
    Simulated w                `w` has come from the start by what a caller may do

**Proved here.**

    a call is answered as the bus answers    (`Carries.publish`, `Carries.subscribe`)
    a dispatcher hands over what the bus does                   (`Carries.dispatch`)
    the rest goes on likewise     (`Carries.finish`, `Carries.crash`,
                                   `Carries.close`, `Carries.shutDown`)
    every simulation is traffic, and notes what could be decoded
                                                              (`Simulated.isTraffic`)
-/
import NodeKeeper.Bus.Simulation
import NodeKeeper.Proofs.Bus.Delivery

namespace NodeKeeper

open TrafficLog

namespace Traffic

variable {Handler : Type} {reads : Handler → Payload → Bool} {t t' : Traffic Handler}
  {b : Bus Handler} {s : String} {n : Nat} {lane lane' : Lane Handler}

/-! ## Calls that are answered at once -/

/-- Somebody calls, and gets all that the call waits for, so many times, before
anything else happens. -/
def atOnce (t : Traffic Handler) (m : BusMove Handler) (waits : Nat) : List (BusMove Handler) :=
  m :: List.replicate waits (.enter t.calls.length)

theorem play_atOnce_cancelled {m : BusMove Handler} {c : BusCall Handler}
    (hm : t.step reads m = t.call c) (hc : t.cancelled = true) :
    play reads (atOnce t m 0) t =
      ({ t with calls := t.calls ++ [.done] }, [.answered t.calls.length (.error .closed)]) := by
  rw [atOnce, List.replicate_zero, play_cons, hm, call, if_pos hc]
  rfl

theorem play_atOnce_open {m : BusMove Handler} {c : BusCall Handler}
    (hm : t.step reads m = t.call c) (hc : t.cancelled = false) (waits : Nat) :
    play reads (atOnce t m waits) t =
      play reads (List.replicate waits (.enter t.calls.length))
        { t with calls := t.calls ++ [c] } := by
  rw [atOnce, play_cons, hm, call, if_neg (by simp [hc])]
  rfl

/-! ## Where a bus stands -/

/-- The bus has the lanes of the traffic and is closed if the token is cancelled. -/
structure Carries (t : Traffic Handler) (b : Bus Handler) : Prop where
  closed : b.closed = t.cancelled
  lanes : ∀ s lane, b.lanes.get? s = some lane ↔ ∃ n : Nat, t.lanes[n]? = some (s, lane)
  alone : t.names.Nodup

/-- The traffic goes on to where the bus has come, and hands this to handlers. -/
def Goes (reads : Handler → Payload → Bool) (t : Traffic Handler) (b : Bus Handler)
    (handed : List (Handler × Payload)) : Prop :=
  ∃ moves, (play reads moves t).1.Carries b ∧ begun (play reads moves t).2 = handed

/-- The traffic goes on to where the bus has come, and the call is answered as the
bus answers. -/
structure Answered (t : Traffic Handler) (after : Traffic Handler × TrafficLog Handler)
    (answer : Except BusError Unit × Bus Handler) : Prop where
  carries : after.1.Carries answer.2
  answer : .answered t.calls.length answer.1 ∈ after.2
  begun : begun after.2 = []

namespace Carries

theorem opened : (opened : Traffic Handler).Carries .opened where
  closed := rfl
  lanes := by
    intro s lane
    constructor
    · intro h
      cases h
    · rintro ⟨n, h⟩
      cases h
  alone := .nil

theorem congr (h : t.Carries b) (hc : t'.cancelled = t.cancelled) (hl : t'.lanes = t.lanes) :
    t'.Carries b where
  closed := h.closed.trans hc.symm
  lanes := by
    rw [hl]
    exact h.lanes
  alone := by
    unfold names
    rw [hl]
    exact h.alone

theorem exists_lane (h : t.Carries b) (hb : b.lanes.get? s = some lane) :
    ∃ n : Nat, t.lanes[n]? = some (s, lane) :=
  (h.lanes s lane).1 hb

theorem not_mem_names (h : t.Carries b) (hb : b.lanes.get? s = none) : s ∉ t.names := by
  intro hm
  obtain ⟨n, hn⟩ := List.getElem?_of_mem hm
  obtain ⟨lane, hl⟩ := Traffic.exists_lane hn
  rw [(h.lanes s lane).2 ⟨n, hl⟩] at hb
  cases hb

theorem setLane (h : t.Carries b) (hl : t.lanes[n]? = some (s, lane)) (lane' : Lane Handler) :
    (t.setLane n s lane').Carries (b.setLane s lane') where
  closed := h.closed
  lanes := by
    intro s' l
    simp only [Bus.setLane, Dictionary.get?_put, getElem?_setLane_iff hl]
    split
    case isTrue heq =>
      subst heq
      constructor
      · intro hs
        exact ⟨n, .inl ⟨rfl, rfl, Option.some.inj hs⟩⟩
      · rintro ⟨m, ⟨_, _, rfl⟩ | ⟨hne, hm⟩⟩
        · rfl
        · obtain ⟨hlt, _⟩ := List.getElem?_eq_some_iff.1 (names_getElem? hm)
          have hsame := (names_getElem? hm).trans (names_getElem? hl).symm
          exact absurd ((List.getElem?_inj hlt h.alone).1 hsame) hne
    case isFalse hne =>
      rw [h.lanes]
      constructor
      · rintro ⟨m, hm⟩
        refine ⟨m, .inr ⟨?_, hm⟩⟩
        rintro rfl
        rw [hl] at hm
        exact hne (congrArg Prod.fst (Option.some.inj hm)).symm
      · rintro ⟨m, ⟨_, heq, _⟩ | ⟨_, hm⟩⟩
        · exact absurd heq.symm hne
        · exact ⟨m, hm⟩
  alone := by
    rw [names_setLane hl]
    exact h.alone

theorem openLane (h : t.Carries b) (hb : b.lanes.get? s = none) (handler : Handler) :
    (t.openLane s handler).Carries (b.setLane s ⟨handler, [], .idle⟩) where
  closed := h.closed
  lanes := by
    intro s' l
    simp only [Bus.setLane, Dictionary.get?_put, getElem?_openLane_iff]
    split
    case isTrue heq =>
      subst heq
      constructor
      · intro hs
        exact ⟨_, .inr ⟨rfl, rfl, Option.some.inj hs⟩⟩
      · rintro ⟨m, hm | ⟨_, _, rfl⟩⟩
        · exact absurd (List.mem_of_getElem? (names_getElem? hm)) (h.not_mem_names hb)
        · rfl
    case isFalse hne =>
      rw [h.lanes]
      constructor
      · rintro ⟨m, hm⟩
        exact ⟨m, .inl hm⟩
      · rintro ⟨m, hm | ⟨_, heq, _⟩⟩
        · exact ⟨m, hm⟩
        · exact absurd heq.symm hne
  alone := by
    rw [names_openLane, List.nodup_append]
    refine ⟨h.alone, by simp, ?_⟩
    rintro a ha c hc rfl
    rw [List.mem_singleton.1 hc] at ha
    exact h.not_mem_names hb ha

/-! ### Calls -/

theorem route_none (h : t.Carries b) (hr : t.Routed) (hb : b.lanes.get? s = none) :
    t.routes.get? s = none := by
  cases hroute : t.routes.get? s with
  | none => rfl
  | some n => exact absurd (List.mem_of_getElem? (hr.leads s n hroute)) (h.not_mem_names hb)

theorem route_some (h : t.Carries b) (hr : t.Routed) (hc : t.cancelled = false)
    (hb : b.lanes.get? s = some lane) :
    ∃ n, t.routes.get? s = some n ∧ t.lanes[n]? = some (s, lane) := by
  obtain ⟨n, hl⟩ := h.exists_lane hb
  exact ⟨n, hr.found hc s n (names_getElem? hl), hl⟩

theorem publish (h : t.Carries b) (reads : Handler → Payload → Bool) (hr : t.Routed)
    (payload : Payload) :
    ∃ waits, Answered t (play reads (atOnce t (.publish s payload) waits) t)
      (b.publish s payload) := by
  unfold Bus.publish
  rw [h.closed]
  cases hc : t.cancelled with
  | true =>
      refine ⟨0, ?_⟩
      rw [play_atOnce_cancelled rfl hc]
      exact ⟨h.congr rfl rfl, List.mem_singleton_self _, rfl⟩
  | false =>
      refine ⟨1, ?_⟩
      rw [play_atOnce_open rfl hc]
      cases hb : b.lanes.get? s with
      | none =>
          simp only [List.replicate, play, step, enter, List.getElem?_concat_length, route?,
            h.route_none hr hb]
          exact ⟨h.congr rfl rfl, List.mem_singleton_self _, rfl⟩
      | some lane =>
          obtain ⟨n, hroute, hl⟩ := h.route_some hr hc hb
          simp only [List.replicate, play, step, enter, List.getElem?_concat_length, route?, hroute,
            hl, Option.map_some]
          by_cases hended : lane.stage = .ended
          · simp only [hended, if_true]
            exact ⟨h.congr rfl rfl, List.mem_singleton_self _, rfl⟩
          · simp only [hended, if_false]
            refine ⟨?_, by simp, rfl⟩
            exact (h.setLane hl _).congr rfl rfl

theorem subscribe (h : t.Carries b) (reads : Handler → Payload → Bool) (hr : t.Routed)
    (handler : Handler) :
    ∃ waits, Answered t (play reads (atOnce t (.subscribe s handler) waits) t)
      (b.subscribe s handler) := by
  unfold Bus.subscribe
  rw [h.closed]
  cases hc : t.cancelled with
  | true =>
      refine ⟨0, ?_⟩
      rw [play_atOnce_cancelled rfl hc]
      exact ⟨h.congr rfl rfl, List.mem_singleton_self _, rfl⟩
  | false =>
      cases hb : b.lanes.get? s with
      | none =>
          refine ⟨2, ?_⟩
          rw [play_atOnce_open rfl hc]
          have hnoting : ((setCall { t with calls := t.calls ++ [.subscribing s handler] }
              t.calls.length .noting).openLane s handler).calls[t.calls.length]? =
                some .noting := by
            simp [Traffic.openLane, setCall]
          simp only [List.replicate, play, step, enter, List.getElem?_concat_length,
            h.route_none hr hb, hnoting]
          exact ⟨(h.openLane hb handler).congr rfl rfl, by simp, rfl⟩
      | some lane =>
          obtain ⟨n, hroute, _⟩ := h.route_some hr hc hb
          refine ⟨1, ?_⟩
          rw [play_atOnce_open rfl hc]
          simp only [List.replicate, play, step, enter, List.getElem?_concat_length, hroute]
          exact ⟨h.congr rfl rfl, List.mem_singleton_self _, rfl⟩

/-! ### Dispatchers and handlers -/

theorem stays (h : t.Carries b) : Goes reads t b [] :=
  ⟨[], h, rfl⟩

theorem moves (h : t.Carries b) (reads : Handler → Payload → Bool)
    (hb : b.lanes.get? s = some lane) (m : LaneMove) :
    Goes reads t (b.setLane s (lane.step reads t.cancelled s m).1)
      (begun (lane.step reads t.cancelled s m).2) := by
  obtain ⟨n, hl⟩ := h.exists_lane hb
  refine ⟨[.lane n m], ?_⟩
  rw [play_cons, step_lane hl]
  exact ⟨h.setLane hl _, congrArg begun (List.append_nil _)⟩

theorem dispatch (h : t.Carries b) (s : String) :
    Goes reads t (b.dispatch s).2 (b.dispatch s).1.toList := by
  unfold Bus.dispatch
  split
  case h_1 => exact h.stays
  case h_2 lane hb =>
    have hmove := h.moves reads hb .dispatch
    obtain ⟨handler, queue, stage⟩ := lane
    split
    case isTrue => exact h.stays
    case isFalse hidle =>
      obtain rfl : stage = .idle := Decidable.not_not.1 hidle
      rw [← h.closed] at hmove
      cases hc : b.closed with
      | true => 
        rw [hc] at hmove
        exact hmove
      | false =>
        rw [hc] at hmove
        cases queue with
        | nil => exact h.stays
        | cons payload rest => exact hmove

/-- Whatever the handler returns, the bus goes on in the same way. -/
theorem finish (h : t.Carries b) (s : String) (result : Except String Unit) :
    Goes reads t (b.finish s) [] := by
  unfold Bus.finish Bus.inHand
  cases hb : b.lanes.get? s with
  | none => exact h.stays
  | some lane =>
      obtain ⟨handler, queue, stage⟩ := lane
      cases stage with
      | handling payload => exact h.moves reads hb (.finish result)
      | _ => exact h.stays

theorem crash (h : t.Carries b) (s : String) : Goes reads t (b.crash s) [] := by
  unfold Bus.crash Bus.inHand
  cases hb : b.lanes.get? s with
  | none => exact h.stays
  | some lane =>
      obtain ⟨handler, queue, stage⟩ := lane
      cases stage with
      | handling payload => exact h.moves reads hb .crash
      | _ => exact h.stays

theorem close (h : t.Carries b) : Goes reads t b.close [] :=
  ⟨[.cancel], ⟨rfl, h.lanes, h.alone⟩, rfl⟩

theorem shutDown (h : t.Carries b) : Goes reads t b.shutDown [] :=
  ⟨[.cancel, .clear], ⟨rfl, h.lanes, h.alone⟩, rfl⟩

end Carries

/-! ## What a bus can come to -/

/-- Some traffic has come to where the bus is, and has handed this to handlers. -/
def Carried (reads : Handler → Payload → Bool) (b : Bus Handler)
    (handed : List (Handler × Payload)) : Prop :=
  Goes reads .opened b handed

namespace Carried

variable {b' : Bus Handler} {handed handed' : List (Handler × Payload)}

theorem opened : Carried reads (.opened : Bus Handler) [] := ⟨[], Carries.opened, rfl⟩

theorem goes (h : Carried reads b handed)
    (hmore : ∀ t : Traffic Handler, t.Routed → t.Carries b → Goes reads t b' handed') :
    Carried reads b' (handed ++ handed') := by
  obtain ⟨moves, hcarries, rfl⟩ := h
  obtain ⟨moves', hcarries', rfl⟩ := hmore _ (Routed.opened.play moves) hcarries
  refine ⟨moves ++ moves', ?_⟩
  rw [play_append, begun_append]
  exact ⟨hcarries', rfl⟩

theorem goesOn (h : Carried reads b handed)
    (hmore : ∀ t : Traffic Handler, t.Routed → t.Carries b → Goes reads t b' []) :
    Carried reads b' handed :=
  List.append_nil handed ▸ h.goes hmore

theorem subscribe (h : Carried reads b handed) (s : String) (handler : Handler) :
    Carried reads (b.subscribe s handler).2 handed := by
  refine h.goesOn fun t hr hc => ?_
  obtain ⟨waits, ha⟩ := hc.subscribe reads hr handler
  exact ⟨_, ha.carries, ha.begun⟩

theorem publish (h : Carried reads b handed) (s : String) (payload : Payload) :
    Carried reads (b.publish s payload).2 handed := by
  refine h.goesOn fun t hr hc => ?_
  obtain ⟨waits, ha⟩ := hc.publish reads hr payload
  exact ⟨_, ha.carries, ha.begun⟩

theorem dispatch (h : Carried reads b handed) (s : String) :
    Carried reads (b.dispatch s).2 (handed ++ (b.dispatch s).1.toList) :=
  h.goes fun _ _ hc => hc.dispatch s

theorem finish (h : Carried reads b handed) (s : String) : Carried reads (b.finish s) handed :=
  h.goesOn fun _ _ hc => hc.finish s (.ok ())

theorem crash (h : Carried reads b handed) (s : String) : Carried reads (b.crash s) handed :=
  h.goesOn fun _ _ hc => hc.crash s

theorem close (h : Carried reads b handed) : Carried reads b.close handed :=
  h.goesOn fun _ _ hc => hc.close

theorem shutDown (h : Carried reads b handed) : Carried reads b.shutDown handed :=
  h.goesOn fun _ _ hc => hc.shutDown

end Carried

end Traffic

/-! ## Simulations -/

/-- What a handler has got. -/
def BusEvent.got? : BusEvent → Option Json.Value
  | .got _ value => some value
  | .done _ => none

namespace BusSimulation

open Traffic

/-- What handlers have got, in order. -/
def got (w : BusSimulation) : List Json.Value := w.events.reverse.filterMap (·.got?)

/-- Can the handler decode the payload? -/
def decodes (h : PlayedHandler) (payload : Payload) : Bool := (h.read payload).isSome

/-- What was decoded of what was handed to handlers. -/
def decoded (handed : List (PlayedHandler × Payload)) : List Json.Value :=
  handed.filterMap fun (h, payload) => h.read payload

/-- Some traffic stands where the bus of the simulation does, and all of it that
could be decoded has been noted in order.  A caller may have run handlers
besides. -/
def IsTraffic (w : BusSimulation) : Prop :=
  ∃ handed, Carried decodes w.bus handed ∧ (decoded handed).Sublist w.got

variable {w w' : BusSimulation}

theorem IsTraffic.congr (h : w.IsTraffic) (hbus : w'.bus = w.bus) (hevents : w'.events = w.events) :
    w'.IsTraffic := by
  unfold IsTraffic got
  rw [hbus, hevents]
  exact h

theorem IsTraffic.withBus (h : w.IsTraffic) (bus : Bus PlayedHandler)
    (hbus : ∀ handed, Carried decodes w.bus handed → Carried decodes bus handed) :
    IsTraffic { w with bus := bus } := by
  obtain ⟨handed, hcarried, hgot⟩ := h
  exact ⟨handed, hbus handed hcarried, hgot⟩

theorem decoded_snoc (handed : List (PlayedHandler × Payload)) (h : PlayedHandler)
    (payload : Payload) :
    decoded (handed ++ [(h, payload)]) = decoded handed ++ (h.read payload).toList := by
  unfold decoded
  rw [List.filterMap_append]
  cases hread : h.read payload <;> simp [hread]

theorem got_note (w : BusSimulation) (e : BusEvent) : (w.note e).got = w.got ++ e.got?.toList := by
  cases e <;> simp [got, note, BusEvent.got?]

theorem IsTraffic.note (h : w.IsTraffic) (e : BusEvent) : (w.note e).IsTraffic := by
  obtain ⟨handed, hcarried, hgot⟩ := h
  refine ⟨handed, hcarried, ?_⟩
  rw [got_note]
  exact hgot.trans (List.sublist_append_left _ _)

theorem isTraffic_start : start.IsTraffic := ⟨[], .opened, .slnil⟩

theorem IsTraffic.wake (h : w.IsTraffic) (subject : String) : (w.wake subject).IsTraffic := by
  unfold BusSimulation.wake
  split
  · exact h.congr rfl rfl
  · exact h

theorem IsTraffic.subscribe (h : w.IsTraffic) (subject : String) (handler : PlayedHandler) :
    (w.subscribe subject handler).2.IsTraffic := by
  have hbus : ∀ bus, bus = (w.bus.subscribe subject handler).2 →
      IsTraffic { w with bus := bus } := by
    rintro _ rfl
    exact h.withBus _ fun _ hc => hc.subscribe subject handler
  unfold BusSimulation.subscribe
  split
  case h_1 bus heq =>
    have hnext := hbus bus (congrArg Prod.snd heq).symm
    exact IsTraffic.wake (w := { w with bus := bus, held := subject :: w.held })
      (hnext.congr rfl rfl) subject
  case h_2 bus heq => exact hbus bus (congrArg Prod.snd heq).symm

theorem IsTraffic.publish (h : w.IsTraffic) (subject : String) (payload : Payload) :
    (w.publish subject payload).2.IsTraffic :=
  (h.withBus _ fun _ hc => hc.publish subject payload).wake subject

theorem IsTraffic.publishEncoded (h : w.IsTraffic) (subject : String) (payload : Option Payload) :
    (w.publishEncoded subject payload).2.IsTraffic := by
  cases payload with
  | none => exact h
  | some payload => exact h.publish subject payload

theorem IsTraffic.close (h : w.IsTraffic) : w.close.IsTraffic := by
  have hwake : ∀ (subjects : List String) {w : BusSimulation}, w.IsTraffic →
      (subjects.foldl BusSimulation.wake w).IsTraffic := by
    intro subjects
    induction subjects with
    | nil => exact id
    | cons subject rest ih => exact fun h => ih (h.wake subject)
  exact hwake _ (h.withBus _ fun _ hc => hc.close)

/-! ### Handlers and dispatchers -/

/-- What a handler does after its delay once it has passed the payload on, or
failed to. -/
theorem IsTraffic.play (h : w.IsTraffic) (handler : PlayedHandler) (subject : String)
    (value : Json.Value) : (play handler subject value w).2.IsTraffic := by
  unfold BusSimulation.play
  cases handler.forward with
  | none =>
      cases handler.ending with
      | crashes => exact h
      | hangs => exact h
      | returns => exact h.note _
      | fails text => exact h.note _
  | some other =>
      have hpassed := h.publish other (Json.utf8 value.compact)
      simp only
      split
      case h_1 => exact hpassed
      case h_2 =>
        cases handler.ending with
        | crashes => exact hpassed
        | hangs => exact hpassed
        | returns => exact hpassed.note _
        | fails text => exact hpassed.note _

theorem IsTraffic.finish (h : w.IsTraffic) (subject : String) :
    IsTraffic { w with bus := w.bus.finish subject } :=
  h.withBus _ fun _ hc => hc.finish subject

theorem IsTraffic.resume (h : w.IsTraffic) (handler : PlayedHandler) (subject : String)
    (payload : Payload) : (resume handler subject payload w).IsTraffic := by
  unfold BusSimulation.resume
  split
  case h_1 => exact h.finish subject
  case h_2 value _ =>
    have hplayed := h.play handler subject value
    split
    case h_1 heq =>
      rw [heq] at hplayed
      exact hplayed.finish subject
    case h_2 heq =>
      rw [heq] at hplayed
      exact hplayed.withBus _ fun _ hc => hc.crash subject
    case h_3 heq =>
      rw [heq] at hplayed
      exact hplayed

theorem IsTraffic.runDispatcher (h : w.IsTraffic) (subject : String) (fuel : Nat) :
    (runDispatcher subject fuel w).IsTraffic := by
  induction fuel generalizing w with
  | zero => exact h
  | succ fuel ih =>
      obtain ⟨handed, hcarried, hgot⟩ := h
      have hdispatched := hcarried.dispatch subject
      unfold BusSimulation.runDispatcher
      split
      case h_1 bus heq =>
        rw [heq] at hdispatched
        exact ⟨handed, List.append_nil handed ▸ hdispatched, hgot⟩
      case h_2 handler payload bus heq =>
        rw [heq] at hdispatched
        simp only
        split
        case h_1 hunread =>
          have hskipped : IsTraffic { w with bus := bus } := by
            refine ⟨_, hdispatched, ?_⟩
            show (decoded (handed ++ [(handler, payload)])).Sublist w.got
            rw [decoded_snoc, hunread]
            exact (List.append_nil _).symm ▸ hgot
          exact ih (hskipped.finish subject)
        case h_2 value hread =>
          have hnoted : IsTraffic (.note { w with bus := bus } (.got subject value)) := by
            refine ⟨_, hdispatched, ?_⟩
            show (decoded (handed ++ [(handler, payload)])).Sublist _
            rw [decoded_snoc, hread, got_note]
            exact hgot.append (List.Sublist.refl [value])
          split
          case isTrue => exact ih (hnoted.resume handler subject payload)
          case isFalse => exact hnoted.congr rfl rfl

theorem IsTraffic.run (h : w.IsTraffic) (fuel : Nat) (subject : String) :
    (run fuel subject w).IsTraffic := by
  unfold BusSimulation.run
  split
  case h_1 => exact (h.resume _ subject _).runDispatcher subject fuel
  case h_2 => exact h.runDispatcher subject fuel

theorem IsTraffic.drain (h : w.IsTraffic) (fuel : Nat) : (drain fuel w).IsTraffic := by
  induction fuel generalizing w with
  | zero => exact h
  | succ fuel ih =>
      unfold BusSimulation.drain
      split
      case h_1 => exact h
      case h_2 subject rest _ =>
        have hwoken : IsTraffic { w with ready := rest } := h.congr rfl rfl
        exact ih (hwoken.run (fuel + 1) subject)

theorem IsTraffic.toNextTimer (h : w.IsTraffic) (timer : Tick) :
    (toNextTimer timer w).IsTraffic := by
  -- with its fields at hand it is plain that time is all that has changed
  cases w
  exact h.congr rfl rfl

/-! ### The caller -/

theorem IsTraffic.poll {c : Caller} {r : Except BusError Unit × BusSimulation} (h : w.IsTraffic)
    (hr : poll? c w = some r) : r.2.IsTraffic := by
  cases c with
  | sleeping tick =>
      simp only [poll?] at hr
      split at hr
      case isTrue => cases hr; exact h
      case isFalse => cases hr
  | joining subjects limit =>
      simp only [poll?] at hr
      split at hr
      case isTrue => cases hr; exact h
      case isFalse => cases hr
  | handling handler subject value tick =>
      have hplayed := h.play handler subject value
      simp only [poll?] at hr
      split at hr
      case isTrue =>
        split at hr
        case h_1 heq =>
          rw [heq] at hplayed
          cases hr
          exact hplayed
        case h_2 heq =>
          rw [heq] at hplayed
          cases hr
          exact hplayed
      case isFalse => cases hr

theorem IsTraffic.await (h : w.IsTraffic) (fuel : Nat) (c : Caller) :
    (await fuel c w).2.IsTraffic := by
  induction fuel generalizing w with
  | zero => exact h
  | succ fuel ih =>
      unfold BusSimulation.await
      split
      case h_1 r hr => exact h.poll hr
      case h_2 =>
        split
        case isTrue => exact ih (h.toNextTimer _)
        case isFalse => exact ih (h.drain (fuel + 1))

theorem IsTraffic.sleep (h : w.IsTraffic) (d : Duration) : (sleep d w).2.IsTraffic :=
  h.await patience (.sleeping (dueAfter w.now d))

theorem IsTraffic.handle (h : w.IsTraffic) (handler : PlayedHandler) (subject : String)
    (payload : Payload) : (handle handler subject payload w).2.IsTraffic := by
  unfold BusSimulation.handle
  split
  case h_1 => exact h
  case h_2 value _ => exact (h.note (.got subject value)).await patience _

theorem IsTraffic.shutDown (h : w.IsTraffic) : w.shutDown.2.IsTraffic := by
  unfold BusSimulation.shutDown
  simp only
  refine IsTraffic.await ?_ patience _
  exact (h.close.withBus _ fun _ hc => hc.shutDown).congr rfl rfl

/-- What a simulation can come to by what its caller does, one thing after the
other. -/
inductive Simulated : BusSimulation → Prop where
  | start : Simulated start
  | subscribe {w : BusSimulation} (subject : String) (handler : PlayedHandler) :
      Simulated w → Simulated (w.subscribe subject handler).2
  | publish {w : BusSimulation} (subject : String) (payload : Option Payload) :
      Simulated w → Simulated (w.publishEncoded subject payload).2
  | close {w : BusSimulation} : Simulated w → Simulated w.close
  | sleep {w : BusSimulation} (d : Duration) : Simulated w → Simulated (sleep d w).2
  | handle {w : BusSimulation} (handler : PlayedHandler) (subject : String) (payload : Payload) :
      Simulated w → Simulated (handle handler subject payload w).2
  | shutDown {w : BusSimulation} : Simulated w → Simulated w.shutDown.2

/-- Every simulation is traffic. -/
theorem Simulated.isTraffic (h : Simulated w) : w.IsTraffic := by
  induction h with
  | start => exact isTraffic_start
  | subscribe subject handler _ ih => exact ih.subscribe subject handler
  | publish subject payload _ ih => exact ih.publishEncoded subject payload
  | close _ ih => exact ih.close
  | sleep d _ ih => exact ih.sleep d
  | handle handler subject payload _ ih => exact ih.handle handler subject payload
  | shutDown _ ih => exact ih.shutDown

end BusSimulation

end NodeKeeper
