/-
# What a step of the traffic may change

A step answers a call, or opens a lane, or moves one lane, or does something to
the bus as a whole.  `Lane.Happens` and `Happens` list what may happen and what is
noted of it; `Lane.step_happens` and `step_happens` say that there is nothing
else.

    on s log         what happened on subject `s`
    subscribed log   the handlers that were subscribed
    queued log       the payloads that were put into queues
    begun log        what was handed to handlers; `delivered log` are the payloads
    ends log         how often handlers have returned or crashed
    crashed log      whether one has crashed
    t.Routed         the routes lead to lanes of their subjects, and until the
                     token is cancelled every lane has its route
-/
import NodeKeeper.Bus.Traffic
import NodeKeeper.Proofs.Lists

namespace NodeKeeper

/-! ## Readings of a log -/

namespace BusNote

variable {Handler : Type}

/-- Does it tell of what happens on the subject? -/
def isOn (subject : String) : BusNote Handler → Bool
  | .subscribed _ s _ | .queued _ s _ | .begun s _ _ | .ended s _ | .crashed s => s = subject
  | .answered _ _ => false

def subscribed? : BusNote Handler → Option Handler
  | .subscribed _ _ handler => some handler
  | _ => none

def queued? : BusNote Handler → Option Payload
  | .queued _ _ payload => some payload
  | _ => none

def begun? : BusNote Handler → Option (Handler × Payload)
  | .begun _ handler payload => some (handler, payload)
  | _ => none

def isEnd : BusNote Handler → Bool
  | .ended _ _ | .crashed _ => true
  | _ => false

def isCrash : BusNote Handler → Bool
  | .crashed _ => true
  | _ => false

end BusNote

/-- What has been noted of a bus, in order. -/
abbrev TrafficLog (Handler : Type) := List (BusNote Handler)

namespace TrafficLog

variable {Handler : Type} (subject : String) (log log' : TrafficLog Handler)

/-- What happened on a subject. -/
def on : TrafficLog Handler := log.filter (·.isOn subject)

/-- The handlers that were subscribed. -/
def subscribed : List Handler := log.filterMap (·.subscribed?)

/-- The payloads that were put into queues. -/
def queued : List Payload := log.filterMap (·.queued?)

/-- What was handed to handlers. -/
def begun : List (Handler × Payload) := log.filterMap (·.begun?)

def delivered : List Payload := (begun log).map (·.2)

/-- How often handlers have returned or crashed. -/
def ends : Nat := log.countP (·.isEnd)

/-- Has a handler crashed? -/
def crashed : Bool := log.any (·.isCrash)

@[simp] theorem on_append : on subject (log ++ log') = on subject log ++ on subject log' :=
  List.filter_append ..

@[simp] theorem subscribed_append : subscribed (log ++ log') = subscribed log ++ subscribed log' :=
  List.filterMap_append

@[simp] theorem queued_append : queued (log ++ log') = queued log ++ queued log' :=
  List.filterMap_append

@[simp] theorem begun_append : begun (log ++ log') = begun log ++ begun log' :=
  List.filterMap_append

@[simp] theorem delivered_append : delivered (log ++ log') = delivered log ++ delivered log' := by
  simp [delivered]

@[simp] theorem ends_append : ends (log ++ log') = ends log + ends log' :=
  List.countP_append

@[simp] theorem crashed_append : crashed (log ++ log') = (crashed log || crashed log') :=
  List.any_append

end TrafficLog

open TrafficLog

/-! ## What a step may change -/

/-- What may happen on a lane in one step, and what is noted of it. -/
inductive Lane.Happens {Handler : Type} (cancelled : Bool) (subject : String) :
    Lane Handler → Lane Handler → TrafficLog Handler → Prop where
  | nothing {lane : Lane Handler} : Happens cancelled subject lane lane []
  /-- the dispatcher sees that the token is cancelled -/
  | stopped {handler : Handler} {queue : List Payload} :
      cancelled = true →
      Happens cancelled subject ⟨handler, queue, .idle⟩ ⟨handler, queue, .ended⟩ []
  | begun {handler : Handler} {payload : Payload} {rest : List Payload} :
      cancelled = false →
      Happens cancelled subject ⟨handler, payload :: rest, .idle⟩
        ⟨handler, rest, .handling payload⟩ [.begun subject handler payload]
  | ended {handler : Handler} {queue : List Payload} {payload : Payload}
      {result : Except BusError Unit} :
      Happens cancelled subject ⟨handler, queue, .handling payload⟩ ⟨handler, queue, .idle⟩
        [.ended subject result]
  | crashed {handler : Handler} {queue : List Payload} {payload : Payload} :
      Happens cancelled subject ⟨handler, queue, .handling payload⟩ ⟨handler, queue, .ended⟩
        [.crashed subject]

theorem Lane.step_happens {Handler : Type} (reads : Handler → Payload → Bool) (cancelled : Bool)
    (subject : String) (lane : Lane Handler) (m : LaneMove) :
    Happens cancelled subject lane (lane.step reads cancelled subject m).1
      (lane.step reads cancelled subject m).2 := by
  obtain ⟨handler, queue, stage⟩ := lane
  cases m with
  | dispatch =>
      cases stage with
      | idle =>
          cases cancelled with
          | true => exact .stopped rfl
          | false =>
              cases queue with
              | nil => exact .nothing
              | cons payload rest => exact .begun rfl
      | _ => exact .nothing
  | finish result =>
      cases stage with
      | handling payload => exact .ended
      | _ => exact .nothing
  | crash =>
      cases stage with
      | handling payload => exact .crashed
      | _ => exact .nothing

namespace Traffic

variable {Handler : Type} {reads : Handler → Payload → Bool} {t t' : Traffic Handler}
  {log notes : TrafficLog Handler} {subject : String}

/-- What may happen in one step, and what is noted of it. -/
inductive Happens (t : Traffic Handler) : Traffic Handler → TrafficLog Handler → Prop where
  /-- nothing but calls made, answered and given up -/
  | aside {calls : List (BusCall Handler)} {notes : TrafficLog Handler} :
      (∀ e ∈ notes, ∃ i result, e = .answered i result) →
      Happens t { t with calls := calls } notes
  | queued {calls : List (BusCall Handler)} {i n : Nat} {subject : String} {payload : Payload}
      {lane : Lane Handler} :
      t.routes.get? subject = some n → t.lanes[n]? = some (subject, lane) → lane.stage ≠ .ended →
      Happens t
        ({ t with calls := calls }.setLane n subject { lane with queue := lane.queue ++ [payload] })
        [.queued i subject payload, .answered i (.ok ())]
  | subscribed {calls : List (BusCall Handler)} {i : Nat} {subject : String} {handler : Handler} :
      t.routes.get? subject = none →
      Happens t ({ t with calls := calls }.openLane subject handler)
        [.subscribed i subject handler]
  | cancelled : Happens t { t with cancelled := true } []
  | cleared : t.cancelled = true → Happens t { t with routes := .empty } []
  | moved {n : Nat} {subject : String} {lane lane' : Lane Handler} {notes : TrafficLog Handler} :
      t.lanes[n]? = some (subject, lane) → Lane.Happens t.cancelled subject lane lane' notes →
      Happens t (t.setLane n subject lane') notes

/-! ## Where routes lead -/

/-- The subjects of the lanes, in order. -/
def names (t : Traffic Handler) : List String := t.lanes.map (·.1)

theorem names_getElem? {n : Nat} {lane : Lane Handler} (h : t.lanes[n]? = some (subject, lane)) :
    t.names[n]? = some subject := by
  simp [names, h]

theorem exists_lane {n : Nat} (h : t.names[n]? = some subject) :
    ∃ lane, t.lanes[n]? = some (subject, lane) := by
  unfold names at h
  rw [List.getElem?_map, Option.map_eq_some_iff] at h
  obtain ⟨⟨s, lane⟩, hl, rfl⟩ := h
  exact ⟨lane, hl⟩

@[simp] theorem names_setLane {n : Nat} {lane lane' : Lane Handler}
    (h : t.lanes[n]? = some (subject, lane)) : (t.setLane n subject lane').names = t.names := by
  obtain ⟨hn, hget⟩ := List.getElem?_eq_some_iff.1 h
  refine List.ext_getElem? fun m => ?_
  simp only [names, setLane, List.getElem?_map, List.getElem?_set]
  split
  case isTrue hm =>
    subst hm
    simp [hn, hget]
  case isFalse => rfl

theorem length_names : t.names.length = t.lanes.length := List.length_map _

@[simp] theorem names_openLane (handler : Handler) :
    (t.openLane subject handler).names = t.names ++ [subject] :=
  List.map_append

/-- Routes lead to lanes of their subjects, and every lane has its route until
the token is cancelled. -/
structure Routed (t : Traffic Handler) : Prop where
  leads : ∀ s n, t.routes.get? s = some n → t.names[n]? = some s
  found : t.cancelled = false → ∀ s n, t.names[n]? = some s → t.routes.get? s = some n

theorem Routed.opened : (opened : Traffic Handler).Routed where
  leads := nofun
  found := by
    intro _ s n h
    simp [names, Traffic.opened] at h

theorem Routed.congr (hr : t.Routed) (hroutes : t'.routes = t.routes) (hnames : t'.names = t.names)
    (hcancelled : t'.cancelled = false → t.cancelled = false) : t'.Routed where
  leads s n h := by
    rw [hroutes] at h
    rw [hnames]
    exact hr.leads s n h
  found hc s n h := by
    rw [hnames] at h
    rw [hroutes]
    exact hr.found (hcancelled hc) s n h

theorem Routed.of_route? (hr : t.Routed) {n : Nat} {lane : Lane Handler}
    (h : t.route? subject = some (n, lane)) :
    t.routes.get? subject = some n ∧ t.lanes[n]? = some (subject, lane) := by
  unfold route? at h
  split at h
  case h_1 => cases h
  case h_2 m hroute =>
    obtain ⟨lane', hl⟩ := exists_lane (hr.leads subject m hroute)
    rw [hl] at h
    cases h
    exact ⟨hroute, hl⟩

theorem Happens.routed (h : Happens t t' notes) (hr : t.Routed) : t'.Routed := by
  cases h with
  | aside => exact hr.congr rfl rfl id
  | queued _ hl => exact hr.congr rfl (names_setLane hl) id
  | @subscribed calls i s handler hnone =>
      have hopened : ∀ s' n, (t.names ++ [s])[n]? = some s' ↔
          t.names[n]? = some s' ∨ n = t.lanes.length ∧ s = s' :=
        fun s' n => length_names ▸ getElem?_snoc_iff
      refine ⟨?_, ?_⟩
      · intro s' n h
        rw [names_openLane]
        refine (hopened s' n).2 ?_
        simp only [openLane, Dictionary.get?_put] at h
        split at h
        case isTrue heq => exact .inr ⟨(Option.some.inj h).symm, heq.symm⟩
        case isFalse => exact .inl (hr.leads s' n h)
      · intro hc s' n h
        rw [names_openLane] at h
        simp only [openLane, Dictionary.get?_put]
        rcases (hopened s' n).1 h with h | ⟨rfl, rfl⟩
        · have hroute := hr.found hc s' n h
          have hne : s' ≠ s := by
            rintro rfl
            rw [hnone] at hroute
            cases hroute
          rw [if_neg hne]
          exact hroute
        · rw [if_pos rfl]
  | cancelled => exact hr.congr rfl rfl nofun
  | cleared hc => exact ⟨nofun, fun h => nomatch hc.symm.trans h⟩
  | moved hl => exact hr.congr rfl (names_setLane hl) id

/-! ## Nothing else happens -/

theorem Happens.nothing (t : Traffic Handler) : Happens t t [] :=
  .aside (fun _ h => nomatch h)

theorem call_happens (t : Traffic Handler) (c : BusCall Handler) :
    Happens t (t.call c).1 (t.call c).2 := by
  unfold call
  split
  · exact .aside fun e h => ⟨_, _, List.mem_singleton.1 h⟩
  · exact .aside (fun _ h => nomatch h)

theorem enter_happens (hr : t.Routed) (i : Nat) : Happens t (t.enter i).1 (t.enter i).2 := by
  have haside : ∀ result, Happens t (t.setCall i .done) [.answered i result] :=
    fun result => .aside fun e h => ⟨_, _, List.mem_singleton.1 h⟩
  unfold enter
  split
  case h_1 s payload _ =>
    split
    case h_1 => exact haside _
    case h_2 n lane hroute =>
      have hlane := hr.of_route? hroute
      split
      case isTrue => exact haside _
      case isFalse hlive => exact .queued hlane.1 hlane.2 hlive
  case h_2 s handler _ =>
    split
    case h_1 => exact haside _
    case h_2 hnone => exact .subscribed hnone
  case h_3 => exact haside _
  case h_4 => exact .nothing t

theorem moveLane_happens (reads : Handler → Payload → Bool) (t : Traffic Handler) (n : Nat)
    (m : LaneMove) : Happens t (t.moveLane reads n m).1 (t.moveLane reads n m).2 := by
  unfold moveLane
  split
  case h_1 => exact .nothing t
  case h_2 hl => exact .moved hl (Lane.step_happens ..)

theorem step_happens (hr : t.Routed) (m : BusMove Handler) :
    Happens t (t.step reads m).1 (t.step reads m).2 := by
  cases m with
  | publish s payload => exact call_happens t _
  | subscribe s handler => exact call_happens t _
  | enter i => exact enter_happens hr i
  | giveUp i => exact .aside (fun _ h => nomatch h)
  | cancel => exact .cancelled
  | clear =>
      simp only [step]
      split
      case isTrue hc => exact .cleared hc
      case isFalse => exact .nothing t
  | lane n m => exact moveLane_happens reads t n m

/-! ## One step after the other -/

theorem play_cons (m : BusMove Handler) (rest : List (BusMove Handler)) :
    play reads (m :: rest) t =
      ((play reads rest (t.step reads m).1).1,
        (t.step reads m).2 ++ (play reads rest (t.step reads m).1).2) :=
  rfl

theorem play_append (moves moves' : List (BusMove Handler)) :
    play reads (moves ++ moves') t =
      ((play reads moves' (play reads moves t).1).1,
        (play reads moves t).2 ++ (play reads moves' (play reads moves t).1).2) := by
  induction moves generalizing t with
  | nil => rfl
  | cons m rest ih =>
      rw [List.cons_append, play_cons, play_cons, ih, List.append_assoc]

end Traffic

end NodeKeeper
