/-
# What is delivered

For every order of moves, what has happened on a subject can be read off its log:
to whom payloads went, in which order, and whether one was still at work when the
next began.  As long as the token is not cancelled, the subject has at most one
lane, and lane and log tell the same.

    Tells lane log     the lane's handler, queue and stage follow from the log
    Sound t s log      what holds of the log of a subject, whatever happens

**Proved here.**

    every step keeps the log of every subject sound          (`Happens.sound`)
    and so does every run                                    (`Sound.play`)
    a cancelled token stays so, and nothing is delivered     (`play_afterCancel`)
    a lane that is served delivers all that waits in it      (`begun_turns`)
-/
import NodeKeeper.Proofs.Bus.Steps

namespace NodeKeeper

open TrafficLog

theorem TrafficLog.on_of_isOn {Handler : Type} {subject : String} {e : BusNote Handler}
    (h : e.isOn subject = true) : on subject [e] = [e] := by
  simp [on, h]

theorem TrafficLog.on_of_not_isOn {Handler : Type} {subject : String} {e : BusNote Handler}
    (h : e.isOn subject = false) : on subject [e] = [] := by
  simp [on, h]

/-- One for a lane whose handler is at work. -/
def Lane.busy {Handler : Type} (lane : Lane Handler) : Nat :=
  match lane.stage with
  | .handling _ => 1
  | _ => 0

namespace Traffic

variable {Handler : Type} {reads : Handler → Payload → Bool} {t t' : Traffic Handler}
  {log notes : TrafficLog Handler} {subject : String} {n : Nat} {lane lane' : Lane Handler}

/-! ## What a lane tells of its subject -/

/-- What has happened on the subject of a lane that nobody else has. -/
structure Tells (lane : Lane Handler) (log : TrafficLog Handler) : Prop where
  handler : subscribed log = [lane.handler]
  queue : queued log = delivered log ++ lane.queue
  busy : (begun log).length = ends log + lane.busy
  ended : lane.stage = .ended → crashed log = true

namespace Tells

variable {handler : Handler} {queue : List Payload} {payload : Payload} {stage : LaneStage}

theorem enqueue (ht : Tells lane log) (i : Nat) (s : String) (payload : Payload) :
    Tells { lane with queue := lane.queue ++ [payload] } (log ++ [.queued i s payload]) where
  handler := by rw [subscribed_append, ht.handler]; rfl
  queue := by
    rw [queued_append, delivered_append, ht.queue, List.append_assoc, List.append_assoc]
    rfl
  busy := by
    rw [begun_append, ends_append, List.length_append, ht.busy]
    exact Nat.add_right_comm _ _ _
  ended := by
    intro h
    rw [crashed_append, ht.ended h]
    rfl

theorem begin (ht : Tells ⟨handler, payload :: queue, .idle⟩ log) (s : String) :
    Tells ⟨handler, queue, .handling payload⟩ (log ++ [.begun s handler payload]) where
  handler := by rw [subscribed_append, ht.handler]; rfl
  queue := by
    rw [queued_append, delivered_append, ht.queue, List.append_assoc, List.append_assoc]
    exact congrArg _ (List.append_nil _)
  busy := by
    rw [begun_append, ends_append, List.length_append, ht.busy]
    rfl
  ended := nofun

theorem finish {e : BusNote Handler} (ht : Tells ⟨handler, queue, .handling payload⟩ log)
    (hsubscribed : e.subscribed? = none) (hqueued : e.queued? = none) (hbegun : e.begun? = none)
    (hend : e.isEnd = true) (hstage : stage = .idle ∨ stage = .ended ∧ e.isCrash = true) :
    Tells ⟨handler, queue, stage⟩ (log ++ [e]) where
  handler := by simpa [subscribed, hsubscribed] using ht.handler
  queue := by simpa [queued, delivered, begun, hqueued, hbegun] using ht.queue
  busy := by
    have hidle : Lane.busy (⟨handler, queue, stage⟩ : Lane Handler) = 0 := by
      rcases hstage with rfl | ⟨rfl, _⟩ <;> rfl
    have hatWork : Lane.busy (⟨handler, queue, .handling payload⟩ : Lane Handler) = 1 := rfl
    simpa [begun, ends, hbegun, hend, hidle, hatWork] using ht.busy
  ended := by
    intro h
    rcases hstage with rfl | ⟨_, hcrash⟩
    · cases h
    · rw [crashed_append]
      simp [crashed, hcrash]

end Tells

/-- The lane of a subject tells what has happened on it; if it has none, nothing
has happened. -/
structure Current (t : Traffic Handler) (subject : String) (log : TrafficLog Handler) : Prop where
  tells : ∀ (n : Nat) (lane : Lane Handler), t.lanes[n]? = some (subject, lane) → Tells lane log
  silent : subject ∉ t.names → log = []

/-- What holds of what has happened on a subject. -/
structure Sound (t : Traffic Handler) (subject : String) (log : TrafficLog Handler) : Prop where
  current : t.cancelled = false → Current t subject log
  first : ∀ handler payload, (handler, payload) ∈ begun log →
    (subscribed log).head? = some handler
  inOrder : delivered log <+: queued log
  turns : ∀ before handler payload after,
    log = before ++ .begun subject handler payload :: after → (begun before).length = ends before

theorem Sound.opened (subject : String) : Sound (opened : Traffic Handler) subject [] where
  current _ := ⟨nofun, fun _ => rfl⟩
  first := nofun
  inOrder := List.prefix_rfl
  turns := by
    intro before handler payload after h
    exact nomatch (List.append_eq_nil_iff.1 h.symm).2

theorem Sound.off (hs : Sound t subject log)
    (hlanes : ∀ (m : Nat) (lane : Lane Handler),
      t'.lanes[m]? = some (subject, lane) → t.lanes[m]? = some (subject, lane))
    (hnames : subject ∈ t.names → subject ∈ t'.names)
    (hcancelled : t'.cancelled = false → t.cancelled = false) : Sound t' subject log where
  current hc :=
    ⟨fun m lane hl => (hs.current (hcancelled hc)).tells m lane (hlanes m lane hl),
      fun hn => (hs.current (hcancelled hc)).silent (fun h => hn (hnames h))⟩
  first := hs.first
  inOrder := hs.inOrder
  turns := hs.turns

theorem Sound.snoc {e : BusNote Handler} (hs : Sound t subject log) (he : e.begun? = none)
    (hcurrent : t'.cancelled = false → Current t' subject (log ++ [e])) :
    Sound t' subject (log ++ [e]) := by
  have hbegun : begun (log ++ [e]) = begun log := by simp [begun, he]
  refine ⟨hcurrent, ?_, ?_, ?_⟩
  · intro handler payload hm
    rw [hbegun] at hm
    rw [subscribed_append, List.head?_append, hs.first handler payload hm]
    rfl
  · rw [delivered, hbegun, queued_append]
    exact hs.inOrder.trans (List.prefix_append _ _)
  · intro before handler payload after h
    rcases snoc_eq_split_iff.1 h with ⟨_, _, hlast⟩ | ⟨rest, _, hlog⟩
    · rw [← hlast] at he
      cases he
    · exact hs.turns before handler payload rest hlog

theorem Sound.begin {handler : Handler} {payload : Payload} {rest : List Payload}
    (hs : Sound t subject log) (ht : Tells ⟨handler, payload :: rest, .idle⟩ log)
    (hcurrent : Tells ⟨handler, rest, .handling payload⟩
        (log ++ [.begun subject handler payload]) →
      Current t' subject (log ++ [.begun subject handler payload])) :
    Sound t' subject (log ++ [.begun subject handler payload]) := by
  have htells := ht.begin subject
  refine ⟨fun _ => hcurrent htells, ?_, ?_, ?_⟩
  · intro handler' payload' hm
    rw [subscribed_append, ht.handler]
    rw [begun_append] at hm
    rcases List.mem_append.1 hm with hm | hm
    · have := hs.first handler' payload' hm
      rwa [ht.handler] at this
    · cases List.mem_singleton.1 hm
      rfl
  · rw [htells.queue]
    exact List.prefix_append _ _
  · intro before handler' payload' after h
    rcases snoc_eq_split_iff.1 h with ⟨_, rfl, _⟩ | ⟨rest', _, hlog⟩
    · exact ht.busy
    · exact hs.turns before handler' payload' rest' hlog

/-! ## Every step -/

theorem setLane_self (hl : t.lanes[n]? = some (subject, lane)) :
    t.setLane n subject lane = t := by
  obtain ⟨hn, hget⟩ := List.getElem?_eq_some_iff.1 hl
  unfold Traffic.setLane
  rw [← hget, List.set_getElem_self]

theorem getElem?_setLane_iff {s s' : String} {m : Nat} {l : Lane Handler}
    (hl : t.lanes[n]? = some (s, lane)) :
    (t.setLane n s lane').lanes[m]? = some (s', l) ↔
      (m = n ∧ s = s' ∧ lane' = l) ∨ (m ≠ n ∧ t.lanes[m]? = some (s', l)) := by
  obtain ⟨hn, _⟩ := List.getElem?_eq_some_iff.1 hl
  unfold setLane
  rw [List.getElem?_set]
  by_cases hm : m = n
  · subst hm
    simp [hn]
  · simp [hm, Ne.symm hm]

theorem getElem?_setLane (hl : t.lanes[n]? = some (subject, lane)) (lane' : Lane Handler) :
    (t.setLane n subject lane').lanes[n]? = some (subject, lane') :=
  (getElem?_setLane_iff hl).2 (.inl ⟨rfl, rfl, rfl⟩)

theorem Sound.setOther {s : String} (hs : Sound t subject log) (hl : t.lanes[n]? = some (s, lane))
    (hne : s ≠ subject) : Sound (t.setLane n s lane') subject log := by
  refine hs.off ?_ ?_ id
  · intro m l hm
    rcases (getElem?_setLane_iff hl).1 hm with ⟨_, heq, _⟩ | ⟨_, hm⟩
    · exact absurd heq hne
    · exact hm
  · rw [names_setLane hl]
    exact id

theorem Routed.current_setLane (hr : t.Routed) (hc : t.cancelled = false)
    (hl : t.lanes[n]? = some (subject, lane)) (ht : Tells lane' log) :
    Current (t.setLane n subject lane') subject log where
  tells := by
    intro m l hm
    rcases (getElem?_setLane_iff hl).1 hm with ⟨_, _, rfl⟩ | ⟨hne, hm⟩
    · exact ht
    · have hsame := (hr.found hc _ _ (names_getElem? hm)).symm.trans
        (hr.found hc _ _ (names_getElem? hl))
      exact absurd (Option.some.inj hsame) hne
  silent := by
    intro hnot
    rw [names_setLane hl] at hnot
    exact absurd (List.mem_of_getElem? (names_getElem? hl)) hnot

theorem Sound.setLane {s : String} {e : BusNote Handler} (hs : Sound t subject log) (hr : t.Routed)
    (hl : t.lanes[n]? = some (s, lane)) (hon : ∀ subject, e.isOn subject = decide (s = subject))
    (he : e.begun? = none) (ht : ∀ log, Tells lane log → Tells lane' (log ++ [e])) :
    Sound (t.setLane n s lane') subject (log ++ on subject [e]) := by
  by_cases hsubject : s = subject
  · subst hsubject
    rw [on_of_isOn (by simp [hon])]
    exact hs.snoc he fun hc =>
      hr.current_setLane hc hl (ht log ((hs.current hc).tells n lane hl))
  · rw [on_of_not_isOn (by simp [hon, hsubject]), List.append_nil]
    exact hs.setOther hl hsubject

/-- Once the token is cancelled nothing more is said about lanes. -/
theorem Sound.afterCancel (hs : Sound t subject log) (hc : t'.cancelled = true) :
    Sound t' subject log where
  current h := nomatch hc.symm.trans h
  first := hs.first
  inOrder := hs.inOrder
  turns := hs.turns

theorem getElem?_openLane_iff {handler : Handler} {s s' : String} {l : Lane Handler} :
    (t.openLane s handler).lanes[n]? = some (s', l) ↔
      t.lanes[n]? = some (s', l) ∨ n = t.lanes.length ∧ s = s' ∧ ⟨handler, [], .idle⟩ = l := by
  unfold openLane
  rw [getElem?_snoc_iff, Prod.mk.injEq]

theorem Sound.openLane (hs : Sound t subject log) (hr : t.Routed)
    (hnone : t.routes.get? subject = none) (i : Nat) (handler : Handler) :
    Sound (t.openLane subject handler) subject (log ++ [.subscribed i subject handler]) := by
  refine hs.snoc rfl fun hc => ?_
  have hnot : subject ∉ t.names := by
    intro hm
    obtain ⟨n, hn⟩ := List.getElem?_of_mem hm
    rw [hr.found hc subject n hn] at hnone
    cases hnone
  rw [(hs.current hc).silent hnot]
  refine ⟨?_, ?_⟩
  · intro m lane hl
    rcases getElem?_openLane_iff.1 hl with hl | ⟨_, _, rfl⟩
    · exact absurd (List.mem_of_getElem? (names_getElem? hl)) hnot
    · exact ⟨rfl, rfl, rfl, nofun⟩
  · intro h
    exact absurd (by simp) h

theorem Happens.sound (h : Happens t t' notes) (hr : t.Routed) (hs : Sound t subject log) :
    Sound t' subject (log ++ on subject notes) := by
  cases h with
  | @aside calls notes hanswers =>
      have hoff : on subject notes = [] := by
        refine List.filter_eq_nil_iff.2 fun e he => ?_
        obtain ⟨i, result, rfl⟩ := hanswers e he
        simp [BusNote.isOn]
      rw [hoff, List.append_nil]
      exact hs.off (fun _ _ => id) id id
  | @queued calls i n s payload lane _ hl _ =>
      exact Sound.setLane (t := { t with calls := calls }) (hs.off (fun _ _ => id) id id)
        (hr.congr rfl rfl id) hl (fun _ => rfl) rfl fun _ ht => ht.enqueue i s payload
  | @subscribed calls i s handler hnone =>
      -- what is said of calls is no matter of a subject
      have hs' : Sound { t with calls := calls } subject log := hs.off (fun _ _ => id) id id
      show Sound _ subject (log ++ on subject [.subscribed i s handler])
      by_cases hsubject : s = subject
      · subst hsubject
        rw [on_of_isOn (by simp [BusNote.isOn])]
        exact hs'.openLane (hr.congr rfl rfl id) hnone i handler
      · rw [on_of_not_isOn (by simp [BusNote.isOn, hsubject]), List.append_nil]
        refine hs'.off ?_ ?_ id
        · intro m lane hl
          rcases getElem?_openLane_iff.1 hl with hl | ⟨_, heq, _⟩
          · exact hl
          · exact absurd heq hsubject
        · intro hm
          rw [names_openLane]
          exact List.mem_append_left _ hm
  | cancelled => exact (List.append_nil log).symm ▸ hs.afterCancel rfl
  | cleared hc => exact (List.append_nil log).symm ▸ hs.afterCancel hc
  | @moved n s lane lane' notes hl hmove =>
      cases hmove with
      | nothing => exact (List.append_nil log).symm ▸ (setLane_self hl).symm ▸ hs
      | stopped hc => exact (List.append_nil log).symm ▸ hs.afterCancel hc
      | @begun handler payload rest hc =>
          by_cases hsubject : s = subject
          · subst hsubject
            rw [on_of_isOn (by simp [BusNote.isOn])]
            exact hs.begin ((hs.current hc).tells n _ hl) (hr.current_setLane hc hl)
          · rw [on_of_not_isOn (by simp [BusNote.isOn, hsubject]), List.append_nil]
            exact hs.setOther hl hsubject
      | ended =>
          exact hs.setLane hr hl (fun _ => rfl) rfl fun _ ht =>
            ht.finish rfl rfl rfl rfl (.inl rfl)
      | crashed =>
          exact hs.setLane hr hl (fun _ => rfl) rfl fun _ ht =>
            ht.finish rfl rfl rfl rfl (.inr ⟨rfl, rfl⟩)

/-! ## Every run -/

theorem Routed.play (hr : t.Routed) (moves : List (BusMove Handler)) :
    (play reads moves t).1.Routed := by
  induction moves generalizing t with
  | nil => exact hr
  | cons m rest ih => exact ih ((step_happens hr m).routed hr)

theorem Sound.play (hs : Sound t subject log) (hr : t.Routed) (moves : List (BusMove Handler)) :
    Sound (play reads moves t).1 subject (log ++ on subject (play reads moves t).2) := by
  induction moves generalizing t log with
  | nil => simpa [on, Traffic.play] using hs
  | cons m rest ih =>
      have hstep : Happens t (t.step reads m).1 (t.step reads m).2 := step_happens hr m
      have hrest := ih (hstep.sound hr hs) (hstep.routed hr)
      rw [List.append_assoc, ← on_append] at hrest
      exact hrest

/-! ## After the token is cancelled -/

/-- The token stays cancelled, and no handler is invoked. -/
theorem Happens.afterCancel (h : Happens t t' notes) (hc : t.cancelled = true) :
    t'.cancelled = true ∧ notes.begun = [] := by
  cases h with
  | aside hanswers =>
      refine ⟨hc, List.filterMap_eq_nil_iff.2 fun e he => ?_⟩
      obtain ⟨i, result, rfl⟩ := hanswers e he
      rfl
  | cancelled => exact ⟨rfl, rfl⟩
  | moved _ hmove =>
      cases hmove with
      | begun hopen => exact nomatch hc.symm.trans hopen
      | _ => exact ⟨hc, rfl⟩
  | _ => exact ⟨hc, rfl⟩

theorem play_afterCancel (reads : Handler → Payload → Bool) (hr : t.Routed)
    (hc : t.cancelled = true) (moves : List (BusMove Handler)) :
    (play reads moves t).1.cancelled = true ∧ begun (play reads moves t).2 = [] := by
  induction moves generalizing t with
  | nil => exact ⟨hc, rfl⟩
  | cons m rest ih =>
      have hstep : Happens t (t.step reads m).1 (t.step reads m).2 := step_happens hr m
      obtain ⟨hc', hnone⟩ := hstep.afterCancel hc
      obtain ⟨hlast, hlater⟩ := ih (hstep.routed hr) hc'
      rw [play_cons]
      exact ⟨hlast, by simp [hnone, hlater]⟩

theorem call_afterCancel (hc : t.cancelled = true) (c : BusCall Handler) :
    (t.call c).2 = [.answered t.calls.length (.error .closed)] := by
  simp [call, hc]

/-! ## A lane's turns -/

/-- A lane is served: its handler is done with what it is at work on, and its
dispatcher looks for the next payload, once for every result. -/
def turns (n : Nat) (results : List (Except String Unit)) : List (BusMove Handler) :=
  results.flatMap fun result => [.lane n (.finish result), .lane n .dispatch]

theorem turns_cons (result : Except String Unit) (results : List (Except String Unit)) :
    (turns n (result :: results) : List (BusMove Handler)) =
      .lane n (.finish result) :: .lane n .dispatch :: turns n results :=
  rfl

theorem step_lane (hl : t.lanes[n]? = some (subject, lane)) (m : LaneMove) :
    t.step reads (.lane n m) =
      (t.setLane n subject (lane.step reads t.cancelled subject m).1,
        (lane.step reads t.cancelled subject m).2) := by
  simp [step, moveLane, hl]

/-- Once its handler is done with what it is at work on, a lane is between two
payloads. -/
theorem finish_frees (reads : Handler → Payload → Bool) (handler : Handler)
    (queue : List Payload) {stage : LaneStage} (hlive : stage ≠ .ended) (cancelled : Bool)
    (result : Except String Unit) :
    let r := Lane.step reads cancelled subject ⟨handler, queue, stage⟩ (.finish result)
    r.1 = ⟨handler, queue, .idle⟩ ∧ begun r.2 = [] := by
  cases stage with
  | idle => exact ⟨rfl, rfl⟩
  | handling payload => exact ⟨rfl, rfl⟩
  | ended => exact absurd rfl hlive

/-- With every turn the oldest payload goes to the handler. -/
theorem begun_turn (reads : Handler → Payload → Bool) {handler : Handler} {payload : Payload}
    {rest : List Payload} {stage : LaneStage}
    (hl : t.lanes[n]? = some (subject, ⟨handler, payload :: rest, stage⟩))
    (hlive : stage ≠ .ended) (hc : t.cancelled = false) (result : Except String Unit) :
    ∃ t' : Traffic Handler, t'.cancelled = false ∧
      t'.lanes[n]? = some (subject, ⟨handler, rest, .handling payload⟩) ∧
      ∀ later, begun (play reads (.lane n (.finish result) :: .lane n .dispatch :: later) t).2 =
        (handler, payload) :: begun (play reads later t').2 := by
  obtain ⟨hidle, hnone⟩ :=
    finish_frees reads handler (payload :: rest) hlive t.cancelled result
  have hfree := getElem?_setLane hl ⟨handler, payload :: rest, .idle⟩
  have hbusy := getElem?_setLane hfree ⟨handler, rest, .handling payload⟩
  have hnext : Lane.step reads t.cancelled subject ⟨handler, payload :: rest, .idle⟩ .dispatch =
      (⟨handler, rest, .handling payload⟩, [.begun subject handler payload]) := by
    simp [Lane.step, hc]
  refine ⟨.setLane (.setLane t n subject _) n subject _, hc, hbusy, fun later => ?_⟩
  rw [play_cons, step_lane hl, hidle, play_cons, step_lane hfree]
  show begun (_ ++ ((Lane.step reads t.cancelled subject _ _).2 ++
    (play reads later (.setLane _ n subject (Lane.step reads t.cancelled subject _ _).1)).2)) = _
  rw [begun_append, begun_append, hnone, hnext]
  rfl

/-- A lane that is served hands all that waits in its queue to its handler,
whatever the handler makes of it. -/
theorem begun_turns {results : List (Except String Unit)}
    (hl : t.lanes[n]? = some (subject, lane)) (hlive : lane.stage ≠ .ended)
    (hc : t.cancelled = false) (hlength : results.length = lane.queue.length) :
    begun (play reads (turns n results) t).2 = lane.queue.map (lane.handler, ·) := by
  obtain ⟨handler, queue, stage⟩ := lane
  induction queue generalizing t results stage with
  | nil =>
      obtain rfl := List.length_eq_zero_iff.1 hlength
      rfl
  | cons payload rest ih =>
      obtain ⟨result, results, rfl⟩ := List.exists_cons_of_length_eq_add_one hlength
      obtain ⟨t', hc', hl', hturn⟩ := begun_turn reads hl hlive hc result
      rw [turns_cons, hturn, ih hc' _ hl' nofun (Nat.succ.inj hlength)]
      rfl

end Traffic

end NodeKeeper
