/-
# What a bus guarantees

For every order in which anybody may publish, subscribe, dispatch, finish, crash,
cancel and clear, and for every subject:

    the handler    every payload goes to the handler of the first subscription,
                   and while it is at work it gets no other
    the payloads   they are delivered in the order in which they were queued,
                   none left out, and what was queued was published, once for
                   each call
    the queue      until the token is cancelled, what was not delivered waits in
                   the lane of the subject, and turns of that lane deliver it,
                   whatever becomes of each payload; only a crash ends the lane
    the others     what other lanes do makes no difference
    the end        once the token is cancelled nothing is delivered and every
                   call is refused

**Proved here.**  All of this at every moment (`delivers_in_order`).
-/
import NodeKeeper.Proofs.Bus.Apart
import NodeKeeper.Proofs.Bus.Calls

namespace NodeKeeper

open Traffic TrafficLog

variable {Handler : Type}

/-- Payloads of a subject go one at a time to its first handler, in the order in
which they were queued; all of them, unless the token is cancelled; and whatever
goes on elsewhere. -/
theorem delivers_in_order (reads : Handler → Payload → Bool) (moves : List (BusMove Handler))
    (subject : String) :
    let t := (play reads moves opened).1
    let log := on subject (play reads moves opened).2
    -- the handler
    (∀ handler payload, (handler, payload) ∈ begun log →
        (subscribed log).head? = some handler) ∧
      (∀ before handler payload after, log = before ++ .begun subject handler payload :: after →
        (begun before).length = ends before) ∧
      -- the payloads
      delivered log <+: queued log ∧
      (∀ i call, (i, call) ∈ accepted log → (asked moves)[i]? = some call) ∧
      ((accepted log).map (·.1)).Nodup ∧
      -- the queue
      (t.cancelled = false → log = [] ∨
        ∃ n lane, t.lanes[n]? = some (subject, lane) ∧ subscribed log = [lane.handler] ∧
          queued log = delivered log ++ lane.queue ∧
          (lane.stage = .ended → crashed log = true) ∧
          (lane.stage ≠ .ended → ∀ results, results.length = lane.queue.length →
            begun (play reads (turns n results) t).2 = lane.queue.map (lane.handler, ·))) ∧
      -- the others
      log = on subject (play reads (moves.filter (·.concerns t.names subject)) opened).2 ∧
      -- the end
      (t.cancelled = true → ∀ more,
        let last := (play reads more t).1
        begun (play reads more t).2 = [] ∧
          ∀ payload handler,
            (last.step reads (.publish subject payload)).2 =
                [.answered last.calls.length (.error .closed)] ∧
              (last.step reads (.subscribe subject handler)).2 =
                [.answered last.calls.length (.error .closed)]) := by
  intro t log
  have hrouted : t.Routed := Routed.opened.play moves
  have hsound : Sound t subject log := (Sound.opened subject).play .opened moves
  have hpaper : Paperwork (asked moves) t (accepted (play reads moves opened).2) :=
    Paperwork.opened.play moves
  have hsublist := accepted_on_sublist subject (play reads moves opened).2
  refine ⟨hsound.first, hsound.turns, hsound.inOrder, ?_, ?_, ?_, ?_, ?_⟩
  · intro i call h
    exact hpaper.wanted i call (hsublist.mem h)
  · exact hpaper.once.sublist (hsublist.map _)
  · intro hc
    have hcurrent := hsound.current hc
    by_cases hnames : subject ∈ t.names
    · obtain ⟨n, hn⟩ := List.getElem?_of_mem hnames
      obtain ⟨lane, hl⟩ := exists_lane hn
      have htells := hcurrent.tells n lane hl
      refine .inr ⟨n, lane, hl, htells.handler, htells.queue, htells.ended, ?_⟩
      intro hlive results hlength
      exact begun_turns hl hlive hc hlength
    · exact .inl (hcurrent.silent hnames)
  · exact play_apart (.refl subject opened) .opened .opened moves rfl
  · intro hc more
    obtain ⟨hc', hnone⟩ := play_afterCancel reads hrouted hc more
    exact ⟨hnone, fun _ _ => ⟨call_afterCancel hc' _, call_afterCancel hc' _⟩⟩

/-- While the handler of one subject hangs, the other gets its payloads, although
it fails on the first. -/
example :
    let moves : List (BusMove String) :=
      [.subscribe "a" "A", .subscribe "b" "B", .enter 0, .enter 1, .publish "a" [1],
        .publish "b" [2], .publish "b" [3], .enter 2, .enter 3, .enter 4, .lane 0 .dispatch,
        .lane 1 .dispatch, .lane 1 (.finish (.error "no")), .lane 1 .dispatch]
    begun (on "b" (play (fun _ _ => true) moves opened).2) = [("B", [2]), ("B", [3])] := by
  decide +kernel

end NodeKeeper
