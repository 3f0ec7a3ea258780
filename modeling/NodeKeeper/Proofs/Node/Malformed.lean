/-
# Messages that cannot be read

Anybody may publish anything on the subjects that a node listens to.  What its
handlers cannot read they drop, and nothing else comes of it.

**Proved here.**

    they can be left out of any run       the rest is a run, of which the same is
                                          seen (`WholeNode.Runs.hush`, `seen_hushed`)
    they can be put into any run          there is a run with any of them in between,
                                          of which the same is seen
                                          (`WholeNode.Runs.with_posts`)
    so they are invisible                 (`WholeNode.malformed_invisible`)

Both go step by step.  To leave them out is to look at each node without those
that wait (`WholeNode.hush`): a step about one of them is no step there, and every
other step is the same.  To put them in, they are published when they are to come,
and each dispatcher that is to hand over something else first hands over those
that wait before it; these dispatches are the noise (`Runs.Noise`), and end
because each of them leaves one message fewer.
-/
import Mathlib
import NodeKeeper.Proofs.Node.Health
import NodeKeeper.Proofs.Node.Hushed

namespace NodeKeeper

/-! ## Runs -/

namespace NodeStep

def isAudible (s : NodeStep) : Bool := s.before.isAudible s.move

/-- The step of the node without the waiting messages that cannot be read. -/
def hush (s : NodeStep) : NodeStep := ⟨s.before.hush, s.move, s.history, s.after.hush⟩

/-- What somebody publishes. -/
def posted? (s : NodeStep) : Option (String × Payload) := WholeNode.posted? s.move

/-- The message that is handed to its handler, and when. -/
def heard? (s : NodeStep) : Option NodeMessage := s.before.heard? s.move

end NodeStep

namespace NodeSteps

/-- The steps without those about messages that cannot be read. -/
def hushed (steps : NodeSteps) : NodeSteps := (steps.filter (·.isAudible)).map (·.hush)

/-- The payloads that are published, with their subjects. -/
def posted (steps : NodeSteps) : List (String × Payload) := steps.flatMap (·.posted?.toList)

/-- The messages that are handed to their handlers, and when. -/
def heard (steps : NodeSteps) : List NodeMessage := steps.flatMap (·.heard?.toList)

/-- What the routine is given. -/
def routineCalls (steps : NodeSteps) : List InspectionInputs :=
  steps.flatMap (·.routineCall?.toList)

/-- The questions the chain is asked. -/
def questions (steps : NodeSteps) : List ChainProbe :=
  steps.flatMap fun s => (s.before.question? s.move).toList

variable {steps steps' : NodeSteps} {s : NodeStep}

theorem hushed_append (steps steps' : NodeSteps) :
    hushed (steps ++ steps') = hushed steps ++ hushed steps' := by
  simp [hushed]

theorem hushed_of_audible (hs : s.isAudible = true) : hushed [s] = [s.hush] := by
  simp [hushed, hs]

theorem hushed_of_inaudible (hs : s.isAudible = false) : hushed [s] = [] := by
  simp [hushed, hs]

theorem posted_append (steps steps' : NodeSteps) :
    posted (steps ++ steps') = posted steps ++ posted steps' := List.flatMap_append

theorem posted_singleton (s : NodeStep) : posted [s] = s.posted?.toList :=
  List.flatMap_singleton ..

theorem flatMap_hushed {α : Type} {see : NodeStep → List α}
    (hsame : ∀ s ∈ steps, s.isAudible = true → see s.hush = see s)
    (hnone : ∀ s ∈ steps, s.isAudible = false → see s = []) :
    (hushed steps).flatMap see = steps.flatMap see := by
  induction steps with
  | nil => rfl
  | cons s rest ih =>
      have hrest := ih (fun s hs => hsame s (List.mem_cons_of_mem _ hs))
        fun s hs => hnone s (List.mem_cons_of_mem _ hs)
      show (hushed ([s] ++ rest)).flatMap see = _
      rw [hushed_append, List.flatMap_append, hrest, List.flatMap_cons]
      cases hs : s.isAudible with
      | true => rw [hushed_of_audible hs, List.flatMap_singleton, hsame s List.mem_cons_self hs]
      | false => rw [hushed_of_inaudible hs, hnone s List.mem_cons_self hs]; rfl

end NodeSteps

namespace WholeNode

variable {c : Config} {told : Bool} {w w' first : WholeNode} {h : NodeHistory} {m : WholeMove}
  {steps : NodeSteps}

/-- Leaving out of a run what is about messages that cannot be read gives a run
of the nodes without them. -/
theorem Runs.hush (hr : first.Runs steps w) (hfirst : first.Wired) :
    first.hush.Runs steps.hushed w.hush := by
  induction hr with
  | nil => exact .nil
  | @snoc steps w w' m h hearlier hstep ih =>
      rw [NodeSteps.hushed_append]
      cases hm : NodeStep.isAudible ⟨w, m, h, w'⟩ with
      | true =>
          rw [NodeSteps.hushed_of_audible hm]
          exact ih.snoc ((yields_hush hm).2 ⟨w', hstep, rfl⟩)
      | false =>
          obtain ⟨-, hsame⟩ := (inaudible_of_not hm).hush (hearlier.wired hfirst) hstep
          rw [NodeSteps.hushed_of_inaudible hm, List.append_nil, hsame]
          exact ih

theorem Runs.inaudible (hr : first.Runs steps w) (hfirst : first.Wired) {s : NodeStep}
    (hs : s ∈ steps) (hm : s.isAudible = false) :
    s.history = [] ∧ s.after.hush = s.before.hush := by
  obtain ⟨earlier, hearlier, hstep⟩ := hr.of_mem hs
  exact (inaudible_of_not hm).hush (hearlier.wired hfirst) hstep

/-! ## What is seen of a run -/

/-- Two series of steps of which the same is seen: what passes between the node
and its surroundings, what is noted of the inspector's tasks and what they ask,
and the messages that can be read, with the times at which they are handled. -/
structure SeenAlike (steps steps' : NodeSteps) : Prop where
  passed : steps'.passed = steps.passed
  events : steps'.events = steps.events
  routineCalls : steps'.routineCalls = steps.routineCalls
  questions : steps'.questions = steps.questions
  heard : steps'.heard.filter (·.isReadable) = steps.heard.filter (·.isReadable)

theorem SeenAlike.symm {steps steps' : NodeSteps} (h : SeenAlike steps steps') :
    SeenAlike steps' steps :=
  ⟨h.passed.symm, h.events.symm, h.routineCalls.symm, h.questions.symm, h.heard.symm⟩

theorem SeenAlike.trans {steps steps' steps'' : NodeSteps} (h : SeenAlike steps steps')
    (h' : SeenAlike steps' steps'') : SeenAlike steps steps'' :=
  ⟨h'.passed.trans h.passed, h'.events.trans h.events, h'.routineCalls.trans h.routineCalls,
    h'.questions.trans h.questions, h'.heard.trans h.heard⟩

theorem node_of_inaudible {s : NodeStep} (hm : s.isAudible = false) : ∃ m, s.move = .node m := by
  obtain ⟨before, move, history, after⟩ := s
  cases inaudible_of_not hm with
  | posted => exact ⟨_, rfl⟩
  | heard => exact ⟨_, rfl⟩

theorem events_of_inaudible {s : NodeStep} (hm : s.isAudible = false) : s.events = [] := by
  obtain ⟨m, hmove⟩ := node_of_inaudible hm
  simp [NodeStep.events, hmove, events]

theorem Runs.seen_hushed (hr : first.Runs steps w) (hfirst : first.Wired) :
    SeenAlike steps steps.hushed where
  passed := NodeSteps.flatMap_hushed (fun _ _ _ => rfl) fun s hs hm => (hr.inaudible hfirst hs hm).1
  events :=
    NodeSteps.flatMap_hushed (fun s _ _ => s.before.hush_events s.move)
      fun s _ hm => events_of_inaudible hm
  routineCalls := by
    refine NodeSteps.flatMap_hushed
      (fun s _ _ => congrArg Option.toList (s.before.hush_routineCall? s.move)) fun s hs hm => ?_
    obtain ⟨m, hmove⟩ := node_of_inaudible hm
    simp [NodeStep.routineCall?, hmove, routineCall?]
  questions := by
    refine NodeSteps.flatMap_hushed
      (fun s _ _ => congrArg Option.toList (s.before.hush_question? s.move)) fun s hs hm => ?_
    obtain ⟨m, hmove⟩ := node_of_inaudible hm
    simp [hmove, question?]
  heard := by
    rw [NodeSteps.heard, NodeSteps.heard, List.filter_flatMap, List.filter_flatMap]
    refine NodeSteps.flatMap_hushed (fun s _ hm => ?_) fun s hs hm => (inaudible_of_not hm).unread.2
    have hheard : s.hush.heard? = s.heard? := hush_heard? hm
    rw [hheard]

theorem posted_hushed (steps : NodeSteps) :
    steps.hushed.posted = steps.posted.filter fun x => Subject.reads x.1 x.2 := by
  induction steps with
  | nil => rfl
  | cons s rest ih =>
      show (NodeSteps.hushed ([s] ++ rest)).posted = (NodeSteps.posted ([s] ++ rest)).filter _
      rw [NodeSteps.hushed_append, NodeSteps.posted_append, NodeSteps.posted_append,
        List.filter_append, ih, NodeSteps.posted_singleton]
      refine congrArg (· ++ _) ?_
      cases hs : s.isAudible with
      | true =>
          rw [NodeSteps.hushed_of_audible hs, NodeSteps.posted_singleton]
          exact (posted?_of_audible hs).symm
      | false =>
          rw [NodeSteps.hushed_of_inaudible hs]
          exact (inaudible_of_not hs).unread.1.symm

/-! ## Messages that cannot be read may come at any time -/

/-- These steps are about messages that cannot be read, and `posts` are those
that are published. -/
structure Runs.Noise (w : WholeNode) (posts : List (String × Payload)) (noise : NodeSteps)
    (w' : WholeNode) : Prop where
  runs : w.Runs noise w'
  posted : noise.posted = posts
  hushed : noise.hushed = []
  hush : w'.hush = w.hush

theorem Runs.Noise.none (w : WholeNode) : Noise w [] [] w := ⟨.nil, rfl, rfl, rfl⟩

theorem Runs.Noise.one (hw : w.Wired) (hi : w.isAudible m = false) (hy : (w.step m).Yields h w') :
    Noise w (posted? m).toList [⟨w, m, h, w'⟩] w' where
  runs := .snoc .nil hy
  posted := NodeSteps.posted_singleton ..
  hushed := NodeSteps.hushed_of_inaudible hi
  hush := ((inaudible_of_not hi).hush hw hy).2

theorem Runs.Noise.trans {posts posts' : List (String × Payload)} {noise noise' : NodeSteps}
    {w'' : WholeNode} (hn : Noise w posts noise w') (hn' : Noise w' posts' noise' w'') :
    Noise w (posts ++ posts') (noise ++ noise') w'' where
  runs := hn.runs.trans hn'.runs
  posted := by rw [NodeSteps.posted_append, hn.posted, hn'.posted]
  hushed := by rw [NodeSteps.hushed_append, hn.hushed, hn'.hushed]; rfl
  hush := hn'.hush.trans hn.hush

theorem exists_noise_posts (hw : w.Wired) (posts : List (String × Payload))
    (hunread : ∀ x ∈ posts, Subject.reads x.1 x.2 = false) :
    ∃ noise w', Runs.Noise w posts noise w' := by
  induction posts generalizing w with
  | nil => exact ⟨[], w, .none w⟩
  | cons x rest ih =>
      obtain ⟨subject, payload⟩ := x
      have hi : w.isAudible (.node (.post subject payload)) = false :=
        Bool.and_eq_false_iff.2 (.inl (hunread _ List.mem_cons_self))
      obtain ⟨w₁, hy⟩ : ∃ w₁, (w.step (.node (.post subject payload))).Yields [] w₁ := by
        obtain ⟨life, workers, probes⟩ := w
        cases life <;> exact ⟨_, .refl _⟩
      have hone := Runs.Noise.one hw hi hy
      obtain ⟨noise, w', hrest⟩ := ih (hone.runs.wired hw) fun x hx =>
        hunread x (List.mem_cons_of_mem _ hx)
      exact ⟨_, w', hone.trans hrest⟩

/-- The messages that wait for the dispatcher of a subject. -/
def waiting (w : WholeNode) (subject : String) : Nat :=
  match w.life with
  | .up n => ((n.bus.lanes.get? subject).map (·.queue.length)).getD 0
  | _ => 0

theorem waiting_lt (hw : w.Wired) {subject : String} {now : Instant}
    (hi : w.isAudible (.node (.dispatch subject now)) = false) :
    ∃ w', (w.step (.node (.dispatch subject now))).Yields [] w' ∧
      w'.waiting subject < w.waiting subject := by
  cases inaudible_of_not hi with
  | @heard n workers probes _ _ recipient payload hdispatch hunread =>
      obtain ⟨b, hbus, hback⟩ := LiveNode.dispatch_of_unread (hw n rfl) now hdispatch hunread
      obtain ⟨lane, rest, hlane, hqueue, -, hfinish⟩ := Bus.finish_dispatch hbus
      refine ⟨⟨.up (n.dispatch subject now), workers ++ [], probes⟩, .refl _, ?_⟩
      have hget : (b.finish subject).lanes.get? subject = some ⟨lane.handler, rest, .idle⟩ := by
        rw [hfinish]
        show (n.bus.lanes.put _ _).get? subject = _
        rw [Dictionary.get?_put, if_pos rfl]
      simp [waiting, hback, hget, hlane, hqueue]

theorem exists_noise_dispatches (hw : w.Wired) (subject : String) (now : Instant) :
    ∃ noise w', Runs.Noise w [] noise w' ∧
      w'.isAudible (.node (.dispatch subject now)) = true := by
  induction hn : w.waiting subject using Nat.strongRecOn generalizing w with
  | ind k ih =>
      cases hi : w.isAudible (.node (.dispatch subject now)) with
      | true => exact ⟨[], w, .none w, hi⟩
      | false =>
          obtain ⟨w₁, hy, hlt⟩ := waiting_lt hw hi
          have hone := Runs.Noise.one hw hi hy
          obtain ⟨noise, w', hrest, haudible⟩ := ih _ (hn ▸ hlt) (hone.runs.wired hw) rfl
          exact ⟨_, w', hone.trans hrest, haudible⟩

/-- What happens to a node without the messages that cannot be read may happen to
it with them, perhaps after some of them are gone. -/
theorem exists_steps_hushed (hw : w.Wired) {v v' : WholeNode} (hv : v.hush = w.hush)
    (hm : v.isAudible m = true) (hy : (v.step m).Yields h v') :
    ∃ steps w', w.Runs steps w' ∧ steps.posted = (posted? m).toList ∧
      steps.hushed = [NodeStep.hush ⟨v, m, h, v'⟩] ∧ w'.hush = v'.hush := by
  obtain ⟨noise, w₁, hnoise, haudible⟩ :
      ∃ noise w₁, Runs.Noise w [] noise w₁ ∧ w₁.isAudible m = true := by
    cases m with
    | task t => exact ⟨[], w, .none w, rfl⟩
    | node m =>
        cases m with
        | dispatch subject now => exact exists_noise_dispatches hw subject now
        | post subject payload => exact ⟨[], w, .none w, hm⟩
        | _ => exact ⟨[], w, .none w, rfl⟩
  have hsame : v.hush = w₁.hush := hv.trans hnoise.hush.symm
  have hhushed : (v.hush.step m).Yields h v'.hush := (yields_hush hm).2 ⟨v', hy, rfl⟩
  rw [hsame] at hhushed
  obtain ⟨w₂, hstep, heq⟩ := (yields_hush haudible).1 hhushed
  have haudible : NodeStep.isAudible ⟨w₁, m, h, w₂⟩ = true := haudible
  refine ⟨noise ++ [⟨w₁, m, h, w₂⟩], w₂, hnoise.runs.snoc hstep, ?_, ?_, heq.symm⟩
  · rw [NodeSteps.posted_append, hnoise.posted, NodeSteps.posted_singleton]
    rfl
  · rw [NodeSteps.hushed_append, hnoise.hushed, NodeSteps.hushed_of_audible haudible, NodeStep.hush,
      NodeStep.hush, hsame, heq]
    rfl

/-- Series with the same readable payloads, of which the one ends in a payload
that can be read. -/
theorem split_posts {α : Type} {p : α → Bool} {posts before : List α} {last : Option α}
    (hlast : last.toList.filter p = last.toList)
    (h : posts.filter p = (before ++ last.toList).filter p) :
    ∃ early late, posts = early ++ last.toList ++ late ∧ early.filter p = before.filter p ∧
      ∀ x ∈ late, p x = false := by
  rw [List.filter_append, hlast] at h
  cases last with
  | none => exact ⟨posts, [], by simp, by simpa using h, nofun⟩
  | some x =>
      obtain ⟨early, rest, rfl, hearly, hrest⟩ := List.filter_eq_append_iff.1 h
      obtain ⟨between, late, rfl, hbetween, -, hlate⟩ := List.filter_eq_cons_iff.1 hrest
      refine ⟨early ++ between, late, by simp, ?_, fun y hy => ?_⟩
      · rw [List.filter_append, hearly, List.filter_eq_nil_iff.2 hbetween, List.append_nil]
      · exact Bool.eq_false_iff.2 (List.filter_eq_nil_iff.1 hlate y hy)

/-- Whatever happens in a run may happen as well when messages that cannot be
read come in between, or do not come. -/
theorem Runs.with_posts (hr : first.Runs steps w) (hfirst : first.Wired)
    {posts : List (String × Payload)}
    (hposts : posts.filter (fun x => Subject.reads x.1 x.2) =
      steps.posted.filter fun x => Subject.reads x.1 x.2) :
    ∃ steps' w', first.Runs steps' w' ∧ steps'.posted = posts ∧ steps'.hushed = steps.hushed ∧
      w'.hush = w.hush := by
  induction hr generalizing posts with
  | nil =>
      have hunread : ∀ x ∈ posts, Subject.reads x.1 x.2 = false := by
        intro x hx
        exact Bool.eq_false_iff.2 (List.filter_eq_nil_iff.1 hposts x hx)
      obtain ⟨noise, w', hnoise⟩ := exists_noise_posts hfirst posts hunread
      exact ⟨noise, w', hnoise.runs, hnoise.posted, hnoise.hushed, hnoise.hush⟩
  | @snoc steps w w' m h hearlier hstep ih =>
      rw [NodeSteps.posted_append, NodeSteps.posted_singleton] at hposts
      rw [NodeSteps.hushed_append]
      cases hm : NodeStep.isAudible ⟨w, m, h, w'⟩ with
      | false =>
          have hsilent := inaudible_of_not hm
          rw [List.filter_append, NodeStep.posted?, hsilent.unread.1, List.append_nil] at hposts
          obtain ⟨steps', v, hr', hposted, hhushed, hv⟩ := ih hposts
          have hsame := (hsilent.hush (hearlier.wired hfirst) hstep).2
          rw [NodeSteps.hushed_of_inaudible hm, List.append_nil]
          exact ⟨steps', v, hr', hposted, hhushed, hv.trans hsame.symm⟩
      | true =>
          obtain ⟨early, late, rfl, hearly, hlate⟩ := split_posts (posted?_of_audible hm) hposts
          obtain ⟨steps', v, hr', hposted, hhushed, hv⟩ := ih hearly
          obtain ⟨more, v₁, hmore, hposted₁, hhushed₁, hv₁⟩ :=
            exists_steps_hushed (hr'.wired hfirst) hv.symm hm hstep
          have hr₁ := hr'.trans hmore
          obtain ⟨noise, v₂, hnoise⟩ := exists_noise_posts (hr₁.wired hfirst) late hlate
          refine ⟨_, v₂, hr₁.trans hnoise.runs, ?_, ?_, hnoise.hush.trans hv₁⟩
          · rw [NodeSteps.posted_append, NodeSteps.posted_append, hposted, hposted₁, hnoise.posted]
          · rw [NodeSteps.hushed_append, NodeSteps.hushed_append, hhushed, hhushed₁, hnoise.hushed,
              NodeSteps.hushed_of_audible hm, List.append_nil]

/-! ## Nothing is seen of them -/

/-- The second node looks like the first: the same table and requests, the same
inspector with its slot, its clock and its last error, and the same reports. -/
structure LooksLike (n n' : LiveNode) : Prop where
  session : n'.session = n.session
  inspector : n'.inspector = n.inspector
  closed : n'.bus.closed = n.bus.closed
  reporters : ∀ count now, n'.parts.reporters count now = n.parts.reporters count now

theorem looksLike_of_hush {n n' : LiveNode} (h : n'.hush = n.hush) : LooksLike n n' := by
  have hsession : n'.hush.session = n.hush.session := congrArg LiveNode.session h
  have hinspector : n'.hush.inspector = n.hush.inspector := congrArg LiveNode.inspector h
  have hclosed : n'.hush.bus.closed = n.hush.bus.closed := congrArg (·.bus.closed) h
  refine ⟨hsession, hinspector, hclosed, fun count now => ?_⟩
  show Node.reporters n'.hush.parts count now = Node.reporters n.hush.parts count now
  rw [h]

/-- Nodes that differ in nothing but messages that cannot be read look alike. -/
theorem exists_looksLike (h : w'.hush = w.hush) {n : LiveNode} (hup : w.life = .up n) :
    ∃ n', w'.life = .up n' ∧ LooksLike n n' := by
  have hlife : w'.life.hush = .up n.hush := by
    rw [← NodeLife.hush, ← hup]
    exact congrArg WholeNode.life h
  cases hup' : w'.life with
  | up n' =>
      rw [hup'] at hlife
      exact ⟨n', rfl, looksLike_of_hush (NodeLife.up.inj hlife)⟩
  | launching c told rest => rw [hup'] at hlife; cases hlife
  | failed told cause => rw [hup'] at hlife; cases hlife

theorem hush_start (c : Config) (told : Bool) : (start c told).hush = start c told := rfl

/-- **Messages that cannot be read are invisible.**  Take any run of a node.

Leaving out what is published or handed over and cannot be read leaves a run in
which nothing else is missing: the same requests to the surroundings with the
same answers, the same of the inspector's tasks, and the same messages handled at
the same times.  The node it leads to looks like that of the run.

It is the same with any other series of payloads in which the same can be read.
There is a run with just these payloads of which the same is seen, step by step.

A step in which a payload that cannot be read is published or handed over asks
for nothing and leaves a node that looks the same.  A batch with one agent that
cannot be read is such a payload. -/
theorem malformed_invisible (hr : (start c told).Runs steps w) :
    ((start c told).Runs steps.hushed w.hush ∧
      steps.hushed.posted = steps.posted.filter (fun x => Subject.reads x.1 x.2) ∧
      SeenAlike steps steps.hushed ∧
      ∀ n, w.life = .up n → w.hush.life = .up n.hush ∧ LooksLike n n.hush) ∧
    (∀ posts : List (String × Payload),
      posts.filter (fun x => Subject.reads x.1 x.2) =
        steps.posted.filter (fun x => Subject.reads x.1 x.2) →
      ∃ steps' w', (start c told).Runs steps' w' ∧ steps'.posted = posts ∧
        steps'.hushed = steps.hushed ∧ SeenAlike steps steps' ∧
        ∀ n, w.life = .up n → ∃ n', w'.life = .up n' ∧ LooksLike n n') ∧
    (∀ s ∈ steps, s.isAudible = false → s.history = [] ∧ s.events = [] ∧
      ∀ n, s.before.life = .up n → ∃ n', s.after.life = .up n' ∧ LooksLike n n') ∧
    ∀ subject ∈ Supervisor.subjects, ∀ payload items,
      Json.Tree.read? payload = some (.array items) →
      (∃ item ∈ items, Agent.decoder item = none) → Subject.reads subject payload = false := by
  have hfirst : (start c told).Wired := wired_start c told
  have hseen : SeenAlike steps steps.hushed := hr.seen_hushed hfirst
  refine ⟨⟨?_, posted_hushed steps, hseen, ?_⟩, ?_, ?_, ?_⟩
  · rw [← hush_start]
    exact hr.hush hfirst
  · intro n hup
    refine ⟨?_, rfl, rfl, rfl, fun _ _ => rfl⟩
    show w.life.hush = _
    rw [hup]
    rfl
  · intro posts hposts
    obtain ⟨steps', w', hr', hposted, hhushed, hhush⟩ := hr.with_posts hfirst hposts
    have hseen' : SeenAlike steps' steps'.hushed := hr'.seen_hushed hfirst
    rw [hhushed] at hseen'
    exact ⟨steps', w', hr', hposted, hhushed, hseen.trans hseen'.symm,
      fun n hup => exists_looksLike hhush hup⟩
  · intro s hs hm
    obtain ⟨hhistory, hhush⟩ := hr.inaudible hfirst hs hm
    exact ⟨hhistory, events_of_inaudible hm, fun n hup => exists_looksLike hhush hup⟩
  · rintro subject hsubject payload items hread ⟨item, hmem, hitem⟩
    exact Subject.reads_batch hsubject hread hmem hitem

end WholeNode

/-! A batch of which one agent cannot be read and a progress that is none at all
come before a batch that can be read. -/

namespace SpoiltDay

def agent : Json.Tree := .object [(some "id", .text (some "b"))]

/-- The second agent has no image. -/
def batch : Payload := "[\x7b\"id\":\"a\",\"image\":\"a:1\"\x7d,\x7b\"id\":\"b\"\x7d]".toUTF8.toList

theorem read_batch : Json.Tree.read? batch =
    some (.array [.object [(some "id", .text (some "a")), (some "image", .text (some "a:1"))],
      agent]) := by
  cbv

def progress : Payload := "block 100".toUTF8.toList

def messages : List NodeMove :=
  [.post Subject.agentsRun batch, .post Subject.scannerBlock progress,
    .post Subject.agentsRun LateAgent.payload, .dispatch Subject.agentsRun 1,
    .dispatch Subject.scannerBlock 2, .dispatch Subject.agentsRun 3] ++
  List.replicate 12 (.act 0)

def moves : List NodeMove := List.replicate 17 .main ++ messages

def day : NodeSteps × WholeNode :=
  WholeNode.follow RoughDay.engine (moves.map .node) (.start RoughDay.config false) ()

end SpoiltDay

/-- The agent that can be read is started, and would have been had the others
not come. -/
theorem WholeNode.malformed_invisible_spoilt_day :
    ∃ steps w n, (start RoughDay.config false).Runs steps w ∧ w.life = .up n ∧
      steps.posted.length = 3 ∧ n.session.table.size = 3 ∧
      Subject.reads Subject.agentsRun SpoiltDay.batch = false ∧
      Subject.reads Subject.scannerBlock SpoiltDay.progress = false ∧
      ∃ steps' w' n', (start RoughDay.config false).Runs steps' w' ∧ w'.life = .up n' ∧
        steps'.posted = [(Subject.agentsRun, LateAgent.payload)] ∧
        SeenAlike steps steps' ∧ LooksLike n n' := by
  have hr : (start RoughDay.config false).Runs SpoiltDay.day.1 SpoiltDay.day.2 := runs_follow _ _ _ _
  obtain ⟨n, hup, htest⟩ := exists_of_passes (show (SpoiltDay.day.2.passes fun n =>
    n.session.table.size == 3) = true by decide +kernel)
  have hposted : SpoiltDay.day.1.posted = [(Subject.agentsRun, SpoiltDay.batch),
      (Subject.scannerBlock, SpoiltDay.progress), (Subject.agentsRun, LateAgent.payload)] := by
    decide +kernel
  have hprogress : Subject.reads Subject.scannerBlock SpoiltDay.progress = false := by
    decide +kernel
  obtain ⟨-, hany, -, hbatch⟩ := malformed_invisible hr
  have hbatch : Subject.reads Subject.agentsRun SpoiltDay.batch = false :=
    hbatch _ (by decide) _ _ SpoiltDay.read_batch ⟨SpoiltDay.agent, by simp, by decide⟩
  have hgood : Subject.reads Subject.agentsRun LateAgent.payload = true := by decide +kernel
  obtain ⟨steps', w', hr', hposted', -, hseen, hlook⟩ :=
    hany [(Subject.agentsRun, LateAgent.payload)] (by simp [hposted, hbatch, hprogress, hgood])
  obtain ⟨n', hup', hlooks⟩ := hlook n hup
  exact ⟨_, _, n, hr, hup, by rw [hposted]; rfl, beq_iff_eq.1 htest, hbatch, hprogress,
    steps', w', n', hr', hup', hposted', hseen, hlooks⟩

end NodeKeeper
