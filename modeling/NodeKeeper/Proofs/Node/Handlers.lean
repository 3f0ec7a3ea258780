/-
# Who listens to what

The supervisor is subscribed to its two subjects and the inspector to block
progress, one after the other while the node comes up.  Nothing else is ever
subscribed, and a subject keeps its handler, so in every run a handler is found
only on a subject that it can read (`Runs.wired`).
-/
import NodeKeeper.Proofs.Bus.Hushed
import NodeKeeper.Proofs.Node.Runs

namespace NodeKeeper

/-- The subjects whose handler is this one. -/
def Recipient.ListensTo (subject : String) : Recipient → Prop
  | .supervisor => subject ∈ Supervisor.subjects
  | .inspector => subject = Subject.scannerBlock

namespace LiveNode

variable {n n' : LiveNode} {m : NodeMove} {h : NodeHistory} {subject : String}

/-- Each subject has the handler that reads it, or none. -/
structure Wired (n : LiveNode) : Prop where
  handlers : ∀ subject recipient, n.bus.handler? subject = some recipient →
    recipient.ListensTo subject
  left : ∀ left, n.main = .subscribing left → left ⊆ Supervisor.subjects

theorem wired_enter (c : Config) (told : Bool) (s : Supervisor) (table : FleetTable) :
    (enter c told s table).Wired :=
  ⟨nofun, fun _ hleft => by cases hleft; exact List.Subset.refl _⟩

/-- The handlers are the same, and there is no subject to subscribe that was not
there before. -/
theorem Wired.of_handlers (hw : n.Wired)
    (hhandlers : ∀ subject, n'.bus.handler? subject = n.bus.handler? subject)
    (hmain : ∀ left, n'.main = .subscribing left → n.main = .subscribing left) : n'.Wired :=
  ⟨fun subject recipient h => hw.handlers subject recipient (hhandlers subject ▸ h),
    fun left h => hw.left left (hmain left h)⟩

theorem Wired.subscribe (hw : n.Wired) {recipient recipient' : Recipient} {subject' : String}
    (h : (n.bus.subscribe subject recipient).2.handler? subject' = some recipient')
    (hlistens : recipient.ListensTo subject) : recipient'.ListensTo subject' := by
  rcases Bus.of_handler?_subscribe h with h | ⟨rfl, rfl⟩
  · exact hw.handlers _ _ h
  · exact hlistens

theorem Wired.startInspector (hw : n.Wired) {s : InspectionSettings} {i : Inspector}
    {b : Bus Recipient} (h : Node.startInspector s n.bus = .ok (i, b)) {subject : String}
    {recipient : Recipient} (hb : b.handler? subject = some recipient) :
    recipient.ListensTo subject := by
  simp only [Node.startInspector] at h
  split at h
  · cases h
  · cases h
    exact hw.subscribe hb rfl
  · cases h
    exact hw.handlers _ _ hb

theorem Wired.dispatch (hw : n.Wired) (subject : String) (now : Instant) :
    (n.dispatch subject now).Wired := by
  have hbus : ∀ other, (n.bus.dispatch subject).2.handler? other = n.bus.handler? other :=
    n.bus.handler?_dispatch subject
  simp only [LiveNode.dispatch]
  rcases hdispatch : n.bus.dispatch subject with ⟨_ | ⟨recipient, payload⟩, b⟩
  · rw [hdispatch] at hbus
    exact hw.of_handlers hbus fun _ h => h
  · rw [hdispatch] at hbus
    have hfinish : ∀ other, (b.finish subject).handler? other = n.bus.handler? other :=
      fun other => (b.handler?_finish subject other).trans (hbus other)
    cases recipient with
    | supervisor =>
        simp only [deliver]
        split
        · exact hw.of_handlers hbus fun _ h => h
        · exact hw.of_handlers hfinish fun _ h => h
    | inspector => exact hw.of_handlers hfinish fun _ h => h

theorem Wired.settle (hw : n.Wired) (subject : String) : (n.settle subject).Wired := by
  simp only [LiveNode.settle]
  split
  · exact hw
  · split
    · exact hw.of_handlers (n.bus.handler?_finish subject) fun _ h => h
    · exact hw

theorem Wired.fail (hw : n.Wired) (reason : String) : (n.fail reason).Wired := by
  simp only [LiveNode.fail]
  split
  · exact hw.of_handlers (fun _ => rfl) fun _ hmain => by cases hmain
  · exact hw.of_handlers (fun _ => rfl) fun _ hmain => by cases hmain
  · exact hw

theorem Wired.mainStep (hw : n.Wired) (hs : n.MainStep n') : n'.Wired := by
  cases hs with
  | @subscribes subject rest bus hmain hsubscribe =>
      have hsubset := hw.left _ hmain
      obtain rfl : (n.bus.subscribe subject .supervisor).2 = bus := by rw [hsubscribe]
      refine ⟨fun other recipient hother => ?_, fun left hleft => ?_⟩
      · exact hw.subscribe hother (hsubset List.mem_cons_self)
      · cases hleft
        exact fun _ hs => hsubset (List.mem_cons_of_mem _ hs)
  | starts _ hok => exact ⟨fun _ _ => hw.startInspector hok, nofun⟩
  | goesOn _ _ hlanes _ hmain =>
      exact hw.of_handlers (fun subject => by simp only [Bus.handler?, hlanes]) hmain

theorem Wired.step (hw : n.Wired) (hy : (n.step m).Yields h n') : n'.Wired := by
  cases m with
  | tell =>
      obtain ⟨-, rfl⟩ := Dialogue.yields_done.1 hy
      exact hw.of_handlers (fun _ => rfl) fun _ h => h
  | post subject payload =>
      obtain ⟨-, rfl⟩ := Dialogue.yields_done.1 hy
      exact hw.of_handlers (n.bus.handler?_publish subject payload) fun _ h => h
  | dispatch subject now =>
      obtain ⟨-, rfl⟩ := Dialogue.yields_done.1 hy
      exact hw.dispatch subject now
  | act i =>
      obtain ⟨h₁, session, h₂, rfl, -, hrest⟩ := Dialogue.yields_bind.1 hy
      obtain ⟨-, rfl⟩ := Dialogue.yields_done.1 hrest
      exact hw.of_handlers (fun _ => rfl) fun _ h => h
  | settle subject =>
      obtain ⟨-, rfl⟩ := Dialogue.yields_done.1 hy
      exact hw.settle subject
  | main => exact hw.mainStep (proceed_mainStep hy)
  | fail reason =>
      obtain ⟨-, rfl⟩ := Dialogue.yields_done.1 hy
      exact hw.fail reason

end LiveNode

namespace WholeNode

variable {c : Config} {told : Bool} {w w' : WholeNode} {steps : NodeSteps}

/-- Once a node is up, each subject has the handler that reads it, or none. -/
def Wired (w : WholeNode) : Prop := ∀ n, w.life = .up n → n.Wired

theorem Wired.node (hw : w.Wired) {m : NodeMove} {h : NodeHistory} {life : NodeLife}
    (hlife : (w.life.step m).Yields h life) : Wired ⟨life, w.workers ++ w.spawned m, w.probes⟩ := by
  intro n hup
  have hsteps : w.life.Steps m h life := NodeLife.step_steps hlife
  obtain ⟨before, workers, probes⟩ := w
  cases hsteps with
  | still => exact hw n hup
  | enters =>
      cases hup
      exact LiveNode.wired_enter ..
  | goes hstep =>
      cases hup
      exact (hw _ rfl).step hstep
  | _ => cases hup

theorem Tends.wired {t : InspectorTask} {log : InspectorLog} (ht : w.Tends t w' log)
    (hw : w.Wired) : w'.Wired := by
  cases ht with
  | idle => exact hw
  | tends =>
      intro n hup
      cases hup
      exact (hw _ rfl).of_handlers (fun _ => rfl) fun _ h => h

theorem Runs.wired {first : WholeNode} (hr : first.Runs steps w) (hfirst : first.Wired) : w.Wired :=
  hr.keeps hfirst (fun hw hlife => hw.node hlife) fun t hw => (tend_tends _ t).wired hw

theorem wired_start (c : Config) (told : Bool) : (start c told).Wired := by
  intro n hup
  simp only [start, NodeLife.start, reduceCtorEq] at hup

end WholeNode

end NodeKeeper
