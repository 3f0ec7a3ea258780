/-
# Requests to run agents, when nothing fails

A request goes through its batch with a table that grows.  When the engine does
what it is asked (`Unhindered`), an agent of the batch is in one of two cases:

    its name is recorded        nothing is asked of the engine
    its name is not             its container is started, and its name is recorded

and it is reported as running in both.  A repetition inside the batch finds the
record that the first mention has left, whatever image it names, and so does a
later batch over the same names: the second case never occurs again.

**Proved here.**

    an agent that is not recorded is started once         (`RunsAgent.unhindered`)
    every agent is reported, in order                     (`RunsAgents.publications_eq`)
    a name is recorded afterwards when it was before or
    the batch has it                                      (`RunsAgents.contains_iff`)
    a batch of recorded agents asks for nothing           (`runsAgents_recorded_iff`)
    a request starts once, and the next one does nothing  (`run_starts_once`)
-/
import NodeKeeper.Proofs.Fleet.Frame

namespace NodeKeeper

open FleetExchange FleetHistory

theorem FleetTable.contains_insert_iff {t : FleetTable} {r : ContainerRecord} {name : String} :
    (t.insert r).2.contains name = true ↔ t.contains name = true ∨ r.name = name := by
  unfold FleetTable.insert
  cases hc : t.contains r.name with
  | true =>
      show t.contains name = true ↔ _
      refine ⟨.inl, ?_⟩
      rintro (hn | rfl)
      · exact hn
      · exact hc
  | false =>
      show ((t.put r).get? name).isSome = true ↔ _
      rw [FleetTable.get?_put]
      split
      · next hn => simp [hn]
      · next hn => simp [FleetTable.contains, Ne.symm hn]

/-! ## What is asked of the engine -/

namespace FleetExchange

/-- The call, if the engine is asked. -/
def call? : FleetExchange → Option RuntimeCall
  | ⟨.runtime c, _⟩ => some c
  | _ => none

/-- The name of the container that is to be started. -/
def startName? : FleetExchange → Option String
  | ⟨.runtime (.start spec), _⟩ => some spec.name
  | _ => none

/-- The engine has not failed. -/
def Succeeds : FleetExchange → Prop
  | ⟨.runtime _, .error _⟩ => False
  | _ => True

instance : DecidablePred Succeeds := fun e => by
  unfold Succeeds
  split
  · infer_instance
  · infer_instance

theorem IsQuiet.startName? {e : FleetExchange} (h : e.IsQuiet) : e.startName? = none := by
  unfold FleetExchange.startName?
  split
  · exact h.elim
  · rfl

end FleetExchange

namespace FleetHistory

variable {h h' : FleetHistory}

/-- The calls to the engine, in order. -/
def calls (h : FleetHistory) : List RuntimeCall := h.filterMap call?

/-- The names of the containers that were to be started, in order. -/
def startNames (h : FleetHistory) : List String := h.filterMap startName?

@[simp] theorem calls_append (h h' : FleetHistory) : calls (h ++ h') = calls h ++ calls h' :=
  List.filterMap_append

@[simp] theorem startNames_append (h h' : FleetHistory) :
    startNames (h ++ h') = startNames h ++ startNames h' :=
  List.filterMap_append

theorem IsQuiet.startNames (hh : IsQuiet h) : startNames h = [] :=
  List.filterMap_eq_nil_iff.2 fun e he => (hh e he).startName?

end FleetHistory

/-! ## Nothing fails -/

/-- No call has failed, an image was pulled where it was missing, and what was
started has the name that was asked for. -/
structure Unhindered (s : Supervisor) (h : FleetHistory) : Prop where
  succeeds : ∀ e ∈ h, e.Succeeds
  images : ∀ image, answered (.hasImage image) (.ok false) ∈ h → s.policy.pullImages = true
  named : NamesKept h

namespace Unhindered

variable {s : Supervisor} {h h' : FleetHistory}

theorem left (hu : Unhindered s (h ++ h')) : Unhindered s h where
  succeeds e he := hu.succeeds e (List.mem_append_left _ he)
  images image hm := hu.images image (List.mem_append_left _ hm)
  named := hu.named.left

theorem right (hu : Unhindered s (h ++ h')) : Unhindered s h' where
  succeeds e he := hu.succeeds e (List.mem_append_right _ he)
  images image hm := hu.images image (List.mem_append_right _ hm)
  named := hu.named.right

end Unhindered

namespace Supervisor

variable {s : Supervisor} {table table' : FleetTable} {h : FleetHistory} {batch : List Agent}
  {agent : Agent}

/-! ## One agent -/

theorem EnsuresImage.ok_of_unhindered {label image : String} {r : Except FleetError Unit}
    (he : EnsuresImage label image s.policy.pullImages h r) (hu : Unhindered s h) : r = .ok () := by
  cases he with
  | unknown cause => exact (hu.succeeds _ List.mem_cons_self).elim
  | present => rfl
  | notLocal hpull => exact nomatch hpull.symm.trans (hu.images image List.mem_cons_self)
  | notPulled cause _ =>
      exact (hu.succeeds _ (List.mem_cons_of_mem _ List.mem_cons_self)).elim
  | pulled _ => rfl

theorem Attaches.ok_of_succeeds {network : String} {containers : List Handle}
    {r : Except FleetError Unit} (ha : Attaches network containers h r)
    (hs : ∀ e ∈ h, e.Succeeds) : r = .ok () := by
  induction ha with
  | nil => rfl
  | failed c rest cause => exact (hs _ List.mem_cons_self).elim
  | cons c how _ ih => exact ih fun e he => hs e (List.mem_cons_of_mem _ he)

theorem StartsAgent.ok_of_unhindered {r : Except FleetError ContainerRecord}
    (hs : StartsAgent s agent h r) (hu : Unhindered s h) : ∃ record, r = .ok record := by
  cases hs with
  | noImage himage => exact nomatch himage.ok_of_unhindered hu
  | noNetwork cause _ => exact (hu.right.succeeds _ List.mem_cons_self).elim
  | notStarted network cause _ =>
      exact (hu.right.succeeds _ (List.mem_cons_of_mem _ List.mem_cons_self)).elim
  | notAttached network handle answer _ hattach =>
      refine nomatch hattach.ok_of_succeeds fun e he => hu.right.succeeds e ?_
      exact List.mem_cons_of_mem _ (List.mem_cons_of_mem _ (List.mem_append_left _ he))
  | recorded network handle time _ _ => exact ⟨_, rfl⟩

theorem StartsAgent.startNames_of_ok {record : ContainerRecord}
    (hs : StartsAgent s agent h (.ok record)) : startNames h = [agent.containerName] := by
  obtain ⟨before, network, after, hbefore, hafter, rfl⟩ := hs.ok_cases
  have hstart : startNames (started (s.agentSpec agent network) record.handle :: after) =
      agent.containerName :: startNames after := rfl
  rw [startNames_append, hbefore.startNames, hstart, hafter.startNames]
  rfl

/-- An agent is started if its name is not recorded, and reported in any case. -/
theorem RunsAgent.unhindered (hr : RunsAgent s table agent h table') (hu : Unhindered s h) :
    publications h = [(Subject.agentsRunning, [agent])] ∧
    startNames h =
      (if table.contains agent.containerName then [] else [agent.containerName]) ∧
    ∀ name, table'.contains name = true ↔
      table.contains name = true ∨ agent.containerName = name := by
  cases hr with
  | running hc =>
      refine ⟨rfl, by rw [if_pos hc]; rfl, fun name => ⟨.inl, ?_⟩⟩
      rintro (hn | rfl)
      · exact hn
      · exact hc
  | failed hc hs =>
      obtain ⟨record, hr⟩ := hs.ok_of_unhindered hu
      exact nomatch hr
  | started hc hs =>
      refine ⟨?_, ?_, fun name => ?_⟩
      · rw [publications_append, hs.publications]
        rfl
      · rw [startNames_append, hs.startNames_of_ok, hc]
        rfl
      · rw [FleetTable.contains_insert_iff, hs.name_of_kept hu.named.left]

/-! ## The agents of a batch -/

/-- Every agent is reported, each by itself and in order. -/
theorem RunsAgents.publications_eq (hr : RunsAgents s table batch h table')
    (hu : Unhindered s h) :
    publications h = batch.map fun agent => (Subject.agentsRunning, [agent]) := by
  induction hr with
  | nil _ => rfl
  | cons hone _ ih =>
      rw [publications_append, (hone.unhindered hu.left).1, ih hu.right]
      rfl

theorem RunsAgents.contains_iff (hr : RunsAgents s table batch h table') (hu : Unhindered s h)
    {name : String} :
    table'.contains name = true ↔
      table.contains name = true ∨ ∃ agent ∈ batch, agent.containerName = name := by
  induction hr with
  | nil _ => simp
  | cons hone _ ih =>
      rw [ih hu.right, (hone.unhindered hu.left).2.2 name]
      simp [or_assoc]

theorem RunsAgents.mem_startNames_iff (hr : RunsAgents s table batch h table')
    (hu : Unhindered s h) {name : String} :
    name ∈ startNames h ↔
      table.contains name = false ∧ ∃ agent ∈ batch, agent.containerName = name := by
  induction hr with
  | nil _ => simp [startNames]
  | @cons table table' _ agent rest _ _ hone _ ih =>
      obtain ⟨-, hstart, hafter⟩ := hone.unhindered hu.left
      replace hafter : table'.contains name = false ↔
          table.contains name = false ∧ agent.containerName ≠ name := by
        rw [← Bool.not_eq_true, hafter name, not_or, Bool.not_eq_true]
      rw [startNames_append, List.mem_append, ih hu.right, hafter, hstart]
      simp only [List.mem_cons, exists_eq_or_imp]
      by_cases hname : agent.containerName = name
      · subst hname
        cases table.contains agent.containerName <;> simp
      · have hnone : name ∉ (if table.contains agent.containerName then [] else
            [agent.containerName]) := by
          split
          · exact List.not_mem_nil
          · exact fun hm => hname (List.mem_singleton.1 hm).symm
        simp [hname, hnone]

/-- No name is started twice: what an agent has started is recorded when the
next one comes. -/
theorem RunsAgents.nodup_startNames (hr : RunsAgents s table batch h table')
    (hu : Unhindered s h) : (startNames h).Nodup := by
  induction hr with
  | nil _ => exact List.nodup_nil
  | @cons table table' _ agent rest _ _ hone hrest ih =>
      obtain ⟨-, hstart, hafter⟩ := hone.unhindered hu.left
      rw [startNames_append, hstart]
      split
      · exact ih hu.right
      · refine List.nodup_cons.2 ⟨fun hm => ?_, ih hu.right⟩
        have hfree := ((hrest.mem_startNames_iff hu.right).1 hm).1
        have htaken := (hafter agent.containerName).2 (.inr rfl)
        exact nomatch hfree.symm.trans htaken

/-- Agents that are recorded are reported, and nothing else is done. -/
theorem runsAgents_recorded_iff
    (hall : ∀ agent ∈ batch, table.contains agent.containerName = true) :
    RunsAgents s table batch h table' ↔
      table' = table ∧ h = batch.map fun agent => published Subject.agentsRunning [agent] := by
  induction batch generalizing h with
  | nil =>
      constructor
      · rintro ⟨⟩
        exact ⟨rfl, rfl⟩
      · rintro ⟨rfl, rfl⟩
        exact .nil _
  | cons agent rest ih =>
      obtain ⟨hagent, hrest⟩ := List.forall_mem_cons.1 hall
      constructor
      · intro hr
        cases hr with
        | cons hone hmore =>
            cases hone with
            | running _ =>
                obtain ⟨rfl, rfl⟩ := (ih hrest).1 hmore
                exact ⟨rfl, rfl⟩
            | failed hc _ => exact nomatch hc.symm.trans hagent
            | started hc _ => exact nomatch hc.symm.trans hagent
      · rintro ⟨rfl, rfl⟩
        exact .cons (.running hagent) ((ih hrest).2 ⟨rfl, rfl⟩)

end Supervisor

/-! ## A request and the next -/

/-- **A request to run agents starts each container once, and can be repeated.**
Take any table and any batch, with repetitions or without, and let nothing fail.
Then the request succeeds; it asks once for the start of each container that the
batch names and the table does not record, and for no other; and it reports
every agent of the batch as running, by itself and in order.  A second request,
for agents whose containers the first one named, reports its own agents and
shows the count, and does nothing else. -/
theorem run_starts_once {s : Supervisor} {table table' : FleetTable} {batch : List Agent}
    {h : FleetHistory} {answer : SupervisorAnswer}
    (hrun : (s.serve (.run batch) table).Yields h (answer, table')) (hu : Unhindered s h) :
    answer = .done (.ok ()) ∧
    publications h = batch.map (fun agent => (Subject.agentsRunning, [agent])) ∧
    (startNames h).Nodup ∧
    (∀ name, name ∈ startNames h ↔
      table.contains name = false ∧ ∃ agent ∈ batch, agent.containerName = name) ∧
    ∀ batch' : List Agent,
      (∀ agent ∈ batch', ∃ agent' ∈ batch, agent'.containerName = agent.containerName) →
      ∀ h' answer' table'', (s.serve (.run batch') table').Yields h' (answer', table'') ↔
        answer' = .done (.ok ()) ∧ table'' = table' ∧
        h' = batch'.map (fun agent => published Subject.agentsRunning [agent]) ++
          [counted table'.size] := by
  cases Supervisor.yields_serve.1 hrun with
  | @run _ h _ hr =>
      have hpub : publications (h ++ [counted table'.size]) = publications h := by
        rw [publications_append]
        exact List.append_nil _
      have hstart : startNames (h ++ [counted table'.size]) = startNames h := by
        rw [startNames_append]
        exact List.append_nil _
      rw [hpub, hstart]
      refine ⟨rfl, hr.publications_eq hu.left, hr.nodup_startNames hu.left,
        fun _ => hr.mem_startNames_iff hu.left, ?_⟩
      intro batch' hnames h' answer' table''
      have hrecorded : ∀ agent ∈ batch', table'.contains agent.containerName = true := by
        intro agent hagent
        exact (hr.contains_iff hu.left).2 (.inr (hnames agent hagent))
      rw [Supervisor.yields_serve]
      constructor
      · intro hs
        cases hs with
        | run hr' =>
            obtain ⟨rfl, rfl⟩ := (Supervisor.runsAgents_recorded_iff hrecorded).1 hr'
            exact ⟨rfl, rfl, rfl⟩
      · rintro ⟨rfl, rfl, rfl⟩
        exact .run ((Supervisor.runsAgents_recorded_iff hrecorded).2 ⟨rfl, rfl⟩)

/-! ## A batch that repeats an agent

The first agent is named twice, with two images; the image that counts is not
there and is pulled. -/

namespace RepeatedRun

/-- An engine that lacks the first agent's image and does what it is asked. -/
def engine : (c : RuntimeCall) → c.Answer
  | .hasImage image => .ok (image ≠ AbortedStop.first.image : Bool)
  | .pullImage _ => .ok ()
  | .createNetwork name => .ok name
  | .start spec => .ok (⟨"id of " ++ spec.name, spec.name, spec.image⟩ : Handle)
  | .attach _ _ => .ok Attachment.attached
  | .stop _ => .ok ()

def respond : (r : FleetRequest) → Unit → r.Answer × Unit
  | .runtime c, _ => (engine c, ())
  | .publish _ _, _ => ((), ())
  | .setCount _, _ => ((), ())
  | .now, _ => ((⟨0, 0⟩ : Timestamp), ())

def batch : List Agent := [AbortedStop.first, ⟨"a", "a:2"⟩, AbortedStop.second]

def served : ServedCall × FleetTable × Unit :=
  AbortedStop.supervisor.serveIn respond (.run batch) AbortedStop.firstTable ()

end RepeatedRun

theorem run_starts_once_repeated :
    (∀ name, name ∈ startNames RepeatedRun.served.1.history ↔
      AbortedStop.firstTable.contains name = false ∧
        ∃ agent ∈ RepeatedRun.batch, agent.containerName = name) ∧
    (AbortedStop.supervisor.serve (.run [⟨"a", "a:3"⟩]) RepeatedRun.served.2.1).Yields
      [published Subject.agentsRunning [⟨"a", "a:3"⟩], counted RepeatedRun.served.2.1.size]
      (.done (.ok ()), RepeatedRun.served.2.1) := by
  have hu : Unhindered AbortedStop.supervisor RepeatedRun.served.1.history :=
    ⟨by decide +kernel, fun _ _ => rfl, by decide +kernel⟩
  obtain ⟨-, -, -, hstart, hnext⟩ :=
    run_starts_once (Dialogue.yields_run RepeatedRun.respond _ ()) hu
  refine ⟨hstart, (hnext [⟨"a", "a:3"⟩] ?_ _ _ _).2 ⟨rfl, rfl, rfl⟩⟩
  intro agent hagent
  rw [List.mem_singleton.1 hagent]
  exact ⟨AbortedStop.first, List.mem_cons_self, rfl⟩

end NodeKeeper
