/-
# When a container that is reported as running does run

The supervisor publishes that an agent runs when it has just started it and
when it finds it recorded.  The record is trusted: a container that an aborted
request to stop agents has stopped stays recorded, and the next request to run
the agent reports it as running.

    it is reported as running and does not run
        just when it has been stopped in vain        (`running_status_exact`)
    that does happen                                 (`running_status_of_stopped`)
-/
import NodeKeeper.Proofs.Fleet.Bookkeeping

namespace NodeKeeper

open FleetExchange FleetHistory

/-! ## A request can always be brought to an end -/

/-- The answer of surroundings that do nothing. -/
def FleetRequest.refusal : (r : FleetRequest) → r.Answer
  | .runtime _ => .error (.other "refused")
  | .publish _ _ => ()
  | .setCount _ => ()
  | .now => (⟨0, 0⟩ : Timestamp)

theorem givenId?_refusal (r : FleetRequest) :
    FleetExchange.givenId? ⟨r, r.refusal⟩ = none ∧ FleetExchange.KeepsName ⟨r, r.refusal⟩ := by
  match r with
  | .runtime c => cases c <;> exact ⟨rfl, trivial⟩
  | .publish _ _ | .setCount _ | .now => exact ⟨rfl, trivial⟩

/-- Whatever is left of a request ends without a start when nothing is done for
it any more. -/
theorem exists_yields_no_start {α : Type} (d : FleetDialogue α) :
    ∃ h a, d.Yields h a ∧ givenIds h = [] ∧ NamesKept h := by
  induction d with
  | done a => exact ⟨[], a, .refl _, rfl, fun _ hm => absurd hm List.not_mem_nil⟩
  | ask r next ih =>
      obtain ⟨h, a, hy, hgiven, hkept⟩ := ih r.refusal
      obtain ⟨hnone, hname⟩ := givenId?_refusal r
      refine ⟨⟨r, r.refusal⟩ :: h, a, .ask _ hy, ?_, List.forall_mem_cons.2 ⟨hname, hkept⟩⟩
      exact (List.filterMap_cons_none hnone).trans hgiven

/-! ## The report in the run of a batch -/

theorem published_snoc {h h' : FleetHistory} (quiet : FleetHistory) {subject subject' : String}
    {agents agents' : List Agent} (hq : publications quiet = [])
    (heq : quiet ++ [published subject' agents'] = h ++ published subject agents :: h') :
    h' = [] ∧ h = quiet ∧ subject = subject' ∧ agents = agents' := by
  rcases snoc_eq_split_iff.1 heq with ⟨hnil, hh, hpub⟩ | ⟨rest, _, hquiet⟩
  · cases hpub
    exact ⟨hnil, hh, rfl, rfl⟩
  · rw [hquiet, publications_append] at hq
    exact nomatch (List.append_eq_nil_iff.1 hq).2

namespace Supervisor

variable {s : Supervisor} {table table' : FleetTable} {h h' : FleetHistory}

/-- A publication on behalf of an agent comes last and says that it runs.  Either
it was found recorded, and nothing else is done, or it has just been started. -/
theorem RunsAgent.cases_published {agent : Agent} {subject : String} {agents : List Agent}
    (hr : RunsAgent s table agent (h ++ published subject agents :: h') table') :
    h' = [] ∧ subject = Subject.agentsRunning ∧ agents = [agent] ∧
      ((table.contains agent.containerName = true ∧ h = [] ∧ table' = table) ∨
        (table.contains agent.containerName = false ∧
          ∃ record, StartsAgent s agent h (.ok record) ∧ table' = (table.insert record).2)) := by
  generalize hl : h ++ published subject agents :: h' = l at hr
  cases hr with
  | running hc =>
      obtain ⟨hnil, hh, hsubject, hagents⟩ := published_snoc [] rfl hl.symm
      exact ⟨hnil, hsubject, hagents, .inl ⟨hc, hh, rfl⟩⟩
  | failed _ hs =>
      have hpub := hs.publications
      rw [← hl, publications_append] at hpub
      exact nomatch (List.append_eq_nil_iff.1 hpub).2
  | @started h₁ record hfree hs =>
      obtain ⟨hnil, rfl, hsubject, hagents⟩ := published_snoc _ hs.publications hl.symm
      exact ⟨hnil, hsubject, hagents, .inr ⟨hfree, record, hs, rfl⟩⟩

theorem RunsAgent.get?_of_published {agent : Agent} {subject : String} {agents : List Agent}
    (hr : RunsAgent s table agent (h ++ published subject agents :: h') table')
    (hkept : NamesKept h) : ∃ record, table'.get? agent.containerName = some record := by
  obtain ⟨_, _, _, ⟨hc, _, rfl⟩ | ⟨hfree, record, hs, rfl⟩⟩ := hr.cases_published
  · exact FleetTable.contains_eq_true_iff.1 hc
  · have hname : record.name = agent.containerName := hs.name_of_kept hkept
    have hnone : table.get? record.name = none := by
      rw [hname]
      exact FleetTable.contains_eq_false_iff.1 hfree
    rw [← hname]
    exact ⟨record,
      FleetTable.mem_snapshot_iff.1 ((FleetTable.mem_snapshot_insert hnone).2 (.inl rfl))⟩

/-- A publication in the run of a batch is on behalf of one of its agents, when
the agents before it have been seen to. -/
theorem RunsAgents.split_published {batch : List Agent} {subject : String} {agents : List Agent}
    (hr : RunsAgents s table batch (h ++ published subject agents :: h') table') :
    ∃ earlier d later t t' hb ha, batch = earlier ++ d :: later ∧ h = hb ++ ha ∧
      RunsAgents s table earlier hb t ∧
      RunsAgent s t d (ha ++ [published subject agents]) t' := by
  generalize hl : h ++ published subject agents :: h' = l at hr
  induction hr generalizing h with
  | nil table => exact nomatch (List.append_eq_nil_iff.1 hl).2
  | @cons table t₁ t₂ agent rest h₁ h₂ hone hrest ih =>
      rcases append_eq_split_iff.1 hl.symm with ⟨m, rfl, _⟩ | ⟨m, rfl, hm⟩
      · obtain ⟨rfl, _⟩ := hone.cases_published
        exact ⟨[], agent, rest, table, t₁, [], h, rfl, rfl, .nil table, hone⟩
      · obtain ⟨earlier, d, later, t, t', hb, ha, rfl, rfl, hruns, hd⟩ := ih hm.symm
        refine ⟨agent :: earlier, d, later, t, t', h₁ ++ hb, ha, rfl, ?_, .cons hone hruns, hd⟩
        rw [List.append_assoc]

theorem RunsAgents.snoc {batch : List Agent} {agent : Agent} {t : FleetTable}
    (hr : RunsAgents s table batch h t) (hone : RunsAgent s t agent h' table') :
    RunsAgents s table (batch ++ [agent]) (h ++ h') table' := by
  induction hr with
  | nil table =>
      rw [List.nil_append, List.nil_append, ← List.append_nil h']
      exact .cons hone (.nil table')
  | cons hfirst _ ih =>
      rw [List.append_assoc]
      exact .cons hfirst (ih hone)

/-! ## The report in a call -/

theorem StopsAgents.publications {batch agents : List Agent} {ids : List String}
    {r : Except FleetError (List String × List Agent)}
    (hs : StopsAgents table batch ids agents h r) : publications h = [] := by
  induction hs with
  | nil _ _ => rfl
  | absent _ _ ih => exact ih
  | repeated _ _ _ ih => exact ih
  | failed _ _ _ => rfl
  | stopped _ _ _ ih => exact ih

theorem StopsEach.publications {records : List ContainerRecord} (hs : StopsEach records h) :
    publications h = [] := by
  induction hs with
  | nil => rfl
  | cons _ _ _ ih => exact ih

theorem ServesRequest.run_of_published {request : SupervisorRequest} {answer : SupervisorAnswer}
    {agents : List Agent} (hs : ServesRequest s table request h answer table')
    (hm : (Subject.agentsRunning, agents) ∈ publications h) :
    ∃ batch h₁, request = .run batch ∧ h = h₁ ++ [counted table'.size] ∧
      RunsAgents s table batch h₁ table' := by
  cases hs with
  | @run batch h₁ _ hr => exact ⟨batch, h₁, rfl, rfl, hr⟩
  | stop hs =>
      have hstopped : ∀ p ∈ publications h, p.1 = Subject.agentsStopped := by
        cases hs with
        | aborted hs => rw [hs.publications]; exact fun _ hm => absurd hm List.not_mem_nil
        | nothing _ => exact fun _ hm => absurd hm List.not_mem_nil
        | completed _ hs =>
            rw [publications_append, hs.publications]
            exact List.forall_mem_cons.2 ⟨rfl, fun _ hm => absurd hm List.not_mem_nil⟩
      exact absurd (hstopped _ hm) (show Subject.agentsRunning ≠ Subject.agentsStopped by decide)
  | containers => exact absurd hm List.not_mem_nil
  | shutdown hs =>
      have hnone : publications (counted 0 :: _) = [] := hs.publications
      rw [hnone] at hm
      exact absurd hm List.not_mem_nil

theorem ServesRequest.split_published {request : SupervisorRequest} {answer : SupervisorAnswer}
    {agents : List Agent}
    (hs : ServesRequest s table request (h ++ published Subject.agentsRunning agents :: h') answer
      table') :
    ∃ earlier d later t t' hb ha, request = .run (earlier ++ d :: later) ∧ h = hb ++ ha ∧
      RunsAgents s table earlier hb t ∧
      RunsAgent s t d (ha ++ [published Subject.agentsRunning agents]) t' := by
  have hm : (Subject.agentsRunning, agents) ∈
      publications (h ++ published Subject.agentsRunning agents :: h') := by
    rw [publications_append]
    exact List.mem_append_right _ List.mem_cons_self
  obtain ⟨batch, h₁, rfl, heq, hr⟩ := hs.run_of_published hm
  rcases snoc_eq_split_iff.1 heq.symm with ⟨_, _, hcount⟩ | ⟨m, _, rfl⟩
  · exact nomatch hcount
  · obtain ⟨earlier, d, later, t, t', hb, ha, rfl, hsplit⟩ := hr.split_published
    exact ⟨earlier, d, later, t, t', hb, ha, rfl, hsplit⟩

theorem ServesRequest.report {request : SupervisorRequest} {answer : SupervisorAnswer}
    {agents : List Agent}
    (hs : ServesRequest s table request (h ++ published Subject.agentsRunning agents :: h') answer
      table')
    (hkept : NamesKept (h ++ published Subject.agentsRunning agents :: h')) :
    ∃ earlier d later t record, request = .run (earlier ++ d :: later) ∧ agents = [d] ∧
      RunsAgents s table (earlier ++ [d]) (h ++ [published Subject.agentsRunning agents]) t ∧
      t.get? d.containerName = some record := by
  obtain ⟨earlier, d, later, t, t', hb, ha, hrequest, rfl, hruns, hone⟩ := hs.split_published
  obtain ⟨_, _, hagents, _⟩ := hone.cases_published
  obtain ⟨record, hget⟩ := hone.get?_of_published hkept.left.right
  refine ⟨earlier, d, later, t', record, hrequest, hagents, ?_, hget⟩
  rw [List.append_assoc]
  exact hruns.snoc hone

end Supervisor

/-- **When a report is true.**  Whenever the supervisor publishes that an agent
runs, the agent is one of the batch it was asked to run and is recorded at that
moment; the recorded container is live just when no request to stop agents has
stopped it and been aborted, with nothing to take the record out since. -/
theorem running_status_exact {s : Supervisor} {given : List String} {opening h : FleetHistory}
    {table table' : FleetTable} {calls : List ServedCall} {request : SupervisorRequest}
    {agents : List Agent} {rest : FleetDialogue (SupervisorAnswer × FleetTable)}
    (hopen : s.Opens given opening table) (hserves : s.Serves table calls table')
    (hnames : s.scanner.name ≠ s.jsonRpc.name)
    (hpart : (s.serve request table').Leads (h ++ [published Subject.agentsRunning agents]) rest)
    (hkept : NamesKept (opening ++ ofCalls calls ++ h))
    (hfresh : (given ++ givenIds (opening ++ ofCalls calls ++ h)).Nodup) :
    ∃ earlier d later t record, request = .run (earlier ++ d :: later) ∧ agents = [d] ∧
      s.RunsAgents table' (earlier ++ [d]) (h ++ [published Subject.agentsRunning agents]) t ∧
      t.get? d.containerName = some record ∧
      (record.id ∈ liveAfter given (opening ++ ofCalls calls ++ h) ↔
        ¬ StoppedInVain calls record.id) := by
  -- the call is brought to an end, so that it is one of the known ways
  obtain ⟨h', a, hy, _, hname⟩ := exists_yields_no_start rest
  have hpub : FleetExchange.KeepsName (published Subject.agentsRunning agents) := trivial
  have hwhole : NamesKept (h ++ published Subject.agentsRunning agents :: h') :=
    List.forall_mem_append.2 ⟨hkept.right, List.forall_mem_cons.2 ⟨hpub, hname⟩⟩
  have hserve := Dialogue.leads_append.2 ⟨rest, hpart, hy⟩
  rw [List.append_assoc, List.singleton_append] at hserve
  obtain ⟨earlier, d, later, t, record, hrequest, hagents, hruns, hget⟩ :=
    (Supervisor.yields_serve.1 hserve).report hwhole
  refine ⟨earlier, d, later, t, record, hrequest, hagents, hruns, hget, ?_⟩
  -- the books when the request begins, and when the report is made
  have hquiet : FleetHistory.IsQuiet [published Subject.agentsRunning agents] :=
    isQuiet_cons.2 ⟨trivial, isQuiet_nil⟩
  rw [givenIds_append, ← List.append_assoc] at hfresh
  obtain ⟨hb, _, hvain⟩ :=
    hopen.posts hserves hnames hkept.left (List.nodup_append.1 hfresh).1
  have hp := hruns.posts hb
    (List.forall_mem_append.2 ⟨hkept.right, List.forall_mem_cons.2 ⟨hpub, fun _ hm => nomatch hm⟩⟩)
    (by rw [givenIds_append h, hquiet.givenIds, List.append_nil]; exact hfresh)
  have hrecorded : record.id ∈ t.ids :=
    FleetTable.mem_ids.2 ⟨record, (FleetTable.mem_snapshot_of_get? hget).1, rfl⟩
  have hstale := hp.stale record.id
  rw [liveAfter_append _ h, hquiet.liveAfter, ← liveAfter_append, hvain] at hstale
  rw [or_iff_left (fun hf => hf), and_iff_left (fun hf => hf)] at hstale
  rw [← hstale]
  exact ⟨fun hl hn => hn.2 hl, fun hn => Classical.byContradiction fun hl => hn ⟨hrecorded, hl⟩⟩

theorem leads_report {s : Supervisor} {table : FleetTable} {agent : Agent}
    (hc : table.contains agent.containerName = true) (later : List Agent) :
    ∃ rest, (s.serve (.run (agent :: later)) table).Leads
      [published Subject.agentsRunning [agent]] rest :=
  ⟨_, (((Supervisor.yields_runAgent.2 (.running hc)).bind _).bind _).bind _⟩

/-- An agent that has been started is asked for again, and the report is
true. -/
theorem running_status_exact_again :
    ∃ (t : FleetTable) (record : ContainerRecord),
      t.get? AbortedStop.first.containerName = some record ∧
      record.id ∈ liveAfter ["scanner-id", "proxy-id"]
        (AbortedStop.opening ++ ofCalls [AbortedStop.started.1] ++ []) := by
  have hrecorded : AbortedStop.started.2.1.contains AbortedStop.first.containerName = true := by
    decide +kernel
  obtain ⟨rest, hpart⟩ := leads_report (s := AbortedStop.supervisor) hrecorded []
  obtain ⟨earlier, d, later, t, record, _, hagents, _, hget, hlive⟩ :=
    running_status_exact (h := []) AbortedStop.opens AbortedStop.serves_started (by decide +kernel)
      hpart (by decide +kernel) (by decide +kernel)
  obtain rfl := (List.cons.inj hagents).1
  refine ⟨t, record, hget, hlive.2 ?_⟩
  -- no request to stop agents has been made
  rintro ⟨before, call, after, hcalls, hvain, _⟩
  have hmem : call ∈ [AbortedStop.started.1] := by
    rw [hcalls]
    exact List.mem_append_right _ List.mem_cons_self
  obtain rfl := List.mem_singleton.1 hmem
  exact hvain

/-- A container that has been stopped by a request that was then aborted is
reported as running. -/
theorem running_status_of_stopped :
    AbortedStop.supervisor.Opens ["scanner-id", "proxy-id"] AbortedStop.opening
        AbortedStop.firstTable ∧
      AbortedStop.supervisor.Serves AbortedStop.firstTable AbortedStop.twoCalls
        AbortedStop.aborted.2.1 ∧
      NamesKept (AbortedStop.opening ++ ofCalls AbortedStop.twoCalls) ∧
      (["scanner-id", "proxy-id"] ++
        givenIds (AbortedStop.opening ++ ofCalls AbortedStop.twoCalls)).Nodup ∧
      (∃ rest, (AbortedStop.supervisor.serve (.run [AbortedStop.first]) AbortedStop.aborted.2.1).Leads
        [published Subject.agentsRunning [AbortedStop.first]] rest) ∧
      (AbortedStop.aborted.2.1.get? AbortedStop.first.containerName).map (·.id) =
        some ("id of " ++ AbortedStop.first.containerName) ∧
      "id of " ++ AbortedStop.first.containerName ∉ liveAfter ["scanner-id", "proxy-id"]
        (AbortedStop.opening ++ ofCalls AbortedStop.twoCalls) :=
  ⟨AbortedStop.opens, AbortedStop.serves_aborted, by decide +kernel, by decide +kernel,
    leads_report (by decide +kernel) [], by decide +kernel, by decide +kernel⟩

end NodeKeeper
