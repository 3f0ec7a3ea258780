/-
# What a request leaves alone

A request names agents by identifiers, which are texts of any kind.  They reach
the table by way of container names (`Request.Concerns`), and containers by way
of the ids that the table records under these names.  So a request stops two
kinds of containers only:

    recorded under a name it concerns       requests to stop agents
    started by the request itself           requests to run agents, to undo a start

Ids are recorded once and new ids are new (`Books`), so neither is the id of a
record under another name.

**Proved here.**

    a record under a name that is not concerned stays, and
    its container is not stopped                              (`ServesRequest.keeps`)
    requests other than a shutdown stop only what such
    requests have started                                     (`Serves.askedIds_subset`)
    they leave the two shared containers alone                (`touches_only_named`)

The last holds because a shared container is not called what an agent's
container is called (`IsAgentName`).
-/
import NodeKeeper.Proofs.Agent.Names
import NodeKeeper.Proofs.Fleet.Wiring

namespace NodeKeeper

open FleetExchange FleetHistory

/-- The request is about the container of this name: it names the agent, or it
is about all containers. -/
def SupervisorRequest.Concerns : SupervisorRequest → String → Prop
  | .run batch, name => ∃ agent ∈ batch, agent.containerName = name
  | .stop batch, name => ∃ agent ∈ batch, agent.containerName = name
  | .containers, _ => False
  | .shutdown, _ => True

namespace Supervisor

variable {s : Supervisor} {table table' : FleetTable} {h : FleetHistory} {live used : List String}
  {batch : List Agent} {name : String}

/-! ## Requests to run agents -/

theorem StartsAgent.askedIds_subset {agent : Agent} {r : Except FleetError ContainerRecord}
    (hs : StartsAgent s agent h r) : ∀ id ∈ askedIds h, id ∈ givenIds h := by
  match r with
  | .ok record =>
      obtain ⟨before, network, after, hq, hqa, rfl⟩ := hs.ok_cases
      have hnone : askedIds (before ++ started (s.agentSpec agent network) record.handle :: after) =
          [] := by
        rw [askedIds_append, hq.askedIds]
        exact hqa.askedIds
      rw [hnone]
      exact fun _ hm => absurd hm List.not_mem_nil
  | .error e =>
      rcases hs.error_cases with ⟨before, hq, rfl | ⟨network, cause, rfl⟩⟩ |
        ⟨before, network, handle, links, container, cause, answer, hq, hlinks, rfl⟩
      · rw [hq.askedIds]
        exact fun _ hm => absurd hm List.not_mem_nil
      · rw [askedIds_append, hq.askedIds]
        exact fun _ hm => absurd hm List.not_mem_nil
      · intro id hm
        rw [askedIds_append, hq.askedIds] at hm
        replace hm : id ∈ askedIds
            (links ++
              attachFailed container network cause :: [answered (.stop handle.id) answer]) := hm
        rw [askedIds_append, (isQuiet_links hlinks).askedIds] at hm
        rw [hq.givenIds_start, List.mem_singleton.1 hm]
        exact List.mem_cons_self

theorem RunsAgents.askedIds_subset (hr : RunsAgents s table batch h table') :
    ∀ id ∈ askedIds h, id ∈ givenIds h := by
  induction hr with
  | nil _ => exact fun _ hm => absurd hm List.not_mem_nil
  | cons hone _ ih =>
      intro id hm
      rw [askedIds_append, List.mem_append] at hm
      rw [givenIds_append, List.mem_append]
      refine hm.imp (fun hm => ?_) (ih id)
      cases hone with
      | running _ => exact absurd hm List.not_mem_nil
      | failed _ hs => exact hs.askedIds_subset id hm
      | started _ hs =>
          rw [askedIds_append, List.mem_append] at hm
          rw [givenIds_append, List.mem_append]
          exact .inl (hs.askedIds_subset id (hm.resolve_right List.not_mem_nil))

theorem RunsAgents.get?_eq (hr : RunsAgents s table batch h table') (hkept : NamesKept h)
    (hname : ∀ agent ∈ batch, agent.containerName ≠ name) : table'.get? name = table.get? name := by
  induction hr with
  | nil _ => rfl
  | cons hone _ ih =>
      obtain ⟨hagent, hrest⟩ := List.forall_mem_cons.1 hname
      rw [ih hkept.right hrest]
      cases hone with
      | running _ => rfl
      | failed _ _ => rfl
      | started _ hs =>
          refine FleetTable.get?_insert_of_ne ?_
          rw [hs.name_of_kept hkept.left.left]
          exact hagent.symm

theorem RunsAgents.cases_recorded (hr : RunsAgents s table batch h table')
    {record : ContainerRecord} (hm : record ∈ table'.snapshot) :
    record ∈ table.snapshot ∨ record.role.isAgent = true ∧ record.id ∈ givenIds h := by
  induction hr with
  | nil _ => exact .inl hm
  | cons hone _ ih =>
      rw [givenIds_append, List.mem_append]
      rcases ih hm with hm | ⟨hrole, hid⟩
      · cases hone with
        | running _ => exact .inl hm
        | failed _ _ => exact .inl hm
        | started _ hs =>
            rcases FleetTable.mem_snapshot_of_mem_insert hm with rfl | hm
            · obtain ⟨before, network, after, hq, -, rfl⟩ := hs.ok_cases
              rw [givenIds_append, hq.givenIds_start, hs.links.1]
              exact .inr ⟨rfl, .inl (List.mem_append_left _ List.mem_cons_self)⟩
            · exact .inl hm
      · exact .inr ⟨hrole, .inr hid⟩

/-! ## Requests to stop agents -/

theorem StopsAgents.asked_cases {agents : List Agent} {ids : List String}
    {r : Except FleetError (List String × List Agent)}
    (hs : StopsAgents table batch ids agents h r) {id : String} (hm : id ∈ askedIds h) :
    ∃ agent ∈ batch, ∃ record, table.get? agent.containerName = some record ∧ record.id = id := by
  induction hs with
  | nil _ _ => exact absurd hm List.not_mem_nil
  | absent _ _ ih =>
      obtain ⟨agent, ha, hrecord⟩ := ih hm
      exact ⟨agent, List.mem_cons_of_mem _ ha, hrecord⟩
  | repeated _ _ _ ih =>
      obtain ⟨agent, ha, hrecord⟩ := ih hm
      exact ⟨agent, List.mem_cons_of_mem _ ha, hrecord⟩
  | failed _ hg _ => exact ⟨_, List.mem_cons_self, _, hg, (List.mem_singleton.1 hm).symm⟩
  | stopped hg _ _ ih =>
      rcases List.mem_cons.1 hm with rfl | hm
      · exact ⟨_, List.mem_cons_self, _, hg, rfl⟩
      · obtain ⟨agent, ha, hrecord⟩ := ih hm
        exact ⟨agent, List.mem_cons_of_mem _ ha, hrecord⟩

theorem StopsBatch.asked_cases {r : Except FleetError Unit}
    (hs : StopsBatch batch table h r table') :
    (∀ id ∈ askedIds h, ∃ agent ∈ batch, ∃ record,
      table.get? agent.containerName = some record ∧ record.id = id) ∧
    (table' = table ∨ ∃ ids, table' = (table.removeIds ids).2 ∧ ∀ id ∈ ids, id ∈ askedIds h) := by
  cases hs with
  | aborted hs => exact ⟨fun _ => hs.asked_cases, .inl rfl⟩
  | nothing _ =>
      exact ⟨fun _ hm => absurd hm List.not_mem_nil,
        .inr ⟨[], rfl, fun _ hm => absurd hm List.not_mem_nil⟩⟩
  | @completed h ids agents _ hs =>
      have hasked : askedIds (h ++ [counted (table.removeIds ids).2.size,
          published Subject.agentsStopped agents.reverse]) = askedIds h :=
        (askedIds_append _ _).trans (List.append_nil _)
      rw [hasked]
      obtain ⟨-, -, ⟨ids', agents', heq, -, hids⟩ | ⟨_, _, _, heq, -⟩⟩ := hs.cases_end
      · cases heq
        refine ⟨fun _ => hs.asked_cases, .inr ⟨ids, rfl, fun id hm => mem_askedIds_iff.2 (.inl ?_)⟩⟩
        exact ((hids id).1 hm).resolve_left List.not_mem_nil
      · exact nomatch heq

/-- Where an id is recorded once, what is recorded under another name is not
stopped, and it stays recorded. -/
theorem StopsBatch.keeps {r : Except FleetError Unit} (hs : StopsBatch batch table h r table')
    (hdistinct : ∀ r ∈ table.snapshot, ∀ r' ∈ table.snapshot, r.id = r'.id → r = r')
    (hname : ∀ agent ∈ batch, agent.containerName ≠ name) :
    (∀ record, table.get? name = some record → record.id ∉ askedIds h) ∧
      table'.get? name = table.get? name := by
  obtain ⟨hasked, htable⟩ := hs.asked_cases
  have hnot : ∀ record, table.get? name = some record → record.id ∉ askedIds h := by
    intro record hg hm
    obtain ⟨agent, ha, record', hg', hid⟩ := hasked _ hm
    obtain ⟨hr, hrname⟩ := FleetTable.mem_snapshot_of_get? hg
    obtain ⟨hr', hrname'⟩ := FleetTable.mem_snapshot_of_get? hg'
    obtain rfl := hdistinct record' hr' record hr hid
    exact hname agent ha (hrname'.symm.trans hrname)
  refine ⟨hnot, ?_⟩
  rcases htable with rfl | ⟨ids, rfl, hids⟩
  · rfl
  · exact FleetTable.get?_removeIds fun record hg hm => hnot record hg (hids _ hm)

/-! ## Requests of any kind -/

theorem ServesRequest.keeps {request : SupervisorRequest} {answer : SupervisorAnswer}
    (hs : ServesRequest s table request h answer table') (hb : Books table live used)
    (hkept : NamesKept h) (hfresh : (used ++ givenIds h).Nodup) (hname : ¬ request.Concerns name) :
    (∀ record, table.get? name = some record → record.id ∉ askedIds h) ∧
      table'.get? name = table.get? name := by
  cases hs with
  | @run batch h _ hr =>
      have hbatch : ∀ agent ∈ batch, agent.containerName ≠ name :=
        fun agent ha heq => hname ⟨agent, ha, heq⟩
      refine ⟨fun record hg hm => ?_, hr.get?_eq hkept.left hbatch⟩
      rw [askedIds_append, List.mem_append] at hm
      -- what is stopped is new, and what is recorded is not
      have hgiven := hr.askedIds_subset _ (hm.resolve_right List.not_mem_nil)
      have hused := hb.recorded_used _
        (FleetTable.mem_ids.2 ⟨record, (FleetTable.mem_snapshot_of_get? hg).1, rfl⟩)
      rw [givenIds_append] at hfresh
      exact (List.nodup_append.1 hfresh).2.2 _ hused _ (List.mem_append_left _ hgiven) rfl
  | stop hs => exact hs.keeps hb.distinct fun agent ha heq => hname ⟨agent, ha, heq⟩
  | containers => exact ⟨fun _ _ hm => absurd hm List.not_mem_nil, rfl⟩
  | shutdown _ => exact absurd trivial hname

/-- What a request other than a shutdown stops it has started, or it is recorded
under an agent's name. -/
theorem ServesRequest.asked_cases {request : SupervisorRequest} {answer : SupervisorAnswer}
    (hs : ServesRequest s table request h answer table') (hrequest : request ≠ .shutdown)
    {id : String} (hm : id ∈ askedIds h) :
    id ∈ givenIds h ∨ ∃ (agent : Agent) (record : ContainerRecord),
      table.get? agent.containerName = some record ∧ record.id = id := by
  cases hs with
  | run hr =>
      rw [askedIds_append, List.mem_append] at hm
      rw [givenIds_append]
      exact .inl (List.mem_append_left _
        (hr.askedIds_subset _ (hm.resolve_right List.not_mem_nil)))
  | stop hs =>
      obtain ⟨agent, -, hrecord⟩ := hs.asked_cases.1 _ hm
      exact .inr ⟨agent, hrecord⟩
  | containers => exact absurd hm List.not_mem_nil
  | shutdown _ => exact absurd rfl hrequest

theorem ServesRequest.cases_recorded {request : SupervisorRequest} {answer : SupervisorAnswer}
    (hs : ServesRequest s table request h answer table') {record : ContainerRecord}
    (hm : record ∈ table'.snapshot) :
    record ∈ table.snapshot ∨ record.role.isAgent = true ∧ record.id ∈ givenIds h := by
  cases hs with
  | run hr =>
      rw [givenIds_append, List.mem_append]
      exact (hr.cases_recorded hm).imp_right fun hr => hr.imp_right .inl
  | stop hs =>
      rcases hs.asked_cases.2 with rfl | ⟨ids, rfl, -⟩
      · exact .inl hm
      · exact .inl (FleetTable.mem_snapshot_removeIds.1 hm).1
  | containers => exact .inl hm
  | shutdown _ => exact absurd hm List.not_mem_nil

/-! ## Calls -/

theorem Serves.books {calls : List ServedCall} (hs : s.Serves table calls table')
    (hb : Books table live used) (hkept : NamesKept (ofCalls calls))
    (hfresh : (used ++ givenIds (ofCalls calls)).Nodup) :
    Books table' (liveAfter live (ofCalls calls)) (used ++ givenIds (ofCalls calls)) := by
  induction hs with
  | nil =>
      rw [ofCalls_nil, liveAfter_nil]
      simpa [givenIds] using hb
  | snoc _ hy ih =>
      rw [ofCalls_append, ofCalls_singleton] at hkept hfresh ⊢
      rw [givenIds_append, ← List.append_assoc] at hfresh
      have hbooks := ih hkept.left (List.nodup_append.1 hfresh).1
      rw [liveAfter_append, givenIds_append, ← List.append_assoc]
      exact ((yields_serve.1 hy).posts hbooks hkept.right hfresh).books

theorem Serves.cases_recorded {calls : List ServedCall} (hs : s.Serves table calls table')
    {record : ContainerRecord} (hm : record ∈ table'.snapshot) :
    record ∈ table.snapshot ∨
      record.role.isAgent = true ∧ record.id ∈ givenIds (ofCalls calls) := by
  induction hs with
  | nil => exact .inl hm
  | snoc _ hy ih =>
      rw [ofCalls_append, ofCalls_singleton, givenIds_append, List.mem_append]
      rcases (yields_serve.1 hy).cases_recorded hm with hm | ⟨hrole, hid⟩
      · exact (ih hm).imp_right fun hr => hr.imp_right .inl
      · exact .inr ⟨hrole, .inr hid⟩

theorem ServesRequest.askedIds_subset {calls : List ServedCall} {request : SupervisorRequest}
    {answer : SupervisorAnswer} {table'' : FleetTable}
    (hs : ServesRequest s table' request h answer table'') (hserves : s.Serves table calls table')
    (hforeign : ∀ record ∈ table.snapshot, ¬ IsAgentName record.name)
    (hrequest : request ≠ .shutdown) :
    ∀ id ∈ askedIds h, id ∈ givenIds (ofCalls calls ++ h) := by
  intro id hm
  rw [givenIds_append, List.mem_append]
  rcases hs.asked_cases hrequest hm with hid | ⟨agent, record, hg, rfl⟩
  · exact .inr hid
  · obtain ⟨hr, hname⟩ := FleetTable.mem_snapshot_of_get? hg
    rcases hserves.cases_recorded hr with hfirst | ⟨-, hid⟩
    · -- a record that was there at first has no agent's name
      refine absurd ?_ (hforeign record hfirst)
      rw [hname]
      exact agent.isAgentName_containerName
    · exact .inl hid

theorem Serves.askedIds_subset {calls : List ServedCall} (hs : s.Serves table calls table')
    (hforeign : ∀ record ∈ table.snapshot, ¬ IsAgentName record.name)
    (hrequests : ∀ call ∈ calls, call.request ≠ .shutdown) :
    ∀ id ∈ askedIds (ofCalls calls), id ∈ givenIds (ofCalls calls) := by
  induction hs with
  | nil => exact fun _ hm => absurd hm List.not_mem_nil
  | @snoc calls table' _ request h answer hserves hy ih =>
      obtain ⟨hbefore, hlast⟩ := List.forall_mem_append.1 hrequests
      intro id hm
      rw [ofCalls_append, ofCalls_singleton] at hm ⊢
      rw [askedIds_append, List.mem_append] at hm
      rcases hm with hm | hm
      · rw [givenIds_append]
        exact List.mem_append_left _ (ih hbefore id hm)
      · exact (yields_serve.1 hy).askedIds_subset hserves hforeign
          (hlast _ (List.mem_singleton_self _)) id hm

theorem Serves.get?_eq {calls : List ServedCall} (hs : s.Serves table calls table')
    (hb : Books table live used) (hkept : NamesKept (ofCalls calls))
    (hfresh : (used ++ givenIds (ofCalls calls)).Nodup)
    (hname : ∀ call ∈ calls, ¬ call.request.Concerns name) :
    table'.get? name = table.get? name := by
  induction hs with
  | nil => rfl
  | snoc hserves hy ih =>
      obtain ⟨hbefore, hlast⟩ := List.forall_mem_append.1 hname
      rw [ofCalls_append, ofCalls_singleton] at hkept hfresh
      rw [givenIds_append, ← List.append_assoc] at hfresh
      have hfirst := (List.nodup_append.1 hfresh).1
      have hbooks := hserves.books hb hkept.left hfirst
      rw [← ih hkept.left hfirst hbefore]
      exact ((yields_serve.1 hy).keeps hbooks hkept.right hfresh
        (hlast _ (List.mem_singleton_self _))).2

/-- Where the shared containers are not called what agents' containers are, a
request that is not a shutdown concerns neither. -/
theorem not_concerns_of_foreign {request : SupervisorRequest} (hrequest : request ≠ .shutdown)
    (hname : ¬ IsAgentName name) : ¬ request.Concerns name := by
  have hbatch : ∀ batch : List Agent, ¬ ∃ agent ∈ batch, agent.containerName = name := by
    rintro batch ⟨agent, -, rfl⟩
    exact hname agent.isAgentName_containerName
  cases request with
  | run batch => exact hbatch batch
  | stop batch => exact hbatch batch
  | containers => exact fun hc => hc
  | shutdown => exact absurd rfl hrequest

end Supervisor

/-- **A request touches only the agents it names.**  Suppose the engine gives
new ids and the names that were asked for, and the two shared containers are not
called what agents' containers are called; all of these have one form.  Then at
every moment of every request, whatever fails:

* a container recorded under a name that the request does not concern is not
  stopped, and when the request is over the table has under this name what it
  had before;
* as long as no shutdown has been served, requests have neither stopped a shared
  container nor started another under its name, and the records that are not of
  agents are those of the first table. -/
theorem touches_only_named {s : Supervisor} {given : List String} {opening h : FleetHistory}
    {table table' : FleetTable} {calls : List ServedCall} {request : SupervisorRequest}
    {rest : FleetDialogue (SupervisorAnswer × FleetTable)}
    (hopen : s.Opens given opening table) (hserves : s.Serves table calls table')
    (hpart : (s.serve request table').Leads h rest)
    (hkept : NamesKept (opening ++ ofCalls calls ++ h))
    (hfresh : (given ++ givenIds (opening ++ ofCalls calls ++ h)).Nodup)
    (hscanner : ¬ IsAgentName s.scanner.name) (hproxy : ¬ IsAgentName s.jsonRpc.name) :
    (∀ agent : Agent, IsAgentName agent.containerName) ∧
    (∀ name, ¬ request.Concerns name →
      (∀ record, table'.get? name = some record → record.id ∉ askedIds h) ∧
      ∀ answer table'', rest = .done (answer, table'') → table''.get? name = table'.get? name) ∧
    ((∀ call ∈ calls, call.request ≠ .shutdown) → request ≠ .shutdown →
      s.scanner.id ∉ askedIds (ofCalls calls ++ h) ∧ s.jsonRpc.id ∉ askedIds (ofCalls calls ++ h) ∧
      (∀ spec answer, answered (.start spec) answer ∈ ofCalls calls ++ h → IsAgentName spec.name) ∧
      ∀ record, record.role.isAgent = false →
        (record ∈ table'.snapshot ↔ record ∈ table.snapshot)) := by
  -- the books when the request begins
  rw [List.append_assoc] at hkept hfresh
  rw [givenIds_append, ← List.append_assoc, givenIds_append, ← List.append_assoc] at hfresh
  have hfirst := (List.nodup_append.1 hfresh).1
  have hopened := hopen.booked (List.nodup_append.1 hfirst).1
  have hbooks := hserves.books hopened hkept.right.left hfirst
  -- what is under way is brought to an end without another start
  obtain ⟨h', ⟨answer, table''⟩, hy, hnone, hkept'⟩ := exists_yields_no_start rest
  have hserve := Supervisor.yields_serve.1 (Dialogue.leads_append.2 ⟨rest, hpart, hy⟩)
  have hnames : NamesKept (h ++ h') := List.forall_mem_append.2 ⟨hkept.right.right, hkept'⟩
  have hids : givenIds (h ++ h') = givenIds h := by
    rw [givenIds_append, hnone, List.append_nil]
  have hleft : ∀ id ∈ askedIds h, id ∈ askedIds (h ++ h') := by
    intro id hm
    rw [askedIds_append]
    exact List.mem_append_left _ hm
  refine ⟨Agent.isAgentName_containerName, fun name hname => ?_, fun hcalls hrequest => ?_⟩
  · obtain ⟨hasked, hget⟩ := hserve.keeps hbooks hnames (hids.symm ▸ hfresh) hname
    refine ⟨fun record hg hm => hasked record hg (hleft _ hm), ?_⟩
    rintro answer' table₁ rfl
    obtain ⟨-, heq⟩ := Dialogue.yields_done.1 hy
    obtain ⟨-, rfl⟩ := Prod.mk.inj heq
    exact hget
  · obtain ⟨scannerTime, proxyTime, rfl, hshared, -⟩ := hopen.shared
    have hforeign : ∀ record ∈ (s.initialTable scannerTime proxyTime).snapshot,
        ¬ IsAgentName record.name := by
      intro record hr
      rcases Supervisor.cases_initialTable hr with rfl | rfl
      · exact hproxy
      · exact hscanner
    have hasked : ∀ id ∈ askedIds (ofCalls calls ++ h), id ∈ givenIds (ofCalls calls ++ h) := by
      intro id hm
      rw [askedIds_append, List.mem_append] at hm
      rcases hm with hm | hm
      · rw [givenIds_append]
        exact List.mem_append_left _ (hserves.askedIds_subset hforeign hcalls id hm)
      · have hgiven := hserve.askedIds_subset hserves hforeign hrequest id (hleft id hm)
        rw [givenIds_append, hids, ← givenIds_append] at hgiven
        exact hgiven
    have hold : ∀ id ∈ [s.scanner.id, s.jsonRpc.id], id ∉ askedIds (ofCalls calls ++ h) := by
      intro id hid hm
      rw [List.append_assoc, ← givenIds_append, hshared] at hfresh
      exact (List.nodup_append.1 hfresh).2.2 id hid id (hasked id hm) rfl
    refine ⟨hold _ List.mem_cons_self, hold _ (List.mem_cons_of_mem _ List.mem_cons_self), ?_, ?_⟩
    · intro spec started hm
      have hpermits : AlwaysAllowed s.Permits (ofCalls calls ++ h) :=
        hserves.permitted.append s.permits_lasting hserve.permitted.left
      obtain ⟨before, after, heq⟩ := List.append_of_mem hm
      obtain ⟨agent, _, _, _, _, hname, _⟩ := hpermits before _ after heq
      rw [hname]
      exact agent.isAgentName_containerName
    · intro record hrole
      constructor
      · intro hr
        refine (hserves.cases_recorded hr).resolve_right fun hagent => ?_
        rw [hrole] at hagent
        exact nomatch hagent.1
      · intro hr
        have hget := hserves.get?_eq hopened hkept.right.left hfirst fun call hc =>
          Supervisor.not_concerns_of_foreign (hcalls call hc) (hforeign record hr)
        rw [FleetTable.mem_snapshot_iff, hget]
        exact FleetTable.mem_snapshot_iff.1 hr

/-- After a request that was aborted, the second agent is to be stopped again,
which fails again: the first is left alone, and so are the shared
containers. -/
theorem touches_only_named_aborted :
    ∃ record, AbortedStop.aborted.2.1.get? AbortedStop.first.containerName = some record ∧
      (AbortedStop.supervisor.serveIn AbortedStop.respond (.stop [AbortedStop.second])
        AbortedStop.aborted.2.1 ()).2.1.get? AbortedStop.first.containerName = some record ∧
      AbortedStop.supervisor.scanner.id ∉ askedIds (ofCalls AbortedStop.twoCalls ++
        (AbortedStop.supervisor.serveIn AbortedStop.respond (.stop [AbortedStop.second])
          AbortedStop.aborted.2.1 ()).1.history) := by
  have hrecorded : AbortedStop.aborted.2.1.contains AbortedStop.first.containerName = true := by
    decide +kernel
  have hother : ¬ (SupervisorRequest.stop [AbortedStop.second]).Concerns
      AbortedStop.first.containerName := by
    rintro ⟨agent, ha, hname⟩
    obtain rfl := List.mem_singleton.1 ha
    revert hname
    decide +kernel
  obtain ⟨record, hget⟩ := FleetTable.contains_eq_true_iff.1 hrecorded
  obtain ⟨-, hframe, hshared⟩ := touches_only_named AbortedStop.opens AbortedStop.serves_aborted
    (Dialogue.yields_run AbortedStop.respond
      (AbortedStop.supervisor.serve (.stop [AbortedStop.second]) AbortedStop.aborted.2.1) ())
    (by decide +kernel) (by decide +kernel) (by decide +kernel) (by decide +kernel)
  refine ⟨record, hget, ?_, (hshared ?_ nofun).1⟩
  · rw [← hget]
    exact (hframe _ hother).2 _ _ rfl
  · decide +kernel

end NodeKeeper
