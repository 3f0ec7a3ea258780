/-
# A request to stop agents is exact, and all or nothing

A batch may name an agent twice, or one that is not recorded.  What counts of it
is the first mention of each recorded container (`FleetTable.firstMentions`); a
request stops the containers recorded for these, in this order, up to the first
that cannot be stopped.

    none fails         the records are taken out, all others stay; the agents
                       are published, if the batch named any
    the next one fails the request names its id; the table and the count are
                       what they were, and nothing is published

The supervisor keeps the ids it has stopped and looks agents up by their names.
Where an id is recorded once, "its id is among them" and "its container has been
mentioned" are the same (`id_eq_iff`), so what is left of a batch gets shorter by
one agent with each stop (`unstopped_first`) and is not changed by a repetition
(`unstopped_repeated`).  The induction over the batch is `stopsAgents_iff`.
-/
import Mathlib.Data.List.Nodup
import NodeKeeper.Proofs.Fleet.Frame
import NodeKeeper.Proofs.Node.Health

namespace NodeKeeper

open FleetExchange FleetHistory

namespace FleetTable

variable {t : FleetTable} {batch : List Agent} {agent : Agent} {record : ContainerRecord}
  {ids : List String}

/-- Of a batch, the first mention of each container that is recorded. -/
def firstMentions (t : FleetTable) : List Agent → List Agent
  | [] => []
  | agent :: rest =>
    if t.contains agent.containerName then
      agent :: (t.firstMentions rest).filter (·.containerName ≠ agent.containerName)
    else t.firstMentions rest

/-- The ids under which the agents' containers are recorded. -/
def recordedIds (t : FleetTable) (agents : List Agent) : List String :=
  agents.filterMap fun agent => (t.get? agent.containerName).map (·.id)

theorem recordedIds_cons (h : t.get? agent.containerName = some record) :
    t.recordedIds (agent :: batch) = record.id :: t.recordedIds batch := by
  simp only [recordedIds, List.filterMap_cons, h, Option.map_some]

theorem firstMentions_sublist (t : FleetTable) (batch : List Agent) :
    (t.firstMentions batch).Sublist batch := by
  induction batch with
  | nil => exact .slnil
  | cons agent rest ih =>
      unfold firstMentions
      split
      · exact (List.filter_sublist.trans ih).cons_cons agent
      · exact ih.cons agent

theorem contains_of_mem_firstMentions (h : agent ∈ t.firstMentions batch) :
    t.contains agent.containerName = true := by
  induction batch with
  | nil => exact absurd h List.not_mem_nil
  | cons first rest ih =>
      unfold firstMentions at h
      split at h
      · next hc =>
        rcases List.mem_cons.1 h with rfl | h
        · exact hc
        · exact ih (List.mem_filter.1 h).1
      · exact ih h

theorem get?_of_mem_firstMentions (h : agent ∈ t.firstMentions batch) :
    ∃ record, t.get? agent.containerName = some record :=
  contains_eq_true_iff.1 (contains_of_mem_firstMentions h)

theorem nodup_firstMentions (t : FleetTable) (batch : List Agent) :
    ((t.firstMentions batch).map (·.containerName)).Nodup := by
  induction batch with
  | nil => exact List.nodup_nil
  | cons agent rest ih =>
      unfold firstMentions
      split
      · refine List.nodup_cons.2 ⟨fun hm => ?_, ih.sublist (List.filter_sublist.map _)⟩
        obtain ⟨other, ho, heq⟩ := List.mem_map.1 hm
        exact of_decide_eq_true (List.mem_filter.1 ho).2 heq
      · exact ih

/-- What is left of the first mentions of a batch when the containers with these
ids have been stopped. -/
def unstopped (t : FleetTable) (ids : List String) (batch : List Agent) : List Agent :=
  (t.firstMentions batch).filter fun agent =>
    (t.get? agent.containerName).all fun record => record.id ∉ ids

theorem unstopped_nil (t : FleetTable) (batch : List Agent) :
    t.unstopped [] batch = t.firstMentions batch := by
  refine List.filter_eq_self.2 fun agent _ => ?_
  cases t.get? agent.containerName with
  | none => rfl
  | some record => rfl

theorem unstopped_absent (h : t.get? agent.containerName = none) :
    t.unstopped ids (agent :: batch) = t.unstopped ids batch := by
  simp only [unstopped, firstMentions, contains, h, Option.isSome_none, Bool.false_eq_true,
    if_false]

/-- Two agents' containers are recorded with one id just when they have one
name. -/
theorem id_eq_iff (hids : t.ids.Nodup) (h : t.get? agent.containerName = some record)
    {other : Agent} {record' : ContainerRecord} (h' : t.get? other.containerName = some record') :
    record'.id = record.id ↔ other.containerName = agent.containerName := by
  obtain ⟨hr, hname⟩ := mem_snapshot_of_get? h
  obtain ⟨hr', hname'⟩ := mem_snapshot_of_get? h'
  constructor
  · intro hid
    rw [← hname, ← hname', List.inj_on_of_nodup_map hids hr' hr hid]
  · intro heq
    rw [heq, h] at h'
    rw [Option.some.inj h']

theorem unstopped_repeated (hids : t.ids.Nodup) (h : t.get? agent.containerName = some record)
    (hin : record.id ∈ ids) :
    t.unstopped ids (agent :: batch) = t.unstopped ids batch := by
  simp only [unstopped, firstMentions, contains, h, Option.isSome_some, if_true, List.filter_cons,
    Option.all_some, hin, not_true, decide_false, Bool.false_eq_true, if_false, List.filter_filter]
  refine List.filter_congr fun other hm => ?_
  obtain ⟨record', h'⟩ := get?_of_mem_firstMentions hm
  -- another mention of the container has the id that is in the list
  have hother : record'.id ∉ ids → other.containerName ≠ agent.containerName :=
    fun hn heq => hn ((id_eq_iff hids h h').2 heq ▸ hin)
  simp only [h', Option.all_some, Bool.and_eq_left_iff_imp, decide_eq_true_eq]
  exact hother

theorem unstopped_first (hids : t.ids.Nodup) (h : t.get? agent.containerName = some record)
    (hnot : record.id ∉ ids) :
    t.unstopped ids (agent :: batch) = agent :: t.unstopped (record.id :: ids) batch := by
  simp only [unstopped, firstMentions, contains, h, Option.isSome_some, if_true, List.filter_cons,
    Option.all_some, hnot, not_false_eq_true, decide_true, if_true, List.filter_filter]
  refine congrArg (agent :: ·) (List.filter_congr fun other hm => ?_)
  obtain ⟨record', h'⟩ := get?_of_mem_firstMentions hm
  simp only [h', Option.all_some, List.mem_cons, not_or, ← id_eq_iff hids h h',
    Bool.decide_and, ne_eq]
  exact Bool.and_comm _ _

theorem nodup_recordedIds (hids : t.ids.Nodup) :
    (t.recordedIds (t.firstMentions batch)).Nodup := by
  refine List.pairwise_filterMap.2 ((List.pairwise_map.1 (t.nodup_firstMentions batch)).imp ?_)
  intro agent other hne id hid id' hid' heq
  obtain ⟨record, h, rfl⟩ := Option.map_eq_some_iff.1 hid
  obtain ⟨record', h', rfl⟩ := Option.map_eq_some_iff.1 hid'
  exact hne ((id_eq_iff hids h h').1 heq.symm).symm

end FleetTable

namespace Supervisor

variable {table table' : FleetTable} {batch agents : List Agent} {ids : List String}
  {h : FleetHistory}

section mention

variable {agent : Agent} {rest : List Agent} {record : ContainerRecord}
  {r : Except FleetError (List String × List Agent)}

theorem stopsAgents_absent (hg : table.get? agent.containerName = none) :
    StopsAgents table (agent :: rest) ids agents h r ↔ StopsAgents table rest ids agents h r := by
  constructor
  · intro hs
    cases hs with
    | absent _ hrest => exact hrest
    | repeated hg' | failed _ hg' | stopped hg' => exact nomatch hg.symm.trans hg'
  · exact .absent hg

theorem stopsAgents_repeated (hg : table.get? agent.containerName = some record)
    (hin : record.id ∈ ids) :
    StopsAgents table (agent :: rest) ids agents h r ↔ StopsAgents table rest ids agents h r := by
  constructor
  · intro hs
    cases hs with
    | absent hg' => exact nomatch hg.symm.trans hg'
    | repeated _ _ hrest => exact hrest
    | failed _ hg' hnot | stopped hg' hnot =>
        cases hg.symm.trans hg'
        exact absurd hin hnot
  · exact .repeated hg hin

/-- The first mention of a recorded container stops it, or ends the request. -/
theorem stopsAgents_first (hg : table.get? agent.containerName = some record)
    (hnot : record.id ∉ ids) :
    StopsAgents table (agent :: rest) ids agents h r ↔
      (∃ cause, h = [stopFailed record.id cause] ∧ r = .error (.stopContainer record.id cause)) ∨
      ∃ h', h = stopped record.id :: h' ∧
        StopsAgents table rest (record.id :: ids) (agent :: agents) h' r := by
  constructor
  · intro hs
    cases hs with
    | absent hg' => exact nomatch hg.symm.trans hg'
    | repeated hg' hin =>
        cases hg.symm.trans hg'
        exact absurd hin hnot
    | failed cause hg' _ =>
        cases hg.symm.trans hg'
        exact .inl ⟨cause, rfl, rfl⟩
    | stopped hg' _ hrest =>
        cases hg.symm.trans hg'
        exact .inr ⟨_, rfl, hrest⟩
  · rintro (⟨cause, rfl, rfl⟩ | ⟨h', rfl, hrest⟩)
    · exact .failed cause hg hnot
    · exact .stopped hg hnot hrest

end mention

/-- What is left of a batch is stopped in order, up to the first failure. -/
theorem stopsAgents_iff (hids : table.ids.Nodup)
    {r : Except FleetError (List String × List Agent)} :
    StopsAgents table batch ids agents h r ↔
      (h = (table.recordedIds (table.unstopped ids batch)).map stopped ∧
        r = .ok ((table.recordedIds (table.unstopped ids batch)).reverse ++ ids,
          (table.unstopped ids batch).reverse ++ agents)) ∨
      ∃ before id after cause,
        table.recordedIds (table.unstopped ids batch) = before ++ id :: after ∧
        h = before.map stopped ++ [stopFailed id cause] ∧ r = .error (.stopContainer id cause) := by
  induction batch generalizing ids agents h with
  | nil =>
      constructor
      · intro hs
        cases hs
        exact .inl ⟨rfl, rfl⟩
      · rintro (⟨rfl, rfl⟩ | ⟨before, id, after, cause, heq, -⟩)
        · exact .nil ids agents
        · exact absurd heq.symm (List.append_ne_nil_of_right_ne_nil _ (List.cons_ne_nil _ _))
  | cons agent rest ih =>
      cases hg : table.get? agent.containerName with
      | none => rw [stopsAgents_absent hg, FleetTable.unstopped_absent hg, ih]
      | some record =>
          by_cases hin : record.id ∈ ids
          · rw [stopsAgents_repeated hg hin, FleetTable.unstopped_repeated hids hg hin, ih]
          · rw [stopsAgents_first hg hin, FleetTable.unstopped_first hids hg hin,
              FleetTable.recordedIds_cons hg]
            simp only [ih, List.map_cons, List.reverse_cons, List.append_assoc,
              List.singleton_append]
            constructor
            · rintro (⟨cause, rfl, rfl⟩ |
                ⟨_, rfl, ⟨rfl, rfl⟩ | ⟨before, id, after, cause, heq, rfl, rfl⟩⟩)
              · exact .inr ⟨[], _, _, cause, rfl, rfl, rfl⟩
              · exact .inl ⟨rfl, rfl⟩
              · exact .inr ⟨record.id :: before, id, after, cause, by rw [heq]; rfl, rfl, rfl⟩
            · rintro (⟨rfl, rfl⟩ | ⟨before, id, after, cause, heq, rfl, rfl⟩)
              · exact .inr ⟨_, rfl, .inl ⟨rfl, rfl⟩⟩
              · cases before with
                | nil =>
                    obtain ⟨rfl, -⟩ := List.cons.inj heq
                    exact .inl ⟨cause, rfl, rfl⟩
                | cons id' before =>
                    obtain ⟨rfl, hrest⟩ := List.cons.inj heq
                    exact .inr ⟨_, rfl, .inr ⟨before, id, after, cause, hrest, rfl, rfl⟩⟩

theorem stopsBatch_iff (hids : table.ids.Nodup)
    {r : Except FleetError Unit} :
    StopsBatch batch table h r table' ↔
      (r = .ok () ∧
        table' = table.filter (·.id ∉ table.recordedIds (table.firstMentions batch)) ∧
        h = (table.recordedIds (table.firstMentions batch)).map stopped ++ counted table'.size ::
          if batch = [] then [] else [published Subject.agentsStopped (table.firstMentions batch)]) ∨
      ∃ before id after cause,
        table.recordedIds (table.firstMentions batch) = before ++ id :: after ∧
        r = .error (.stopContainer id cause) ∧ table' = table ∧
        h = before.map stopped ++ [stopFailed id cause] := by
  -- the ids are kept in the opposite order, which a removal does not see
  have hout : (table.removeIds (table.recordedIds (table.firstMentions batch)).reverse).2 =
      table.filter (·.id ∉ table.recordedIds (table.firstMentions batch)) := by
    simp only [FleetTable.removeIds, List.contains_eq_mem, List.mem_reverse, decide_not]
  have hall := fun h r => (stopsAgents_iff hids : StopsAgents table batch [] [] h r ↔ _)
  simp only [FleetTable.unstopped_nil, List.append_nil] at hall
  constructor
  · intro hs
    cases hs with
    | aborted hs =>
        rcases (hall _ _).1 hs with ⟨-, heq⟩ | ⟨before, id, after, cause, hsplit, rfl, heq⟩
        · exact nomatch heq
        · cases heq
          exact .inr ⟨before, id, after, cause, hsplit, rfl, rfl, rfl⟩
    | nothing hnil =>
        subst hnil
        exact .inl ⟨rfl, hout, rfl⟩
    | completed hne hs =>
        rcases (hall _ _).1 hs with ⟨rfl, heq⟩ | ⟨before, id, after, cause, hsplit, rfl, heq⟩
        · cases heq
          refine .inl ⟨rfl, hout, ?_⟩
          rw [if_neg hne, List.reverse_reverse]
        · exact nomatch heq
  · rintro (⟨rfl, rfl, rfl⟩ | ⟨before, id, after, cause, hsplit, rfl, rfl, rfl⟩)
    · rw [← hout]
      by_cases hnil : batch = []
      · subst hnil
        exact .nothing rfl
      · have hs := StopsBatch.completed hnil ((hall _ _).2 (.inl ⟨rfl, rfl⟩))
        rw [List.reverse_reverse] at hs
        rwa [if_neg hnil]
    · exact .aborted ((hall _ _).2 (.inr ⟨before, id, after, cause, hsplit, rfl, rfl⟩))

theorem countAfter_stops (ids : List String) (n : Nat) : countAfter (ids.map stopped) n = n := by
  induction ids with
  | nil => rfl
  | cons id rest ih => exact ih

/-- Where the engine gives new ids and the names that were asked for, an id is
recorded once. -/
theorem Serves.ids_nodup {s : Supervisor} {given : List String} {opening : FleetHistory}
    {calls : List ServedCall} (hs : s.Serves table calls table')
    (hopen : s.Opens given opening table) (hkept : NamesKept (opening ++ ofCalls calls))
    (hfresh : (given ++ givenIds (opening ++ ofCalls calls)).Nodup) : table'.ids.Nodup := by
  rw [givenIds_append, ← List.append_assoc] at hfresh
  have hopened := hopen.booked (List.nodup_append.1 hfresh).1
  exact FleetTable.ids_nodup (hs.books hopened hkept.right hfresh).distinct

end Supervisor

/-- **A request to stop agents is exact, and all or nothing.**  Take any table
that a supervisor can come to have; its ids are distinct if the engine gives new
ids and the names that were asked for.  Of a batch, the first mention of each
recorded container counts.  Whatever the engine answers, one of two things
happens, and each of them can:

* the containers are stopped in order and all stops succeed: these records are
  taken out and all others stay, and the agents are published as stopped unless
  the batch is empty;
* the containers are stopped in order until a stop fails: the request names the
  id, the table and the count are what they were, and nothing is published. -/
theorem stop_request_exact {s : Supervisor} {given : List String} {opening : FleetHistory}
    {first table : FleetTable} {calls : List ServedCall} (hopen : s.Opens given opening first)
    (hserves : s.Serves first calls table) :
    (NamesKept (opening ++ ofCalls calls) → (given ++ givenIds (opening ++ ofCalls calls)).Nodup →
      table.ids.Nodup) ∧
    (table.ids.Nodup → ∀ batch : List Agent,
      (table.firstMentions batch).Sublist batch ∧
      (table.recordedIds (table.firstMentions batch)).Nodup ∧
      ∀ h answer table', (s.serve (.stop batch) table).Yields h (answer, table') ↔
        (answer = .done (.ok ()) ∧
          table' = table.filter (·.id ∉ table.recordedIds (table.firstMentions batch)) ∧
          h = (table.recordedIds (table.firstMentions batch)).map stopped ++
            counted table'.size :: if batch = [] then [] else
              [published Subject.agentsStopped (table.firstMentions batch)]) ∨
        ∃ before id after cause,
          table.recordedIds (table.firstMentions batch) = before ++ id :: after ∧
          answer = .done (.error (.stopContainer id cause)) ∧ table' = table ∧
          h = before.map stopped ++ [stopFailed id cause] ∧ ∀ n, countAfter h n = n) := by
  refine ⟨hserves.ids_nodup hopen, fun hids batch => ?_⟩
  refine ⟨table.firstMentions_sublist batch, FleetTable.nodup_recordedIds hids, ?_⟩
  intro h answer table'
  rw [Supervisor.yields_serve]
  constructor
  · intro hs
    cases hs with
    | stop hs =>
        rcases (Supervisor.stopsBatch_iff hids).1 hs with
          ⟨rfl, htable, hh⟩ | ⟨before, id, after, cause, hsplit, rfl, htable, rfl⟩
        · exact .inl ⟨rfl, htable, hh⟩
        · refine .inr ⟨before, id, after, cause, hsplit, rfl, htable, rfl, fun n => ?_⟩
          rw [countAfter_append, Supervisor.countAfter_stops]
          rfl
  · rintro (⟨rfl, htable, hh⟩ | ⟨before, id, after, cause, hsplit, rfl, htable, hh, -⟩)
    · exact .stop ((Supervisor.stopsBatch_iff hids).2 (.inl ⟨rfl, htable, hh⟩))
    · exact .stop ((Supervisor.stopsBatch_iff hids).2
        (.inr ⟨before, id, after, cause, hsplit, rfl, htable, hh⟩))

/-- The first agent is named twice, beside one that does not run and the second,
which cannot be stopped. -/
theorem stop_request_exact_aborted :
    (AbortedStop.supervisor.serve
        (.stop [AbortedStop.first, ⟨"c", "c:1"⟩, AbortedStop.first, AbortedStop.second])
        AbortedStop.started.2.1).Yields
      [stopped ("id of " ++ AbortedStop.first.containerName),
        stopFailed ("id of " ++ AbortedStop.second.containerName) (.other "no such process")]
      (.done (.error (.stopContainer ("id of " ++ AbortedStop.second.containerName)
        (.other "no such process"))), AbortedStop.started.2.1) := by
  obtain ⟨hdistinct, hexact⟩ :=
    stop_request_exact AbortedStop.opens AbortedStop.serves_started
  obtain ⟨-, -, hiff⟩ := hexact (hdistinct (by decide +kernel) (by decide +kernel)) _
  refine (hiff _ _ _).2 (.inr ⟨["id of " ++ AbortedStop.first.containerName], _, [], _,
    ?_, rfl, rfl, rfl, fun _ => rfl⟩)
  decide +kernel

end NodeKeeper
