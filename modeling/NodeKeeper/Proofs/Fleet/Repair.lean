/-
# Sending a stop request again

A request to stop agents is aborted by the first stop that fails, and nobody
but its sender repeats it.  What it had stopped until then stays recorded, so
the next request asks for the stop of containers that are not live any more.

The engine is described by what it does with stops:

    StopsOnlyLive live h    a stop succeeds only while the container is live
    StopsAllLive live h     a stop of a live container does not fail

The first always holds of an engine that forgets a container once it has
stopped; the second holds while there is no fault.

**Proved here.**

    without faults a request either succeeds, and none of its agents is
    recorded any more, or it is refused because of an agent that an earlier
    request had stopped in vain                    (`stop_settled_by_vain_stops`)
    a container that has been stopped in vain is refused for good
                                                             (`Serves.refused`)
    the same request sent twice, refused the second time  (`stop_again_refused`)
-/
import NodeKeeper.Proofs.Fleet.Bookkeeping

namespace NodeKeeper

open FleetExchange FleetHistory

/-! ## Engines -/

/-- Something holds of every exchange and the containers that are live before
it. -/
def Throughout (P : List String → FleetExchange → Prop) : List String → FleetHistory → Prop
  | _, [] => True
  | live, e :: h => P live e ∧ Throughout P (e.liveAfter live) h

/-- A stop succeeds only while the container is live; `live` are the containers
that are live before. -/
def StopsOnlyLive : List String → FleetHistory → Prop :=
  Throughout fun live e => ∀ id ∈ e.stoppedId?, id ∈ live

/-- A stop of a live container does not fail. -/
def StopsAllLive : List String → FleetHistory → Prop :=
  Throughout fun live e => ∀ id ∈ e.unstoppedId?, id ∉ live

instance decidableThroughout {P : List String → FleetExchange → Prop}
    [∀ live e, Decidable (P live e)] :
    (live : List String) → (h : FleetHistory) → Decidable (Throughout P live h)
  | _, [] => inferInstanceAs (Decidable True)
  | live, e :: h =>
    letI := decidableThroughout (P := P) (e.liveAfter live) h
    inferInstanceAs (Decidable (P live e ∧ Throughout P (e.liveAfter live) h))

instance (live : List String) (h : FleetHistory) : Decidable (StopsOnlyLive live h) :=
  decidableThroughout live h

instance (live : List String) (h : FleetHistory) : Decidable (StopsAllLive live h) :=
  decidableThroughout live h

variable {table table' table'' : FleetTable} {live : List String} {h h' : FleetHistory}

theorem throughout_append {P : List String → FleetExchange → Prop} :
    Throughout P live (h ++ h') ↔ Throughout P live h ∧ Throughout P (liveAfter live h) h' := by
  induction h generalizing live with
  | nil => exact ⟨fun hp => ⟨trivial, hp⟩, fun hp => hp.2⟩
  | cons e h ih =>
      show (P live e ∧ Throughout P _ (h ++ h')) ↔ (P live e ∧ Throughout P _ h) ∧ _
      rw [ih, and_assoc]
      rfl

namespace Supervisor

/-! ## One request -/

/-- Going through a batch ends with every recorded agent stopped, or at one
that was not live. -/
theorem StopsAgents.live_cases {batch agents : List Agent} {ids : List String}
    {r : Except FleetError (List String × List Agent)}
    (hs : StopsAgents table batch ids agents h r) (honly : StopsOnlyLive live h)
    (hall : StopsAllLive live h) :
    (∃ ids' agents', r = .ok (ids', agents') ∧ (∀ id ∈ ids, id ∈ ids') ∧
      ∀ agent ∈ batch, ∀ record, table.get? agent.containerName = some record →
        record.id ∈ ids' ∧ (record.id ∈ ids ∨ record.id ∈ live)) ∨
    ∃ agent ∈ batch, ∃ record cause, table.get? agent.containerName = some record ∧
      record.id ∉ ids ∧ record.id ∉ live ∧ r = .error (.stopContainer record.id cause) := by
  induction hs generalizing live with
  | nil ids agents =>
      exact .inl ⟨ids, agents, rfl, fun _ hm => hm, fun _ hm => absurd hm List.not_mem_nil⟩
  | absent hg _ ih =>
      rcases ih honly hall with ⟨ids', agents', rfl, hsub, hrec⟩ | ⟨other, hm, hrest⟩
      · refine .inl ⟨ids', agents', rfl, hsub, List.forall_mem_cons.2 ⟨?_, hrec⟩⟩
        intro record hr
        exact nomatch hg.symm.trans hr
      · exact .inr ⟨other, List.mem_cons_of_mem _ hm, hrest⟩
  | repeated hg hin _ ih =>
      rcases ih honly hall with ⟨ids', agents', rfl, hsub, hrec⟩ | ⟨other, hm, hrest⟩
      · refine .inl ⟨ids', agents', rfl, hsub, List.forall_mem_cons.2 ⟨?_, hrec⟩⟩
        intro record hr
        obtain rfl := Option.some.inj (hg.symm.trans hr)
        exact ⟨hsub _ hin, .inl hin⟩
      · exact .inr ⟨other, List.mem_cons_of_mem _ hm, hrest⟩
  | @failed agent rest agents ids record cause hg hin =>
      exact .inr ⟨agent, List.mem_cons_self, record, cause, hg, hin, hall.1 record.id rfl, rfl⟩
  | @stopped agent rest agents ids record h r hg hin _ ih =>
      have hlive : record.id ∈ live := honly.1 record.id rfl
      -- what is live afterwards was live before
      have hold : ∀ id, id ∈ (FleetExchange.stopped record.id).liveAfter live ↔
          id ∈ live ∧ record.id ≠ id := by
        intro id
        rw [liveAfter_stopped, List.mem_filter, decide_eq_true_eq]
      rcases ih honly.2 hall.2 with ⟨ids', agents', rfl, hsub, hrec⟩ |
        ⟨other, hm, record', cause, hg', hin', hdead, rfl⟩
      · refine .inl ⟨ids', agents', rfl, fun id hid => hsub id (List.mem_cons_of_mem _ hid),
          List.forall_mem_cons.2 ⟨?_, ?_⟩⟩
        · intro record' hr
          obtain rfl := Option.some.inj (hg.symm.trans hr)
          exact ⟨hsub _ List.mem_cons_self, .inr hlive⟩
        · intro a ha record' hr
          obtain ⟨hids, hor⟩ := hrec a ha record' hr
          refine ⟨hids, ?_⟩
          rcases hor with hmem | hmem
          · rcases List.mem_cons.1 hmem with heq | hmem
            · exact .inr (heq ▸ hlive)
            · exact .inl hmem
          · exact .inr ((hold _).1 hmem).1
      · have hne : record.id ≠ record'.id := fun heq => hin' (heq ▸ List.mem_cons_self)
        refine .inr ⟨other, List.mem_cons_of_mem _ hm, record', cause, hg', ?_, ?_, rfl⟩
        · exact fun hid => hin' (List.mem_cons_of_mem _ hid)
        · exact fun hid => hdead ((hold _).2 ⟨hid, hne⟩)

/-- A request that meets no fault succeeds and takes its agents out of the
table, or it is refused because of one whose container is not live. -/
theorem StopsBatch.live_cases {batch : List Agent} {r : Except FleetError Unit}
    (hs : StopsBatch batch table h r table') (honly : StopsOnlyLive live h)
    (hall : StopsAllLive live h) :
    (r = .ok () ∧ (∀ agent ∈ batch, table'.get? agent.containerName = none) ∧
      ∀ agent ∈ batch, ∀ record, table.get? agent.containerName = some record →
        record.id ∈ live) ∨
    ∃ agent ∈ batch, ∃ record cause, table.get? agent.containerName = some record ∧
      record.id ∉ live ∧ r = .error (.stopContainer record.id cause) ∧ table' = table := by
  cases hs with
  | aborted hs =>
      rcases hs.live_cases honly hall with ⟨_, _, heq, _⟩ |
        ⟨agent, hm, record, cause, hg, _, hdead, heq⟩
      · exact nomatch heq
      · cases heq
        exact .inr ⟨agent, hm, record, cause, hg, hdead, rfl, rfl⟩
  | nothing hb =>
      subst hb
      exact .inl ⟨rfl, fun _ hm => absurd hm List.not_mem_nil,
        fun _ hm => absurd hm List.not_mem_nil⟩
  | @completed h ids agents hb hs =>
      rcases hs.live_cases (throughout_append.1 honly).1 (throughout_append.1 hall).1 with
        ⟨ids', agents', heq, _, hrec⟩ | ⟨_, _, _, _, _, _, _, heq⟩
      · cases heq
        refine .inl ⟨rfl, ?_, ?_⟩
        · intro agent ha
          cases hget : (table.removeIds ids).2.get? agent.containerName with
          | none => rfl
          | some record =>
              -- it would have been stopped, and so have been taken out
              obtain ⟨hmem, hname⟩ := FleetTable.mem_snapshot_of_get? hget
              obtain ⟨hold, hnot⟩ := FleetTable.mem_snapshot_removeIds.1 hmem
              have hrecorded : table.get? agent.containerName = some record := by
                rw [← hname]
                exact FleetTable.mem_snapshot_iff.1 hold
              exact absurd (hrec agent ha record hrecorded).1 hnot
        · intro agent ha record hg
          exact (hrec agent ha record hg).2.resolve_left List.not_mem_nil
      · exact nomatch heq

/-! ## Refused for good -/

theorem StopsAgents.stopped_of_ok {batch agents agents' : List Agent} {ids ids' : List String}
    {r : Except FleetError (List String × List Agent)}
    (hs : StopsAgents table batch ids agents h r) (hr : r = .ok (ids', agents'))
    {agent : Agent} (ha : agent ∈ batch) {record : ContainerRecord}
    (hg : table.get? agent.containerName = some record) :
    record.id ∈ ids ∨ FleetExchange.stopped record.id ∈ h := by
  induction hs with
  | nil ids agents => exact absurd ha List.not_mem_nil
  | absent hn _ ih =>
      rcases List.mem_cons.1 ha with rfl | ha
      · exact nomatch hn.symm.trans hg
      · exact ih hr ha
  | repeated hn hin _ ih =>
      rcases List.mem_cons.1 ha with rfl | ha
      · obtain rfl := Option.some.inj (hn.symm.trans hg)
        exact .inl hin
      · exact ih hr ha
  | failed _ _ _ => exact nomatch hr
  | @stopped _ _ _ _ record' _ _ hn hin _ ih =>
      rcases List.mem_cons.1 ha with rfl | ha
      · obtain rfl := Option.some.inj (hn.symm.trans hg)
        exact .inr List.mem_cons_self
      · rcases ih hr ha with hmem | hmem
        · rcases List.mem_cons.1 hmem with heq | hmem
          · exact .inr (heq ▸ List.mem_cons_self)
          · exact .inl hmem
        · exact .inr (List.mem_cons_of_mem _ hmem)

theorem not_stopped_of_dead {id : String} (honly : StopsOnlyLive live h)
    (hgiven : id ∉ givenIds h) (hdead : id ∉ live) : FleetExchange.stopped id ∉ h := by
  induction h generalizing live with
  | nil => exact List.not_mem_nil
  | cons e h ih =>
      have hnone : e.givenId? ≠ some id := fun hg =>
        hgiven (mem_givenIds.2 ⟨e, List.mem_cons_self, hg⟩)
      have hrest : id ∉ givenIds h := by
        intro hm
        obtain ⟨e', he', hg⟩ := mem_givenIds.1 hm
        exact hgiven (mem_givenIds.2 ⟨e', List.mem_cons_of_mem _ he', hg⟩)
      have hstill : id ∉ e.liveAfter live := by
        intro hm
        exact (mem_liveAfter.1 hm).1.elim hnone hdead
      intro hm
      rcases List.mem_cons.1 hm with rfl | hm
      · exact hdead (honly.1 id rfl)
      · exact ih honly.2 hrest hstill hm

theorem RunsAgents.keeps {s : Supervisor} {batch : List Agent} {record : ContainerRecord}
    (hr : RunsAgents s table batch h table') (hrec : record ∈ table.snapshot) :
    record ∈ table'.snapshot := by
  induction hr with
  | nil _ => exact hrec
  | cons hone _ ih =>
      cases hone with
      | running _ => exact ih hrec
      | failed _ _ => exact ih hrec
      | started _ _ => exact ih (FleetTable.mem_snapshot_insert_of_mem hrec)

/-- A record that is stale stays, and a request to stop its agent does not
succeed. -/
theorem ServesRequest.refused {s : Supervisor} {request : SupervisorRequest}
    {answer : SupervisorAnswer} {record : ContainerRecord}
    (hs : ServesRequest s table request h answer table') (hkind : request ≠ .shutdown)
    (honly : StopsOnlyLive live h) (hgiven : record.id ∉ givenIds h)
    (hrec : record ∈ table.snapshot) (hdead : record.id ∉ live) :
    record ∈ table'.snapshot ∧ record.id ∉ liveAfter live h ∧
      ∀ batch, request = .stop batch → ∀ agent ∈ batch, agent.containerName = record.name →
        answer ≠ .done (.ok ()) := by
  have hstill : record.id ∉ liveAfter live h := by
    rw [mem_liveAfter_of_not_given hgiven]
    exact fun hl => hdead hl.1
  have hnot := not_stopped_of_dead honly hgiven hdead
  cases hs with
  | run hr => exact ⟨hr.keeps hrec, hstill, fun _ heq => nomatch heq⟩
  | stop hs =>
      cases hs with
      | aborted hs =>
          refine ⟨hrec, hstill, fun _ _ _ _ _ heq => nomatch heq⟩
      | nothing hb =>
          refine ⟨FleetTable.mem_snapshot_removeIds.2 ⟨hrec, List.not_mem_nil⟩, hstill, ?_⟩
          intro batch heq agent ha
          cases heq
          exact absurd (hb ▸ ha) List.not_mem_nil
      | @completed h ids agents hb hs =>
          have hunstopped : FleetExchange.stopped record.id ∉ h := fun hm =>
            hnot (List.mem_append_left _ hm)
          obtain ⟨_, _, ⟨_, _, heq, _, hids⟩ | ⟨_, _, _, heq, _⟩⟩ := hs.cases_end
          · cases heq
            refine ⟨FleetTable.mem_snapshot_removeIds.2 ⟨hrec, ?_⟩, hstill, ?_⟩
            · intro hm
              rcases (hids _).1 hm with hm | hm
              · exact absurd hm List.not_mem_nil
              · exact hunstopped (mem_stoppedIds.1 hm)
            · intro batch heq agent ha hname _
              cases heq
              have hg := FleetTable.mem_snapshot_iff.1 hrec
              rw [← hname] at hg
              rcases hs.stopped_of_ok rfl ha hg with hm | hm
              · exact absurd hm List.not_mem_nil
              · exact hunstopped hm
          · exact nomatch heq
  | containers => exact ⟨hrec, hstill, fun _ heq => nomatch heq⟩
  | shutdown _ => exact absurd rfl hkind

/-- Calls other than a shutdown leave a stale record where it is, and none that
asks for the stop of its agent succeeds. -/
theorem Serves.refused {s : Supervisor} {calls : List ServedCall} {record : ContainerRecord}
    (hs : s.Serves table calls table') (hkinds : ∀ call ∈ calls, call.request ≠ .shutdown)
    (honly : StopsOnlyLive live (ofCalls calls)) (hgiven : record.id ∉ givenIds (ofCalls calls))
    (hrec : record ∈ table.snapshot) (hdead : record.id ∉ live) :
    record ∈ table'.snapshot ∧ record.id ∉ liveAfter live (ofCalls calls) ∧
      ∀ call ∈ calls, ∀ batch, call.request = .stop batch →
        ∀ agent ∈ batch, agent.containerName = record.name → call.answer ≠ .done (.ok ()) := by
  induction hs with
  | nil => exact ⟨hrec, hdead, fun _ hm => absurd hm List.not_mem_nil⟩
  | @snoc calls table' table'' request h answer _ hy ih =>
      rw [ofCalls_append, ofCalls_singleton] at honly hgiven ⊢
      rw [givenIds_append, List.mem_append, not_or] at hgiven
      obtain ⟨honly₁, honly₂⟩ := throughout_append.1 honly
      obtain ⟨hrec₁, hdead₁, hcalls⟩ :=
        ih (fun call hm => hkinds call (List.mem_append_left _ hm)) honly₁ hgiven.1
      have hkind : request ≠ .shutdown :=
        hkinds ⟨request, h, answer⟩ (List.mem_append_right _ (List.mem_singleton_self _))
      obtain ⟨hrec₂, hdead₂, hcall⟩ :=
        (yields_serve.1 hy).refused hkind honly₂ hgiven.2 hrec₁ hdead₁
      refine ⟨hrec₂, by rw [liveAfter_append]; exact hdead₂, ?_⟩
      intro call hm
      rcases List.mem_append.1 hm with hm | hm
      · exact hcalls call hm
      · obtain rfl := List.mem_singleton.1 hm
        exact hcall

end Supervisor

/-! ## When sending it again helps -/

/-- **What a stop request without faults comes to.**  After any calls, a request
to stop agents that meets no fault either succeeds, and then none of its agents
is recorded any more and none of them had been stopped in vain; or it changes
nothing and is refused because of an agent that an aborted request had stopped
in vain.  A request that has been refused so is refused however often it is
sent again, as long as there is no shutdown. -/
theorem stop_settled_by_vain_stops {s : Supervisor} {given : List String}
    {opening h : FleetHistory} {table table' table'' : FleetTable} {calls : List ServedCall}
    {batch : List Agent} {answer : SupervisorAnswer}
    (hopen : s.Opens given opening table) (hserves : s.Serves table calls table')
    (hnames : s.scanner.name ≠ s.jsonRpc.name) (hkept : NamesKept (opening ++ ofCalls calls))
    (hfresh : (given ++ givenIds (opening ++ ofCalls calls)).Nodup)
    (hsent : (s.serve (.stop batch) table').Yields h (answer, table''))
    (honly : StopsOnlyLive (liveAfter given (opening ++ ofCalls calls)) h)
    (hall : StopsAllLive (liveAfter given (opening ++ ofCalls calls)) h) :
    (answer = .done (.ok ()) ∧
      (∀ agent ∈ batch, table''.get? agent.containerName = none) ∧
      ∀ agent ∈ batch, ∀ record, table'.get? agent.containerName = some record →
        ¬ StoppedInVain calls record.id) ∨
    ∃ agent ∈ batch, ∃ record cause, table'.get? agent.containerName = some record ∧
      StoppedInVain calls record.id ∧
      answer = .done (.error (.stopContainer record.id cause)) ∧ table'' = table' ∧
      ∀ (later : List ServedCall) (last : FleetTable), s.Serves table'' later last →
        (∀ call ∈ later, call.request ≠ .shutdown) →
        StopsOnlyLive (liveAfter given (opening ++ ofCalls calls ++ h)) (ofCalls later) →
        record.id ∉ givenIds (ofCalls later) →
        ∀ call ∈ later, call.request = .stop batch → call.answer ≠ .done (.ok ()) := by
  obtain ⟨_, _, hvain⟩ := hopen.posts hserves hnames hkept hfresh
  cases Supervisor.yields_serve.1 hsent with
  | @stop _ _ r _ hs =>
      rcases hs.live_cases honly hall with ⟨rfl, hout, hlive⟩ |
        ⟨agent, hm, record, cause, hg, hdead, rfl, rfl⟩
      · refine .inl ⟨rfl, hout, ?_⟩
        intro agent ha record hg hv
        exact ((hvain record.id).2 hv).2 (hlive agent ha record hg)
      · obtain ⟨hmem, hname⟩ := FleetTable.mem_snapshot_of_get? hg
        have hstale : Stale (liveAfter given (opening ++ ofCalls calls)) table'' record.id :=
          ⟨FleetTable.mem_ids.2 ⟨record, hmem, rfl⟩, hdead⟩
        refine .inr ⟨agent, hm, record, cause, hg, (hvain record.id).1 hstale, rfl, rfl, ?_⟩
        intro later last hlater hkinds hengine hnew call hc hrequest
        -- the request starts nothing, so the container stays what it is
        have hgiven : record.id ∉ givenIds h := by
          cases hs with
          | aborted hs =>
              rw [hs.cases_end.1]
              exact List.not_mem_nil
        have hdead' : record.id ∉ liveAfter given (opening ++ ofCalls calls ++ h) := by
          rw [liveAfter_append, mem_liveAfter_of_not_given hgiven]
          exact fun hl => hdead hl.1
        obtain ⟨_, _, hrefused⟩ := hlater.refused hkinds hengine hnew hmem hdead'
        exact hrefused call hc batch hrequest agent hm hname.symm

/-! ## The aborted request, sent again

Of the two agents of the aborted request the first has been stopped, and the
fault that kept the second from being stopped is gone. -/

namespace AbortedStop

/-- The engine without the fault: the first container is gone, every other one
can be stopped. -/
def laterEngine : (c : RuntimeCall) → c.Answer
  | .stop id =>
    if id = "id of " ++ first.containerName then
      .error (.commandFailed ("docker stop " ++ id) (some 1) ("No such container: " ++ id))
    else .ok ()
  | c => engine c

def laterRespond : (r : FleetRequest) → Unit → r.Answer × Unit
  | .runtime c, _ => (laterEngine c, ())
  | r, _ => respond r ()

/-- The same request again. -/
def again : ServedCall × FleetTable × Unit :=
  supervisor.serveIn laterRespond (.stop [first, second]) aborted.2.1 ()

/-- A request to stop the agent alone whose stop had failed. -/
def alone : ServedCall × FleetTable × Unit :=
  supervisor.serveIn laterRespond (.stop [second]) aborted.2.1 ()

/-- Has a call been answered with success? -/
def succeeds (call : ServedCall) : Bool :=
  match call.answer with
  | .done (.ok _) => true
  | _ => false

end AbortedStop

/-- The agent whose stop had failed can be stopped alone. -/
theorem stop_settled_alone :
    AbortedStop.alone.2.1.get? AbortedStop.second.containerName = none := by
  have hsent : (AbortedStop.supervisor.serve (.stop [AbortedStop.second])
      AbortedStop.aborted.2.1).Yields AbortedStop.alone.1.history
        (AbortedStop.alone.1.answer, AbortedStop.alone.2.1) :=
    Dialogue.yields_run AbortedStop.laterRespond _ ()
  rcases stop_settled_by_vain_stops AbortedStop.opens AbortedStop.serves_aborted
      (by decide +kernel) (by decide +kernel) (by decide +kernel) hsent (by decide +kernel)
      (by decide +kernel)
    with ⟨_, hout, _⟩ | ⟨_, _, _, _, _, _, heq, _⟩
  · exact hout AbortedStop.second (List.mem_singleton_self _)
  · have hok : AbortedStop.succeeds AbortedStop.alone.1 = true := by decide +kernel
    unfold AbortedStop.succeeds at hok
    rw [heq] at hok
    exact nomatch hok

/-- The request that was aborted is refused when it is sent again without any
fault, and its agents stay recorded. -/
theorem stop_again_refused :
    AbortedStop.supervisor.Opens ["scanner-id", "proxy-id"] AbortedStop.opening
        AbortedStop.firstTable ∧
      AbortedStop.supervisor.Serves AbortedStop.firstTable
        (AbortedStop.twoCalls ++ [AbortedStop.again.1]) AbortedStop.again.2.1 ∧
      AbortedStop.again.1.request = AbortedStop.aborted.1.request ∧
      NamesKept (AbortedStop.opening ++ ofCalls (AbortedStop.twoCalls ++ [AbortedStop.again.1])) ∧
      (["scanner-id", "proxy-id"] ++ givenIds
        (AbortedStop.opening ++ ofCalls (AbortedStop.twoCalls ++ [AbortedStop.again.1]))).Nodup ∧
      StopsOnlyLive ["scanner-id", "proxy-id"]
        (AbortedStop.opening ++ ofCalls (AbortedStop.twoCalls ++ [AbortedStop.again.1])) ∧
      StopsAllLive (liveAfter ["scanner-id", "proxy-id"]
        (AbortedStop.opening ++ ofCalls AbortedStop.twoCalls)) AbortedStop.again.1.history ∧
      AbortedStop.succeeds AbortedStop.again.1 = false ∧
      AbortedStop.again.2.1.contains AbortedStop.first.containerName = true ∧
      AbortedStop.again.2.1.contains AbortedStop.second.containerName = true :=
  ⟨AbortedStop.opens, AbortedStop.serves_aborted.serveIn AbortedStop.laterRespond _ (), rfl,
    by decide +kernel⟩

end NodeKeeper
