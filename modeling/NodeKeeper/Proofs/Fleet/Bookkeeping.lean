/-
# The books of the fleet

The table is what the supervisor believes to run; which containers are live is
decided by what has passed between it and the engine.  The two part in two ways
only, and both are the work of calls that went wrong:

    adrift    live and not recorded      a container whose stop has failed when
                                         the supervisor wanted to be rid of it
    stale     recorded and not live      a container stopped by a request to
                                         stop agents that was aborted afterwards

**The invariant.**  `Books` says that ids are recorded once and that the ids in
use have been given before, so that a new id is in neither set.  `Posts` says
what a stretch of history does to the books, with the containers it sets adrift
and the records it makes stale or takes out.  There is one lemma for each
operation (`RunsAgents.posts`, `StopsBatch.posts`, `StopsEach.posts`), one for
a call (`ServesRequest.posts`), and an induction over the calls
(`Serves.posts`).
-/
import NodeKeeper.Proofs.Fleet.Calls
import NodeKeeper.Proofs.Fleet.Tables

namespace NodeKeeper

open FleetExchange FleetHistory

/-! ## Books -/

variable {table table' table'' : FleetTable} {live used : List String} {h h' : FleetHistory}

/-- The container runs and is not recorded. -/
def Adrift (live : List String) (table : FleetTable) (id : String) : Prop :=
  id ∈ live ∧ id ∉ table.ids

/-- The container is recorded and does not run. -/
def Stale (live : List String) (table : FleetTable) (id : String) : Prop :=
  id ∈ table.ids ∧ id ∉ live

theorem NamesKept.left (hk : NamesKept (h ++ h')) : NamesKept h :=
  fun e he => hk e (List.mem_append_left _ he)

theorem NamesKept.right (hk : NamesKept (h ++ h')) : NamesKept h' :=
  fun e he => hk e (List.mem_append_right _ he)

/-- An id is recorded once, and what is recorded or live has been given. -/
structure Books (table : FleetTable) (live used : List String) : Prop where
  distinct : ∀ r ∈ table.snapshot, ∀ r' ∈ table.snapshot, r.id = r'.id → r = r'
  recorded_used : ∀ id ∈ table.ids, id ∈ used
  live_used : ∀ id ∈ live, id ∈ used

/-- What a history does to the books: it sets the containers in `lost` adrift,
takes out those in `out`, and makes the records of those in `vain` stale. -/
structure Posts (live used : List String) (table : FleetTable) (h : FleetHistory)
    (table' : FleetTable) (lost out vain : String → Prop) : Prop where
  books : Books table' (liveAfter live h) (used ++ givenIds h)
  adrift : ∀ id, Adrift (liveAfter live h) table' id ↔ Adrift live table id ∨ lost id
  stale : ∀ id, Stale (liveAfter live h) table' id ↔ (Stale live table id ∧ ¬ out id) ∨ vain id

theorem Posts.congr {lost out vain lost' out' vain' : String → Prop}
    (hp : Posts live used table h table' lost out vain) (hlost : ∀ id, lost id ↔ lost' id)
    (hout : ∀ id, out id ↔ out' id) (hvain : ∀ id, vain id ↔ vain' id) :
    Posts live used table h table' lost' out' vain' where
  books := hp.books
  adrift := fun id => by rw [hp.adrift, hlost]
  stale := fun id => by rw [hp.stale, hout, hvain]

theorem Posts.quiet (hb : Books table live used) (hlive : liveAfter live h = live)
    (hgiven : givenIds h = []) (hkept : unstoppedIds h = []) :
    Posts live used table h table (· ∈ unstoppedIds h) (fun _ => False) (fun _ => False) where
  books := by rw [hlive, hgiven, List.append_nil]; exact hb
  adrift := fun id => by simp [hlive, hkept]
  stale := fun id => by simp [hlive]

/-! ## Requests to run agents -/

theorem Posts.recorded {record : ContainerRecord} (hb : Books table live used)
    (hfree : table.get? record.name = none) (hnew : record.id ∉ used)
    (hlive : liveAfter live h = record.id :: live) (hgiven : givenIds h = [record.id])
    (hkept : unstoppedIds h = []) :
    Posts live used table h (table.insert record).2
      (· ∈ unstoppedIds h) (fun _ => False) (fun _ => False) := by
  have hmem : ∀ r, r ∈ (table.insert record).2.snapshot ↔ r = record ∨ r ∈ table.snapshot :=
    fun r => FleetTable.mem_snapshot_insert hfree
  have hids : ∀ id, id ∈ (table.insert record).2.ids ↔ id = record.id ∨ id ∈ table.ids := by
    intro id
    simp only [FleetTable.mem_ids, hmem, or_and_right, exists_or, exists_eq_left]
    exact or_congr_left eq_comm
  have hunrecorded : record.id ∉ table.ids := fun hm => hnew (hb.recorded_used _ hm)
  have hdead : record.id ∉ live := fun hm => hnew (hb.live_used _ hm)
  constructor
  · constructor
    · intro r hr r' hr' heq
      rcases (hmem r).1 hr with rfl | hold
      · rcases (hmem r').1 hr' with rfl | hold'
        · rfl
        · exact absurd (FleetTable.mem_ids.2 ⟨r', hold', heq.symm⟩) hunrecorded
      · rcases (hmem r').1 hr' with rfl | hold'
        · exact absurd (FleetTable.mem_ids.2 ⟨r, hold, heq⟩) hunrecorded
        · exact hb.distinct r hold r' hold' heq
    · intro id hid
      rw [hgiven]
      rcases (hids id).1 hid with rfl | hold
      · exact List.mem_append_right _ (List.mem_singleton_self _)
      · exact List.mem_append_left _ (hb.recorded_used id hold)
    · intro id hid
      rw [hlive] at hid
      rw [hgiven]
      rcases List.mem_cons.1 hid with rfl | hold
      · exact List.mem_append_right _ (List.mem_singleton_self _)
      · exact List.mem_append_left _ (hb.live_used id hold)
  · intro id
    simp only [Adrift, hlive, hids, hkept, List.mem_cons, List.not_mem_nil, or_false]
    by_cases hid : id = record.id
    · subst hid; simp [hdead]
    · simp [hid]
  · intro id
    simp only [Stale, hlive, hids, List.mem_cons, or_false, not_false_eq_true, and_true]
    by_cases hid : id = record.id
    · subst hid; simp [hunrecorded]
    · simp [hid]

/-- A new container is not recorded, and was to be stopped again. -/
theorem Posts.undone {id : String} (answer : (RuntimeCall.stop id).Answer)
    (hb : Books table live used) (hnew : id ∉ used)
    (hlive : liveAfter live h = (answered (.stop id) answer).liveAfter (id :: live))
    (hgiven : givenIds h = [id])
    (hkept : unstoppedIds h = (answered (.stop id) answer).unstoppedId?.toList) :
    Posts live used table h table (· ∈ unstoppedIds h) (fun _ => False) (fun _ => False) := by
  have hunrecorded : id ∉ table.ids := fun hm => hnew (hb.recorded_used _ hm)
  have hdead : id ∉ live := fun hm => hnew (hb.live_used _ hm)
  have hmem : ∀ id', id' ∈ liveAfter live h ↔ id' ∈ live ∨ id' ∈ unstoppedIds h := by
    intro id'
    rw [hlive, hkept]
    match answer with
    | .ok () =>
        simp only [liveAfter_stopped, List.mem_filter, List.mem_cons, unstoppedId?,
          Option.toList_none, List.not_mem_nil, or_false, decide_eq_true_eq]
        constructor
        · rintro ⟨rfl | hl, hne⟩
          · exact absurd rfl hne
          · exact hl
        · exact fun hl => ⟨.inr hl, fun heq => hdead (heq ▸ hl)⟩
    | .error cause =>
        simp only [liveAfter_stopFailed, unstoppedId?, Option.toList_some, List.mem_cons,
          List.not_mem_nil, or_false]
        exact or_comm
  have hkept_new : ∀ id' ∈ unstoppedIds h, id' = id := by
    intro id' hm
    rw [hkept] at hm
    match answer with
    | .ok () => exact absurd hm List.not_mem_nil
    | .error cause => exact List.mem_singleton.1 hm
  constructor
  · refine ⟨hb.distinct, fun id' hm => List.mem_append_left _ (hb.recorded_used id' hm), ?_⟩
    intro id' hm
    rw [hgiven]
    rcases (hmem id').1 hm with hl | hk
    · exact List.mem_append_left _ (hb.live_used id' hl)
    · exact List.mem_append_right _ (List.mem_singleton.2 (hkept_new id' hk))
  · intro id'
    unfold Adrift
    rw [hmem]
    constructor
    · rintro ⟨hl | hk, hn⟩
      · exact .inl ⟨hl, hn⟩
      · exact .inr hk
    · rintro (⟨hl, hn⟩ | hk)
      · exact ⟨.inl hl, hn⟩
      · exact ⟨.inr hk, fun hm => hunrecorded (hkept_new id' hk ▸ hm)⟩
  · intro id'
    simp only [Stale, hmem, not_or, or_false, not_false_eq_true, and_true]
    constructor
    · exact fun ⟨hm, hl, _⟩ => ⟨hm, hl⟩
    · exact fun ⟨hm, hl⟩ => ⟨hm, hl, fun hk => hunrecorded (hkept_new id' hk ▸ hm)⟩

namespace Supervisor

variable {s : Supervisor}

/-- What is seen of an undone start: its last exchange decides. -/
theorem cases_undone (live : List String) {before links : FleetHistory} {spec : ContainerSpec} {handle : Handle}
    {container network : String} {cause : RuntimeError} (answer : (RuntimeCall.stop handle.id).Answer)
    (hq : FleetHistory.IsQuiet before)
    (hlinks : ∀ e ∈ links, ∃ container how, e = attached container network how)
    (hh : h = before ++ started spec handle ::
      (links ++ attachFailed container network cause :: [answered (.stop handle.id) answer])) :
    givenIds h = [handle.id] ∧
      liveAfter live h = (answered (.stop handle.id) answer).liveAfter (handle.id :: live) ∧
      unstoppedIds h = (answered (.stop handle.id) answer).unstoppedId?.toList := by
  subst hh
  have hql := isQuiet_links hlinks
  have hfail : (attachFailed container network cause).IsQuiet := trivial
  refine ⟨?_, ?_, ?_⟩
  · rw [hq.givenIds_start, givenIds_append, hql.givenIds]; rfl
  · rw [hq.liveAfter_start, liveAfter_append, hql.liveAfter, liveAfter_cons, hfail.liveAfter]; rfl
  · rw [hq.unstoppedIds_start, unstoppedIds_append, hql.unstoppedIds]
    match answer with
    | .ok () => rfl
    | .error _ => rfl

theorem RunsAgent.posts {agent : Agent} (hr : RunsAgent s table agent h table')
    (hb : Books table live used) (hkept : NamesKept h) (hfresh : (used ++ givenIds h).Nodup) :
    Posts live used table h table' (· ∈ unstoppedIds h) (fun _ => False) (fun _ => False) := by
  have hnew : ∀ id, givenIds h = [id] → id ∉ used := by
    intro id hid hm
    rw [hid] at hfresh
    exact (List.nodup_append.1 hfresh).2.2 id hm id (List.mem_singleton_self _) rfl
  have hpub : FleetHistory.IsQuiet [published Subject.agentsRunning [agent]] :=
    isQuiet_cons.2 ⟨trivial, isQuiet_nil⟩
  cases hr with
  | running _ => exact .quiet hb (hpub.liveAfter live) hpub.givenIds hpub.unstoppedIds
  | failed _ hs =>
      rcases hs.error_cases with ⟨before, hq, rfl | ⟨network, cause, rfl⟩⟩ |
        ⟨before, network, handle, links, container, cause, answer, hq, hlinks, hh⟩
      · exact .quiet hb (hq.liveAfter live) hq.givenIds hq.unstoppedIds
      · refine .quiet hb ?_ ?_ ?_
        · rw [liveAfter_append, hq.liveAfter]; exact liveAfter_startFailed _ _ _
        · rw [givenIds_append, hq.givenIds]; rfl
        · rw [unstoppedIds_append, hq.unstoppedIds]; rfl
      · obtain ⟨hgiven, hlive, hlost⟩ := cases_undone live answer hq hlinks hh
        exact .undone answer hb (hnew _ hgiven) hlive hgiven hlost
  | @started h record hfree hs =>
      have hname : record.name = agent.containerName := hs.name_of_kept hkept.left
      obtain ⟨before, network, after, hq, hqa, rfl⟩ := hs.ok_cases
      rw [List.append_assoc, List.cons_append] at hnew ⊢
      replace hqa := hqa.append hpub
      have hgiven := hq.givenIds_start (s.agentSpec agent network) record.handle
        (after ++ [published Subject.agentsRunning [agent]])
      rw [hqa.givenIds] at hgiven
      refine .recorded hb ?_ (hnew _ hgiven) ?_ hgiven ?_
      · rw [hname]; exact FleetTable.contains_eq_false_iff.1 hfree
      · rw [hq.liveAfter_start, hqa.liveAfter]; rfl
      · rw [hq.unstoppedIds_start, hqa.unstoppedIds]

/-- An agent of the batch after the other: each set of books is the next one's
first. -/
theorem RunsAgents.posts {batch : List Agent} (hr : RunsAgents s table batch h table')
    (hb : Books table live used) (hkept : NamesKept h) (hfresh : (used ++ givenIds h).Nodup) :
    Posts live used table h table' (· ∈ unstoppedIds h) (fun _ => False) (fun _ => False) := by
  induction hr generalizing live used with
  | nil => exact .quiet hb rfl rfl rfl
  | cons hone _ ih =>
      rw [givenIds_append, ← List.append_assoc] at hfresh
      have hp := hone.posts hb hkept.left (List.nodup_append.1 hfresh).1
      have hq := ih hp.books hkept.right hfresh
      refine ⟨?_, fun id => ?_, fun id => ?_⟩
      · rw [liveAfter_append, givenIds_append, ← List.append_assoc]
        exact hq.books
      · rw [liveAfter_append, hq.adrift, hp.adrift, unstoppedIds_append, List.mem_append, or_assoc]
      · rw [liveAfter_append, hq.stale, hp.stale]
        simp

/-! ## Requests to stop agents -/

/-- Only recorded containers are stopped, and none is started.  The batch is
gone through to its end, or up to the first failure. -/
theorem StopsAgents.cases_end {batch agents : List Agent} {ids : List String}
    {r : Except FleetError (List String × List Agent)}
    (hs : StopsAgents table batch ids agents h r) :
    givenIds h = [] ∧ (∀ id ∈ stoppedIds h, id ∈ table.ids) ∧
      ((∃ ids' agents', r = .ok (ids', agents') ∧ unstoppedIds h = [] ∧
          ∀ id, id ∈ ids' ↔ id ∈ ids ∨ id ∈ stoppedIds h) ∨
        ∃ before id cause, r = .error (.stopContainer id cause) ∧
          h = before ++ [stopFailed id cause]) := by
  induction hs with
  | nil ids agents => exact ⟨rfl, by simp [stoppedIds], .inl ⟨ids, agents, rfl, rfl, by simp [stoppedIds]⟩⟩
  | absent _ _ ih => exact ih
  | repeated _ _ _ ih => exact ih
  | failed cause _ _ => exact ⟨rfl, by simp [stoppedIds, stoppedId?], .inr ⟨[], _, cause, rfl, rfl⟩⟩
  | @stopped agent rest agents ids record h r hg _ _ ih =>
      obtain ⟨hgiven, hrecorded, hend⟩ := ih
      have hmem := FleetTable.mem_snapshot_of_get? hg
      refine ⟨hgiven, List.forall_mem_cons.2 ⟨FleetTable.mem_ids.2 ⟨record, hmem.1, rfl⟩, hrecorded⟩, ?_⟩
      rcases hend with ⟨ids', agents', rfl, hkept, hids⟩ | ⟨before, id, cause, rfl, rfl⟩
      · refine .inl ⟨ids', agents', rfl, hkept, fun id => ?_⟩
        show id ∈ ids' ↔ id ∈ ids ∨ id ∈ record.id :: stoppedIds h
        rw [hids, List.mem_cons, List.mem_cons, or_comm (a := id = record.id), or_assoc]
      · exact .inr ⟨FleetExchange.stopped record.id :: before, id, cause, rfl, rfl⟩

theorem mem_liveAfter_of_no_start (hgiven : givenIds h = []) {id : String} :
    id ∈ liveAfter live h ↔ id ∈ live ∧ id ∉ stoppedIds h :=
  mem_liveAfter_of_not_given (by rw [hgiven]; exact List.not_mem_nil)

theorem posts_removeIds {ids : List String} (hb : Books table live used) (hgiven : givenIds h = [])
    (hrecorded : ∀ id ∈ stoppedIds h, id ∈ table.ids) (hids : ∀ id, id ∈ ids ↔ id ∈ stoppedIds h) :
    Posts live used table h (table.removeIds ids).2 (fun _ => False) (· ∈ stoppedIds h)
      (fun _ => False) := by
  have hmem : ∀ id, id ∈ (table.removeIds ids).2.ids ↔ id ∈ table.ids ∧ id ∉ stoppedIds h := by
    intro id
    simp only [FleetTable.mem_ids, FleetTable.mem_snapshot_removeIds, ← hids]
    constructor
    · rintro ⟨record, ⟨hr, hn⟩, rfl⟩; exact ⟨⟨record, hr, rfl⟩, hn⟩
    · rintro ⟨⟨record, hr, rfl⟩, hn⟩; exact ⟨record, ⟨hr, hn⟩, rfl⟩
  refine ⟨⟨?_, ?_, ?_⟩, fun id => ?_, fun id => ?_⟩
  · intro record hr record' hr'
    exact hb.distinct record (FleetTable.mem_snapshot_removeIds.1 hr).1 record'
      (FleetTable.mem_snapshot_removeIds.1 hr').1
  · exact fun id hm => List.mem_append_left _ (hb.recorded_used id ((hmem id).1 hm).1)
  · exact fun id hm =>
      List.mem_append_left _ (hb.live_used id ((mem_liveAfter_of_no_start hgiven).1 hm).1)
  · have hrec := hrecorded id
    simp only [Adrift, mem_liveAfter_of_no_start hgiven, hmem]
    grind
  · simp only [Stale, mem_liveAfter_of_no_start hgiven, hmem]
    grind

theorem posts_inVain (hb : Books table live used) (hgiven : givenIds h = [])
    (hrecorded : ∀ id ∈ stoppedIds h, id ∈ table.ids) :
    Posts live used table h table (fun _ => False) (fun _ => False) (· ∈ stoppedIds h) := by
  refine ⟨⟨hb.distinct, ?_, ?_⟩, fun id => ?_, fun id => ?_⟩
  · exact fun id hm => List.mem_append_left _ (hb.recorded_used id hm)
  · exact fun id hm =>
      List.mem_append_left _ (hb.live_used id ((mem_liveAfter_of_no_start hgiven).1 hm).1)
  · have hrec := hrecorded id
    simp only [Adrift, mem_liveAfter_of_no_start hgiven]
    grind
  · have hrec := hrecorded id
    simp only [Stale, mem_liveAfter_of_no_start hgiven]
    grind

/-- A request that completes takes out what it has stopped; one that is aborted
leaves it recorded. -/
theorem StopsBatch.posts {batch : List Agent} {r : Except FleetError Unit}
    (hs : StopsBatch batch table h r table') (hb : Books table live used) :
    Posts live used table h table' (fun _ => False) (fun id => r = .ok () ∧ id ∈ stoppedIds h)
      (fun id => r ≠ .ok () ∧ id ∈ stoppedIds h) := by
  cases hs with
  | aborted hs =>
      obtain ⟨hgiven, hrecorded, _⟩ := hs.cases_end
      exact (posts_inVain hb hgiven hrecorded).congr (fun _ => Iff.rfl) (by simp) (by simp)
  | nothing hbatch =>
      exact (posts_removeIds hb rfl (by simp [stoppedIds, stoppedId?])
        (by simp [stoppedIds, stoppedId?])).congr (fun _ => Iff.rfl) (by simp) (by simp)
  | @completed h ids agents hbatch hs =>
      obtain ⟨hgiven, hrecorded, ⟨ids', agents', heq, hkept, hids⟩ | ⟨_, _, _, heq, _⟩⟩ := hs.cases_end
      · cases heq
        have htail : FleetHistory.IsQuiet [counted (table.removeIds ids).2.size,
            published Subject.agentsStopped agents.reverse] :=
          isQuiet_cons.2 ⟨trivial, isQuiet_cons.2 ⟨trivial, isQuiet_nil⟩⟩
        have hstopped : stoppedIds (h ++ [counted (table.removeIds ids).2.size,
            published Subject.agentsStopped agents.reverse]) = stoppedIds h := by
          rw [stoppedIds_append, htail.stoppedIds, List.append_nil]
        refine (posts_removeIds hb ?_ ?_ ?_).congr (fun _ => Iff.rfl) (by simp) (by simp)
        · rw [givenIds_append, hgiven, htail.givenIds]; rfl
        · rw [hstopped]; exact hrecorded
        · intro id; rw [hstopped, hids]; simp
      · cases heq

theorem StopsBatch.unstoppedIds_of_ok {batch : List Agent}
    (hs : StopsBatch batch table h (.ok ()) table') : unstoppedIds h = [] := by
  cases hs with
  | nothing _ => rfl
  | completed _ hs =>
      obtain ⟨_, _, ⟨_, _, _, hkept, _⟩ | ⟨_, _, _, heq, _⟩⟩ := hs.cases_end
      · rw [unstoppedIds_append, hkept]; rfl
      · exact nomatch heq

/-! ## Shutdown -/

theorem StopsEach.askedIds {records : List ContainerRecord} (hs : StopsEach records h) :
    askedIds h = records.map (·.id) ∧ givenIds h = [] := by
  induction hs with
  | nil => exact ⟨rfl, rfl⟩
  | cons record answer _ ih =>
      refine ⟨?_, ih.2⟩
      show record.id :: FleetHistory.askedIds _ = _
      rw [ih.1, List.map_cons]

/-- What was recorded is stopped or set adrift, and nothing is recorded any
more. -/
theorem StopsEach.posts (hs : StopsEach table.shutdownOrder h) (hb : Books table live used) :
    Posts live used table (counted 0 :: h) .empty (StopFailedAlive live (counted 0 :: h))
      (fun _ => True) (fun _ => False) := by
  obtain ⟨hasked, hgiven⟩ := hs.askedIds
  have hquiet : (counted 0).IsQuiet := trivial
  have hlive : ∀ id, id ∈ liveAfter live (counted 0 :: h) ↔ id ∈ live ∧ id ∉ stoppedIds h := by
    intro id
    rw [liveAfter_cons, hquiet.liveAfter]
    exact mem_liveAfter_of_no_start hgiven
  have hmem : ∀ id, id ∈ FleetHistory.askedIds h ↔ id ∈ table.ids := by
    intro id
    rw [hasked]
    exact (table.shutdownOrder_perm.map (·.id)).mem_iff
  have honce : (FleetHistory.askedIds h).Nodup := by
    rw [hasked, (table.shutdownOrder_perm.map (·.id)).nodup_iff]
    exact FleetTable.ids_nodup hb.distinct
  have hnone : ∀ id, id ∉ FleetTable.empty.ids := fun _ hm => nomatch hm
  have hempty : ∀ r, r ∉ FleetTable.empty.snapshot := fun _ hm => nomatch hm
  refine ⟨⟨fun r hm => absurd hm (hempty r), fun id hm => absurd hm (hnone id), ?_⟩,
    fun id => ?_, fun id => ?_⟩
  · exact fun id hm => List.mem_append_left _ (hb.live_used id ((hlive id).1 hm).1)
  · have hadrift : Adrift (liveAfter live (counted 0 :: h)) .empty id ↔
        id ∈ live ∧ id ∉ stoppedIds h := by
      unfold Adrift
      rw [hlive]
      exact and_iff_left (hnone id)
    rw [hadrift]
    constructor
    · rintro ⟨hl, hn⟩
      by_cases hrec : id ∈ table.ids
      · -- it is asked to stop, and the stop can only have failed
        have hkept : id ∈ unstoppedIds h :=
          (mem_askedIds_iff.1 ((hmem id).2 hrec)).resolve_left hn
        obtain ⟨cause, hcause⟩ := mem_unstoppedIds.1 hkept
        obtain ⟨before, after, rfl⟩ := List.append_of_mem hcause
        refine .inr ⟨counted 0 :: before, cause, after, rfl, ?_⟩
        rw [givenIds_append] at hgiven
        rw [stoppedIds_append, List.mem_append, not_or] at hn
        rw [liveAfter_cons, hquiet.liveAfter,
          mem_liveAfter_of_no_start (List.append_eq_nil_iff.1 hgiven).1]
        exact ⟨hl, hn.1⟩
      · exact .inl ⟨hl, hrec⟩
    · rintro (⟨hl, hrec⟩ | ⟨before, cause, after, heq, hl⟩)
      · exact ⟨hl, fun hm => hrec ((hmem id).1 (mem_askedIds_iff.2 (.inl hm)))⟩
      · -- the failed stop is the only one asked for
        cases before with
        | nil => exact nomatch (List.cons.inj heq).1
        | cons e before =>
            obtain ⟨rfl, htail⟩ := List.cons.inj heq
            replace htail : h = before ++ stopFailed id cause :: after := htail
            subst htail
            rw [givenIds_append] at hgiven
            rw [liveAfter_cons, hquiet.liveAfter,
              mem_liveAfter_of_no_start (List.append_eq_nil_iff.1 hgiven).1] at hl
            rw [askedIds_append] at honce
            have hnotafter : id ∉ FleetHistory.askedIds after :=
              (List.nodup_cons.1 (List.nodup_append.1 honce).2.1).1
            refine ⟨hl.1, fun hm => ?_⟩
            rw [stoppedIds_append, List.mem_append] at hm
            rcases hm with hm | hm
            · exact hl.2 hm
            · exact hnotafter (mem_askedIds_iff.2 (.inl hm))
  · simp [Stale, hnone]

/-! ## Requests of any kind -/

end Supervisor

theorem UndoFailed.append_right {id : String} (hu : UndoFailed h id) (h' : FleetHistory) :
    UndoFailed (h ++ h') id := by
  obtain ⟨before, spec, handle, links, container, network, cause, cause', after, rfl, hlinks, hid⟩ := hu
  refine ⟨before, spec, handle, links, container, network, cause, cause', after ++ h', ?_, hlinks, hid⟩
  simp only [List.append_assoc, List.cons_append]

theorem UndoFailed.append_left {id : String} (hu : UndoFailed h id) (h' : FleetHistory) :
    UndoFailed (h' ++ h) id := by
  obtain ⟨before, spec, handle, links, container, network, cause, cause', after, rfl, hlinks, hid⟩ := hu
  exact ⟨h' ++ before, spec, handle, links, container, network, cause, cause', after,
    (List.append_assoc ..).symm, hlinks, hid⟩

theorem UndoFailed.unstopped {id : String} (hu : UndoFailed h id) : id ∈ unstoppedIds h := by
  obtain ⟨before, spec, handle, links, container, network, cause, cause', after, rfl, hlinks, rfl⟩ := hu
  exact mem_unstoppedIds.2 ⟨cause', by simp⟩

namespace Supervisor

/-- While agents are started, a stop that fails is one that was to undo a
start. -/
theorem RunsAgents.undoFailed {s : Supervisor} {batch : List Agent} {id : String}
    (hr : RunsAgents s table batch h table') (hm : id ∈ unstoppedIds h) : UndoFailed h id := by
  induction hr with
  | nil => exact absurd hm List.not_mem_nil
  | @cons table table' table'' agent rest h h' hone hrest ih =>
      rw [unstoppedIds_append, List.mem_append] at hm
      rcases hm with hm | hm
      · refine UndoFailed.append_right ?_ h'
        cases hone with
        | running _ => exact absurd hm List.not_mem_nil
        | failed _ hs =>
            rcases hs.error_cases with ⟨before, hq, rfl | ⟨network, cause, rfl⟩⟩ |
              ⟨before, network, handle, links, container, cause, answer, hq, hlinks, hh⟩
            · rw [hq.unstoppedIds] at hm; exact absurd hm List.not_mem_nil
            · rw [unstoppedIds_append, hq.unstoppedIds] at hm; exact absurd hm List.not_mem_nil
            · rw [(cases_undone [] answer hq hlinks hh).2.2] at hm
              match answer with
              | .ok () => exact absurd hm List.not_mem_nil
              | .error cause' =>
                  refine ⟨before, _, handle, links, container, network, cause, cause', [], hh, ?_,
                    (List.mem_singleton.1 hm).symm⟩
                  intro e he
                  exact hlinks e he
        | started _ hs =>
            obtain ⟨before, network, after, hq, hqa, rfl⟩ := hs.ok_cases
            rw [unstoppedIds_append, hq.unstoppedIds_start, hqa.unstoppedIds] at hm
            exact absurd hm List.not_mem_nil
      · exact (ih hm).append_left h

/-! ## Calls -/

theorem StopsBatch.stopsInVain_iff {batch : List Agent} {r : Except FleetError Unit} {id : String}
    (hs : StopsBatch batch table h r table') :
    (r ≠ .ok () ∧ id ∈ stoppedIds h) ↔
      ServedCall.StopsInVain ⟨.stop batch, h, .done r⟩ id := by
  constructor
  · rintro ⟨hr, hm⟩
    cases hs with
    | aborted hs =>
        obtain ⟨_, _, ⟨_, _, heq, _⟩ | ⟨before, id', cause, _, rfl⟩⟩ := hs.cases_end
        · exact nomatch heq
        · rw [stoppedIds_append] at hm
          obtain ⟨front, between, rfl⟩ := List.append_of_mem
            (mem_stoppedIds.1 ((List.mem_append.1 hm).resolve_right List.not_mem_nil))
          exact ⟨front, between, id', cause, [], by simp⟩
    | nothing _ => exact absurd rfl hr
    | completed _ _ => exact absurd rfl hr
  · rintro ⟨before, between, id', cause, after, heq⟩
    replace heq : h = before ++ FleetExchange.stopped id :: (between ++ stopFailed id' cause :: after) :=
      heq
    refine ⟨?_, mem_stoppedIds.2 (by rw [heq]; simp)⟩
    rintro rfl
    have hm : id' ∈ unstoppedIds h := mem_unstoppedIds.2 ⟨cause, by rw [heq]; simp⟩
    rw [hs.unstoppedIds_of_ok] at hm
    exact absurd hm List.not_mem_nil

theorem ServesRequest.posts {s : Supervisor} {request : SupervisorRequest} {answer : SupervisorAnswer}
    (hs : ServesRequest s table request h answer table') (hb : Books table live used)
    (hkept : NamesKept h) (hfresh : (used ++ givenIds h).Nodup) :
    Posts live used table h table' (ServedCall.Abandons live ⟨request, h, answer⟩)
      (ServedCall.TakesOut ⟨request, h, answer⟩) (ServedCall.StopsInVain ⟨request, h, answer⟩) := by
  cases hs with
  | @run batch h _ hr =>
      have hcount : FleetHistory.IsQuiet [counted table'.size] := isQuiet_cons.2 ⟨trivial, isQuiet_nil⟩
      rw [givenIds_append, hcount.givenIds, List.append_nil] at hfresh
      have hp := hr.posts hb hkept.left hfresh
      have hlost : ∀ id, id ∈ unstoppedIds h ↔ UndoFailed (h ++ [counted table'.size]) id := by
        intro id
        constructor
        · exact fun hm => (hr.undoFailed hm).append_right _
        · intro hu
          have hm := hu.unstopped
          rw [unstoppedIds_append, hcount.unstoppedIds, List.append_nil] at hm
          exact hm
      refine ⟨?_, fun id => ?_, fun id => ?_⟩
      · rw [liveAfter_append, hcount.liveAfter, givenIds_append, hcount.givenIds, List.append_nil]
        exact hp.books
      · rw [liveAfter_append, hcount.liveAfter, hp.adrift, hlost]; rfl
      · rw [liveAfter_append, hcount.liveAfter]; exact hp.stale id
  | @stop batch h r _ hs =>
      refine (hs.posts hb).congr (fun _ => Iff.rfl) (fun id => ?_) (fun id => hs.stopsInVain_iff)
      rw [mem_stoppedIds]
      exact and_congr_left' (by simp)
  | containers =>
      refine (Posts.quiet hb rfl rfl rfl).congr (fun id => ?_) (fun _ => Iff.rfl) (fun _ => Iff.rfl)
      exact ⟨fun hm => absurd hm List.not_mem_nil, False.elim⟩
  | shutdown hs => exact hs.posts hb

/-! ## From the first table on -/

theorem mem_initialTable {s : Supervisor} (hnames : s.scanner.name ≠ s.jsonRpc.name)
    (scannerTime proxyTime : Timestamp) {record : ContainerRecord} :
    record ∈ (s.initialTable scannerTime proxyTime).snapshot ↔
      record = ⟨s.jsonRpc, .jsonRpcProxy, none, proxyTime⟩ ∨
        record = ⟨s.scanner, .scanner, none, scannerTime⟩ := by
  have hempty : ∀ name, FleetTable.empty.get? name = none := fun _ => rfl
  have hfree : (FleetTable.empty.insert ⟨s.scanner, .scanner, none, scannerTime⟩).2.get?
      s.jsonRpc.name = none := by
    show (FleetTable.empty.put ⟨s.scanner, .scanner, none, scannerTime⟩).get? s.jsonRpc.name = none
    rw [FleetTable.get?_put, hempty]
    exact if_neg (Ne.symm hnames)
  refine (FleetTable.mem_snapshot_insert hfree).trans (or_congr_right ?_)
  refine (FleetTable.mem_snapshot_insert (hempty _)).trans ?_
  simp [FleetTable.snapshot_empty]

theorem cases_initialTable {s : Supervisor} {scannerTime proxyTime : Timestamp}
    {record : ContainerRecord} (hr : record ∈ (s.initialTable scannerTime proxyTime).snapshot) :
    record = ⟨s.jsonRpc, .jsonRpcProxy, none, proxyTime⟩ ∨
      record = ⟨s.scanner, .scanner, none, scannerTime⟩ := by
  rcases FleetTable.mem_snapshot_of_mem_insert hr with rfl | hr
  · exact .inl rfl
  · rcases FleetTable.mem_snapshot_of_mem_insert hr with rfl | hr
    · exact .inr rfl
    · exact absurd hr List.not_mem_nil

theorem Opens.shared {s : Supervisor} {given : List String} (ho : s.Opens given h table) :
    ∃ scannerTime proxyTime, table = s.initialTable scannerTime proxyTime ∧
      given ++ givenIds h = [s.scanner.id, s.jsonRpc.id] ∧
      ∀ id, id ∈ liveAfter given h ↔ id = s.jsonRpc.id ∨ id = s.scanner.id := by
  have hend : ∀ (scannerTime proxyTime : Timestamp) (n : Nat),
      FleetHistory.IsQuiet [⟨.now, scannerTime⟩, ⟨.now, proxyTime⟩, counted n] := fun _ _ _ =>
    isQuiet_cons.2 ⟨trivial, isQuiet_cons.2 ⟨trivial, isQuiet_cons.2 ⟨trivial, isQuiet_nil⟩⟩⟩
  cases ho with
  | adopted ha =>
      obtain ⟨scannerTime, proxyTime, heq, rfl⟩ := yields_adopt.1 ha
      refine ⟨scannerTime, proxyTime, (Prod.mk.inj heq).2, ?_, fun id => ?_⟩
      · rw [(hend _ _ _).givenIds, List.append_nil]
      · rw [(hend _ _ _).liveAfter]
        simp [or_comm]
  | @launched infra _ _ hl =>
      cases yields_launch.1 hl with
      | @launched h h' h'' network scanner jsonRpc _ hscanner hproxy hadopt =>
          obtain ⟨before, hq, rfl⟩ := hscanner.ok_cases
          obtain ⟨before', hq', rfl⟩ := hproxy.ok_cases
          obtain ⟨scannerTime, proxyTime, heq, rfl⟩ := yields_adopt.1 hadopt
          obtain ⟨hs, htable⟩ := Prod.mk.inj heq
          have hscan : s.scanner = scanner := by rw [hs]
          have hproxy : s.jsonRpc = jsonRpc := by rw [hs]
          have hqn : FleetHistory.IsQuiet
              (answered (.createNetwork infra.networkName) (.ok network) :: before) :=
            isQuiet_cons.2 ⟨trivial, hq⟩
          rw [hscan, hproxy, List.append_assoc, List.append_assoc, ← List.cons_append]
          refine ⟨scannerTime, proxyTime, by rw [htable, ← hs], ?_, fun id => ?_⟩
          · rw [List.nil_append, List.singleton_append, hqn.givenIds_start, List.singleton_append,
              hq'.givenIds_start, (hend _ _ _).givenIds]
          · rw [List.singleton_append, hqn.liveAfter_start, List.singleton_append,
              hq'.liveAfter_start, (hend _ _ _).liveAfter]
            simp

theorem Opens.booked {s : Supervisor} {given : List String} (ho : s.Opens given h table)
    (hfresh : (given ++ givenIds h).Nodup) :
    Books table (liveAfter given h) (given ++ givenIds h) := by
  obtain ⟨_, _, rfl, hused, hlive⟩ := ho.shared
  rw [hused] at hfresh ⊢
  have hne : s.scanner.id ≠ s.jsonRpc.id := by
    rintro heq
    rw [heq] at hfresh
    simp at hfresh
  have hin : ∀ id, id = s.jsonRpc.id ∨ id = s.scanner.id → id ∈ [s.scanner.id, s.jsonRpc.id] := by
    rintro id (rfl | rfl)
    · exact List.mem_cons_of_mem _ List.mem_cons_self
    · exact List.mem_cons_self
  refine ⟨?_, ?_, fun id hm => hin id ((hlive id).1 hm)⟩
  · intro r hr r' hr' heq
    rcases cases_initialTable hr with rfl | rfl
    · rcases cases_initialTable hr' with rfl | rfl
      · rfl
      · exact absurd heq.symm hne
    · rcases cases_initialTable hr' with rfl | rfl
      · exact absurd heq hne
      · rfl
  · intro id hm
    obtain ⟨record, hr, rfl⟩ := FleetTable.mem_ids.1 hm
    rcases cases_initialTable hr with rfl | rfl
    · exact hin _ (.inl rfl)
    · exact hin _ (.inr rfl)

theorem Opens.books {s : Supervisor} {given : List String} (ho : s.Opens given h table)
    (hnames : s.scanner.name ≠ s.jsonRpc.name) (hfresh : (given ++ givenIds h).Nodup) :
    Books table (liveAfter given h) (given ++ givenIds h) ∧
      ∀ id, id ∈ liveAfter given h ↔ id ∈ table.ids := by
  refine ⟨ho.booked hfresh, ?_⟩
  obtain ⟨_, _, rfl, -, hlive⟩ := ho.shared
  intro id
  rw [hlive, FleetTable.mem_ids]
  constructor
  · rintro (rfl | rfl)
    · exact ⟨_, (mem_initialTable hnames _ _).2 (.inl rfl), rfl⟩
    · exact ⟨_, (mem_initialTable hnames _ _).2 (.inr rfl), rfl⟩
  · rintro ⟨record, hr, rfl⟩
    rcases (mem_initialTable hnames _ _).1 hr with rfl | rfl
    · exact .inl rfl
    · exact .inr rfl

/-- The books after any calls: what has gone adrift or stale is the work of
one of them. -/
theorem Serves.posts {s : Supervisor} {calls : List ServedCall} (hs : s.Serves table calls table')
    (hb : Books table live used) (heven : ∀ id, id ∈ live ↔ id ∈ table.ids)
    (hkept : NamesKept (ofCalls calls)) (hfresh : (used ++ givenIds (ofCalls calls)).Nodup) :
    Posts live used table (ofCalls calls) table' (Abandoned live calls) (fun _ => False)
      (StoppedInVain calls) := by
  have hnone : ∀ id, ¬ Adrift live table id ∧ ¬ Stale live table id := fun id =>
    ⟨fun ha => ha.2 ((heven id).1 ha.1), fun hs => hs.2 ((heven id).2 hs.1)⟩
  induction hs with
  | nil =>
      refine ⟨by rw [ofCalls_nil]; simpa [givenIds] using hb, fun id => ?_, fun id => ?_⟩
      · exact (or_iff_left not_abandoned_nil).symm
      · rw [or_iff_left not_stoppedInVain_nil, and_iff_left (fun h => h)]; rfl
  | @snoc calls table' table'' request h answer _ hy ih =>
      rw [ofCalls_append, ofCalls_singleton] at hkept hfresh ⊢
      rw [givenIds_append, ← List.append_assoc] at hfresh
      have hp := ih hkept.left (List.nodup_append.1 hfresh).1
      have hq := (yields_serve.1 hy).posts hp.books hkept.right hfresh
      refine ⟨?_, fun id => ?_, fun id => ?_⟩
      · rw [liveAfter_append, givenIds_append, ← List.append_assoc]
        exact hq.books
      · rw [liveAfter_append, hq.adrift, hp.adrift, abandoned_snoc, or_assoc]
      · have := hnone id
        rw [liveAfter_append, hq.stale, hp.stale, stoppedInVain_snoc]
        simp [this]

theorem Opens.posts {s : Supervisor} {given : List String} {opening : FleetHistory}
    {calls : List ServedCall} (ho : s.Opens given opening table)
    (hs : s.Serves table calls table') (hnames : s.scanner.name ≠ s.jsonRpc.name)
    (hkept : NamesKept (opening ++ ofCalls calls))
    (hfresh : (given ++ givenIds (opening ++ ofCalls calls)).Nodup) :
    Books table' (liveAfter given (opening ++ ofCalls calls))
        (given ++ givenIds (opening ++ ofCalls calls)) ∧
      (∀ id, Adrift (liveAfter given (opening ++ ofCalls calls)) table' id ↔
        Abandoned (liveAfter given opening) calls id) ∧
      ∀ id, Stale (liveAfter given (opening ++ ofCalls calls)) table' id ↔
        StoppedInVain calls id := by
  rw [givenIds_append, ← List.append_assoc] at hfresh ⊢
  obtain ⟨hb, heven⟩ := ho.books hnames (List.nodup_append.1 hfresh).1
  have hp := hs.posts hb heven hkept.right hfresh
  rw [liveAfter_append]
  refine ⟨hp.books, fun id => ?_, fun id => ?_⟩
  · rw [hp.adrift]
    exact or_iff_right fun ha => ha.2 ((heven id).1 ha.1)
  · rw [hp.stale]
    exact or_iff_right fun hs => hs.1.2 ((heven id).2 hs.1.1)

/-- **The table refines the runtime.**  After any calls there is one record for
a name and one for an id.  The containers that are live and not recorded are
those whose stop has failed, when it was to undo a start or was part of a
shutdown; those that are recorded and not live are those that a request to stop
agents has stopped before it was aborted, and that no later call has taken out
of the table. -/
theorem table_refines_runtime {s : Supervisor} {given : List String} {opening : FleetHistory}
    {calls : List ServedCall} (hopen : s.Opens given opening table)
    (hserves : s.Serves table calls table') (hnames : s.scanner.name ≠ s.jsonRpc.name)
    (hkept : NamesKept (opening ++ ofCalls calls))
    (hfresh : (given ++ givenIds (opening ++ ofCalls calls)).Nodup) :
    table'.names.Nodup ∧ table'.ids.Nodup ∧
      (∀ id, Adrift (liveAfter given (opening ++ ofCalls calls)) table' id ↔
        Abandoned (liveAfter given opening) calls id) ∧
      ∀ id, Stale (liveAfter given (opening ++ ofCalls calls)) table' id ↔
        StoppedInVain calls id := by
  obtain ⟨hb, hadrift, hstale⟩ := hopen.posts hserves hnames hkept hfresh
  exact ⟨table'.names_nodup, FleetTable.ids_nodup hb.distinct, hadrift, hstale⟩

end Supervisor

/-- The first agent is recorded and does not run. -/
theorem Supervisor.table_refines_runtime_aborted :
    StoppedInVain AbortedStop.twoCalls ("id of " ++ AbortedStop.first.containerName) :=
  ((table_refines_runtime AbortedStop.opens AbortedStop.serves_aborted (by decide +kernel) (by decide +kernel)
    (by decide +kernel)).2.2.2 _).1 ⟨by decide +kernel, by decide +kernel⟩

end NodeKeeper
