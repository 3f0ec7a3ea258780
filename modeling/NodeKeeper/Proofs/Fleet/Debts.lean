/-
# Every container that is started is to be stopped

What a history does to containers is a list of events: a container is started
under a name, and has an id from then on, or it is to be stopped, whether that
succeeds or not.  Whoever starts a container owes its stop:

    Owed es id           the container has been started, and no stop of it was asked for since
    Settles t h t'       what `h` owes is recorded in `t'`, and what is recorded in `t`
                         still is in `t'` or was to be stopped during `h`

**Proved here.**

    every request to the supervisor settles                     (`ServesRequest.settles`)
    so does any number of them                                  (`Serves.settles`)
    a launch settles, and one that fails owes nothing           (`Launches.settles`, `Launches.not_owed`)

A failure on the way makes no difference: what has been started by then is
either recorded or asked to be stopped at once.
-/
import NodeKeeper.Proofs.Fleet.Bookkeeping

namespace NodeKeeper

theorem filterMap_singleton {α β : Type} (f : α → Option β) (a : α) :
    [a].filterMap f = (f a).toList := by
  cases h : f a with
  | none => exact List.filterMap_cons_none h
  | some b => exact List.filterMap_cons_some h

/-- What happens to a container. -/
inductive ContainerEvent where
  | start (name id : String)
  | stop (id : String) (succeeded : Bool)
  deriving DecidableEq, Repr

namespace ContainerEvent

variable {es es' : List ContainerEvent} {id : String}

def startedId? : ContainerEvent → Option String
  | .start _ id => some id
  | .stop _ _ => none

def startedName? : ContainerEvent → Option String
  | .start name _ => some name
  | .stop _ _ => none

def stopId? : ContainerEvent → Option String
  | .start _ _ => none
  | .stop id _ => some id

/-- The ids of the containers that are started, in order. -/
def startedIds (es : List ContainerEvent) : List String := es.filterMap startedId?

/-- The names under which containers are started, in order. -/
def startedNames (es : List ContainerEvent) : List String := es.filterMap startedName?

/-- The ids of the containers that are to be stopped, in order. -/
def stopIds (es : List ContainerEvent) : List String := es.filterMap stopId?

@[simp] theorem startedIds_append (es es' : List ContainerEvent) :
    startedIds (es ++ es') = startedIds es ++ startedIds es' :=
  List.filterMap_append

@[simp] theorem stopIds_append (es es' : List ContainerEvent) :
    stopIds (es ++ es') = stopIds es ++ stopIds es' :=
  List.filterMap_append

/-- Between two starts under one name the first container was to be stopped.
An engine that has no two live containers of one name sees to that: the first is
live until its stop succeeds.  Here the stop may fail, as it does when the
container is gone already. -/
def NamesExclusive (es : List ContainerEvent) : Prop :=
  ∀ before name id between id' after,
    es = before ++ .start name id :: (between ++ .start name id' :: after) →
      ∃ succeeded, .stop id succeeded ∈ between

theorem namesExclusive_of_nodup (h : (startedNames es).Nodup) : NamesExclusive es := by
  rintro before name id between id' after rfl
  have hsplit : startedNames (before ++ .start name id :: (between ++ .start name id' :: after)) =
      startedNames before ++ name :: (startedNames between ++ name :: startedNames after) := by
    simp [startedNames, startedName?]
  rw [hsplit] at h
  have hname := (List.nodup_cons.1 (List.nodup_append.1 h).2.1).1
  exact absurd (List.mem_append_right _ List.mem_cons_self) hname

/-- A container was started, and no stop of it was asked for since. -/
def Owed (es : List ContainerEvent) (id : String) : Prop :=
  ∃ before name after, es = before ++ .start name id :: after ∧ id ∉ stopIds after

theorem not_owed_nil : ¬ Owed [] id := by
  rintro ⟨before, name, after, h, _⟩
  exact List.append_ne_nil_of_right_ne_nil _ (List.cons_ne_nil _ _) h.symm

/-- What is owed was owed before and has not been stopped since, or has been
started since. -/
theorem owed_append : Owed (es ++ es') id ↔ (Owed es id ∧ id ∉ stopIds es') ∨ Owed es' id := by
  constructor
  · rintro ⟨before, name, after, h, hn⟩
    rcases append_eq_split_iff.1 h with ⟨mid, rfl, rfl⟩ | ⟨mid, rfl, rfl⟩
    · rw [stopIds_append, List.mem_append, not_or] at hn
      exact .inl ⟨⟨before, name, mid, rfl, hn.1⟩, hn.2⟩
    · exact .inr ⟨mid, name, after, rfl, hn⟩
  · rintro (⟨⟨before, name, after, rfl, hn⟩, hn'⟩ | ⟨before, name, after, rfl, hn⟩)
    · refine ⟨before, name, after ++ es', by simp, ?_⟩
      rw [stopIds_append, List.mem_append, not_or]
      exact ⟨hn, hn'⟩
    · exact ⟨es ++ before, name, after, by simp, hn⟩

theorem owed_start {name id' : String} : Owed [.start name id'] id ↔ id = id' := by
  constructor
  · rintro ⟨before, name', after, h, _⟩
    rcases List.append_eq_cons_iff.1 h.symm with ⟨rfl, heq⟩ | ⟨rest, rfl, heq⟩
    · cases (List.cons.inj heq).1; rfl
    · exact absurd heq.symm (List.append_ne_nil_of_right_ne_nil _ (List.cons_ne_nil _ _))
  · rintro rfl
    exact ⟨[], name, [], rfl, List.not_mem_nil⟩

theorem mem_stopIds_of_not_owed (hn : ¬ Owed es id) {before after : List ContainerEvent} {name : String}
    (heq : es = before ++ .start name id :: after) : id ∈ stopIds after :=
  Classical.byContradiction fun hm => hn ⟨before, name, after, heq, hm⟩

theorem not_owed_of_no_start (h : startedIds es = []) : ¬ Owed es id := by
  rintro ⟨before, name, after, rfl, _⟩
  rw [startedIds_append] at h
  exact absurd (List.append_eq_nil_iff.1 h).2 (List.cons_ne_nil _ _)

theorem not_owed_start_stop {name id' : String} {ok : Bool} :
    ¬ Owed [.start name id', .stop id' ok] id := by
  show ¬ Owed ([.start name id'] ++ [.stop id' ok]) id
  rw [owed_append, owed_start]
  rintro (⟨rfl, hn⟩ | ho)
  · exact hn (List.mem_singleton_self _)
  · exact not_owed_of_no_start rfl ho

end ContainerEvent

open ContainerEvent FleetExchange FleetHistory

/-! ## The events of a history -/

/-- What an exchange does to a container. -/
def FleetExchange.event? : FleetExchange → Option ContainerEvent
  | ⟨.runtime (.start spec), .ok handle⟩ => some (.start spec.name handle.id)
  | ⟨.runtime (.stop id), .ok _⟩ => some (.stop id true)
  | ⟨.runtime (.stop id), .error _⟩ => some (.stop id false)
  | _ => none

def FleetHistory.events (h : FleetHistory) : List ContainerEvent := h.filterMap event?

variable {table table' table'' : FleetTable} {h h' : FleetHistory}

@[simp] theorem events_append (h h' : FleetHistory) : events (h ++ h') = events h ++ events h' :=
  List.filterMap_append

theorem FleetExchange.IsQuiet.event? {e : FleetExchange} (hq : e.IsQuiet) : e.event? = none := by
  unfold FleetExchange.event?
  split
  · exact hq.elim
  · exact hq.elim
  · exact hq.elim
  · rfl

theorem FleetHistory.IsQuiet.events (hq : FleetHistory.IsQuiet h) : events h = [] :=
  List.filterMap_eq_nil_iff.2 fun e he => (hq e he).event?

theorem events_stop (id : String) (answer : Except RuntimeError Unit) :
    ∃ ok, events [answered (.stop id) answer] = [.stop id ok] :=
  match answer with
  | .ok () => ⟨true, rfl⟩
  | .error _ => ⟨false, rfl⟩

theorem startedId?_event? : ∀ e : FleetExchange, e.event?.bind startedId? = e.givenId?
  | ⟨.runtime (.start _), .ok _⟩ | ⟨.runtime (.start _), .error _⟩ => rfl
  | ⟨.runtime (.stop _), .ok _⟩ | ⟨.runtime (.stop _), .error _⟩ => rfl
  | ⟨.runtime (.hasImage _), _⟩ | ⟨.runtime (.pullImage _), _⟩ => rfl
  | ⟨.runtime (.createNetwork _), _⟩ | ⟨.runtime (.attach _ _), _⟩ => rfl
  | ⟨.publish _ _, _⟩ | ⟨.setCount _, _⟩ | ⟨.now, _⟩ => rfl

theorem stopId?_event? : ∀ e : FleetExchange, e.event?.bind stopId? = e.askedId?
  | ⟨.runtime (.start _), .ok _⟩ | ⟨.runtime (.start _), .error _⟩ => rfl
  | ⟨.runtime (.stop _), .ok _⟩ | ⟨.runtime (.stop _), .error _⟩ => rfl
  | ⟨.runtime (.hasImage _), _⟩ | ⟨.runtime (.pullImage _), _⟩ => rfl
  | ⟨.runtime (.createNetwork _), _⟩ | ⟨.runtime (.attach _ _), _⟩ => rfl
  | ⟨.publish _ _, _⟩ | ⟨.setCount _, _⟩ | ⟨.now, _⟩ => rfl

theorem startedIds_events (h : FleetHistory) : startedIds (events h) = givenIds h :=
  (List.filterMap_filterMap ..).trans
    (congrArg (List.filterMap · h) (funext startedId?_event?))

theorem stopIds_events (h : FleetHistory) : stopIds (events h) = askedIds h :=
  (List.filterMap_filterMap ..).trans
    (congrArg (List.filterMap · h) (funext stopId?_event?))

/-! ## Settling -/

/-- What the history owes is recorded after it, and a record that is gone was
to be stopped. -/
structure Settles (table : FleetTable) (h : FleetHistory) (table' : FleetTable) : Prop where
  owed : ∀ id, Owed (events h) id → id ∈ table'.ids
  kept : ∀ id ∈ table.ids, id ∈ table'.ids ∨ id ∈ stopIds (events h)

theorem Settles.trans (hs : Settles table h table') (hs' : Settles table' h' table'') :
    Settles table (h ++ h') table'' where
  owed := fun id ho => by
    rw [events_append] at ho
    rcases owed_append.1 ho with ⟨ho, hn⟩ | ho
    · exact (hs'.kept id (hs.owed id ho)).resolve_right hn
    · exact hs'.owed id ho
  kept := fun id hid => by
    rw [events_append, stopIds_append, List.mem_append]
    rcases hs.kept id hid with hk | hk
    · exact (hs'.kept id hk).imp_right .inr
    · exact .inr (.inl hk)

/-- A history that starts nothing settles if what leaves the table was to be
stopped. -/
theorem Settles.of_no_start (hgiven : givenIds h = [])
    (hkept : ∀ id ∈ table.ids, id ∈ table'.ids ∨ id ∈ askedIds h) : Settles table h table' where
  owed := fun _ ho => absurd ho (not_owed_of_no_start ((startedIds_events h).trans hgiven))
  kept := by rw [stopIds_events]; exact hkept

theorem Settles.quiet (hq : FleetHistory.IsQuiet h) : Settles table h table :=
  .of_no_start hq.givenIds fun _ hid => .inl hid

namespace Supervisor

variable {s : Supervisor}

theorem RunsAgent.settles {agent : Agent} (hr : RunsAgent s table agent h table')
    (hnames : NamesKept h) : Settles table h table' := by
  have hpub : FleetHistory.IsQuiet [published Subject.agentsRunning [agent]] :=
    isQuiet_cons.2 ⟨trivial, isQuiet_nil⟩
  cases hr with
  | running _ => exact .quiet hpub
  | failed _ hs =>
      rcases hs.error_cases with ⟨before, hq, rfl | ⟨network, cause, rfl⟩⟩ |
        ⟨before, network, handle, links, container, cause, answer, hq, hlinks, hh⟩
      · exact .quiet hq
      · refine .of_no_start ?_ fun _ hid => .inl hid
        rw [givenIds_append, hq.givenIds]; rfl
      · obtain ⟨ok, hstop⟩ := events_stop handle.id answer
        have hevents : events h = [.start agent.containerName handle.id, .stop handle.id ok] := by
          rw [hh, events_append, hq.events]
          show ContainerEvent.start agent.containerName handle.id ::
            events (links ++ [attachFailed container network cause, answered (.stop handle.id) answer]) = _
          rw [events_append, (isQuiet_links hlinks).events]
          exact congrArg _ hstop
        refine ⟨fun id ho => ?_, fun _ hid => .inl hid⟩
        rw [hevents] at ho
        exact absurd ho not_owed_start_stop
  | @started h record hfree hs =>
      have hname : record.name = agent.containerName := hs.name_of_kept hnames.left
      obtain ⟨before, network, after, hq, hqa, rfl⟩ := hs.ok_cases
      have hmem : ∀ r, r ∈ (table.insert record).2.snapshot ↔ r = record ∨ r ∈ table.snapshot := by
        intro r
        refine FleetTable.mem_snapshot_insert ?_
        rw [hname]; exact FleetTable.contains_eq_false_iff.1 hfree
      have hevents : events (before ++ FleetExchange.started (s.agentSpec agent network) record.handle ::
          after ++ [published Subject.agentsRunning [agent]]) =
            [.start agent.containerName record.id] := by
        rw [events_append, hpub.events, events_append, hq.events]
        show ContainerEvent.start agent.containerName record.id :: events after ++ [] = _
        rw [hqa.events]; rfl
      refine ⟨fun id ho => ?_, fun id hid => .inl ?_⟩
      · rw [hevents, owed_start] at ho
        exact FleetTable.mem_ids.2 ⟨record, (hmem record).2 (.inl rfl), ho.symm⟩
      · obtain ⟨r, hr, hid⟩ := FleetTable.mem_ids.1 hid
        exact FleetTable.mem_ids.2 ⟨r, (hmem r).2 (.inr hr), hid⟩

theorem RunsAgents.settles {batch : List Agent} (hr : RunsAgents s table batch h table')
    (hnames : NamesKept h) : Settles table h table' := by
  induction hr with
  | nil => exact .quiet isQuiet_nil
  | cons hone _ ih => exact (hone.settles hnames.left).trans (ih hnames.right)

theorem StopsBatch.settles {batch : List Agent} {r : Except FleetError Unit}
    (hs : StopsBatch batch table h r table') : Settles table h table' := by
  cases hs with
  | aborted hs => exact .of_no_start hs.cases_end.1 fun _ hid => .inl hid
  | nothing _ =>
      refine .of_no_start rfl fun id hid => .inl ?_
      obtain ⟨r, hr, hid⟩ := FleetTable.mem_ids.1 hid
      exact FleetTable.mem_ids.2 ⟨r, FleetTable.mem_snapshot_removeIds.2 ⟨hr, List.not_mem_nil⟩, hid⟩
  | @completed h ids agents _ hs =>
      obtain ⟨hgiven, _, ⟨ids', agents', heq, _, hids⟩ | ⟨_, _, _, heq, _⟩⟩ := hs.cases_end
      · cases heq
        refine .of_no_start ?_ fun id hid => ?_
        · rw [givenIds_append, hgiven]; rfl
        · obtain ⟨r, hr, rfl⟩ := FleetTable.mem_ids.1 hid
          by_cases hin : r.id ∈ ids
          · have hstopped := ((hids r.id).1 hin).resolve_left List.not_mem_nil
            rw [askedIds_append]
            exact .inr (List.mem_append_left _ (mem_askedIds_iff.2 (.inl hstopped)))
          · exact .inl (FleetTable.mem_ids.2 ⟨r, FleetTable.mem_snapshot_removeIds.2 ⟨hr, hin⟩, rfl⟩)
      · exact nomatch heq

theorem StopsEach.settles (hs : StopsEach table.shutdownOrder h) : Settles table (counted 0 :: h) .empty := by
  refine .of_no_start hs.askedIds.2 fun id hid => .inr ?_
  show id ∈ FleetHistory.askedIds h
  rw [hs.askedIds.1]
  exact (table.shutdownOrder_perm.map (·.id)).mem_iff.2 hid

/-- Every request settles, whatever fails on the way. -/
theorem ServesRequest.settles {request : SupervisorRequest} {answer : SupervisorAnswer}
    (hs : ServesRequest s table request h answer table') (hnames : NamesKept h) :
    Settles table h table' := by
  cases hs with
  | run hr =>
      exact (hr.settles hnames.left).trans (.quiet (isQuiet_cons.2 ⟨trivial, isQuiet_nil⟩))
  | stop hs => exact hs.settles
  | containers => exact .quiet isQuiet_nil
  | shutdown hs => exact hs.settles

theorem Serves.settles {calls : List ServedCall} (hs : s.Serves table calls table')
    (hnames : NamesKept (ofCalls calls)) : Settles table (ofCalls calls) table' := by
  induction hs with
  | nil => exact .quiet isQuiet_nil
  | snoc _ hy ih =>
      rw [ofCalls_append, ofCalls_singleton] at hnames ⊢
      exact (ih hnames.left).trans ((yields_serve.1 hy).settles hnames.right)

/-! ## Launch -/

variable {policy : FleetPolicy} {infra : Infrastructure}

theorem StartsShared.events {shared : SharedContainer} {network : String}
    {r : Except FleetError Handle} (hs : StartsShared policy shared network h r) :
    events h = match r with
      | .ok handle => [.start shared.name handle.id]
      | .error _ => [] := by
  cases hs with
  | noImage himage => exact himage.isQuiet.events
  | notStarted cause himage => rw [events_append, himage.isQuiet.events]; rfl
  | started handle himage => rw [events_append, himage.isQuiet.events]; rfl

theorem Launches.not_owed {e : FleetError} (hl : Launches policy infra h (.error e)) (id : String) :
    ¬ Owed (events h) id := by
  cases hl with
  | noNetwork cause => exact not_owed_nil
  | @noScanner h network _ hscanner =>
      show ¬ Owed (events h) id
      rw [hscanner.events]
      exact not_owed_nil
  | @noProxy h h' network scanner _ answer hscanner hproxy =>
      -- the scanner is up when the proxy cannot be started
      obtain ⟨ok, hstop⟩ := events_stop scanner.id answer
      have hevents : events (answered (.createNetwork infra.networkName) (.ok network) ::
          (h ++ (h' ++ [answered (.stop scanner.id) answer]))) =
            [.start infra.scanner.name scanner.id, .stop scanner.id ok] := by
        show events (h ++ (h' ++ [answered (.stop scanner.id) answer])) = _
        rw [events_append, events_append, hscanner.events, hproxy.events, hstop]; rfl
      rw [hevents]
      exact not_owed_start_stop

theorem Launches.ok_cases (hl : Launches policy infra h (.ok (s, table))) :
    s.policy = policy ∧
      events h = [.start infra.scanner.name s.scanner.id, .start infra.jsonRpcProxy.name s.jsonRpc.id] ∧
      (NamesKept h → s.scanner.name = infra.scanner.name ∧ s.jsonRpc.name = infra.jsonRpcProxy.name) ∧
      ∃ scannerTime proxyTime, table = s.initialTable scannerTime proxyTime := by
  cases hl with
  | @launched h h' h'' network scanner jsonRpc _ hscanner hproxy hadopt =>
      obtain ⟨scannerTime, proxyTime, heq, rfl⟩ := yields_adopt.1 hadopt
      obtain ⟨rfl, rfl⟩ := Prod.mk.inj heq
      refine ⟨rfl, ?_, ?_, scannerTime, proxyTime, rfl⟩
      · show events (h ++ (h' ++ _)) = _
        rw [events_append, events_append, hscanner.events, hproxy.events]; rfl
      · intro hnames
        obtain ⟨before, _, rfl⟩ := hscanner.ok_cases
        obtain ⟨before', _, rfl⟩ := hproxy.ok_cases
        exact ⟨hnames (FleetExchange.started (sharedSpec policy infra.scanner network) scanner) (by simp),
          hnames (FleetExchange.started (sharedSpec policy infra.jsonRpcProxy network) jsonRpc) (by simp)⟩

/-- The shared containers have different names, or the second could not have
been started. -/
theorem Launches.names_ne (hl : Launches policy infra h (.ok (s, table))) (hnames : NamesKept h)
    {later : FleetHistory} (hexclusive : NamesExclusive (events (h ++ later))) :
    s.scanner.name ≠ s.jsonRpc.name := by
  obtain ⟨_, hevents, hkept, _⟩ := hl.ok_cases
  obtain ⟨hscanner, hproxy⟩ := hkept hnames
  intro heq
  rw [hscanner, hproxy] at heq
  rw [events_append, hevents, ← heq] at hexclusive
  obtain ⟨_, hstop⟩ := hexclusive [] infra.scanner.name s.scanner.id [] s.jsonRpc.id (events later) rfl
  exact List.not_mem_nil hstop

theorem Launches.settles (hl : Launches policy infra h (.ok (s, table)))
    (hne : s.scanner.name ≠ s.jsonRpc.name) : Settles .empty h table where
  owed := fun id ho => by
    obtain ⟨_, hevents, _, scannerTime, proxyTime, rfl⟩ := hl.ok_cases
    have hmem : ∀ r, r = (⟨s.jsonRpc, .jsonRpcProxy, none, proxyTime⟩ : ContainerRecord) ∨
        r = ⟨s.scanner, .scanner, none, scannerTime⟩ →
        r.id ∈ (s.initialTable scannerTime proxyTime).ids :=
      fun r hr => FleetTable.mem_ids.2 ⟨r, (mem_initialTable hne _ _).2 hr, rfl⟩
    rw [hevents] at ho
    rcases owed_append.1 (show Owed ([_] ++ [_]) id from ho) with ⟨ho, _⟩ | ho
    · rw [owed_start] at ho
      exact ho ▸ hmem _ (.inr rfl)
    · rw [owed_start] at ho
      exact ho ▸ hmem _ (.inl rfl)
  kept := fun _ hid => nomatch hid

end Supervisor

/-! ## Networks

A start that asks for further networks may leave a container behind when one of
them cannot be attached.  The fleet never asks for any. -/

/-- A start is asked for on one network alone. -/
def FleetExchange.IsUnlinked : FleetExchange → Prop
  | ⟨.runtime (.start spec), _⟩ => spec.linkedNetworks = []
  | _ => True

def FleetHistory.IsUnlinked (h : FleetHistory) : Prop := ∀ e ∈ h, e.IsUnlinked

theorem FleetHistory.IsUnlinked.append (hh : FleetHistory.IsUnlinked h)
    (hh' : FleetHistory.IsUnlinked h') : FleetHistory.IsUnlinked (h ++ h') :=
  List.forall_mem_append.2 ⟨hh, hh'⟩

theorem FleetHistory.isUnlinked_cons {e : FleetExchange} :
    FleetHistory.IsUnlinked (e :: h) ↔ e.IsUnlinked ∧ FleetHistory.IsUnlinked h :=
  List.forall_mem_cons

theorem FleetHistory.isUnlinked_nil : FleetHistory.IsUnlinked [] :=
  fun _ he => absurd he List.not_mem_nil

theorem FleetHistory.IsQuiet.isUnlinked (hq : FleetHistory.IsQuiet h) :
    FleetHistory.IsUnlinked h := by
  intro e he
  have hqe := hq e he
  unfold FleetExchange.IsUnlinked
  split
  · exact hqe.elim
  · trivial

namespace Supervisor

variable {s : Supervisor} {policy : FleetPolicy} {infra : Infrastructure}

theorem StartsShared.isUnlinked {shared : SharedContainer} {network : String}
    {r : Except FleetError Handle} (hs : StartsShared policy shared network h r) :
    FleetHistory.IsUnlinked h := by
  cases hs with
  | noImage himage => exact himage.isQuiet.isUnlinked
  | notStarted cause himage =>
      exact himage.isQuiet.isUnlinked.append (isUnlinked_cons.2 ⟨rfl, isUnlinked_nil⟩)
  | started handle himage =>
      exact himage.isQuiet.isUnlinked.append (isUnlinked_cons.2 ⟨rfl, isUnlinked_nil⟩)

theorem Launches.isUnlinked {r : Except FleetError (Supervisor × FleetTable)}
    (hl : Launches policy infra h r) : FleetHistory.IsUnlinked h := by
  cases hl with
  | noNetwork cause => exact isUnlinked_cons.2 ⟨trivial, isUnlinked_nil⟩
  | noScanner network hscanner => exact isUnlinked_cons.2 ⟨trivial, hscanner.isUnlinked⟩
  | noProxy network answer hscanner hproxy =>
      exact isUnlinked_cons.2 ⟨trivial, hscanner.isUnlinked.append
        (hproxy.isUnlinked.append (isUnlinked_cons.2 ⟨trivial, isUnlinked_nil⟩))⟩
  | launched network hscanner hproxy hadopt =>
      obtain ⟨_, _, _, rfl⟩ := yields_adopt.1 hadopt
      exact isUnlinked_cons.2 ⟨trivial, hscanner.isUnlinked.append (hproxy.isUnlinked.append
        (isUnlinked_cons.2 ⟨trivial, isUnlinked_cons.2 ⟨trivial, isUnlinked_cons.2
          ⟨trivial, isUnlinked_nil⟩⟩⟩))⟩

theorem RunsAgent.isUnlinked {agent : Agent} (hr : RunsAgent s table agent h table') :
    FleetHistory.IsUnlinked h := by
  have hpub : FleetHistory.IsUnlinked [published Subject.agentsRunning [agent]] :=
    isUnlinked_cons.2 ⟨trivial, isUnlinked_nil⟩
  cases hr with
  | running _ => exact hpub
  | failed _ hs =>
      rcases hs.error_cases with ⟨before, hq, rfl | ⟨network, cause, rfl⟩⟩ |
        ⟨before, network, handle, links, container, cause, answer, hq, hlinks, rfl⟩
      · exact hq.isUnlinked
      · exact hq.isUnlinked.append (isUnlinked_cons.2 ⟨rfl, isUnlinked_nil⟩)
      · exact hq.isUnlinked.append (isUnlinked_cons.2 ⟨rfl, (isQuiet_links hlinks).isUnlinked.append
          (isUnlinked_cons.2 ⟨trivial, isUnlinked_cons.2 ⟨trivial, isUnlinked_nil⟩⟩)⟩)
  | started _ hs =>
      obtain ⟨before, network, after, hq, hqa, rfl⟩ := hs.ok_cases
      refine FleetHistory.IsUnlinked.append ?_ hpub
      exact hq.isUnlinked.append (isUnlinked_cons.2 ⟨rfl, hqa.isUnlinked⟩)

theorem RunsAgents.isUnlinked {batch : List Agent} (hr : RunsAgents s table batch h table') :
    FleetHistory.IsUnlinked h := by
  induction hr with
  | nil => exact isUnlinked_nil
  | cons hone _ ih => exact hone.isUnlinked.append ih

theorem StopsAgents.isUnlinked {batch agents : List Agent} {ids : List String}
    {r : Except FleetError (List String × List Agent)}
    (hs : StopsAgents table batch ids agents h r) : FleetHistory.IsUnlinked h := by
  induction hs with
  | nil _ _ => exact isUnlinked_nil
  | absent _ _ ih => exact ih
  | repeated _ _ _ ih => exact ih
  | failed _ _ _ => exact isUnlinked_cons.2 ⟨trivial, isUnlinked_nil⟩
  | stopped _ _ _ ih => exact isUnlinked_cons.2 ⟨trivial, ih⟩

theorem StopsEach.isUnlinked {records : List ContainerRecord} (hs : StopsEach records h) :
    FleetHistory.IsUnlinked h := by
  induction hs with
  | nil => exact isUnlinked_nil
  | cons _ _ _ ih => exact isUnlinked_cons.2 ⟨trivial, ih⟩

theorem ServesRequest.isUnlinked {request : SupervisorRequest} {answer : SupervisorAnswer}
    (hs : ServesRequest s table request h answer table') : FleetHistory.IsUnlinked h := by
  cases hs with
  | run hr => exact hr.isUnlinked.append (isUnlinked_cons.2 ⟨trivial, isUnlinked_nil⟩)
  | stop hs =>
      cases hs with
      | aborted hs => exact hs.isUnlinked
      | nothing _ => exact isUnlinked_cons.2 ⟨trivial, isUnlinked_nil⟩
      | completed _ hs =>
          exact hs.isUnlinked.append
            (isUnlinked_cons.2 ⟨trivial, isUnlinked_cons.2 ⟨trivial, isUnlinked_nil⟩⟩)
  | containers => exact isUnlinked_nil
  | shutdown hs => exact isUnlinked_cons.2 ⟨trivial, hs.isUnlinked⟩

theorem Serves.isUnlinked {calls : List ServedCall} (hs : s.Serves table calls table') :
    FleetHistory.IsUnlinked (ofCalls calls) := by
  induction hs with
  | nil => exact isUnlinked_nil
  | snoc _ hy ih =>
      rw [ofCalls_append, ofCalls_singleton]
      exact ih.append (yields_serve.1 hy).isUnlinked

end Supervisor

end NodeKeeper
