/-
# What a node says of its health

The health reports are no part of what they report on: the number of containers
is a counter that each request sets when it is over, and the last error is a
record that the worker keeps.  Both tell the truth over whole runs.

**The count.**  The fleet shows the number that was set last (`countAfter`).  Each
request leaves it at the size of the table it leaves, whether it sets it or not,
so between two requests it is right.

**The last error.**  An inspection ends well, or fails, or is cancelled.  What
the record says is the verdict of the last one that was not cancelled
(`ErrorRecord.Tells`).  An inspection during which the worker crashes has no
verdict.

**Proved here.**

    each request keeps the count right                        (`ServesRequest.count_size`)
    between two requests the count is right                   (`Runs.count_size`)
    each step keeps the record true                           (`Runs.tells`)
    the reports, and the answer to a question for health      (`health_tells_the_truth`)
-/
import NodeKeeper.Node.Service
import NodeKeeper.Proofs.Inspection.Cancellation
import NodeKeeper.Proofs.Node.Runs

namespace NodeKeeper

open NodeHistory SessionHistory

/-! ## The count -/

/-- The number that is set. -/
def FleetExchange.count? : FleetExchange → Option Nat
  | ⟨.setCount n, _⟩ => some n
  | _ => none

namespace FleetHistory

variable {h h' : FleetHistory}

/-- The number that is shown after the history, if `n` was shown before. -/
def countAfter (h : FleetHistory) (n : Nat) : Nat := h.foldl (fun n e => e.count?.getD n) n

@[simp] theorem countAfter_nil (n : Nat) : countAfter [] n = n := rfl

@[simp] theorem countAfter_append (h h' : FleetHistory) (n : Nat) :
    countAfter (h ++ h') n = countAfter h' (countAfter h n) := List.foldl_append

@[simp] theorem countAfter_cons (e : FleetExchange) (h : FleetHistory) (n : Nat) :
    countAfter (e :: h) n = countAfter h (e.count?.getD n) := rfl

end FleetHistory

open FleetExchange FleetHistory

namespace Supervisor

variable {s : Supervisor} {table table' : FleetTable} {h : FleetHistory}

theorem StopsAgents.count_eq {batch agents : List Agent} {ids : List String}
    {r : Except FleetError (List String × List Agent)} (hs : StopsAgents table batch ids agents h r)
    (n : Nat) : countAfter h n = n := by
  induction hs with
  | nil => rfl
  | absent _ _ ih => exact ih
  | repeated _ _ _ ih => exact ih
  | failed => rfl
  | stopped _ _ _ ih => exact ih

theorem StopsEach.count_eq {records : List ContainerRecord} (hs : StopsEach records h) (n : Nat) :
    countAfter h n = n := by
  induction hs with
  | nil => rfl
  | cons _ _ _ ih => exact ih

theorem ServesRequest.count_size {request : SupervisorRequest} {answer : SupervisorAnswer}
    (hs : ServesRequest s table request h answer table') : countAfter h table.size = table'.size := by
  cases hs with
  | run => simp [count?]
  | stop hstop =>
      cases hstop with
      | aborted hagents => exact hagents.count_eq _
      | nothing => simp [count?]
      | completed => simp [count?]
  | containers => rfl
  | shutdown hstops => exact hstops.count_eq 0

theorem Serves.count_size {first : FleetTable} {calls : List ServedCall}
    (hs : s.Serves first calls table) : countAfter (ofCalls calls) first.size = table.size := by
  induction hs with
  | nil => rfl
  | snoc _ hy ih =>
      rw [ofCalls_append, ofCalls_singleton, countAfter_append, ih]
      exact (yields_serve.1 hy).count_size

theorem Launches.count_size {policy : FleetPolicy} {infra : Infrastructure} {first : FleetTable}
    (hl : Launches policy infra h (.ok (s, first))) (n : Nat) : countAfter h n = first.size := by
  cases hl with
  | launched _ _ _ hadopt =>
      obtain ⟨_, _, -, rfl⟩ := yields_adopt.1 hadopt
      simp [count?]

end Supervisor

/-- The number that the fleet shows after the history. -/
def NodeHistory.count (h : NodeHistory) : Nat := countAfter (fleetPart h) 0

namespace LiveNode

variable {c : Config} {opening : FleetHistory} {first table : FleetTable}
  {made : List SupervisorRequest} {calls : List (Nat × ServedCall)} {hs : SessionHistory}
  {h : NodeHistory} {n : LiveNode}

/-- While nobody has the table, the number of its records is shown. -/
theorem Account.count_size (ha : Account c opening first table made calls hs h n)
    (hfree : n.session.holder = none) : NodeHistory.count h = n.session.table.size := by
  cases ha.session.stage with
  | held hheld => exact nomatch hfree.symm.trans hheld
  | free _ htable _ hhist =>
      have hopening := (Supervisor.yields_launch.1 ha.launched).count_size 0
      have hcalls := ha.session.served.count_size
      rw [NodeHistory.count, ha.passed, hhist, unlabelled_inTurn, countAfter_append, hopening,
        hcalls, htable]

end LiveNode

/-! ## The last error -/

/-- How an inspection has ended.  One that is cancelled has no verdict, and
neither has one during which the worker crashes. -/
def InspectorEvent.verdict? : InspectorEvent → Option (Except InspectionError Unit)
  | .inspected _ _ (.error .cancelled) => none
  | .inspected _ _ result => some result
  | _ => none

/-- The verdicts, in the order in which they were given. -/
def InspectorLog.verdicts (log : InspectorLog) : List (Except InspectionError Unit) :=
  log.filterMap (·.verdict?)

open InspectorLog

@[simp] theorem verdicts_append (log log' : InspectorLog) :
    verdicts (log ++ log') = verdicts log ++ verdicts log' := List.filterMap_append

/-- The text of a failure. -/
def InspectionError.text? : Except InspectionError Unit → Option String
  | .ok () => none
  | .error e => some e.message

/-- The record says what the last verdict is. -/
def ErrorRecord.Tells (r : ErrorRecord) (verdicts : List (Except InspectionError Unit)) : Prop :=
  r.text? = verdicts.getLast?.bind InspectionError.text?

/-- What is noted of a step, and what the record says after it. -/
inductive RecordChange (before : ErrorRecord) : InspectorLog → ErrorRecord → Prop
  | kept {log : InspectorLog} : verdicts log = [] → RecordChange before log before
  | judged {log : InspectorLog} {verdict : Except InspectionError Unit} {after : ErrorRecord} :
      verdicts log = [verdict] → after.text? = InspectionError.text? verdict →
      RecordChange before log after

theorem RecordChange.tells {before after : ErrorRecord} {log log' : InspectorLog}
    (hc : RecordChange before log' after) (ht : before.Tells (verdicts log)) :
    after.Tells (verdicts (log ++ log')) := by
  unfold ErrorRecord.Tells
  rw [verdicts_append]
  cases hc with
  | kept hnone => rw [hnone, List.append_nil]; exact ht
  | judged hone htext => rw [hone, List.getLast?_concat]; exact htext

theorem Inspector.conclude_change (i : Inspector) (block : UInt64) (time : Timestamp)
    (results : Option InspectionResults) (result : Except InspectionError Unit) :
    RecordChange i.lastError [.inspected block results result] (i.conclude time result).lastError := by
  cases result with
  | ok => exact .judged rfl rfl
  | error e =>
      cases e with
      | cancelled => exact .kept rfl
      | _ => exact .judged rfl rfl

theorem InspectorLife.verdicts_of_quiet {log : InspectorLog} (hquiet : ∀ e ∈ log, ¬ e.GoesOn) :
    verdicts log = [] := by
  refine List.filterMap_eq_nil_iff.2 fun e he => ?_
  cases e with
  | inspected block results result =>
      have hstop := Classical.not_not.1 (hquiet _ he)
      rw [hstop.2]
      rfl
  | _ => rfl

theorem InspectorLife.work_change (life : InspectorLife) (k : Nat) (now : Instant)
    (cancelled : Bool) (next : Attempt) (time : Timestamp) :
    RecordChange life.inspector.lastError (life.work k now cancelled next time).2
      (life.work k now cancelled next time).1.inspector.lastError := by
  unfold work
  split
  case h_1 =>
    split
    case isTrue => exact .kept rfl
    case isFalse => split <;> exact .kept rfl
  case h_2 t _ =>
    split
    case h_4 results result _ => exact life.inspector.conclude_change t.block time results result
    all_goals exact .kept rfl
  case h_3 => exact .kept rfl

/-- Of the inspector's tasks the worker alone touches the record. -/
theorem InspectorLife.task_change (life : InspectorLife) (t : InspectorTask) (cancelled : Bool) :
    RecordChange life.inspector.lastError (life.step (t.move cancelled)).2
      (life.step (t.move cancelled)).1.inspector.lastError := by
  have hothers : (t.move cancelled).byOthers = true →
      RecordChange life.inspector.lastError (life.step (t.move cancelled)).2
        (life.step (t.move cancelled)).1.inspector.lastError := by
    intro hm
    have hleaves : life.LeavesWorker _ _ := step_leavesWorker hm
    rw [hleaves.lastError]
    exact .kept (verdicts_of_quiet hleaves.quiet)
  cases t with
  | work now next time => exact life.work_change 0 now cancelled next time
  | crash =>
      show RecordChange _ (life.crash 0).2 (life.crash 0).1.inspector.lastError
      unfold crash
      split
      · exact .kept rfl
      · exact .kept rfl
      · exact .kept rfl
  | look now answer => exact hothers rfl
  | settle k now => exact hothers rfl

namespace WholeNode

variable {c : Config} {told : Bool} {steps : NodeSteps} {w w' : WholeNode} {n : LiveNode}

theorem Runs.unjudged (hr : (start c told).Runs steps w) (hnil : w.workers = [])
    {r : ErrorRecord} (hclear : r = .clear) : r.Tells (verdicts steps.events) := by
  rw [hr.untended hnil, hclear]
  rfl

theorem Runs.tells_node (hr : (start c told).Runs steps w) {m : NodeMove} {h : NodeHistory}
    {life : NodeLife} (hlife : w.life.Steps m h life) (hup : life = .up n)
    (ih : ∀ {n}, w.life = .up n → n.inspector.lastError.Tells (verdicts steps.events)) :
    n.inspector.lastError.Tells (verdicts steps.events) := by
  have hkept := hr.kept
  unfold Kept at hkept
  generalize hw : w.life = before at hlife hkept
  cases hlife with
  | still hnot => exact absurd hup (hnot n)
  | told => cases hup
  | asks => cases hup
  | fails => cases hup
  | enters =>
      cases hup
      exact hr.unjudged hkept.2 rfl
  | @goes n₀ _ _ _ hstep =>
      cases hup
      rcases (LiveNode.step_advances hstep).inspector.lastError with heq | ⟨hstarting, hclear⟩
      · rw [heq]
        exact ih hw
      · exact hr.unjudged (hkept.2.2 hstarting) hclear

theorem Tends.tells {t : InspectorTask} {log log' : InspectorLog} (ht : w.Tends t w' log')
    (hup : w'.life = .up n)
    (ih : ∀ {n}, w.life = .up n → n.inspector.lastError.Tells (verdicts log)) :
    n.inspector.lastError.Tells (verdicts (log ++ log')) := by
  cases ht with
  | idle =>
      rw [List.append_nil]
      exact ih hup
  | @tends n₀ workers probes _ i _ _ hi =>
      cases hup
      have hchange := (n₀.inspection workers probes).task_change t n₀.bus.closed
      rw [hi] at hchange
      exact hchange.tells (ih rfl)

theorem Runs.tells (hr : (start c told).Runs steps w) (hup : w.life = .up n) :
    n.inspector.lastError.Tells (verdicts steps.events) := by
  induction hr generalizing n with
  | nil => cases hup
  | @snoc steps w _ m _ hr hy ih =>
      rw [NodeSteps.events_append, NodeSteps.events_singleton]
      cases m with
      | node m =>
          obtain ⟨life, hlife, rfl⟩ := yields_node.1 hy
          show n.inspector.lastError.Tells (verdicts (steps.events ++ []))
          rw [List.append_nil]
          exact hr.tells_node (NodeLife.step_steps hlife) hup ih
      | task t =>
          obtain ⟨-, rfl⟩ := yields_task.1 hy
          exact (w.tend_tends t).tells hup ih

theorem Runs.count_size (hr : (start c told).Runs steps w) (hup : w.life = .up n)
    (hfree : n.session.holder = none) : steps.passed.count = n.session.table.size := by
  have hsound := hr.sound
  rw [hup] at hsound
  obtain ⟨opening, first, table, made, calls, hs, ha⟩ := hsound
  exact ha.count_size hfree

end WholeNode

/-! ## The service -/

theorem ErrorRecord.Tells.report {r : ErrorRecord} {verdicts : List (Except InspectionError Unit)}
    (ht : r.Tells verdicts) (name : String) :
    match verdicts.getLast? with
    | some (.error e) => (r.report name).status = .error ∧ (r.report name).details = some e.message
    | _ => (r.report name).status = .ok ∧ (r.report name).details = none := by
  obtain ⟨last⟩ := r
  unfold ErrorRecord.Tells at ht
  match verdicts.getLast?, last, ht with
  | some (.error e), some (text, at_), ht => exact ⟨rfl, ht⟩
  | some (.ok ()), none, _ => exact ⟨rfl, rfl⟩
  | none, none, _ => exact ⟨rfl, rfl⟩

theorem ErrorRecord.name_report (r : ErrorRecord) (name : String) : (r.report name).name = name := by
  unfold report
  split <;> rfl

/-- Of two reporters with these names both count, and the first only informs. -/
theorem Health.isUnhealthy_ofReporters (count : Nat) (now : Timestamp) (i : Inspector) :
    (Health.ofReporters [Supervisor.health count now, i.health]).isUnhealthy =
      ((i.lastError.report "last-error").status == .error) := by
  have hentries : (Health.ofReporters [Supervisor.health count now, i.health]).entries =
      [("fleet", [.info "containers" (toString count) now]),
        ("inspector", [i.lastError.report "last-error"])] := by
    have hbehind : ¬ "inspector" < "fleet" := by decide
    simp [Health.ofReporters, Dictionary.ofList, Dictionary.put, Dictionary.empty, putSorted,
      Supervisor.health, Inspector.health, hbehind]
  simp [Health.isUnhealthy, hentries, HealthReport.info]

namespace WholeNode

variable {c : Config} {told : Bool} {steps : NodeSteps} {w : WholeNode} {n : LiveNode}

/-- **Health tells the truth over whole runs.**  Whenever no request has the
table: the fleet reports the number of its records; the inspector reports an
error if the last inspection that was not cancelled has failed, with the text of
that failure, and else that all is well; and whoever asks for the node's health
is answered 503 if that report is an error, and else 200. -/
theorem health_tells_the_truth (hr : (start c told).Runs steps w) (hup : w.life = .up n)
    (hfree : n.session.holder = none) (now : Timestamp) :
    ∃ report : HealthReport,
      n.parts.reporters steps.passed.count now =
        [⟨"fleet", [.info "containers" (toString n.session.table.size) now]⟩,
          ⟨"inspector", [report]⟩] ∧
      report.name = "last-error" ∧
      (match (verdicts steps.events).getLast? with
        | some (.error e) => report.status = .error ∧ report.details = some e.message
        | _ => report.status = .ok ∧ report.details = none) ∧
      ∀ q : ServiceRequest, q.method = "GET" →
        Place.ofPath (Place.pathOf q.target.toList) = .health →
          (Service.answer (n.parts.reporters steps.passed.count now) now q n.bus).1.status =
            if report.status = .error then 503 else 200 := by
  refine ⟨n.inspector.lastError.report "last-error", ?_, ?_, (hr.tells hup).report "last-error", ?_⟩
  · rw [hr.count_size hup hfree]
    rfl
  · exact n.inspector.lastError.name_report "last-error"
  · intro q hget hplace
    simp only [Service.answer, Service.handle, hplace, hget, Health.response, Node.reporters]
    simp [Health.isUnhealthy_ofReporters, LiveNode.parts]

end WholeNode

/-! An agent is started, the request to stop it is refused by the engine, and an
inspection fails. -/

namespace RoughDay

def config : Config := { LateAgent.config with localMode := ⟨false, false⟩ }

/-- An engine that does all that it is asked for, but stops nothing. -/
def engine : (r : NodeRequest) → Unit → r.Answer × Unit
  | .fleet (.runtime (.hasImage _)), _ => ((.ok true : Except RuntimeError Bool), ())
  | .fleet (.runtime (.pullImage _)), _ => ((.ok () : Except RuntimeError Unit), ())
  | .fleet (.runtime (.createNetwork name)), _ => ((.ok name : Except RuntimeError String), ())
  | .fleet (.runtime (.start spec)), _ =>
    ((.ok ⟨"id of " ++ spec.name, spec.name, spec.image⟩ : Except RuntimeError Handle), ())
  | .fleet (.runtime (.attach _ _)), _ => ((.ok .attached : Except RuntimeError Attachment), ())
  | .fleet (.runtime (.stop _)), _ => ((.error (.other "busy") : Except RuntimeError Unit), ())
  | .fleet (.publish _ _), _ => ((), ())
  | .fleet (.setCount _), _ => ((), ())
  | .fleet .now, _ => ((⟨0, 0⟩ : Timestamp), ())
  | .listen _, _ => ((.ok () : Except String Unit), ())

def progress : Payload := "\x7b\"latest_block_input\":100\x7d".toUTF8.toList

/-- The agent is asked for and is to be stopped, and the scanner tells of a
block. -/
def requests : List NodeMove :=
  List.replicate 17 .main ++
    [.post Subject.agentsRun LateAgent.payload, .dispatch Subject.agentsRun 0] ++
    List.replicate 12 (.act 0) ++
    [.settle Subject.agentsRun, .post Subject.agentsStop LateAgent.payload,
      .dispatch Subject.agentsStop 0] ++
    List.replicate 3 (.act 1) ++
    [.settle Subject.agentsStop, .post Subject.scannerBlock progress,
      .dispatch Subject.scannerBlock 0]

/-- The attempt at the inspection does not come to an end in time, and it is too
late for another one. -/
def moves : List WholeMove :=
  requests.map .node ++
    [.task (.work 0 .hangs ⟨0, 0⟩), .task (.work 0 .hangs ⟨0, 0⟩),
      .task (.work 301000000000 .hangs ⟨0, 0⟩)]

def day : NodeSteps × WholeNode := WholeNode.follow engine moves (.start config false) ()

/-- The text of the failure. -/
def failure : String :=
  (InspectionError.exhausted 1 (.ofSecs 301) (InspectionError.timeout (.ofSecs 120)).message).message

end RoughDay

/-- The agent whose stop has failed is still counted, and the node is not well. -/
theorem WholeNode.health_tells_the_truth_rough_day :
    ∃ steps w n e report, (start RoughDay.config false).Runs steps w ∧ w.life = .up n ∧
      n.session.holder = none ∧ (verdicts steps.events).getLast? = some (.error e) ∧
      n.parts.reporters steps.passed.count ⟨0, 0⟩ =
        [⟨"fleet", [.info "containers" "3" ⟨0, 0⟩]⟩, ⟨"inspector", [report]⟩] ∧
      report.details = some RoughDay.failure ∧
      (Service.answer (n.parts.reporters steps.passed.count ⟨0, 0⟩) ⟨0, 0⟩ ⟨"GET", "/health", []⟩
        n.bus).1.status = 503 := by
  have hr : (start RoughDay.config false).Runs RoughDay.day.1 RoughDay.day.2 := runs_follow _ _ _ _
  obtain ⟨n, hup, htest⟩ := exists_of_passes (show (RoughDay.day.2.passes fun n =>
    n.session.holder.isNone && n.session.table.size == 3) = true by decide +kernel)
  obtain ⟨hholder, hsize⟩ := Bool.and_eq_true_iff.1 htest
  have hfree := Option.isNone_iff_eq_none.1 hholder
  obtain ⟨verdict, hverdict, htext⟩ := Option.bind_eq_some_iff.1
    (show (verdicts RoughDay.day.1.events).getLast?.bind InspectionError.text? =
      some RoughDay.failure by decide +kernel)
  obtain ⟨report, hreports, -, hlast, hanswer⟩ := health_tells_the_truth hr hup hfree ⟨0, 0⟩
  cases verdict with
  | ok => cases htext
  | error e =>
      rw [hverdict] at hlast
      rw [beq_iff_eq.1 hsize] at hreports
      refine ⟨_, _, n, e, report, hr, hup, hfree, hverdict, hreports, hlast.2.trans htext, ?_⟩
      rw [hanswer ⟨"GET", "/health", []⟩ rfl (by decide), hlast.1]
      rfl

end NodeKeeper
