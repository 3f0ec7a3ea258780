/-
# Calls to a supervisor, one after the other

A supervisor comes by its table in one of two ways (`Supervisor.Opens`), and
from then on completes calls on it (`Supervisor.Serves`).  What the calls have
done to the containers is read off their histories:

    Abandoned live calls id      a call has left the container running unrecorded
    StoppedInVain calls id       a call has stopped the container and left its record

Both say what the calls have done and do not mention the table.  How they
grow with one more call is proved here (`abandoned_snoc`, `stoppedInVain_snoc`).
-/
import NodeKeeper.Proofs.Fleet.Operations
import NodeKeeper.Proofs.Lists

namespace NodeKeeper

open FleetExchange FleetHistory

/-- A call that has been completed. -/
structure ServedCall where
  request : SupervisorRequest
  history : FleetHistory
  answer : SupervisorAnswer

/-- What passed during the calls. -/
def FleetHistory.ofCalls (calls : List ServedCall) : FleetHistory := calls.flatMap (·.history)

@[simp] theorem ofCalls_nil : ofCalls [] = [] := rfl

@[simp] theorem ofCalls_append (calls calls' : List ServedCall) :
    ofCalls (calls ++ calls') = ofCalls calls ++ ofCalls calls' :=
  List.flatMap_append

@[simp] theorem ofCalls_singleton (call : ServedCall) : ofCalls [call] = call.history :=
  List.append_nil _

/-- All containers that are started have the names that were asked for. -/
def NamesKept (h : FleetHistory) : Prop := ∀ e ∈ h, e.KeepsName

instance (h : FleetHistory) : Decidable (NamesKept h) := inferInstanceAs (Decidable (∀ e ∈ h, _))

namespace Supervisor

theorem StartsAgent.name_of_kept {s : Supervisor} {agent : Agent} {h : FleetHistory}
    {record : ContainerRecord} (hs : StartsAgent s agent h (.ok record)) (hkept : NamesKept h) :
    record.name = agent.containerName := by
  obtain ⟨before, network, after, -, -, rfl⟩ := hs.ok_cases
  exact hkept (started (s.agentSpec agent network) record.handle)
    (List.mem_append_right _ List.mem_cons_self)

/-- The calls have been completed one after the other, the first on `table`,
and the second table is what the last has left. -/
inductive Serves (s : Supervisor) (table : FleetTable) : List ServedCall → FleetTable → Prop
  | nil : Serves s table [] table
  | snoc {calls : List ServedCall} {table' table'' : FleetTable} {request : SupervisorRequest}
      {h : FleetHistory} {answer : SupervisorAnswer} :
      Serves s table calls table' → (s.serve request table').Yields h (answer, table'') →
      Serves s table (calls ++ [⟨request, h, answer⟩]) table''

/-- How a supervisor comes by its first table: it is built around containers
that run already, whose ids are `given`, or it starts its own. -/
inductive Opens (s : Supervisor) : List String → FleetHistory → FleetTable → Prop
  | adopted {h : FleetHistory} {table : FleetTable} :
      (adopt s.policy s.scanner s.jsonRpc).Yields h (s, table) →
      Opens s [s.scanner.id, s.jsonRpc.id] h table
  | launched {infra : Infrastructure} {h : FleetHistory} {table : FleetTable} :
      (launch s.policy infra).Yields h (.ok (s, table)) → Opens s [] h table

/-- A request carried out in surroundings with a state: the call, and what it
leaves. -/
def serveIn {σ : Type} (s : Supervisor) (respond : (r : FleetRequest) → σ → r.Answer × σ)
    (request : SupervisorRequest) (table : FleetTable) (world : σ) : ServedCall × FleetTable × σ :=
  let outcome := (s.serve request table).run respond world
  (⟨request, (s.serve request table).history respond world, outcome.1.1⟩, outcome.1.2, outcome.2)

theorem Serves.serveIn {σ : Type} {s : Supervisor} {table table' : FleetTable}
    {calls : List ServedCall} (hs : s.Serves table calls table')
    (respond : (r : FleetRequest) → σ → r.Answer × σ) (request : SupervisorRequest) (world : σ) :
    s.Serves table (calls ++ [(s.serveIn respond request table' world).1])
      (s.serveIn respond request table' world).2.1 :=
  .snoc hs (Dialogue.yields_run respond _ world)

end Supervisor

/-! ## What a call does to a container -/

/-- A container was started, attaching it failed, and so did the stop that was
to undo the start. -/
def UndoFailed (h : FleetHistory) (id : String) : Prop :=
  ∃ before spec handle links container network cause cause' after,
    h = before ++ started spec handle ::
      (links ++ attachFailed container network cause :: stopFailed handle.id cause' :: after) ∧
    (∀ e ∈ links, ∃ container how, e = attached container network how) ∧ handle.id = id

/-- The stop of a container failed while the container was live. -/
def StopFailedAlive (live : List String) (h : FleetHistory) (id : String) : Prop :=
  ∃ before cause after, h = before ++ stopFailed id cause :: after ∧ id ∈ liveAfter live before

namespace ServedCall

/-- The call leaves the container running, and no record of it; `live` are the
containers that are live before the call. -/
def Abandons (live : List String) (call : ServedCall) (id : String) : Prop :=
  match call.request with
  | .run _ => UndoFailed call.history id
  | .shutdown => StopFailedAlive live call.history id
  | .stop _ => False
  | .containers => False

/-- The call is a request to stop agents that stops the container and is then
aborted, because the stop of another has failed. -/
def StopsInVain (call : ServedCall) (id : String) : Prop :=
  match call.request with
  | .stop _ => ∃ before between id' cause after,
      call.history = before ++ stopped id :: (between ++ stopFailed id' cause :: after)
  | _ => False

/-- The call takes the record of the container out of the table: it completes a
request to stop agents by which it is stopped, or it is a shutdown. -/
def TakesOut (call : ServedCall) (id : String) : Prop :=
  match call.request with
  | .stop _ => call.answer = .done (.ok ()) ∧ stopped id ∈ call.history
  | .shutdown => True
  | _ => False

end ServedCall

/-! ## What the calls have done to a container -/

/-- One of the calls has left the container running unrecorded. -/
def Abandoned (live : List String) (calls : List ServedCall) (id : String) : Prop :=
  ∃ earlier call later, calls = earlier ++ call :: later ∧
    call.Abandons (liveAfter live (ofCalls earlier)) id

/-- One of the calls has stopped the container in vain, and none has taken its
record out since. -/
def StoppedInVain (calls : List ServedCall) (id : String) : Prop :=
  ∃ earlier call later, calls = earlier ++ call :: later ∧ call.StopsInVain id ∧
    ∀ call' ∈ later, ¬ call'.TakesOut id

variable {live : List String} {calls : List ServedCall} {call : ServedCall} {id : String}

theorem not_abandoned_nil : ¬ Abandoned live [] id := by
  rintro ⟨earlier, call, later, h, _⟩
  exact List.append_ne_nil_of_right_ne_nil _ (List.cons_ne_nil _ _) h.symm

theorem not_stoppedInVain_nil : ¬ StoppedInVain [] id := by
  rintro ⟨earlier, call, later, h, _⟩
  exact List.append_ne_nil_of_right_ne_nil _ (List.cons_ne_nil _ _) h.symm

theorem abandoned_snoc :
    Abandoned live (calls ++ [call]) id ↔
      Abandoned live calls id ∨ call.Abandons (liveAfter live (ofCalls calls)) id := by
  constructor
  · rintro ⟨earlier, call', later, h, hc⟩
    rcases snoc_eq_split_iff.1 h with ⟨rfl, rfl, rfl⟩ | ⟨rest, rfl, rfl⟩
    · exact .inr hc
    · exact .inl ⟨earlier, call', rest, rfl, hc⟩
  · rintro (⟨earlier, call', rest, rfl, hc⟩ | hc)
    · exact ⟨earlier, call', rest ++ [call], snoc_eq_split_iff.2 (.inr ⟨rest, rfl, rfl⟩), hc⟩
    · exact ⟨calls, call, [], rfl, hc⟩

theorem stoppedInVain_snoc :
    StoppedInVain (calls ++ [call]) id ↔
      (StoppedInVain calls id ∧ ¬ call.TakesOut id) ∨ call.StopsInVain id := by
  constructor
  · rintro ⟨earlier, call', later, h, hc, hlater⟩
    rcases snoc_eq_split_iff.1 h with ⟨rfl, rfl, rfl⟩ | ⟨rest, rfl, rfl⟩
    · exact .inr hc
    · exact .inl ⟨⟨earlier, call', rest, rfl, hc, fun c hm => hlater c (List.mem_append_left _ hm)⟩,
        hlater call (List.mem_append_right _ (List.mem_singleton_self _))⟩
  · rintro (⟨⟨earlier, call', rest, rfl, hc, hrest⟩, hnot⟩ | hc)
    · refine ⟨earlier, call', rest ++ [call], snoc_eq_split_iff.2 (.inr ⟨rest, rfl, rfl⟩), hc, ?_⟩
      intro c hm
      rcases List.mem_append.1 hm with hm | hm
      · exact hrest c hm
      · exact (List.mem_singleton.1 hm).symm ▸ hnot
    · exact ⟨calls, call, [], rfl, hc, fun _ hm => absurd hm List.not_mem_nil⟩

/-! ## An aborted request

Two agents are started.  A request to stop both stops the first and is aborted,
because the second cannot be stopped. -/

namespace AbortedStop

def supervisor : Supervisor :=
  ⟨.standard, ⟨"scanner-id", "scanner", "scanner:1"⟩, ⟨"proxy-id", "proxy", "proxy:1"⟩⟩

def first : Agent := ⟨"a", "a:1"⟩

def second : Agent := ⟨"b", "b:1"⟩

/-- An engine that does everything but stop the second agent. -/
def engine : (c : RuntimeCall) → c.Answer
  | .hasImage _ => .ok true
  | .pullImage _ => .ok ()
  | .createNetwork name => .ok name
  | .start spec => .ok (⟨"id of " ++ spec.name, spec.name, spec.image⟩ : Handle)
  | .attach _ _ => .ok Attachment.attached
  | .stop id =>
    if id = "id of " ++ second.containerName then .error (.other "device or resource busy") else .ok ()

def respond : (r : FleetRequest) → Unit → r.Answer × Unit
  | .runtime c, _ => (engine c, ())
  | .publish _ _, _ => ((), ())
  | .setCount _, _ => ((), ())
  | .now, _ => ((⟨0, 0⟩ : Timestamp), ())

def opening : FleetHistory :=
  (Supervisor.adopt .standard supervisor.scanner supervisor.jsonRpc).history respond ()

def firstTable : FleetTable := supervisor.initialTable ⟨0, 0⟩ ⟨0, 0⟩

def started : ServedCall × FleetTable × Unit :=
  supervisor.serveIn respond (.run [first, second]) firstTable ()

def aborted : ServedCall × FleetTable × Unit :=
  supervisor.serveIn respond (.stop [first, second]) started.2.1 ()

def twoCalls : List ServedCall := [started.1, aborted.1]

theorem opens : supervisor.Opens ["scanner-id", "proxy-id"] opening firstTable :=
  .adopted (Dialogue.yields_run respond _ ())

theorem serves_started : supervisor.Serves firstTable [started.1] started.2.1 :=
  Supervisor.Serves.nil.serveIn respond _ ()

theorem serves_aborted : supervisor.Serves firstTable twoCalls aborted.2.1 :=
  serves_started.serveIn respond _ ()

end AbortedStop

end NodeKeeper
