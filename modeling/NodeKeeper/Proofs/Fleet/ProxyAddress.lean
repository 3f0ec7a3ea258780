/-
# One proxy for inspections and agents

The address of the JSON-RPC proxy is made twice out of one configuration:

    for inspections   composition puts it together from the name and the port it
                      settles on, unless a layer gives another address
    for agents        the environment of an agent's container has the name of the
                      container that was started as the proxy, and the port of the
                      policy

The two meet in `Config.proxyAddress` (`compose_sound`, `Launches.proxy_started`).
That agents are started with this environment and no other holds of every start
that a request asks for (`ServesRequest.starts_agents`), whatever is answered.
-/
import NodeKeeper.Proofs.Config.Composed
import NodeKeeper.Proofs.Fleet.Debts
import NodeKeeper.Proofs.Fleet.RunningStatus

namespace NodeKeeper

open FleetExchange FleetHistory

/-! ## The environment of an agent -/

namespace FleetPolicy

variable (p : FleetPolicy) (agent : Agent) (host : String)

theorem agentEnvironment_host :
    (p.agentEnvironment agent host).get? hostVariable = some host := by
  simp [agentEnvironment, Dictionary.ofList, Dictionary.get?_put, hostVariable, portVariable,
    agentPortVariable]

theorem agentEnvironment_port :
    (p.agentEnvironment agent host).get? portVariable = some (toString p.jsonRpcPort.toNat) := by
  simp [agentEnvironment, Dictionary.ofList, Dictionary.get?_put, portVariable, agentPortVariable]

end FleetPolicy

namespace Supervisor

variable {s : Supervisor} {table table' : FleetTable} {h : FleetHistory}

/-! ## What is started on behalf of a request -/

/-- A start, if this is one, is that of an agent. -/
def StartsAgentOnly (s : Supervisor) (e : FleetExchange) : Prop :=
  match e.request with
  | .runtime (.start spec) => ∃ agent network, spec = s.agentSpec agent network
  | _ => True

theorem startsAgentOnly_of_isQuiet {e : FleetExchange} (he : e.IsQuiet) : s.StartsAgentOnly e := by
  unfold FleetExchange.IsQuiet at he
  unfold StartsAgentOnly
  split
  · next heq => rw [heq] at he; exact he.elim
  · trivial

theorem StartsAgent.starts_agents {agent : Agent} {r : Except FleetError ContainerRecord}
    (hs : StartsAgent s agent h r) : ∀ e ∈ h, s.StartsAgentOnly e := by
  have hquiet : ∀ {h : FleetHistory}, FleetHistory.IsQuiet h → ∀ e ∈ h, s.StartsAgentOnly e :=
    fun hq e he => startsAgentOnly_of_isQuiet (hq e he)
  match r with
  | .ok record =>
      obtain ⟨before, network, after, hq, hqa, rfl⟩ := hs.ok_cases
      exact List.forall_mem_append.2
        ⟨hquiet hq, List.forall_mem_cons.2 ⟨⟨agent, network, rfl⟩, hquiet hqa⟩⟩
  | .error e =>
      rcases hs.error_cases with ⟨before, hq, rfl | ⟨network, cause, rfl⟩⟩ |
        ⟨before, network, handle, links, container, cause, answer, hq, hlinks, rfl⟩
      · exact hquiet hq
      · exact List.forall_mem_append.2
          ⟨hquiet hq, List.forall_mem_singleton.2 ⟨agent, network, rfl⟩⟩
      · refine List.forall_mem_append.2
          ⟨hquiet hq, List.forall_mem_cons.2 ⟨⟨agent, network, rfl⟩, ?_⟩⟩
        refine List.forall_mem_append.2 ⟨hquiet (isQuiet_links hlinks), ?_⟩
        exact List.forall_mem_cons.2 ⟨trivial, List.forall_mem_singleton.2 trivial⟩

theorem RunsAgents.starts_agents {batch : List Agent} (hr : RunsAgents s table batch h table') :
    ∀ e ∈ h, s.StartsAgentOnly e := by
  induction hr with
  | nil _ => exact fun _ he => absurd he List.not_mem_nil
  | cons hone _ ih =>
      refine List.forall_mem_append.2 ⟨?_, ih⟩
      cases hone with
      | running _ => exact List.forall_mem_singleton.2 trivial
      | failed _ hs => exact hs.starts_agents
      | started _ hs =>
          exact List.forall_mem_append.2 ⟨hs.starts_agents, List.forall_mem_singleton.2 trivial⟩

theorem StopsAgents.starts_agents {batch agents : List Agent} {ids : List String}
    {r : Except FleetError (List String × List Agent)}
    (hs : StopsAgents table batch ids agents h r) : ∀ e ∈ h, s.StartsAgentOnly e := by
  induction hs with
  | nil _ _ => exact fun _ he => absurd he List.not_mem_nil
  | absent _ _ ih => exact ih
  | repeated _ _ _ ih => exact ih
  | failed _ _ _ => exact List.forall_mem_singleton.2 trivial
  | stopped _ _ _ ih => exact List.forall_mem_cons.2 ⟨trivial, ih⟩

theorem StopsEach.starts_agents {records : List ContainerRecord} (hs : StopsEach records h) :
    ∀ e ∈ h, s.StartsAgentOnly e := by
  induction hs with
  | nil => exact fun _ he => absurd he List.not_mem_nil
  | cons _ _ _ ih => exact List.forall_mem_cons.2 ⟨trivial, ih⟩

/-- A request starts agents only, each as the supervisor asks for it. -/
theorem ServesRequest.starts_agents {request : SupervisorRequest} {answer : SupervisorAnswer}
    (hs : ServesRequest s table request h answer table') : ∀ e ∈ h, s.StartsAgentOnly e := by
  cases hs with
  | run hr => exact List.forall_mem_append.2 ⟨hr.starts_agents, List.forall_mem_singleton.2 trivial⟩
  | stop hs =>
      cases hs with
      | aborted hs => exact hs.starts_agents
      | nothing _ => exact List.forall_mem_singleton.2 trivial
      | completed _ hs =>
          refine List.forall_mem_append.2 ⟨hs.starts_agents, List.forall_mem_cons.2 ⟨trivial, ?_⟩⟩
          exact List.forall_mem_singleton.2 trivial
  | containers => exact fun _ he => absurd he List.not_mem_nil
  | shutdown hs => exact List.forall_mem_cons.2 ⟨trivial, hs.starts_agents⟩

theorem Serves.starts_agents {calls : List ServedCall} (hs : s.Serves table calls table') :
    ∀ e ∈ ofCalls calls, s.StartsAgentOnly e := by
  induction hs with
  | nil => exact fun _ he => absurd he List.not_mem_nil
  | snoc _ hy ih =>
      rw [ofCalls_append, ofCalls_singleton]
      exact List.forall_mem_append.2 ⟨ih, (yields_serve.1 hy).starts_agents⟩

/-! ## What is started as the proxy -/

theorem Launches.proxy_started {policy : FleetPolicy} {infra : Infrastructure}
    (hl : Launches policy infra h (.ok (s, table))) :
    ∃ network, started (sharedSpec policy infra.jsonRpcProxy network) s.jsonRpc ∈ h := by
  cases hl with
  | launched network hscanner hproxy hadopt =>
      obtain ⟨_, _, heq, rfl⟩ := yields_adopt.1 hadopt
      obtain ⟨rfl, rfl⟩ := Prod.mk.inj heq
      obtain ⟨before, -, rfl⟩ := hproxy.ok_cases
      exact ⟨network, by simp⟩

end Supervisor

open Supervisor in
/-- **Inspections and agents ask the same proxy.**  Suppose a configuration is
composed of layers that give no address of the proxy, and a supervisor is
launched with it by an engine that gives the names that were asked for.  Then the
proxy has been started by the launch, and at every moment of every request each
container that has been asked for on behalf of a request, whether it could be
started or not, has in its environment the name under which the proxy was
started and a port, and these two make the address that inspections are given. -/
theorem proxy_address_agrees {file? : Option FileLayer} {env : EnvLayer} {path : Option String}
    {c : Config} {w : Warnings} {s : Supervisor} {opening h : FleetHistory}
    {table table' : FleetTable} {calls : List ServedCall} {request : SupervisorRequest}
    {rest : FleetDialogue (SupervisorAnswer × FleetTable)}
    (hcompose : Config.compose file? env path = .ok (c, w)) (henv : env.proxyUrl = none)
    (hfile : ∀ file, file? = some file → file.inspection.proxyUrl = none)
    (hlaunch : (launch c.fleet.policy c.fleet.infrastructure).Yields opening (.ok (s, table)))
    (hkept : NamesKept opening) (hserves : s.Serves table calls table')
    (hpart : (s.serve request table').Leads h rest) :
    ∃ asked, started asked s.jsonRpc ∈ opening ∧ asked.name = s.jsonRpc.name ∧
      asked.image = c.fleet.infrastructure.jsonRpcProxy.image ∧
      ∀ spec answer, answered (.start spec) answer ∈ ofCalls calls ++ h →
        ∃ host port, spec.env.get? FleetPolicy.hostVariable = some host ∧
          spec.env.get? FleetPolicy.portVariable = some port ∧ host = asked.name ∧
          c.inspectionSettings.proxyUrl = "http://" ++ host ++ ":" ++ port := by
  have hlaunches := yields_launch.1 hlaunch
  obtain ⟨hpolicy, -, hnames, -⟩ := hlaunches.ok_cases
  obtain ⟨network, hstarted⟩ := hlaunches.proxy_started
  have hname : s.jsonRpc.name = c.fleet.infrastructure.jsonRpcProxy.name := (hnames hkept).2
  refine ⟨_, hstarted, hname.symm, rfl, fun spec answer hm => ?_⟩
  -- what is under way is brought to an end, so that it is one of the known ways
  obtain ⟨h', ⟨_, _⟩, hy, _, _⟩ := exists_yields_no_start rest
  have hserve := yields_serve.1 (Dialogue.leads_append.2 ⟨rest, hpart, hy⟩)
  have hspec : s.StartsAgentOnly (answered (.start spec) answer) := by
    rcases List.mem_append.1 hm with hm | hm
    · exact hserves.starts_agents _ hm
    · exact hserve.starts_agents _ (List.mem_append_left _ hm)
  obtain ⟨agent, own, rfl⟩ := hspec
  have hproxy : c.inspectionSettings.proxyUrl = c.proxyAddress := by
    have hnone : (file?.getD .empty).inspection.proxyUrl = none := by
      cases file? with
      | none => rfl
      | some file => exact hfile file rfl
    have hurl := (Config.compose_sound hcompose).2
    rw [henv, hnone] at hurl
    exact hurl
  refine ⟨_, _, FleetPolicy.agentEnvironment_host _ _ _, FleetPolicy.agentEnvironment_port _ _ _,
    hname, ?_⟩
  rw [hproxy, hname, hpolicy]
  rfl

/-! A proxy under a name and at a port of its own: a supervisor is launched and
starts an agent. -/

namespace OwnProxy

def file : FileLayer := {
  FileLayer.empty with
  chain := ⟨none, some "http://chain", none⟩
  containers := {
    FileLayer.empty.containers with
    jsonRpcName := some "gateway"
    jsonRpcPort := some 9000 } }

def env : EnvLayer := .ofLookup fun name => [("VIGIL_JSON_RPC_PORT", "9001")].lookup name

def launch (c : Config) : FleetDialogue (Except FleetError (Supervisor × FleetTable)) :=
  Supervisor.launch c.fleet.policy c.fleet.infrastructure

def opening (c : Config) : FleetHistory := (launch c).history AbortedStop.respond ()

/-- The supervisor with its first table. -/
def opened? (c : Config) : Option (Supervisor × FleetTable) :=
  ((launch c).run AbortedStop.respond ()).1.toOption

def started (opened : Supervisor × FleetTable) : ServedCall × FleetTable × Unit :=
  opened.1.serveIn AbortedStop.respond (.run [AbortedStop.first]) opened.2 ()

/-- Where a container that is started is told to find the proxy. -/
def pointedAt? : FleetExchange → Option (Option String × Option String)
  | ⟨.runtime (.start spec), _⟩ =>
    some (spec.env.get? FleetPolicy.hostVariable, spec.env.get? FleetPolicy.portVariable)
  | _ => none

theorem pointedAt?_eq_some {e : FleetExchange} {host port : Option String}
    (h : pointedAt? e = some (host, port)) :
    ∃ spec answer, e = answered (.start spec) answer ∧
      spec.env.get? FleetPolicy.hostVariable = host ∧
      spec.env.get? FleetPolicy.portVariable = port := by
  unfold pointedAt? at h
  split at h
  · cases h
    exact ⟨_, _, rfl, rfl, rfl⟩
  · cases h

theorem yields_of_opened {c : Config} {opened : Supervisor × FleetTable}
    (h : opened? c = some opened) : (launch c).Yields (opening c) (.ok opened) := by
  have hy : (launch c).Yields (opening c) ((launch c).run AbortedStop.respond ()).1 :=
    Dialogue.yields_run _ _ _
  unfold opened? at h
  cases hr : ((launch c).run AbortedStop.respond ()).1 with
  | error e =>
      rw [hr] at h
      cases h
  | ok opened' =>
      rw [hr] at h hy
      cases h
      exact hy

end OwnProxy

/-- The agent is pointed at `gateway` and port 9001, and so are inspections. -/
theorem proxy_address_agrees_own :
    ∃ c w opened spec answer, Config.compose (some OwnProxy.file) OwnProxy.env none = .ok (c, w) ∧
      OwnProxy.opened? c = some opened ∧
      answered (.start spec) answer ∈ (OwnProxy.started opened).1.history ∧
      spec.env.get? FleetPolicy.hostVariable = some "gateway" ∧
      spec.env.get? FleetPolicy.portVariable = some "9001" ∧
      c.inspectionSettings.proxyUrl = "http://" ++ "gateway" ++ ":" ++ "9001" := by
  obtain ⟨c, w, hok, htest⟩ := Config.exists_of_passes
    (show Config.passes (fun c _ => decide (NamesKept (OwnProxy.opening c)) &&
        (OwnProxy.opened? c).any fun opened => (OwnProxy.started opened).1.history.any fun e =>
          OwnProxy.pointedAt? e == some (some "gateway", some "9001"))
      (Config.compose (some OwnProxy.file) OwnProxy.env none) = true by decide +kernel)
  obtain ⟨hkept, htest⟩ := Bool.and_eq_true_iff.1 htest
  obtain ⟨opened, hopened, htest⟩ := (Option.any_eq_true ..).1 htest
  obtain ⟨e, hm, hpointed⟩ := List.any_eq_true.1 htest
  obtain ⟨spec, answer, rfl, hhost, hport⟩ := OwnProxy.pointedAt?_eq_some (eq_of_beq hpointed)
  obtain ⟨_, -, -, -, hagents⟩ := proxy_address_agrees hok rfl (by rintro _ ⟨⟩; rfl)
    (OwnProxy.yields_of_opened hopened) (of_decide_eq_true hkept) .nil
    (Dialogue.yields_run AbortedStop.respond (opened.1.serve (.run [AbortedStop.first]) opened.2) ())
  obtain ⟨host, port, hhost', hport', -, hurl⟩ := hagents spec answer hm
  cases hhost.symm.trans hhost'
  cases hport.symm.trans hport'
  exact ⟨c, w, opened, spec, answer, hok, hopened, hm, hhost, hport, hurl⟩

end NodeKeeper
