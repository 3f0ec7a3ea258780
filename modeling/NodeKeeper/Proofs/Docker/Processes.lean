/-
# What the engine's processes do to containers

A command that runs a container and prints an id has started one; a command to
stop a container asks for its stop.  Both are read off the command and the way
its process ended (`Docker.event?`), without regard to who asked for it.

    a request to the engine         what its processes do is what its answer says   (`answer_events`)
    the requests of a node          likewise, in order                              (`events_onHost`)

So what is proved about the answers holds of the processes.
-/
import NodeKeeper.Node.Host
import NodeKeeper.Proofs.Fleet.Debts

namespace NodeKeeper

abbrev ProcessExchange : Type := Exchange ProcessRequest ProcessRequest.Answer

abbrev ProcessHistory : Type := List ProcessExchange

abbrev NodeExchange : Type := Exchange NodeRequest NodeRequest.Answer

abbrev NodeHistory : Type := List NodeExchange

abbrev HostExchange : Type := Exchange HostRequest HostRequest.Answer

abbrev HostHistory : Type := List HostExchange

namespace Docker

/-! ## Events -/

/-- The name that a container is given by the flags of its command. -/
def nameFlag : List String → String
  | "--name" :: name :: _ => name
  | _ :: rest => nameFlag rest
  | [] => ""

/-- Has the process ended in success? -/
def succeeded : Except String ProcessEnd → Bool
  | .ok e => (CommandOutput.ofEnd e).success
  | .error _ => false

/-- The id that a process which ended in success has printed. -/
def printedId? : Except String ProcessEnd → Option String
  | .ok e => if (CommandOutput.ofEnd e).success then (CommandOutput.ofEnd e).firstLine? else none
  | .error _ => none

/-- What a process does to a container. -/
def event? (c : Command) (answer : Except String ProcessEnd) : Option ContainerEvent :=
  match c.args with
  | ["stop", id] => some (.stop id (succeeded answer))
  | "run" :: flags => (printedId? answer).map (.start (nameFlag flags))
  | _ => none

/-- What processes do to containers. -/
def events (p : ProcessHistory) : List ContainerEvent :=
  p.filterMap fun e => event? e.request.command e.answer

theorem event?_run (program : String) (spec : ContainerSpec) (answer : Except String ProcessEnd) :
    event? (run program spec) answer = (printedId? answer).map (.start spec.name) := rfl

/-! ## Commands -/

variable {α : Type} {p : ProcessHistory} {a : α} {c : Command}

/-- What a command says about the process that was asked for. -/
def outcome (c : Command) : Except String ProcessEnd → Except RuntimeError CommandOutput
  | .error reason => .error (.spawn c.program reason)
  | .ok e => .ok (.ofEnd e)

theorem yields_run_bind {f : Except RuntimeError CommandOutput → ProcessDialogue α} :
    (c.run >>= f).Yields p a ↔
      ∃ answer rest, p = ⟨⟨c⟩, answer⟩ :: rest ∧ (f (outcome c answer)).Yields rest a := by
  constructor
  · intro hy
    obtain ⟨p₁, r, p₂, rfl, hrun, hf⟩ := Dialogue.yields_bind.1 hy
    obtain ⟨answer, rest, rfl, hrest⟩ := Dialogue.yields_ask.1 hrun
    match answer with
    | .error reason | .ok e =>
        obtain ⟨rfl, rfl⟩ := Dialogue.yields_done.1 hrest
        exact ⟨_, p₂, rfl, hf⟩
  · rintro ⟨answer, rest, rfl, hf⟩
    refine Dialogue.yields_bind.2 ⟨[⟨⟨c⟩, answer⟩], outcome c answer, rest, rfl, ?_, hf⟩
    refine Dialogue.yields_ask.2 ⟨answer, [], rfl, ?_⟩
    match answer with
    | .error reason | .ok e => exact Dialogue.yields_done.2 ⟨rfl, rfl⟩

theorem yields_runChecked_bind {f : Except RuntimeError CommandOutput → ProcessDialogue α} :
    (runChecked c >>= f).Yields p a ↔
      ∃ answer rest, p = ⟨⟨c⟩, answer⟩ :: rest ∧
        (f ((outcome c answer).bind (·.result c))).Yields rest a := by
  constructor
  · intro hy
    obtain ⟨p₁, r, p₂, rfl, hrun, hf⟩ := Dialogue.yields_bind.1 hy
    obtain ⟨answer, rest, rfl, hrest⟩ := yields_run_bind.1 hrun
    match answer with
    | .error reason | .ok e =>
        obtain ⟨rfl, rfl⟩ := Dialogue.yields_done.1 hrest
        exact ⟨_, p₂, rfl, hf⟩
  · rintro ⟨answer, rest, rfl, hf⟩
    refine Dialogue.yields_bind.2 ⟨[⟨⟨c⟩, answer⟩], _, rest, rfl, ?_, hf⟩
    refine yields_run_bind.2 ⟨answer, [], rfl, ?_⟩
    match answer with
    | .error reason | .ok e => exact Dialogue.yields_done.2 ⟨rfl, rfl⟩

theorem yields_run_done {f : Except RuntimeError CommandOutput → α} :
    (c.run >>= fun o => .done (f o)).Yields p a ↔
      ∃ answer, p = [⟨⟨c⟩, answer⟩] ∧ a = f (outcome c answer) := by
  rw [yields_run_bind]
  constructor
  · rintro ⟨answer, rest, rfl, hf⟩
    obtain ⟨rfl, rfl⟩ := Dialogue.yields_done.1 hf
    exact ⟨answer, rfl, rfl⟩
  · rintro ⟨answer, rfl, rfl⟩
    exact ⟨answer, [], rfl, Dialogue.yields_done.2 ⟨rfl, rfl⟩⟩

theorem yields_runChecked_done {f : Except RuntimeError CommandOutput → α} :
    (runChecked c >>= fun o => .done (f o)).Yields p a ↔
      ∃ answer, p = [⟨⟨c⟩, answer⟩] ∧ a = f ((outcome c answer).bind (·.result c)) := by
  rw [yields_runChecked_bind]
  constructor
  · rintro ⟨answer, rest, rfl, hf⟩
    obtain ⟨rfl, rfl⟩ := Dialogue.yields_done.1 hf
    exact ⟨answer, rfl, rfl⟩
  · rintro ⟨answer, rfl, rfl⟩
    exact ⟨answer, [], rfl, Dialogue.yields_done.2 ⟨rfl, rfl⟩⟩

/-- A command that succeeds also where its process fails and says a phrase. -/
def recognize (c : Command) (phrase : String) (good known other : α) :
    Except RuntimeError CommandOutput → Except RuntimeError α
  | .error e => .error e
  | .ok output =>
    if output.success then .ok good
    else if output.mentions phrase then .ok known
    else (output.result c).map fun _ => other

variable {program : String}

theorem hasImage_eq (image : String) :
    hasImage program image = (imageInspect program image).run >>= fun o =>
      .done (recognize (imageInspect program image) noSuchImage true false false o) := by
  refine bind_congr fun o => ?_
  cases o with
  | error e => rfl
  | ok output => simp only [recognize, Dialogue.pure_eq, apply_ite Dialogue.done]

theorem attach_eq (container network : String) :
    attach program container network = (networkConnect program network container).run >>= fun o =>
      .done (recognize (networkConnect program network container) alreadyInNetwork
        .attached .alreadyAttached .attached o) := by
  refine bind_congr fun o => ?_
  cases o with
  | error e => rfl
  | ok output => simp only [recognize, Dialogue.pure_eq, apply_ite Dialogue.done]

/-! ## Requests to the engine -/

open FleetExchange

theorem events_singleton (c : Command) (answer : Except String ProcessEnd) :
    events [⟨⟨c⟩, answer⟩] = (event? c answer).toList :=
  filterMap_singleton _ _

theorem yields_hasImage {image : String} {r : Except RuntimeError Bool}
    (hy : (hasImage program image).Yields p r) : events p = [] := by
  rw [hasImage_eq] at hy
  obtain ⟨answer, rfl, -⟩ := yields_run_done.1 hy
  exact events_singleton _ _

theorem yields_pullImage {image : String} {r : Except RuntimeError Unit}
    (hy : (pullImage program image).Yields p r) : events p = [] := by
  obtain ⟨answer, rfl, -⟩ := yields_runChecked_done.1 hy
  exact events_singleton _ _

theorem yields_createNetwork {name : String} {r : Except RuntimeError String}
    (hy : (createNetwork program name).Yields p r) : events p = [] := by
  obtain ⟨answer, rest, rfl, hf⟩ := yields_run_bind.1 hy
  split at hf
  · obtain ⟨rfl, _⟩ := Dialogue.yields_done.1 hf
    exact events_singleton _ _
  · split at hf
    · obtain ⟨answer', rfl, -⟩ := yields_runChecked_done.1 hf
      rfl
    · obtain ⟨rfl, _⟩ := Dialogue.yields_done.1 hf
      exact events_singleton _ _

theorem yields_attach {container network : String} {r : Except RuntimeError Attachment}
    (hy : (attach program container network).Yields p r) : events p = [] := by
  rw [attach_eq] at hy
  obtain ⟨answer, rfl, -⟩ := yields_run_done.1 hy
  exact events_singleton _ _

theorem printedId?_eq (c : Command) (kind name : String) (answer : Except String ProcessEnd) :
    printedId? answer = (((outcome c answer).bind (·.result c)).bind (idIn kind name)).toOption := by
  match answer with
  | .error reason => rfl
  | .ok e =>
      show (if (CommandOutput.ofEnd e).success then (CommandOutput.ofEnd e).firstLine? else none) =
        (((CommandOutput.ofEnd e).result c).bind (idIn kind name)).toOption
      unfold CommandOutput.result
      split
      · show _ = (idIn kind name (CommandOutput.ofEnd e)).toOption
        unfold idIn
        cases (CommandOutput.ofEnd e).firstLine? <;> rfl
      · rfl

/-- A container that needs no further networks is started by one process. -/
theorem yields_start {spec : ContainerSpec} {r : Except RuntimeError Handle}
    (hlinks : spec.linkedNetworks = []) (hy : (start program spec).Yields p r) :
    events p = (answered (.start spec) r).event?.toList ∧ (answered (.start spec) r).KeepsName := by
  obtain ⟨answer, rest, rfl, hf⟩ := yields_runChecked_bind.1 hy
  have hid := printedId?_eq (run program spec) "container" spec.name answer
  have hrun : ∀ id?, printedId? answer = id? →
      events [⟨⟨run program spec⟩, answer⟩] = (id?.map (ContainerEvent.start spec.name)).toList := by
    rintro id? rfl
    rw [events_singleton, event?_run]
  split at hf
  · next e he =>
    obtain ⟨rfl, rfl⟩ := Dialogue.yields_done.1 hf
    rw [he] at hid
    exact ⟨hrun none hid, trivial⟩
  · next id hok =>
    rw [hlinks] at hf
    obtain ⟨rfl, rfl⟩ := Dialogue.yields_done.1 hf
    rw [hok] at hid
    exact ⟨hrun (some id) hid, rfl⟩

theorem yields_stopContainer {container : String} {r : Except RuntimeError Unit}
    (hy : (stopContainer program container).Yields p r) :
    events p = (answered (.stop container) r).event?.toList := by
  obtain ⟨answer, rfl, rfl⟩ := yields_runChecked_done.1 hy
  match answer with
  | .error reason => rfl
  | .ok e =>
      show [ContainerEvent.stop container (CommandOutput.ofEnd e).success] =
        (answered (.stop container) (((CommandOutput.ofEnd e).result (stop program container)).map
          fun _ => ())).event?.toList
      unfold CommandOutput.result
      cases (CommandOutput.ofEnd e).success <;> rfl

/-- What the processes of a request do to containers is what its answer says,
and a container that is started has the name that was asked for. -/
theorem answer_events {call : RuntimeCall} {r : call.Answer}
    (hy : (Docker.answer program call).Yields p r) (hlinks : (answered call r).IsUnlinked) :
    events p = (answered call r).event?.toList ∧ (answered call r).KeepsName := by
  cases call with
  | hasImage image => exact ⟨yields_hasImage hy, trivial⟩
  | pullImage image => exact ⟨yields_pullImage hy, trivial⟩
  | createNetwork name => exact ⟨yields_createNetwork hy, trivial⟩
  | start spec => exact yields_start hlinks hy
  | attach container network => exact ⟨yields_attach hy, trivial⟩
  | stop container => exact ⟨yields_stopContainer hy, trivial⟩

end Docker

/-! ## The node on its host -/

/-- An exchange of the fleet, seen from the node. -/
def NodeExchange.fleet? : NodeExchange → Option FleetExchange
  | ⟨.fleet r, answer⟩ => some ⟨r, answer⟩
  | ⟨.listen _, _⟩ => none

/-- What passes between the fleet and the node's surroundings. -/
def NodeHistory.fleetPart (h : NodeHistory) : FleetHistory := h.filterMap NodeExchange.fleet?

def HostExchange.event? : HostExchange → Option ContainerEvent
  | ⟨.process r, answer⟩ => Docker.event? r.command answer
  | _ => none

/-- What the processes among the exchanges with the host do to containers. -/
def HostHistory.events (h : HostHistory) : List ContainerEvent := h.filterMap HostExchange.event?

open NodeHistory

@[simp] theorem fleetPart_append (h h' : NodeHistory) : fleetPart (h ++ h') = fleetPart h ++ fleetPart h' :=
  List.filterMap_append

theorem HostHistory.events_append (h h' : HostHistory) :
    HostHistory.events (h ++ h') = HostHistory.events h ++ HostHistory.events h' :=
  List.filterMap_append

theorem yields_ofProcesses {α : Type} {d : ProcessDialogue α} {h : HostHistory} {a : α}
    (hy : (HostDialogue.ofProcesses d).Yields h a) :
    ∃ p, d.Yields p a ∧ HostHistory.events h = Docker.events p := by
  obtain ⟨p, hm, hd⟩ := Dialogue.yields_meet.1 hy
  refine ⟨p, hd, ?_⟩
  clear hy hd
  induction hm with
  | nil => rfl
  | @cons e p part h hpart _ ih =>
      rw [Dialogue.yields_request.1 hpart, HostHistory.events_append, ih]
      show Docker.events [e] ++ Docker.events p = Docker.events ([e] ++ p)
      exact List.filterMap_append.symm

theorem onHost_events {program : String} {r : NodeRequest} {answer : r.Answer} {h : HostHistory}
    (hy : (r.onHost program).Yields h answer)
    (hlinks : FleetHistory.IsUnlinked (fleetPart [⟨r, answer⟩])) :
    HostHistory.events h = FleetHistory.events (fleetPart [⟨r, answer⟩]) ∧
      NamesKept (fleetPart [⟨r, answer⟩]) := by
  match r with
  | .fleet (.runtime call) =>
      obtain ⟨p, hp, hevents⟩ := yields_ofProcesses hy
      obtain ⟨hanswer, hname⟩ := Docker.answer_events hp (List.forall_mem_singleton.1 hlinks)
      refine ⟨?_, List.forall_mem_singleton.2 hname⟩
      rw [hevents, hanswer]
      exact (filterMap_singleton FleetExchange.event? _).symm
  | .fleet (.publish subject batch) =>
      rw [Dialogue.yields_request.1 hy]
      exact ⟨rfl, List.forall_mem_singleton.2 trivial⟩
  | .fleet (.setCount n) =>
      rw [Dialogue.yields_request.1 hy]
      exact ⟨rfl, List.forall_mem_singleton.2 trivial⟩
  | .fleet .now =>
      rw [Dialogue.yields_request.1 hy]
      exact ⟨rfl, List.forall_mem_singleton.2 trivial⟩
  | .listen address =>
      rw [Dialogue.yields_request.1 hy]
      exact ⟨rfl, fun _ he => absurd he List.not_mem_nil⟩

/-- What the processes of a node do to containers is what its fleet has been
told. -/
theorem events_onHost {program : String} {h : NodeHistory} {h' : HostHistory}
    (hm : Dialogue.MetBy (NodeRequest.onHost program) h h')
    (hlinks : FleetHistory.IsUnlinked (fleetPart h)) :
    HostHistory.events h' = FleetHistory.events (fleetPart h) ∧ NamesKept (fleetPart h) := by
  induction hm with
  | nil => exact ⟨rfl, fun _ he => absurd he List.not_mem_nil⟩
  | @cons e h part h' hpart _ ih =>
      have hsplit : fleetPart (e :: h) = fleetPart [e] ++ fleetPart h := fleetPart_append [e] h
      rw [hsplit] at hlinks ⊢
      obtain ⟨hone, hnames⟩ := onHost_events hpart (List.forall_mem_append.1 hlinks).1
      obtain ⟨hrest, hnames'⟩ := ih (List.forall_mem_append.1 hlinks).2
      rw [HostHistory.events_append, events_append, hone, hrest]
      exact ⟨rfl, List.forall_mem_append.2 ⟨hnames, hnames'⟩⟩

end NodeKeeper
