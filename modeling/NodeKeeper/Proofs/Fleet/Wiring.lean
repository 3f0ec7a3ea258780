/-
# How agents are started and wired

A start is the end of a chain: the image is found or pulled, the agent's own
network is created, the container is started on it, and then both shared
containers are attached to it.  Each link can fail, in any position of any
batch.  Whatever the engine answers, nothing is asked of it out of turn:

    ImageAssured image h     `h` finds the image, or finds it missing and pulls it
    Orderly pull             what may be asked at any time: a start directly after
                             its image has been assured, a pull if it is allowed
    s.Permits                what requests may ask: a start only of an agent, on the
                             network just made for it, and attachments of the
                             shared containers only
    s.Links agent n c h      `h` creates the agent's network `n`, starts its
                             container `c` on it, and attaches both shared containers

`AlwaysAllowed` says that each exchange of a history is allowed by those before
it.  A permission that more past does not take away is kept by appending
histories (`AlwaysAllowed.append`), so there is one lemma for each operation.
-/
import NodeKeeper.Proofs.Fleet.RunningStatus

namespace NodeKeeper

open FleetExchange FleetHistory

/-! ## Histories in which nothing is out of turn -/

/-- Every exchange is allowed by what has passed before it. -/
def AlwaysAllowed (Allowed : FleetHistory → FleetExchange → Prop) (h : FleetHistory) : Prop :=
  ∀ before e after, h = before ++ e :: after → Allowed before e

/-- More past takes no permission away. -/
def Lasting (Allowed : FleetHistory → FleetExchange → Prop) : Prop :=
  ∀ more before e, Allowed before e → Allowed (more ++ before) e

section AlwaysAllowed

variable {Allowed Allowed' : FleetHistory → FleetExchange → Prop} {h h' : FleetHistory}

theorem alwaysAllowed_nil : AlwaysAllowed Allowed [] := by
  intro before e after heq
  exact nomatch (List.append_eq_nil_iff.1 heq.symm).2

theorem AlwaysAllowed.left (ha : AlwaysAllowed Allowed (h ++ h')) : AlwaysAllowed Allowed h := by
  intro before e after heq
  exact ha before e (after ++ h') (by rw [heq, List.append_assoc, List.cons_append])

theorem AlwaysAllowed.mono (ha : AlwaysAllowed Allowed h)
    (himp : ∀ before e, Allowed before e → Allowed' before e) : AlwaysAllowed Allowed' h :=
  fun before e after heq => himp before e (ha before e after heq)

theorem AlwaysAllowed.snoc {e : FleetExchange} (ha : AlwaysAllowed Allowed h) (he : Allowed h e) :
    AlwaysAllowed Allowed (h ++ [e]) := by
  intro before e' after heq
  rcases snoc_eq_split_iff.1 heq with ⟨_, rfl, rfl⟩ | ⟨rest, _, hh⟩
  · exact he
  · exact ha before e' rest hh

theorem AlwaysAllowed.append_free (ha : AlwaysAllowed Allowed h)
    (hfree : ∀ e ∈ h', ∀ before, Allowed before e) : AlwaysAllowed Allowed (h ++ h') := by
  induction h' generalizing h with
  | nil => rw [List.append_nil]; exact ha
  | cons e h' ih =>
      rw [← List.singleton_append, ← List.append_assoc]
      obtain ⟨he, hrest⟩ := List.forall_mem_cons.1 hfree
      exact ih (ha.snoc (he h)) hrest

theorem alwaysAllowed_of_free (hfree : ∀ e ∈ h, ∀ before, Allowed before e) :
    AlwaysAllowed Allowed h := by
  rw [← List.nil_append h]
  exact alwaysAllowed_nil.append_free hfree

theorem AlwaysAllowed.append (hlasting : Lasting Allowed) (ha : AlwaysAllowed Allowed h)
    (ha' : AlwaysAllowed Allowed h') : AlwaysAllowed Allowed (h ++ h') := by
  intro before e after heq
  rcases append_eq_split_iff.1 heq with ⟨m, hm, _⟩ | ⟨m, rfl, htail⟩
  · exact ha before e m hm
  · exact hlasting h m e (ha' m e after htail)

end AlwaysAllowed

/-! ## What is called for -/

/-- The image has been found, or has been found missing and pulled. -/
def ImageAssured (image : String) (h : FleetHistory) : Prop :=
  h = [answered (.hasImage image) (.ok true)] ∨
    h = [answered (.hasImage image) (.ok false), answered (.pullImage image) (.ok ())]

/-- A start comes directly after its image has been assured, or with the creation
of its network in between; there is no pull unless pulling is allowed. -/
def Orderly (pull : Bool) (before : FleetHistory) (e : FleetExchange) : Prop :=
  match e.request with
  | .runtime (.pullImage _) => pull = true
  | .runtime (.start spec) => ∃ earlier checks, ImageAssured spec.image checks ∧
      (before = earlier ++ checks ∨
        before = earlier ++ (checks ++ [answered (.createNetwork spec.name) (.ok spec.network)]))
  | _ => True

/-- On behalf of requests only agents are started, each on the network that has
just been created under its container's name and on no other, and only the
shared containers are attached to networks. -/
def Supervisor.Permits (s : Supervisor) (before : FleetHistory) (e : FleetExchange) : Prop :=
  match e.request with
  | .runtime (.pullImage _) => s.policy.pullImages = true
  | .runtime (.start spec) => ∃ (agent : Agent) (earlier checks : FleetHistory),
      ImageAssured agent.image checks ∧
      before = earlier ++
        (checks ++ [answered (.createNetwork agent.containerName) (.ok spec.network)]) ∧
      spec.name = agent.containerName ∧ spec.image = agent.image ∧ spec.linkedNetworks = []
  | .runtime (.attach container _) => container = s.scanner.id ∨ container = s.jsonRpc.id
  | _ => True

/-- The agent's network has been created, its container has been started on it,
and after that both shared containers have been attached to it. -/
def Supervisor.Links (s : Supervisor) (agent : Agent) (network : String) (handle : Handle)
    (h : FleetHistory) : Prop :=
  ∃ before how how' after, h = before ++
    answered (.createNetwork agent.containerName) (.ok network) ::
      started (s.agentSpec agent network) handle :: attached s.scanner.id network how ::
        attached s.jsonRpc.id network how' :: after

/-- Every agent's record tells of a container that has been linked. -/
def Supervisor.AllLinked (s : Supervisor) (table : FleetTable) (h : FleetHistory) : Prop :=
  ∀ record ∈ table.snapshot, ∀ agent, record.role = .agent agent →
    ∃ network, record.network = some network ∧ s.Links agent network record.handle h

/-- A started container has been put on the network: with its start, or by an
attachment. -/
def OnNetwork (h : FleetHistory) (spec : ContainerSpec) (handle : Handle) (network : String) :
    Prop :=
  network = spec.network ∨ network ∈ spec.linkedNetworks ∨
    ∃ how, attached handle.id network how ∈ h

theorem orderly_lasting (pull : Bool) : Lasting (Orderly pull) := by
  intro more before e he
  unfold Orderly at he ⊢
  split
  · next image heq => rw [heq] at he; exact he
  · next spec heq =>
    rw [heq] at he
    obtain ⟨earlier, checks, himage, hbefore | hbefore⟩ := he
    · exact ⟨more ++ earlier, checks, himage, .inl (by rw [hbefore, List.append_assoc])⟩
    · exact ⟨more ++ earlier, checks, himage, .inr (by rw [hbefore, List.append_assoc])⟩
  · trivial

namespace Supervisor

variable {s : Supervisor} {table table' : FleetTable} {h h' : FleetHistory}

theorem permits_lasting (s : Supervisor) : Lasting s.Permits := by
  intro more before e he
  unfold Permits at he ⊢
  split
  · next image heq => rw [heq] at he; exact he
  · next spec heq =>
    rw [heq] at he
    obtain ⟨agent, earlier, checks, himage, hbefore, hspec⟩ := he
    exact ⟨agent, more ++ earlier, checks, himage, by rw [hbefore, List.append_assoc], hspec⟩
  · next heq => rw [heq] at he; exact he
  · trivial

theorem Permits.orderly {before : FleetHistory} {e : FleetExchange} (he : s.Permits before e) :
    Orderly s.policy.pullImages before e := by
  unfold Permits at he
  unfold Orderly
  split
  · next heq => rw [heq] at he; exact he
  · next spec heq =>
    rw [heq] at he
    obtain ⟨agent, earlier, checks, himage, hbefore, hname, himg, _⟩ := he
    exact ⟨earlier, checks, by rw [himg]; exact himage, .inr (by rw [hname]; exact hbefore)⟩
  · trivial

/-! ## One operation after the other -/

theorem EnsuresImage.assured {label image : String} {pull : Bool}
    (he : EnsuresImage label image pull h (.ok ())) : ImageAssured image h := by
  cases he with
  | present => exact .inl rfl
  | pulled _ => exact .inr rfl

theorem EnsuresImage.mem_cases {label image : String} {pull : Bool} {r : Except FleetError Unit}
    (hi : EnsuresImage label image pull h r) {e : FleetExchange} (he : e ∈ h) :
    e.request = .runtime (.hasImage image) ∨
      (e.request = .runtime (.pullImage image) ∧ pull = true) := by
  cases hi with
  | unknown cause =>
      obtain rfl := List.mem_singleton.1 he
      exact .inl rfl
  | present =>
      obtain rfl := List.mem_singleton.1 he
      exact .inl rfl
  | notLocal _ =>
      obtain rfl := List.mem_singleton.1 he
      exact .inl rfl
  | notPulled cause hp =>
      rcases List.mem_cons.1 he with rfl | he
      · exact .inl rfl
      · obtain rfl := List.mem_singleton.1 he
        exact .inr ⟨rfl, hp⟩
  | pulled hp =>
      rcases List.mem_cons.1 he with rfl | he
      · exact .inl rfl
      · obtain rfl := List.mem_singleton.1 he
        exact .inr ⟨rfl, hp⟩

theorem EnsuresImage.orderly {label image : String} {pull : Bool} {r : Except FleetError Unit}
    (hi : EnsuresImage label image pull h r) : AlwaysAllowed (Orderly pull) h := by
  refine alwaysAllowed_of_free fun e he before => ?_
  unfold Orderly
  rcases hi.mem_cases he with heq | ⟨heq, hp⟩
  · rw [heq]; trivial
  · rw [heq]; exact hp

theorem EnsuresImage.permitted {label image : String} {r : Except FleetError Unit}
    (hi : EnsuresImage label image s.policy.pullImages h r) : AlwaysAllowed s.Permits h := by
  refine alwaysAllowed_of_free fun e he before => ?_
  unfold Permits
  rcases hi.mem_cases he with heq | ⟨heq, hp⟩
  · rw [heq]; trivial
  · rw [heq]; exact hp

/-- A shared container is started directly after its image has been assured. -/
theorem StartsShared.orderly {policy : FleetPolicy} {shared : SharedContainer} {network : String}
    {r : Except FleetError Handle} (hs : StartsShared policy shared network h r) :
    AlwaysAllowed (Orderly policy.pullImages) h := by
  cases hs with
  | noImage hi => exact hi.orderly
  | @notStarted h cause hi => exact hi.orderly.snoc ⟨[], h, hi.assured, .inl rfl⟩
  | @started h handle hi => exact hi.orderly.snoc ⟨[], h, hi.assured, .inl rfl⟩

/-- To record the shared containers the time is asked and the count is set. -/
theorem orderly_of_adopt {policy : FleetPolicy} {scanner jsonRpc : Handle}
    {r : Supervisor × FleetTable} {pull : Bool} (ha : (adopt policy scanner jsonRpc).Yields h r) :
    ∀ e ∈ h, ∀ before, Orderly pull before e := by
  obtain ⟨_, _, _, rfl⟩ := yields_adopt.1 ha
  refine List.forall_mem_cons.2 ⟨fun _ => trivial, List.forall_mem_cons.2 ⟨fun _ => trivial, ?_⟩⟩
  exact List.forall_mem_singleton.2 fun _ => trivial

theorem Launches.orderly {policy : FleetPolicy} {infra : Infrastructure}
    {r : Except FleetError (Supervisor × FleetTable)} (hl : Launches policy infra h r) :
    AlwaysAllowed (Orderly policy.pullImages) h := by
  have hlasting := orderly_lasting policy.pullImages
  have hnet (answer : (RuntimeCall.createNetwork infra.networkName).Answer) :
      AlwaysAllowed (Orderly policy.pullImages)
        [answered (.createNetwork infra.networkName) answer] :=
    alwaysAllowed_of_free (List.forall_mem_singleton.2 fun _ => trivial)
  cases hl with
  | noNetwork cause => exact hnet (.error cause)
  | noScanner network hs => exact (hnet (.ok network)).append hlasting hs.orderly
  | noProxy network answer hs hp =>
      refine (hnet (.ok network)).append hlasting (hs.orderly.append hlasting ?_)
      exact hp.orderly.append_free (List.forall_mem_singleton.2 fun _ => trivial)
  | launched network hs hp ha =>
      refine (hnet (.ok network)).append hlasting (hs.orderly.append hlasting ?_)
      exact hp.orderly.append_free (orderly_of_adopt ha)

theorem Attaches.mem_cases {network : String} {cs : List Handle} {r : Except FleetError Unit}
    (ha : Attaches network cs h r) {e : FleetExchange} (he : e ∈ h) :
    ∃ c ∈ cs, e.request = .runtime (.attach c.id network) := by
  induction ha with
  | nil => exact absurd he List.not_mem_nil
  | failed c rest cause =>
      obtain rfl := List.mem_singleton.1 he
      exact ⟨c, List.mem_cons_self, rfl⟩
  | cons c how _ ih =>
      rcases List.mem_cons.1 he with rfl | he
      · exact ⟨c, List.mem_cons_self, rfl⟩
      · obtain ⟨c', hc', heq⟩ := ih he
        exact ⟨c', List.mem_cons_of_mem _ hc', heq⟩

theorem Attaches.permits {network : String} {r : Except FleetError Unit}
    (ha : Attaches network [s.scanner, s.jsonRpc] h r) :
    ∀ e ∈ h, ∀ before, s.Permits before e := by
  intro e he before
  obtain ⟨c, hc, heq⟩ := ha.mem_cases he
  unfold Permits
  rw [heq]
  rcases List.mem_cons.1 hc with rfl | hc
  · exact .inl rfl
  · obtain rfl := List.mem_singleton.1 hc
    exact .inr rfl

/-- The chain up to the start, whatever the start is answered. -/
theorem permitted_start {agent : Agent} {label : String} (network : String)
    (answer : (RuntimeCall.start (s.agentSpec agent network)).Answer)
    (hi : EnsuresImage label agent.image s.policy.pullImages h (.ok ())) :
    AlwaysAllowed s.Permits (h ++ [answered (.createNetwork agent.containerName) (.ok network)] ++
      [answered (.start (s.agentSpec agent network)) answer]) := by
  have hnet : s.Permits h (answered (.createNetwork agent.containerName) (.ok network)) := trivial
  exact (hi.permitted.snoc hnet).snoc ⟨agent, [], h, hi.assured, rfl, rfl, rfl, rfl⟩

theorem StartsAgent.permitted {agent : Agent} {r : Except FleetError ContainerRecord}
    (hs : StartsAgent s agent h r) : AlwaysAllowed s.Permits h := by
  cases hs with
  | noImage hi => exact hi.permitted
  | noNetwork cause hi => exact hi.permitted.snoc trivial
  | notStarted network cause hi =>
      have hp := permitted_start network (.error cause) hi
      rw [List.append_assoc] at hp
      exact hp
  | @notAttached h links network handle e answer hi ha =>
      have hp := permitted_start network (.ok handle) hi
      rw [List.append_assoc] at hp
      have hfree : ∀ e ∈ links ++ [answered (.stop handle.id) answer], ∀ before,
          s.Permits before e :=
        List.forall_mem_append.2 ⟨ha.permits, List.forall_mem_singleton.2 fun _ => trivial⟩
      have hall := hp.append_free hfree
      rw [List.append_assoc] at hall
      exact hall
  | @recorded h links network handle time hi ha =>
      have hp := permitted_start network (.ok handle) hi
      rw [List.append_assoc] at hp
      have hfree : ∀ e ∈ links ++ [⟨.now, time⟩], ∀ before, s.Permits before e :=
        List.forall_mem_append.2 ⟨ha.permits, List.forall_mem_singleton.2 fun _ => trivial⟩
      have hall := hp.append_free hfree
      rw [List.append_assoc] at hall
      exact hall

theorem RunsAgents.permitted {batch : List Agent} (hr : RunsAgents s table batch h table') :
    AlwaysAllowed s.Permits h := by
  induction hr with
  | nil _ => exact alwaysAllowed_nil
  | cons hone _ ih =>
      refine AlwaysAllowed.append s.permits_lasting ?_ ih
      cases hone with
      | running _ => exact alwaysAllowed_of_free (List.forall_mem_singleton.2 fun _ => trivial)
      | failed _ hs => exact hs.permitted
      | started _ hs => exact hs.permitted.snoc trivial

theorem StopsAgents.permits {batch agents : List Agent} {ids : List String}
    {r : Except FleetError (List String × List Agent)}
    (hs : StopsAgents table batch ids agents h r) : ∀ e ∈ h, ∀ before, s.Permits before e := by
  induction hs with
  | nil _ _ => exact fun _ hm => absurd hm List.not_mem_nil
  | absent _ _ ih => exact ih
  | repeated _ _ _ ih => exact ih
  | failed _ _ _ => exact List.forall_mem_singleton.2 fun _ => trivial
  | stopped _ _ _ ih => exact List.forall_mem_cons.2 ⟨fun _ => trivial, ih⟩

theorem StopsEach.permits {records : List ContainerRecord} (hs : StopsEach records h) :
    ∀ e ∈ h, ∀ before, s.Permits before e := by
  induction hs with
  | nil => exact fun _ hm => absurd hm List.not_mem_nil
  | cons _ _ _ ih => exact List.forall_mem_cons.2 ⟨fun _ => trivial, ih⟩

theorem ServesRequest.permitted {request : SupervisorRequest} {answer : SupervisorAnswer}
    (hs : ServesRequest s table request h answer table') : AlwaysAllowed s.Permits h := by
  cases hs with
  | run hr => exact hr.permitted.snoc trivial
  | stop hs =>
      refine alwaysAllowed_of_free ?_
      cases hs with
      | aborted hs => exact hs.permits
      | nothing _ => exact List.forall_mem_singleton.2 fun _ => trivial
      | completed _ hs =>
          refine List.forall_mem_append.2 ⟨hs.permits, List.forall_mem_cons.2 ⟨fun _ => trivial, ?_⟩⟩
          exact List.forall_mem_singleton.2 fun _ => trivial
  | containers => exact alwaysAllowed_nil
  | shutdown hs =>
      exact alwaysAllowed_of_free (List.forall_mem_cons.2 ⟨fun _ => trivial, hs.permits⟩)

theorem Serves.permitted {calls : List ServedCall} (hs : s.Serves table calls table') :
    AlwaysAllowed s.Permits (ofCalls calls) := by
  induction hs with
  | nil => exact alwaysAllowed_nil
  | snoc _ hy ih =>
      rw [ofCalls_append, ofCalls_singleton]
      exact ih.append s.permits_lasting (yields_serve.1 hy).permitted

theorem Opens.orderly {given : List String} (ho : s.Opens given h table) :
    AlwaysAllowed (Orderly s.policy.pullImages) h := by
  cases ho with
  | adopted ha => exact alwaysAllowed_of_free (orderly_of_adopt ha)
  | launched hl => exact (yields_launch.1 hl).orderly

/-! ## Records and reports -/

theorem Links.append_right {agent : Agent} {network : String} {handle : Handle}
    (hl : s.Links agent network handle h) (h' : FleetHistory) :
    s.Links agent network handle (h ++ h') := by
  obtain ⟨before, how, how', after, rfl⟩ := hl
  exact ⟨before, how, how', after ++ h', by simp only [List.append_assoc, List.cons_append]⟩

theorem Links.append_left {agent : Agent} {network : String} {handle : Handle}
    (hl : s.Links agent network handle h) (h' : FleetHistory) :
    s.Links agent network handle (h' ++ h) := by
  obtain ⟨before, how, how', after, rfl⟩ := hl
  exact ⟨h' ++ before, how, how', after, (List.append_assoc ..).symm⟩

theorem StartsAgent.links {agent : Agent} {record : ContainerRecord}
    (hs : StartsAgent s agent h (.ok record)) :
    record.role = .agent agent ∧
      ∃ network, record.network = some network ∧ s.Links agent network record.handle h := by
  cases hs with
  | @recorded h links network handle time _ ha =>
      cases ha with
      | cons _ how ha =>
          cases ha with
          | cons _ how' ha =>
              cases ha with
              | nil => exact ⟨rfl, network, rfl, h, how, how', [⟨.now, time⟩], rfl⟩

theorem AllLinked.append {h : FleetHistory} (ha : s.AllLinked table h) (h' : FleetHistory) :
    s.AllLinked table (h ++ h') := by
  intro record hr agent hrole
  obtain ⟨network, hn, hl⟩ := ha record hr agent hrole
  exact ⟨network, hn, hl.append_right h'⟩

theorem RunsAgents.allLinked {batch : List Agent} (hr : RunsAgents s table batch h table')
    {past : FleetHistory} (ha : s.AllLinked table past) : s.AllLinked table' (past ++ h) := by
  induction hr generalizing past with
  | nil _ => rw [List.append_nil]; exact ha
  | @cons table t₁ t₂ agent rest h₁ h₂ hone _ ih =>
      rw [← List.append_assoc]
      refine ih ?_
      cases hone with
      | running _ => exact ha.append _
      | failed _ _ => exact ha.append _
      | started _ hs =>
          intro record hrec agent' hrole
          rcases FleetTable.mem_snapshot_of_mem_insert hrec with rfl | hold
          · obtain ⟨hagent, network, hn, hl⟩ := hs.links
            obtain rfl := Role.agent.inj (hagent.symm.trans hrole)
            exact ⟨network, hn, (hl.append_right _).append_left past⟩
          · exact ha.append _ record hold agent' hrole

theorem ServesRequest.allLinked {request : SupervisorRequest} {answer : SupervisorAnswer}
    (hs : ServesRequest s table request h answer table') {past : FleetHistory}
    (ha : s.AllLinked table past) : s.AllLinked table' (past ++ h) := by
  cases hs with
  | run hr =>
      rw [← List.append_assoc]
      exact (hr.allLinked ha).append _
  | stop hs =>
      cases hs with
      | aborted _ => exact ha.append _
      | nothing _ =>
          exact fun record hr => ha.append _ record (FleetTable.mem_snapshot_removeIds.1 hr).1
      | completed _ _ =>
          exact fun record hr => ha.append _ record (FleetTable.mem_snapshot_removeIds.1 hr).1
  | containers => exact ha.append _
  | shutdown _ => exact fun record hr => absurd hr List.not_mem_nil

theorem Serves.allLinked {calls : List ServedCall} (hs : s.Serves table calls table')
    {past : FleetHistory} (ha : s.AllLinked table past) :
    s.AllLinked table' (past ++ ofCalls calls) := by
  induction hs with
  | nil => exact ha.append _
  | snoc _ hy ih =>
      rw [ofCalls_append, ofCalls_singleton, ← List.append_assoc]
      exact (yields_serve.1 hy).allLinked ih

/-- At first there are no agents. -/
theorem Opens.allLinked {given : List String} (ho : s.Opens given h table) :
    s.AllLinked table h := by
  obtain ⟨_, _, rfl, -, -⟩ := ho.shared
  intro record hr agent hrole
  rcases cases_initialTable hr with rfl | rfl
  · exact nomatch hrole
  · exact nomatch hrole

/-! ## Networks -/

theorem network_of_started {spec : ContainerSpec} {handle : Handle}
    (hp : AlwaysAllowed s.Permits h) (hm : started spec handle ∈ h) :
    spec.linkedNetworks = [] ∧
      answered (.createNetwork spec.name) (.ok spec.network) ∈ h := by
  obtain ⟨before, after, rfl⟩ := List.append_of_mem hm
  obtain ⟨agent, earlier, checks, _, hbefore, hname, _, hlinked⟩ := hp before _ after rfl
  refine ⟨hlinked, List.mem_append_left _ ?_⟩
  rw [hbefore, hname]
  exact List.mem_append_right _ (List.mem_append_right _ (List.mem_singleton_self _))

/-- Where different names are given different networks, containers with
different names have no network in common, unless the engine has given one of
them the id of a shared container. -/
theorem networks_apart {spec spec' : ContainerSpec} {handle handle' : Handle} {network : String}
    (hp : AlwaysAllowed s.Permits h)
    (hdistinct : ∀ name name' network, answered (.createNetwork name) (.ok network) ∈ h →
      answered (.createNetwork name') (.ok network) ∈ h → name = name')
    (hm : started spec handle ∈ h) (hm' : started spec' handle' ∈ h) (hne : spec.name ≠ spec'.name)
    (hon : OnNetwork h spec handle network) (hon' : OnNetwork h spec' handle' network) :
    (handle.id = s.scanner.id ∨ handle.id = s.jsonRpc.id) ∨
      (handle'.id = s.scanner.id ∨ handle'.id = s.jsonRpc.id) := by
  have hcases : ∀ {spec : ContainerSpec} {handle : Handle}, started spec handle ∈ h →
      OnNetwork h spec handle network →
      network = spec.network ∨ (handle.id = s.scanner.id ∨ handle.id = s.jsonRpc.id) := by
    intro spec handle hm hon
    rcases hon with heq | hlinked | ⟨how, hatt⟩
    · exact .inl heq
    · rw [(network_of_started hp hm).1] at hlinked
      exact absurd hlinked List.not_mem_nil
    · obtain ⟨before, after, hh⟩ := List.append_of_mem hatt
      exact .inr (hp before _ after hh)
  rcases hcases hm hon with heq | hshared
  · rcases hcases hm' hon' with heq' | hshared
    · -- the same network has been created under both names
      have hnet := (network_of_started hp hm).2
      have hnet' := (network_of_started hp hm').2
      rw [← heq] at hnet
      rw [← heq'] at hnet'
      exact absurd (hdistinct _ _ _ hnet hnet') hne
    · exact .inr hshared
  · exact .inl hshared

end Supervisor

/-! ## At every moment -/

/-- **Start discipline and wiring.**  At every moment of a supervisor's life,
whatever the engine has answered:

* while the shared containers are started and ever after, a start comes directly
  after its image has been found or pulled, and nothing is pulled unless the
  policy allows it;
* requests start agents only, each on the one network just created under its own
  name, and attach the shared containers only;
* every record of an agent, also while a batch is being run, tells of a container
  started on the agent's network with both shared containers attached since;
* a report that an agent runs is on one found recorded, or on one that has been
  started and linked so right before;
* where different names are given different networks, agents with different
  container names have no network in common (an engine that gives an agent the id
  of a shared container aside). -/
theorem starts_in_order {s : Supervisor} {given : List String} {opening h : FleetHistory}
    {table table' : FleetTable} {calls : List ServedCall} {request : SupervisorRequest}
    {rest : FleetDialogue (SupervisorAnswer × FleetTable)}
    (hopen : s.Opens given opening table) (hserves : s.Serves table calls table')
    (hpart : (s.serve request table').Leads h rest) :
    (∀ infra h' rest', (Supervisor.launch s.policy infra).Leads h' rest' →
      AlwaysAllowed (Orderly s.policy.pullImages) h') ∧
    AlwaysAllowed (Orderly s.policy.pullImages) (opening ++ ofCalls calls ++ h) ∧
    AlwaysAllowed s.Permits (ofCalls calls ++ h) ∧
    (∀ batch hb t, s.RunsAgents table' batch hb t →
      s.AllLinked t (opening ++ ofCalls calls ++ hb)) ∧
    (∀ before agents, h = before ++ [published Subject.agentsRunning agents] →
      ∃ earlier d later t hb ha, request = .run (earlier ++ d :: later) ∧ agents = [d] ∧
        before = hb ++ ha ∧ s.RunsAgents table' earlier hb t ∧
        (t.contains d.containerName = true ∨ ∃ network handle, s.Links d network handle ha)) ∧
    ((∀ name name' network,
        answered (.createNetwork name) (.ok network) ∈ ofCalls calls ++ h →
        answered (.createNetwork name') (.ok network) ∈ ofCalls calls ++ h → name = name') →
      ∀ spec spec' handle handle' network, started spec handle ∈ ofCalls calls ++ h →
        started spec' handle' ∈ ofCalls calls ++ h → spec.name ≠ spec'.name →
        OnNetwork (ofCalls calls ++ h) spec handle network →
        OnNetwork (ofCalls calls ++ h) spec' handle' network →
        (handle.id = s.scanner.id ∨ handle.id = s.jsonRpc.id) ∨
          (handle'.id = s.scanner.id ∨ handle'.id = s.jsonRpc.id)) := by
  -- what is under way is brought to an end, so that it is one of the known ways
  obtain ⟨h', ⟨answer, table''⟩, hy, _, _⟩ := exists_yields_no_start rest
  have hserve := Supervisor.yields_serve.1 (Dialogue.leads_append.2 ⟨rest, hpart, hy⟩)
  have hpermits : AlwaysAllowed s.Permits (ofCalls calls ++ h) :=
    hserves.permitted.append s.permits_lasting hserve.permitted.left
  have horderly : AlwaysAllowed (Orderly s.policy.pullImages) (ofCalls calls ++ h) :=
    hpermits.mono fun _ _ hp => hp.orderly
  refine ⟨?_, ?_, hpermits, ?_, ?_, ?_⟩
  · intro infra h₁ rest₁ hl
    obtain ⟨h₂, r, hy₂, _, _⟩ := exists_yields_no_start rest₁
    have hlaunch := Supervisor.yields_launch.1 (Dialogue.leads_append.2 ⟨rest₁, hl, hy₂⟩)
    exact hlaunch.orderly.left
  · rw [List.append_assoc]
    exact hopen.orderly.append (orderly_lasting _) horderly
  · intro batch hb t hr
    exact hr.allLinked (hserves.allLinked hopen.allLinked)
  · rintro before agents rfl
    rw [List.append_assoc, List.singleton_append] at hserve
    obtain ⟨earlier, d, later, t, t', hb, ha, hrequest, hbefore, hruns, hone⟩ :=
      hserve.split_published
    obtain ⟨_, _, hagents, hcase⟩ := hone.cases_published
    refine ⟨earlier, d, later, t, hb, ha, hrequest, hagents, hbefore, hruns, ?_⟩
    rcases hcase with ⟨hc, _⟩ | ⟨_, record, hs, _⟩
    · exact .inl hc
    · obtain ⟨_, network, _, hl⟩ := hs.links
      exact .inr ⟨network, record.handle, hl⟩
  · intro hdistinct spec spec' handle handle' network hm hm' hne hon hon'
    exact Supervisor.networks_apart hpermits hdistinct hm hm' hne hon hon'

/-- Two agents have been started, and the first is asked for again. -/
theorem starts_in_order_again :
    ∃ record network, AbortedStop.started.2.1.get? AbortedStop.first.containerName = some record ∧
      record.network = some network ∧
      AbortedStop.supervisor.Links AbortedStop.first network record.handle
        (AbortedStop.opening ++ ofCalls [AbortedStop.started.1] ++ []) := by
  have hrecorded : AbortedStop.started.2.1.contains AbortedStop.first.containerName = true := by
    decide +kernel
  obtain ⟨rest, hpart⟩ := leads_report (s := AbortedStop.supervisor) hrecorded []
  obtain ⟨_, _, _, hlinked, _, _⟩ :=
    starts_in_order AbortedStop.opens AbortedStop.serves_started hpart
  obtain ⟨record, hget⟩ := FleetTable.contains_eq_true_iff.1 hrecorded
  have hrole : (AbortedStop.started.2.1.get? AbortedStop.first.containerName).map (·.role) =
      some (.agent AbortedStop.first) := by
    decide +kernel
  rw [hget] at hrole
  obtain ⟨network, hn, hl⟩ := hlinked [] [] _ (.nil _) record
    (FleetTable.mem_snapshot_of_get? hget).1 AbortedStop.first (Option.some.inj hrole)
  exact ⟨record, network, hget, hn, hl⟩

end NodeKeeper
