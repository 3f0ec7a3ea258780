/-
# What the supervisor's operations can do

One relation for each operation, with a constructor for each way it can go: the
exchanges in order, and the result.  Each is equivalent to having that history
(`yields_ensureImage`, `yields_attachAll`, `yields_startAgent`, ...), so a
statement about an operation is one case for each constructor, and nothing has
to open the operation itself.
-/
import NodeKeeper.Proofs.Fleet.Exchanges

namespace NodeKeeper

open FleetExchange

namespace FleetDialogue

variable {β : Type} {h : FleetHistory} {b : β}

/-! ## Single requests -/

theorem yields_call_bind {c : RuntimeCall} {f : c.Answer → FleetDialogue β} :
    (call c >>= f).Yields h b ↔
      ∃ answer rest, h = answered c answer :: rest ∧ (f answer).Yields rest b :=
  Dialogue.yields_ask

theorem yields_publish_bind {subject : String} {batch : List Agent} {f : Unit → FleetDialogue β} :
    (publish subject batch >>= f).Yields h b ↔
      ∃ rest, h = published subject batch :: rest ∧ (f ()).Yields rest b := by
  refine Dialogue.yields_ask.trans ⟨?_, ?_⟩
  · rintro ⟨⟨⟩, rest, rfl, hf⟩; exact ⟨rest, rfl, hf⟩
  · rintro ⟨rest, rfl, hf⟩; exact ⟨(), rest, rfl, hf⟩

theorem yields_setCount_bind {n : Nat} {f : Unit → FleetDialogue β} :
    (setCount n >>= f).Yields h b ↔ ∃ rest, h = counted n :: rest ∧ (f ()).Yields rest b := by
  refine Dialogue.yields_ask.trans ⟨?_, ?_⟩
  · rintro ⟨⟨⟩, rest, rfl, hf⟩; exact ⟨rest, rfl, hf⟩
  · rintro ⟨rest, rfl, hf⟩; exact ⟨(), rest, rfl, hf⟩

theorem yields_now_bind {f : Timestamp → FleetDialogue β} :
    (now >>= f).Yields h b ↔
      ∃ (time : Timestamp) (rest : FleetHistory), h = ⟨.now, time⟩ :: rest ∧ (f time).Yields rest b :=
  Dialogue.yields_ask

theorem yields_pure {a : β} : (pure a : FleetDialogue β).Yields h b ↔ h = [] ∧ b = a :=
  Dialogue.yields_done

end FleetDialogue

open FleetDialogue

namespace Supervisor

/-! ## Images -/

/-- How making sure of an image can go. -/
inductive EnsuresImage (label image : String) (pull : Bool) :
    FleetHistory → Except FleetError Unit → Prop
  | unknown (cause : RuntimeError) :
      EnsuresImage label image pull [answered (.hasImage image) (.error cause)]
        (.error (.image label image cause))
  | present : EnsuresImage label image pull [answered (.hasImage image) (.ok true)] (.ok ())
  | notLocal : pull = false →
      EnsuresImage label image pull [answered (.hasImage image) (.ok false)]
        (.error (.imageNotLocal label image))
  | notPulled (cause : RuntimeError) : pull = true →
      EnsuresImage label image pull
        [answered (.hasImage image) (.ok false), answered (.pullImage image) (.error cause)]
        (.error (.image label image cause))
  | pulled : pull = true →
      EnsuresImage label image pull
        [answered (.hasImage image) (.ok false), answered (.pullImage image) (.ok ())] (.ok ())

theorem yields_ensureImage {label image : String} {pull : Bool} {h : FleetHistory}
    {r : Except FleetError Unit} :
    (ensureImage label image pull).Yields h r ↔ EnsuresImage label image pull h r := by
  constructor
  · intro hy
    obtain ⟨answer, rest, rfl, hrest⟩ := yields_call_bind.1 hy
    match answer with
    | .error cause =>
        obtain ⟨rfl, rfl⟩ := yields_pure.1 hrest
        exact .unknown cause
    | .ok true =>
        obtain ⟨rfl, rfl⟩ := yields_pure.1 hrest
        exact .present
    | .ok false =>
        cases pull with
        | false =>
            obtain ⟨rfl, rfl⟩ := yields_pure.1 hrest
            exact .notLocal rfl
        | true =>
            obtain ⟨answer, rest, rfl, hpull⟩ := yields_call_bind.1 hrest
            match answer with
            | .error cause =>
                obtain ⟨rfl, rfl⟩ := yields_pure.1 hpull
                exact .notPulled cause rfl
            | .ok () =>
                obtain ⟨rfl, rfl⟩ := yields_pure.1 hpull
                exact .pulled rfl
  · intro he
    cases he with
    | unknown cause => exact yields_call_bind.2 ⟨.error cause, [], rfl, yields_pure.2 ⟨rfl, rfl⟩⟩
    | present => exact yields_call_bind.2 ⟨.ok true, [], rfl, yields_pure.2 ⟨rfl, rfl⟩⟩
    | notLocal hp =>
        subst hp
        exact yields_call_bind.2 ⟨.ok false, [], rfl, yields_pure.2 ⟨rfl, rfl⟩⟩
    | notPulled cause hp =>
        subst hp
        exact yields_call_bind.2 ⟨.ok false, _, rfl,
          yields_call_bind.2 ⟨.error cause, [], rfl, yields_pure.2 ⟨rfl, rfl⟩⟩⟩
    | pulled hp =>
        subst hp
        exact yields_call_bind.2 ⟨.ok false, _, rfl,
          yields_call_bind.2 ⟨.ok (), [], rfl, yields_pure.2 ⟨rfl, rfl⟩⟩⟩

theorem EnsuresImage.isQuiet {label image : String} {pull : Bool} {h : FleetHistory}
    {r : Except FleetError Unit} (he : EnsuresImage label image pull h r) :
    FleetHistory.IsQuiet h := by
  cases he with
  | unknown | present | notLocal =>
      exact FleetHistory.isQuiet_cons.2 ⟨trivial, FleetHistory.isQuiet_nil⟩
  | notPulled | pulled =>
      exact FleetHistory.isQuiet_cons.2 ⟨trivial,
        FleetHistory.isQuiet_cons.2 ⟨trivial, FleetHistory.isQuiet_nil⟩⟩

theorem EnsuresImage.publications {label image : String} {pull : Bool} {h : FleetHistory}
    {r : Except FleetError Unit} (he : EnsuresImage label image pull h r) :
    FleetHistory.publications h = [] := by
  cases he <;> rfl

/-! ## Shared containers -/

/-- How starting a shared container can go. -/
inductive StartsShared (policy : FleetPolicy) (shared : SharedContainer) (network : String) :
    FleetHistory → Except FleetError Handle → Prop
  | noImage {h : FleetHistory} {e : FleetError} :
      EnsuresImage shared.name shared.image policy.pullImages h (.error e) →
      StartsShared policy shared network h (.error e)
  | notStarted {h : FleetHistory} (cause : RuntimeError) :
      EnsuresImage shared.name shared.image policy.pullImages h (.ok ()) →
      StartsShared policy shared network (h ++ [startFailed (sharedSpec policy shared network) cause])
        (.error (.startContainer shared.name cause))
  | started {h : FleetHistory} (handle : Handle) :
      EnsuresImage shared.name shared.image policy.pullImages h (.ok ()) →
      StartsShared policy shared network
        (h ++ [FleetExchange.started (sharedSpec policy shared network) handle]) (.ok handle)

theorem StartsShared.ok_cases {policy : FleetPolicy} {shared : SharedContainer} {network : String}
    {h : FleetHistory} {handle : Handle} (hs : StartsShared policy shared network h (.ok handle)) :
    ∃ before, FleetHistory.IsQuiet before ∧
      h = before ++ [FleetExchange.started (sharedSpec policy shared network) handle] := by
  cases hs with
  | started _ himage => exact ⟨_, himage.isQuiet, rfl⟩

theorem yields_startShared {policy : FleetPolicy} {shared : SharedContainer} {network : String}
    {h : FleetHistory} {r : Except FleetError Handle} :
    (startShared policy shared network).Yields h r ↔ StartsShared policy shared network h r := by
  constructor
  · intro hy
    obtain ⟨h₁, image, h₂, rfl, himage, hy₂⟩ := Dialogue.yields_bind.1 hy
    replace himage := yields_ensureImage.1 himage
    match image with
    | .error e =>
        obtain ⟨rfl, rfl⟩ := yields_pure.1 hy₂
        rw [List.append_nil]
        exact .noImage himage
    | .ok () =>
        obtain ⟨start, h₃, rfl, hy₃⟩ := yields_call_bind.1 hy₂
        match start with
        | .error cause =>
            obtain ⟨rfl, rfl⟩ := yields_pure.1 hy₃
            exact .notStarted cause himage
        | .ok handle =>
            obtain ⟨rfl, rfl⟩ := yields_pure.1 hy₃
            exact .started handle himage
  · intro hs
    cases hs with
    | noImage himage =>
        exact Dialogue.yields_bind.2 ⟨_, _, [], (List.append_nil _).symm,
          yields_ensureImage.2 himage, yields_pure.2 ⟨rfl, rfl⟩⟩
    | notStarted cause himage =>
        exact Dialogue.yields_bind.2 ⟨_, _, _, rfl, yields_ensureImage.2 himage,
          yields_call_bind.2 ⟨.error cause, [], rfl, yields_pure.2 ⟨rfl, rfl⟩⟩⟩
    | started handle himage =>
        exact Dialogue.yields_bind.2 ⟨_, _, _, rfl, yields_ensureImage.2 himage,
          yields_call_bind.2 ⟨.ok handle, [], rfl, yields_pure.2 ⟨rfl, rfl⟩⟩⟩

theorem yields_adopt {policy : FleetPolicy} {scanner jsonRpc : Handle} {h : FleetHistory}
    {r : Supervisor × FleetTable} :
    (adopt policy scanner jsonRpc).Yields h r ↔
      ∃ scannerTime proxyTime : Timestamp,
        r = (⟨policy, scanner, jsonRpc⟩,
          initialTable ⟨policy, scanner, jsonRpc⟩ scannerTime proxyTime) ∧
        h = [⟨.now, scannerTime⟩, ⟨.now, proxyTime⟩, counted r.2.size] := by
  constructor
  · intro hy
    obtain ⟨scannerTime, rest, rfl, hy₁⟩ := yields_now_bind.1 hy
    obtain ⟨proxyTime, rest, rfl, hy₂⟩ := yields_now_bind.1 hy₁
    obtain ⟨rest, rfl, hy₃⟩ := yields_setCount_bind.1 hy₂
    obtain ⟨rfl, rfl⟩ := yields_pure.1 hy₃
    exact ⟨scannerTime, proxyTime, rfl, rfl⟩
  · rintro ⟨scannerTime, proxyTime, rfl, rfl⟩
    exact yields_now_bind.2 ⟨scannerTime, _, rfl, yields_now_bind.2 ⟨proxyTime, _, rfl,
      yields_setCount_bind.2 ⟨[], rfl, yields_pure.2 ⟨rfl, rfl⟩⟩⟩⟩

/-- How a launch can go. -/
inductive Launches (policy : FleetPolicy) (infra : Infrastructure) :
    FleetHistory → Except FleetError (Supervisor × FleetTable) → Prop
  | noNetwork (cause : RuntimeError) :
      Launches policy infra [answered (.createNetwork infra.networkName) (.error cause)]
        (.error (.network infra.networkName cause))
  | noScanner {h : FleetHistory} (network : String) {e : FleetError} :
      StartsShared policy infra.scanner network h (.error e) →
      Launches policy infra (answered (.createNetwork infra.networkName) (.ok network) :: h)
        (.error e)
  | noProxy {h h' : FleetHistory} (network : String) {scanner : Handle} {e : FleetError}
      (answer : (RuntimeCall.stop scanner.id).Answer) :
      StartsShared policy infra.scanner network h (.ok scanner) →
      StartsShared policy infra.jsonRpcProxy network h' (.error e) →
      Launches policy infra
        (answered (.createNetwork infra.networkName) (.ok network) ::
          (h ++ (h' ++ [answered (.stop scanner.id) answer])))
        (.error e)
  | launched {h h' h'' : FleetHistory} (network : String) {scanner jsonRpc : Handle}
      {r : Supervisor × FleetTable} :
      StartsShared policy infra.scanner network h (.ok scanner) →
      StartsShared policy infra.jsonRpcProxy network h' (.ok jsonRpc) →
      (adopt policy scanner jsonRpc).Yields h'' r →
      Launches policy infra
        (answered (.createNetwork infra.networkName) (.ok network) :: (h ++ (h' ++ h'')))
        (.ok r)

theorem yields_launch {policy : FleetPolicy} {infra : Infrastructure} {h : FleetHistory}
    {r : Except FleetError (Supervisor × FleetTable)} :
    (launch policy infra).Yields h r ↔ Launches policy infra h r := by
  constructor
  · intro hy
    obtain ⟨network, h₁, rfl, hy₁⟩ := yields_call_bind.1 hy
    match network with
    | .error cause =>
        obtain ⟨rfl, rfl⟩ := yields_pure.1 hy₁
        exact .noNetwork cause
    | .ok network =>
        obtain ⟨h₂, scanner, h₃, rfl, hscanner, hy₃⟩ := Dialogue.yields_bind.1 hy₁
        replace hscanner := yields_startShared.1 hscanner
        match scanner with
        | .error e =>
            obtain ⟨rfl, rfl⟩ := yields_pure.1 hy₃
            rw [List.append_nil]
            exact .noScanner network hscanner
        | .ok scanner =>
            obtain ⟨h₄, jsonRpc, h₅, rfl, hproxy, hy₅⟩ := Dialogue.yields_bind.1 hy₃
            replace hproxy := yields_startShared.1 hproxy
            match jsonRpc with
            | .error e =>
                obtain ⟨answer, h₆, rfl, hy₆⟩ := yields_call_bind.1 hy₅
                obtain ⟨rfl, rfl⟩ := yields_pure.1 hy₆
                exact .noProxy network answer hscanner hproxy
            | .ok jsonRpc =>
                obtain ⟨h₆, adopted, h₇, rfl, hadopt, hy₇⟩ := Dialogue.yields_bind.1 hy₅
                obtain ⟨rfl, rfl⟩ := yields_pure.1 hy₇
                rw [List.append_nil]
                exact .launched network hscanner hproxy hadopt
  · intro hl
    cases hl with
    | noNetwork cause => exact yields_call_bind.2 ⟨.error cause, [], rfl, yields_pure.2 ⟨rfl, rfl⟩⟩
    | noScanner network hscanner =>
        exact yields_call_bind.2 ⟨.ok network, _, rfl, Dialogue.yields_bind.2 ⟨_, _, [],
          (List.append_nil _).symm, yields_startShared.2 hscanner, yields_pure.2 ⟨rfl, rfl⟩⟩⟩
    | noProxy network answer hscanner hproxy =>
        exact yields_call_bind.2 ⟨.ok network, _, rfl, Dialogue.yields_bind.2 ⟨_, _, _, rfl,
          yields_startShared.2 hscanner, Dialogue.yields_bind.2 ⟨_, _, _, rfl,
            yields_startShared.2 hproxy,
            yields_call_bind.2 ⟨answer, [], rfl, yields_pure.2 ⟨rfl, rfl⟩⟩⟩⟩⟩
    | launched network hscanner hproxy hadopt =>
        exact yields_call_bind.2 ⟨.ok network, _, rfl, Dialogue.yields_bind.2 ⟨_, _, _, rfl,
          yields_startShared.2 hscanner, Dialogue.yields_bind.2 ⟨_, _, _, rfl,
            yields_startShared.2 hproxy, Dialogue.yields_bind.2 ⟨_, _, [],
              (List.append_nil _).symm, hadopt, yields_pure.2 ⟨rfl, rfl⟩⟩⟩⟩⟩

/-! ## Attachments -/

/-- How attaching containers to a network can go. -/
inductive Attaches (network : String) :
    List Handle → FleetHistory → Except FleetError Unit → Prop
  | nil : Attaches network [] [] (.ok ())
  | failed (c : Handle) (rest : List Handle) (cause : RuntimeError) :
      Attaches network (c :: rest) [attachFailed c.id network cause]
        (.error (.attachNetwork c.id network cause))
  | cons (c : Handle) {rest : List Handle} (how : Attachment) {h : FleetHistory}
      {r : Except FleetError Unit} :
      Attaches network rest h r →
      Attaches network (c :: rest) (attached c.id network how :: h) r

theorem yields_attachAll {network : String} {cs : List Handle} {h : FleetHistory}
    {r : Except FleetError Unit} :
    (attachAll network cs).Yields h r ↔ Attaches network cs h r := by
  constructor
  · induction cs generalizing h with
    | nil =>
        intro hy
        obtain ⟨rfl, rfl⟩ := yields_pure.1 hy
        exact .nil
    | cons c rest ih =>
        intro hy
        obtain ⟨answer, tail, rfl, htail⟩ := yields_call_bind.1 hy
        match answer with
        | .error cause =>
            obtain ⟨rfl, rfl⟩ := yields_pure.1 htail
            exact .failed c rest cause
        | .ok how => exact .cons c how (ih htail)
  · intro ha
    induction ha with
    | nil => exact yields_pure.2 ⟨rfl, rfl⟩
    | failed c rest cause =>
        exact yields_call_bind.2 ⟨.error cause, [], rfl, yields_pure.2 ⟨rfl, rfl⟩⟩
    | cons c how _ ih => exact yields_call_bind.2 ⟨.ok how, _, rfl, ih⟩

/-- Attachments succeed up to the first failure, which is the last. -/
theorem Attaches.cases_links {network : String} {cs : List Handle} {h : FleetHistory}
    {r : Except FleetError Unit} (ha : Attaches network cs h r) :
    ∃ links, (∀ e ∈ links, ∃ container how, e = attached container network how) ∧
      ((r = .ok () ∧ h = links) ∨
        ∃ container cause, r = .error (.attachNetwork container network cause) ∧
          h = links ++ [attachFailed container network cause]) := by
  induction ha with
  | nil => exact ⟨[], fun _ h => absurd h List.not_mem_nil, .inl ⟨rfl, rfl⟩⟩
  | failed c rest cause =>
      exact ⟨[], fun _ h => absurd h List.not_mem_nil, .inr ⟨c.id, cause, rfl, rfl⟩⟩
  | cons c how _ ih =>
      obtain ⟨links, hlinks, hr⟩ := ih
      refine ⟨attached c.id network how :: links, List.forall_mem_cons.2 ⟨⟨_, how, rfl⟩, hlinks⟩, ?_⟩
      rcases hr with ⟨rfl, rfl⟩ | ⟨container, cause, rfl, rfl⟩
      · exact .inl ⟨rfl, rfl⟩
      · exact .inr ⟨container, cause, rfl, rfl⟩

theorem Attaches.publications {network : String} {cs : List Handle} {h : FleetHistory}
    {r : Except FleetError Unit} (ha : Attaches network cs h r) :
    FleetHistory.publications h = [] := by
  induction ha with
  | nil => rfl
  | failed _ _ _ => rfl
  | cons _ _ _ ih => exact ih

theorem isQuiet_links {network : String} {links : FleetHistory}
    (h : ∀ e ∈ links, ∃ container how, e = attached container network how) :
    FleetHistory.IsQuiet links := by
  intro e he
  obtain ⟨container, how, rfl⟩ := h e he
  trivial

/-! ## Starting an agent -/

/-- How starting an agent can go: it fails before its container is started, it
fails after that and the container is stopped again, or it succeeds. -/
inductive StartsAgent (s : Supervisor) (agent : Agent) :
    FleetHistory → Except FleetError ContainerRecord → Prop
  | noImage {h : FleetHistory} {e : FleetError} :
      EnsuresImage ("agent " ++ agent.id) agent.image s.policy.pullImages h (.error e) →
      StartsAgent s agent h (.error e)
  | noNetwork {h : FleetHistory} (cause : RuntimeError) :
      EnsuresImage ("agent " ++ agent.id) agent.image s.policy.pullImages h (.ok ()) →
      StartsAgent s agent (h ++ [answered (.createNetwork agent.containerName) (.error cause)])
        (.error (.network agent.containerName cause))
  | notStarted {h : FleetHistory} (network : String) (cause : RuntimeError) :
      EnsuresImage ("agent " ++ agent.id) agent.image s.policy.pullImages h (.ok ()) →
      StartsAgent s agent
        (h ++ [answered (.createNetwork agent.containerName) (.ok network),
          startFailed (s.agentSpec agent network) cause])
        (.error (.startContainer agent.containerName cause))
  | notAttached {h links : FleetHistory} (network : String) (handle : Handle) {e : FleetError}
      (answer : (RuntimeCall.stop handle.id).Answer) :
      EnsuresImage ("agent " ++ agent.id) agent.image s.policy.pullImages h (.ok ()) →
      Attaches network [s.scanner, s.jsonRpc] links (.error e) →
      StartsAgent s agent
        (h ++ answered (.createNetwork agent.containerName) (.ok network) ::
          started (s.agentSpec agent network) handle :: (links ++ [answered (.stop handle.id) answer]))
        (.error e)
  | recorded {h links : FleetHistory} (network : String) (handle : Handle) (time : Timestamp) :
      EnsuresImage ("agent " ++ agent.id) agent.image s.policy.pullImages h (.ok ()) →
      Attaches network [s.scanner, s.jsonRpc] links (.ok ()) →
      StartsAgent s agent
        (h ++ answered (.createNetwork agent.containerName) (.ok network) ::
          started (s.agentSpec agent network) handle :: (links ++ [⟨.now, time⟩]))
        (.ok ⟨handle, .agent agent, some network, time⟩)

/-- A failure leaves no container behind it, or one that was to be stopped at
the end. -/
theorem StartsAgent.error_cases {s : Supervisor} {agent : Agent} {h : FleetHistory} {e : FleetError}
    (hs : StartsAgent s agent h (.error e)) :
    (∃ before, FleetHistory.IsQuiet before ∧ (h = before ∨
      ∃ network cause, h = before ++ [startFailed (s.agentSpec agent network) cause])) ∨
    ∃ before network handle links container cause answer,
      FleetHistory.IsQuiet before ∧ (∀ e ∈ links, ∃ container how, e = attached container network how) ∧
      h = before ++ started (s.agentSpec agent network) handle ::
        (links ++ attachFailed container network cause :: [answered (.stop handle.id) answer]) := by
  have hnet (answer : (RuntimeCall.createNetwork agent.containerName).Answer) :
      FleetHistory.IsQuiet [answered (.createNetwork agent.containerName) answer] :=
    FleetHistory.isQuiet_cons.2 ⟨trivial, FleetHistory.isQuiet_nil⟩
  cases hs with
  | noImage himage => exact .inl ⟨h, himage.isQuiet, .inl rfl⟩
  | noNetwork cause himage =>
      exact .inl ⟨_, himage.isQuiet.append (hnet (.error cause)), .inl rfl⟩
  | notStarted network cause himage =>
      refine .inl ⟨_, himage.isQuiet.append (hnet (.ok network)), .inr ⟨network, cause, ?_⟩⟩
      rw [List.append_assoc]; rfl
  | notAttached network handle answer himage hattach =>
      obtain ⟨links, hlinks, ⟨heq, _⟩ | ⟨container, cause, _, rfl⟩⟩ := hattach.cases_links
      · exact nomatch heq
      · refine .inr ⟨_, network, handle, links, container, cause, answer,
          himage.isQuiet.append (hnet (.ok network)), hlinks, ?_⟩
        rw [List.append_assoc, List.append_assoc]; rfl

theorem StartsAgent.ok_cases {s : Supervisor} {agent : Agent} {h : FleetHistory}
    {record : ContainerRecord} (hs : StartsAgent s agent h (.ok record)) :
    ∃ before network after, FleetHistory.IsQuiet before ∧ FleetHistory.IsQuiet after ∧
      h = before ++ started (s.agentSpec agent network) record.handle :: after := by
  cases hs with
  | recorded network handle time himage hattach =>
      have hnet : FleetHistory.IsQuiet [answered (.createNetwork agent.containerName) (.ok network)] :=
        FleetHistory.isQuiet_cons.2 ⟨trivial, FleetHistory.isQuiet_nil⟩
      have htime : FleetHistory.IsQuiet [⟨.now, time⟩] :=
        FleetHistory.isQuiet_cons.2 ⟨trivial, FleetHistory.isQuiet_nil⟩
      obtain ⟨links, hlinks, ⟨_, rfl⟩ | ⟨_, _, heq, _⟩⟩ := hattach.cases_links
      · refine ⟨_, network, _, himage.isQuiet.append hnet, (isQuiet_links hlinks).append htime, ?_⟩
        rw [List.append_assoc]; rfl
      · exact nomatch heq

theorem yields_startAgent {s : Supervisor} {agent : Agent} {h : FleetHistory}
    {r : Except FleetError ContainerRecord} :
    (s.startAgent agent).Yields h r ↔ StartsAgent s agent h r := by
  constructor
  · intro hy
    obtain ⟨h₁, image, h₂, rfl, himage, hy₂⟩ := Dialogue.yields_bind.1 hy
    replace himage := yields_ensureImage.1 himage
    match image with
    | .error e =>
        obtain ⟨rfl, rfl⟩ := yields_pure.1 hy₂
        rw [List.append_nil]
        exact .noImage himage
    | .ok () =>
        obtain ⟨network, h₃, rfl, hy₃⟩ := yields_call_bind.1 hy₂
        match network with
        | .error cause =>
            obtain ⟨rfl, rfl⟩ := yields_pure.1 hy₃
            exact .noNetwork cause himage
        | .ok network =>
            obtain ⟨start, h₄, rfl, hy₄⟩ := yields_call_bind.1 hy₃
            match start with
            | .error cause =>
                obtain ⟨rfl, rfl⟩ := yields_pure.1 hy₄
                exact .notStarted network cause himage
            | .ok handle =>
                obtain ⟨links, attach, h₅, rfl, hattach, hy₅⟩ := Dialogue.yields_bind.1 hy₄
                replace hattach := yields_attachAll.1 hattach
                match attach with
                | .error e =>
                    obtain ⟨answer, h₆, rfl, hy₆⟩ := yields_call_bind.1 hy₅
                    obtain ⟨rfl, rfl⟩ := yields_pure.1 hy₆
                    exact .notAttached network handle answer himage hattach
                | .ok () =>
                    obtain ⟨time, h₆, rfl, hy₆⟩ := yields_now_bind.1 hy₅
                    obtain ⟨rfl, rfl⟩ := yields_pure.1 hy₆
                    exact .recorded network handle time himage hattach
  · intro hs
    cases hs with
    | noImage himage =>
        exact Dialogue.yields_bind.2 ⟨_, _, [], (List.append_nil _).symm,
          yields_ensureImage.2 himage, yields_pure.2 ⟨rfl, rfl⟩⟩
    | noNetwork cause himage =>
        exact Dialogue.yields_bind.2 ⟨_, _, _, rfl, yields_ensureImage.2 himage,
          yields_call_bind.2 ⟨.error cause, [], rfl, yields_pure.2 ⟨rfl, rfl⟩⟩⟩
    | notStarted network cause himage =>
        exact Dialogue.yields_bind.2 ⟨_, _, _, rfl, yields_ensureImage.2 himage,
          yields_call_bind.2 ⟨.ok network, _, rfl,
            yields_call_bind.2 ⟨.error cause, [], rfl, yields_pure.2 ⟨rfl, rfl⟩⟩⟩⟩
    | notAttached network handle answer himage hattach =>
        exact Dialogue.yields_bind.2 ⟨_, _, _, rfl, yields_ensureImage.2 himage,
          yields_call_bind.2 ⟨.ok network, _, rfl, yields_call_bind.2 ⟨.ok handle, _, rfl,
            Dialogue.yields_bind.2 ⟨_, _, _, rfl, yields_attachAll.2 hattach,
              yields_call_bind.2 ⟨answer, [], rfl, yields_pure.2 ⟨rfl, rfl⟩⟩⟩⟩⟩⟩
    | recorded network handle time himage hattach =>
        exact Dialogue.yields_bind.2 ⟨_, _, _, rfl, yields_ensureImage.2 himage,
          yields_call_bind.2 ⟨.ok network, _, rfl, yields_call_bind.2 ⟨.ok handle, _, rfl,
            Dialogue.yields_bind.2 ⟨_, _, _, rfl, yields_attachAll.2 hattach,
              yields_now_bind.2 ⟨time, [], rfl, yields_pure.2 ⟨rfl, rfl⟩⟩⟩⟩⟩⟩

/-! ## Requests to run agents -/

/-- How seeing to one agent can go. -/
inductive RunsAgent (s : Supervisor) (table : FleetTable) (agent : Agent) :
    FleetHistory → FleetTable → Prop
  | running : table.contains agent.containerName = true →
      RunsAgent s table agent [published Subject.agentsRunning [agent]] table
  | failed {h : FleetHistory} {e : FleetError} : table.contains agent.containerName = false →
      StartsAgent s agent h (.error e) → RunsAgent s table agent h table
  | started {h : FleetHistory} {record : ContainerRecord} :
      table.contains agent.containerName = false → StartsAgent s agent h (.ok record) →
      RunsAgent s table agent (h ++ [published Subject.agentsRunning [agent]])
        (table.insert record).2

theorem StartsAgent.publications {s : Supervisor} {agent : Agent} {h : FleetHistory}
    {r : Except FleetError ContainerRecord} (hs : StartsAgent s agent h r) :
    FleetHistory.publications h = [] := by
  cases hs with
  | noImage himage => exact himage.publications
  | noNetwork _ himage => rw [FleetHistory.publications_append, himage.publications]; rfl
  | notStarted _ _ himage => rw [FleetHistory.publications_append, himage.publications]; rfl
  | notAttached _ handle _ himage hattach =>
      rw [FleetHistory.publications_append, himage.publications]
      show FleetHistory.publications (_ ++ [_]) = []
      rw [FleetHistory.publications_append, hattach.publications]; rfl
  | recorded _ handle _ himage hattach =>
      rw [FleetHistory.publications_append, himage.publications]
      show FleetHistory.publications (_ ++ [_]) = []
      rw [FleetHistory.publications_append, hattach.publications]; rfl

theorem yields_runAgent {s : Supervisor} {table table' : FleetTable} {agent : Agent}
    {h : FleetHistory} :
    (s.runAgent table agent).Yields h table' ↔ RunsAgent s table agent h table' := by
  unfold runAgent
  cases hc : table.contains agent.containerName with
  | true =>
      simp only [if_true]
      constructor
      · intro hy
        obtain ⟨rest, rfl, hrest⟩ := yields_publish_bind.1 hy
        obtain ⟨rfl, rfl⟩ := yields_pure.1 hrest
        exact .running hc
      · intro hr
        cases hr with
        | running _ => exact yields_publish_bind.2 ⟨[], rfl, yields_pure.2 ⟨rfl, rfl⟩⟩
        | failed hn _ => exact nomatch hn.symm.trans hc
        | started hn _ => exact nomatch hn.symm.trans hc
  | false =>
      simp only [Bool.false_eq_true, if_false]
      constructor
      · intro hy
        obtain ⟨h₁, r, h₂, rfl, hstart, hy₂⟩ := Dialogue.yields_bind.1 hy
        replace hstart := yields_startAgent.1 hstart
        match r with
        | .error e =>
            obtain ⟨rfl, rfl⟩ := yields_pure.1 hy₂
            rw [List.append_nil]
            exact .failed hc hstart
        | .ok record =>
            obtain ⟨rest, rfl, hrest⟩ := yields_publish_bind.1 hy₂
            obtain ⟨rfl, rfl⟩ := yields_pure.1 hrest
            exact .started hc hstart
      · intro hr
        cases hr with
        | running hn => exact nomatch hn.symm.trans hc
        | failed _ hstart =>
            exact Dialogue.yields_bind.2 ⟨_, _, [], (List.append_nil _).symm,
              yields_startAgent.2 hstart, yields_pure.2 ⟨rfl, rfl⟩⟩
        | started _ hstart =>
            exact Dialogue.yields_bind.2 ⟨_, _, _, rfl, yields_startAgent.2 hstart,
              yields_publish_bind.2 ⟨[], rfl, yields_pure.2 ⟨rfl, rfl⟩⟩⟩

/-- How seeing to the agents of a batch can go. -/
inductive RunsAgents (s : Supervisor) : FleetTable → List Agent → FleetHistory → FleetTable → Prop
  | nil (table : FleetTable) : RunsAgents s table [] [] table
  | cons {table table' table'' : FleetTable} {agent : Agent} {rest : List Agent}
      {h h' : FleetHistory} :
      RunsAgent s table agent h table' → RunsAgents s table' rest h' table'' →
      RunsAgents s table (agent :: rest) (h ++ h') table''

theorem yields_runAgents {s : Supervisor} {batch : List Agent} {table table' : FleetTable}
    {h : FleetHistory} :
    (s.runAgents table batch).Yields h table' ↔ RunsAgents s table batch h table' := by
  constructor
  · induction batch generalizing table h with
    | nil =>
        intro hy
        obtain ⟨rfl, rfl⟩ := yields_pure.1 hy
        exact .nil _
    | cons agent rest ih =>
        intro hy
        obtain ⟨h₁, t, h₂, rfl, hone, hrest⟩ := Dialogue.yields_bind.1 hy
        exact .cons (yields_runAgent.1 hone) (ih hrest)
  · intro hr
    induction hr with
    | nil table => exact yields_pure.2 ⟨rfl, rfl⟩
    | cons hone _ ih =>
        exact Dialogue.yields_bind.2 ⟨_, _, _, rfl, yields_runAgent.2 hone, ih⟩

theorem yields_run {s : Supervisor} {batch : List Agent} {table table' : FleetTable}
    {h : FleetHistory} :
    (s.run batch table).Yields h table' ↔
      ∃ h', h = h' ++ [counted table'.size] ∧ RunsAgents s table batch h' table' := by
  constructor
  · intro hy
    obtain ⟨h₁, t, h₂, rfl, hall, hy₂⟩ := Dialogue.yields_bind.1 hy
    obtain ⟨rest, rfl, hrest⟩ := yields_setCount_bind.1 hy₂
    obtain ⟨rfl, rfl⟩ := yields_pure.1 hrest
    exact ⟨h₁, rfl, yields_runAgents.1 hall⟩
  · rintro ⟨h', rfl, hall⟩
    exact Dialogue.yields_bind.2 ⟨_, _, _, rfl, yields_runAgents.2 hall,
      yields_setCount_bind.2 ⟨[], rfl, yields_pure.2 ⟨rfl, rfl⟩⟩⟩

/-! ## Requests to stop agents -/

/-- How stopping the agents of a batch can go, with the ids and the agents
stopped so far. -/
inductive StopsAgents (table : FleetTable) : List Agent → List String → List Agent →
    FleetHistory → Except FleetError (List String × List Agent) → Prop
  | nil (ids : List String) (agents : List Agent) :
      StopsAgents table [] ids agents [] (.ok (ids, agents))
  | absent {agent : Agent} {rest agents : List Agent} {ids : List String} {h : FleetHistory}
      {r : Except FleetError (List String × List Agent)} :
      table.get? agent.containerName = none → StopsAgents table rest ids agents h r →
      StopsAgents table (agent :: rest) ids agents h r
  | repeated {agent : Agent} {rest agents : List Agent} {ids : List String}
      {record : ContainerRecord} {h : FleetHistory}
      {r : Except FleetError (List String × List Agent)} :
      table.get? agent.containerName = some record → record.id ∈ ids →
      StopsAgents table rest ids agents h r → StopsAgents table (agent :: rest) ids agents h r
  | failed {agent : Agent} {rest agents : List Agent} {ids : List String}
      {record : ContainerRecord} (cause : RuntimeError) :
      table.get? agent.containerName = some record → record.id ∉ ids →
      StopsAgents table (agent :: rest) ids agents [stopFailed record.id cause]
        (.error (.stopContainer record.id cause))
  | stopped {agent : Agent} {rest agents : List Agent} {ids : List String}
      {record : ContainerRecord} {h : FleetHistory}
      {r : Except FleetError (List String × List Agent)} :
      table.get? agent.containerName = some record → record.id ∉ ids →
      StopsAgents table rest (record.id :: ids) (agent :: agents) h r →
      StopsAgents table (agent :: rest) ids agents (FleetExchange.stopped record.id :: h) r

theorem yields_stopAgents {table : FleetTable} {batch : List Agent} {ids : List String}
    {agents : List Agent} {h : FleetHistory} {r : Except FleetError (List String × List Agent)} :
    (stopAgents table batch ids agents).Yields h r ↔ StopsAgents table batch ids agents h r := by
  constructor
  · induction batch generalizing ids agents h with
    | nil =>
        intro hy
        obtain ⟨rfl, rfl⟩ := yields_pure.1 hy
        exact .nil _ _
    | cons agent rest ih =>
        intro hy
        unfold stopAgents at hy
        split at hy
        · next hg => exact .absent hg (ih hy)
        · next record hg =>
          split at hy
          · next hin => exact .repeated hg (List.contains_iff_mem.1 hin) (ih hy)
          · next hin =>
            replace hin : record.id ∉ ids := fun hm => hin (List.contains_iff_mem.2 hm)
            obtain ⟨answer, tail, rfl, htail⟩ := yields_call_bind.1 hy
            match answer with
            | .error cause =>
                obtain ⟨rfl, rfl⟩ := yields_pure.1 htail
                exact .failed cause hg hin
            | .ok () => exact .stopped hg hin (ih htail)
  · intro hs
    induction hs with
    | nil ids agents => exact yields_pure.2 ⟨rfl, rfl⟩
    | absent hg _ ih => simpa only [stopAgents, hg] using ih
    | repeated hg hin _ ih =>
        simpa only [stopAgents, hg, List.contains_iff_mem.2 hin, if_true] using ih
    | failed cause hg hin =>
        have hc : ¬ (_ : List String).contains _ = true := fun hm => hin (List.contains_iff_mem.1 hm)
        simp only [stopAgents, hg, if_neg hc]
        exact yields_call_bind.2 ⟨.error cause, [], rfl, yields_pure.2 ⟨rfl, rfl⟩⟩
    | stopped hg hin _ ih =>
        have hc : ¬ (_ : List String).contains _ = true := fun hm => hin (List.contains_iff_mem.1 hm)
        simp only [stopAgents, hg, if_neg hc]
        exact yields_call_bind.2 ⟨.ok (), _, rfl, ih⟩

/-- How a request to stop agents can go. -/
inductive StopsBatch (batch : List Agent) (table : FleetTable) :
    FleetHistory → Except FleetError Unit → FleetTable → Prop
  | aborted {h : FleetHistory} {e : FleetError} : StopsAgents table batch [] [] h (.error e) →
      StopsBatch batch table h (.error e) table
  | nothing : batch = [] → StopsBatch batch table [counted (table.removeIds []).2.size] (.ok ())
      (table.removeIds []).2
  | completed {h : FleetHistory} {ids : List String} {agents : List Agent} : batch ≠ [] →
      StopsAgents table batch [] [] h (.ok (ids, agents)) →
      StopsBatch batch table
        (h ++ [counted (table.removeIds ids).2.size,
          published Subject.agentsStopped agents.reverse])
        (.ok ()) (table.removeIds ids).2

theorem yields_stop {batch : List Agent} {table table' : FleetTable} {h : FleetHistory}
    {r : Except FleetError Unit} :
    (Supervisor.stop batch table).Yields h (r, table') ↔ StopsBatch batch table h r table' := by
  constructor
  · intro hy
    obtain ⟨h₁, swept, h₂, rfl, hs, hy₂⟩ := Dialogue.yields_bind.1 hy
    replace hs := yields_stopAgents.1 hs
    match swept with
    | .error e =>
        obtain ⟨rfl, heq⟩ := yields_pure.1 hy₂
        obtain ⟨rfl, rfl⟩ := Prod.mk.inj heq
        rw [List.append_nil]
        exact .aborted hs
    | .ok (ids, agents) =>
        obtain ⟨rest, rfl, hy₃⟩ := yields_setCount_bind.1 hy₂
        cases batch with
        | nil =>
            cases hs
            obtain ⟨rfl, heq⟩ := yields_pure.1 hy₃
            obtain ⟨rfl, rfl⟩ := Prod.mk.inj heq
            exact .nothing rfl
        | cons agent batch =>
            obtain ⟨rest, rfl, hy₄⟩ := yields_publish_bind.1 hy₃
            obtain ⟨rfl, heq⟩ := yields_pure.1 hy₄
            obtain ⟨rfl, rfl⟩ := Prod.mk.inj heq
            exact .completed (List.cons_ne_nil _ _) hs
  · intro hs
    cases hs with
    | aborted hs =>
        exact Dialogue.yields_bind.2 ⟨_, _, [], (List.append_nil _).symm, yields_stopAgents.2 hs,
          yields_pure.2 ⟨rfl, rfl⟩⟩
    | nothing hb =>
        subst hb
        exact Dialogue.yields_bind.2 ⟨[], _, _, rfl, yields_stopAgents.2 (.nil [] []),
          yields_setCount_bind.2 ⟨[], rfl, yields_pure.2 ⟨rfl, rfl⟩⟩⟩
    | completed hb hs =>
        obtain ⟨agent, batch, rfl⟩ := List.exists_cons_of_ne_nil hb
        exact Dialogue.yields_bind.2 ⟨_, _, _, rfl, yields_stopAgents.2 hs,
          yields_setCount_bind.2 ⟨_, rfl, yields_publish_bind.2 ⟨[], rfl, yields_pure.2 ⟨rfl, rfl⟩⟩⟩⟩

/-! ## Shutdown -/

/-- Every record is asked to be stopped once, in order, whatever comes of it. -/
inductive StopsEach : List ContainerRecord → FleetHistory → Prop
  | nil : StopsEach [] []
  | cons (record : ContainerRecord) {rest : List ContainerRecord} {h : FleetHistory}
      (answer : (RuntimeCall.stop record.id).Answer) :
      StopsEach rest h → StopsEach (record :: rest) (answered (.stop record.id) answer :: h)

theorem yields_stopEach {records : List ContainerRecord} {h : FleetHistory} :
    (stopEach records).Yields h () ↔ StopsEach records h := by
  constructor
  · induction records generalizing h with
    | nil =>
        intro hy
        obtain ⟨rfl, -⟩ := yields_pure.1 hy
        exact .nil
    | cons record rest ih =>
        intro hy
        obtain ⟨answer, tail, rfl, htail⟩ := yields_call_bind.1 hy
        exact .cons record answer (ih htail)
  · intro hs
    induction hs with
    | nil => exact yields_pure.2 ⟨rfl, rfl⟩
    | cons record answer _ ih => exact yields_call_bind.2 ⟨answer, _, rfl, ih⟩

theorem yields_shutdown {table table' : FleetTable} {h : FleetHistory} :
    (Supervisor.shutdown table).Yields h table' ↔
      ∃ h', h = counted 0 :: h' ∧ StopsEach table.shutdownOrder h' ∧ table' = .empty := by
  constructor
  · intro hy
    obtain ⟨rest, rfl, hy₂⟩ := yields_setCount_bind.1 hy
    obtain ⟨h₁, ⟨⟩, h₂, rfl, hs, hy₃⟩ := Dialogue.yields_bind.1 hy₂
    obtain ⟨rfl, rfl⟩ := yields_pure.1 hy₃
    rw [List.append_nil]
    exact ⟨h₁, rfl, yields_stopEach.1 hs, rfl⟩
  · rintro ⟨h', rfl, hs, rfl⟩
    exact yields_setCount_bind.2 ⟨_, rfl, Dialogue.yields_bind.2 ⟨h', (), [],
      (List.append_nil _).symm, yields_stopEach.2 hs, yields_pure.2 ⟨rfl, rfl⟩⟩⟩

/-! ## Requests of any kind -/

/-- How a request to the supervisor can go. -/
inductive ServesRequest (s : Supervisor) (table : FleetTable) :
    SupervisorRequest → FleetHistory → SupervisorAnswer → FleetTable → Prop
  | run {batch : List Agent} {h : FleetHistory} {table' : FleetTable} :
      RunsAgents s table batch h table' →
      ServesRequest s table (.run batch) (h ++ [counted table'.size]) (.done (.ok ())) table'
  | stop {batch : List Agent} {h : FleetHistory} {r : Except FleetError Unit}
      {table' : FleetTable} :
      StopsBatch batch table h r table' → ServesRequest s table (.stop batch) h (.done r) table'
  | containers : ServesRequest s table .containers [] (.records table.snapshot) table
  | shutdown {h : FleetHistory} : StopsEach table.shutdownOrder h →
      ServesRequest s table .shutdown (counted 0 :: h) (.done (.ok ())) .empty

theorem yields_serve {s : Supervisor} {request : SupervisorRequest} {table table' : FleetTable}
    {h : FleetHistory} {answer : SupervisorAnswer} :
    (s.serve request table).Yields h (answer, table') ↔
      ServesRequest s table request h answer table' := by
  constructor
  · intro hy
    cases request with
    | run batch =>
        obtain ⟨h₁, t, h₂, rfl, hrun, hy₂⟩ := Dialogue.yields_bind.1 hy
        obtain ⟨rfl, heq⟩ := yields_pure.1 hy₂
        obtain ⟨rfl, rfl⟩ := Prod.mk.inj heq
        obtain ⟨h', rfl, hall⟩ := yields_run.1 hrun
        rw [List.append_nil]
        exact .run hall
    | stop batch =>
        obtain ⟨h₁, ⟨r, t⟩, h₂, rfl, hstop, hy₂⟩ := Dialogue.yields_bind.1 hy
        obtain ⟨rfl, heq⟩ := yields_pure.1 hy₂
        obtain ⟨rfl, rfl⟩ := Prod.mk.inj heq
        rw [List.append_nil]
        exact .stop (yields_stop.1 hstop)
    | containers =>
        obtain ⟨rfl, heq⟩ := yields_pure.1 hy
        obtain ⟨rfl, rfl⟩ := Prod.mk.inj heq
        exact .containers
    | shutdown =>
        obtain ⟨h₁, t, h₂, rfl, hdown, hy₂⟩ := Dialogue.yields_bind.1 hy
        obtain ⟨rfl, heq⟩ := yields_pure.1 hy₂
        obtain ⟨rfl, rfl⟩ := Prod.mk.inj heq
        obtain ⟨h', rfl, hs, rfl⟩ := yields_shutdown.1 hdown
        rw [List.append_nil]
        exact .shutdown hs
  · intro hs
    cases hs with
    | run hall =>
        exact Dialogue.yields_bind.2 ⟨_, _, [], (List.append_nil _).symm,
          yields_run.2 ⟨_, rfl, hall⟩, yields_pure.2 ⟨rfl, rfl⟩⟩
    | stop hs =>
        exact Dialogue.yields_bind.2 ⟨_, _, [], (List.append_nil _).symm, yields_stop.2 hs,
          yields_pure.2 ⟨rfl, rfl⟩⟩
    | containers => exact yields_pure.2 ⟨rfl, rfl⟩
    | shutdown hs =>
        exact Dialogue.yields_bind.2 ⟨_, _, [], (List.append_nil _).symm,
          yields_shutdown.2 ⟨_, rfl, hs, rfl⟩, yields_pure.2 ⟨rfl, rfl⟩⟩

end Supervisor

end NodeKeeper
