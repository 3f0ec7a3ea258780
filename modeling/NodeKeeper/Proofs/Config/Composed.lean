/-
# What a composed configuration is like

Composition checks some settings and derives others.  `Composed` says what
every configuration that comes out of it satisfies, with the warnings it comes
with:

    the three addresses have passed their check
    the cadence is not zero
    traces are asked for only where there is an address to ask
    processors are limited to some number, and there is a warning
      just when that number is not positive

What is proved about configurations that pass the checks goes through `Composed`,
so the checks of `Config.compose` are gone through once (`compose_composed`).  A
configuration that is loaded from files is a composed one, but for the note of
where it comes from (`compose_of_load`), so it satisfies the same
(`Arises.sound`).
-/
import NodeKeeper.Config.Load
import NodeKeeper.Proofs.History

namespace NodeKeeper

/-! ## Warnings one after the other -/

namespace Warnings

@[simp] theorem mem_push {u : Warning} {w : Warnings} {message : String} :
    u ∈ (w.push message).items ↔ u ∈ w.items ∨ u = ⟨message, .none⟩ := by
  simp [push]

@[simp] theorem mem_pushWithHint {u : Warning} {w : Warnings} {message hint : String} :
    u ∈ (w.pushWithHint message hint).items ↔ u ∈ w.items ∨ u = ⟨message, some hint⟩ := by
  simp [pushWithHint]

theorem not_mem_ite {u : Warning} {w w' : Warnings} {p : Prop} [Decidable p] (h : u ∉ w.items)
    (h' : u ∉ w.items → u ∉ w'.items) : u ∉ (if p then w' else w).items := by
  split
  · exact h' h
  · exact h

theorem not_mem_push {u : Warning} {w : Warnings} {message : String} (hne : u.message ≠ message)
    (h : u ∉ w.items) : u ∉ (w.push message).items := by
  rintro hmem
  rcases mem_push.1 hmem with hmem | rfl
  · exact h hmem
  · exact hne rfl

theorem not_mem_pushWithHint {u : Warning} {w : Warnings} {message hint : String}
    (hnone : u.hint = .none) (h : u ∉ w.items) : u ∉ (w.pushWithHint message hint).items := by
  rintro hmem
  rcases mem_pushWithHint.1 hmem with hmem | rfl
  · exact h hmem
  · exact nomatch hnone

end Warnings

namespace Config

/-- Warns that agents may use all processors. -/
def unboundedCpu : Warning := ⟨"resources.max_cpus is not positive; CPU is unbounded", none⟩

/-- No name of a chain makes the warning about it that about processors: they
begin with different letters. -/
theorem unboundedCpu_ne_chain (id : String) :
    unboundedCpu.message ≠ "Chain " ++ id ++ " has no dedicated settings; using defaults" := by
  intro h
  have hfirst := congrArg (fun s => s.toList.head?) h
  simp [unboundedCpu] at hfirst

/-! ## Composition -/

/-- What a configuration satisfies that was composed with these warnings. -/
structure Composed (c : Config) (w : Warnings) : Prop where
  rpcUrl : checkUrl "chain.rpc_url" c.chain.rpcUrl = .ok ()
  traceUrl : ∀ url, c.chain.traceUrl = some url → checkUrl "chain.trace_url" url = .ok ()
  proxyUrl : checkUrl "inspection.proxy_url" c.inspection.proxyUrl = .ok ()
  cadence : c.inspection.cadence ≠ 0
  enableTrace : c.inspection.enableTrace = true → c.chain.traceUrl.isSome = true
  maxCpus : c.fleet.policy.resources.maxCpus.isSome = true
  warned : unboundedCpu ∈ w.items ↔ lacksCpus c.fleet.policy.resources = true

theorem bind_ok {ε α β : Type} {x : Except ε α} {f : α → Except ε β} {b : β}
    (h : (x >>= f) = .ok b) : ∃ a, x = .ok a ∧ f a = .ok b := by
  cases x with
  | error e => cases h
  | ok a => exact ⟨a, rfl, h⟩

/-- Where agents find the proxy: under the name of its container, at the port of
the policy. -/
def proxyAddress (c : Config) : String :=
  "http://" ++ c.fleet.infrastructure.jsonRpcProxy.name ++ ":" ++
    toString c.fleet.policy.jsonRpcPort.toNat

/-- The checks are passed, and the inspector is given the address of the proxy
unless a layer has another. -/
theorem compose_sound {file? : Option FileLayer} {env : EnvLayer} {path : Option String}
    {c : Config} {w : Warnings} (h : compose file? env path = .ok (c, w)) :
    c.Composed w ∧ c.inspection.proxyUrl =
      (env.proxyUrl <|> (file?.getD .empty).inspection.proxyUrl).getD c.proxyAddress := by
  unfold compose at h
  extract_lets file warnings₀ chainId warnings₁ chain traceUrl wantsTrace warnings₂ jsonRpcName
    jsonRpcPort proxyUrl localMode warnings₃ resources warnings₄ log checkChain at h
  -- The warning comes last, and no other one reads like it.
  have hearlier : unboundedCpu ∉ warnings₃.items := by
    have h₀ : unboundedCpu ∉ warnings₀.items :=
      Warnings.not_mem_ite List.not_mem_nil (Warnings.not_mem_pushWithHint rfl)
    have h₁ : unboundedCpu ∉ warnings₁.items :=
      Warnings.not_mem_ite h₀ (Warnings.not_mem_push (unboundedCpu_ne_chain _))
    have h₂ : unboundedCpu ∉ warnings₂.items :=
      Warnings.not_mem_ite h₁ (Warnings.not_mem_pushWithHint rfl)
    exact Warnings.not_mem_ite h₂ (Warnings.not_mem_pushWithHint rfl)
  have hwarned : unboundedCpu ∈ warnings₄.items ↔ lacksCpus resources = true := by
    unfold warnings₄
    split
    · next hlacks => exact ⟨fun _ => hlacks, fun _ => Warnings.mem_push.2 (.inr rfl)⟩
    · next hlacks => exact ⟨fun hmem => absurd hmem hearlier, fun hl => absurd hl hlacks⟩
  have hcpus : resources.maxCpus.isSome = true := by
    show (env.maxCpus <|> file.resources.maxCpus <|> Resources.standard.maxCpus).isSome = true
    cases env.maxCpus <;> cases file.resources.maxCpus <;> rfl
  clear_value traceUrl warnings₄ resources
  -- From here on the checks are passed one by one.
  obtain ⟨url, h⟩ : ∃ url, checkChain url = .ok (c, w) := by
    split at h
    · exact ⟨_, h⟩
    · cases h
  obtain ⟨⟨⟩, hrpc, h⟩ := bind_ok h
  extract_lets checkCadence at h
  obtain ⟨htrace, h⟩ : (∀ u, traceUrl = some u → checkUrl "chain.trace_url" u = .ok ()) ∧
      checkCadence () = .ok (c, w) := by
    split at h
    · obtain ⟨⟨⟩, hok, h⟩ := bind_ok h
      exact ⟨fun _ hu => Option.some.inj hu ▸ hok, h⟩
    · exact ⟨nofun, h⟩
  unfold checkCadence at h
  split at h
  next cadence source _ =>
    extract_lets checkRest at h
    obtain ⟨hcadence, h⟩ : cadence ≠ 0 ∧ checkRest () = .ok (c, w) := by
      split at h
      · cases h
      · next hne => exact ⟨hne, h⟩
    obtain ⟨⟨⟩, hproxy, h⟩ := bind_ok h
    obtain ⟨scannerImage, -, h⟩ := bind_ok h
    obtain ⟨jsonRpcImage, -, h⟩ := bind_ok h
    obtain ⟨rfl, rfl⟩ := Prod.mk.inj (Except.ok.inj h)
    refine ⟨⟨hrpc, htrace, hproxy, hcadence, fun ht => ?_, hcpus, hwarned⟩, rfl⟩
    exact (Bool.and_eq_true_iff.1 ht).2

theorem compose_composed {file? : Option FileLayer} {env : EnvLayer} {path : Option String}
    {c : Config} {w : Warnings} (h : compose file? env path = .ok (c, w)) : c.Composed w :=
  (compose_sound h).1

/-- Is a configuration composed, and does it pass the test with its warnings? -/
def passes (test : Config → Warnings → Bool) : Except ConfigError (Config × Warnings) → Bool
  | .ok (c, w) => test c w
  | .error _ => false

theorem exists_of_passes {test : Config → Warnings → Bool}
    {result : Except ConfigError (Config × Warnings)} (h : passes test result = true) :
    ∃ c w, result = .ok (c, w) ∧ test c w = true := by
  match result with
  | .ok (c, w) => exact ⟨c, w, rfl, h⟩
  | .error _ => cases h

/-! ## Loading -/

/-- What passes between the loader and whoever has the files. -/
abbrev FileHistory : Type := List (Exchange FileRequest FileRequest.Answer)

/-- Where a configuration comes from: it is composed of layers, or it is loaded
with the variables of a process and whatever files there are. -/
inductive Arises (c : Config) (w : Warnings) : Prop
  | composed {file? : Option FileLayer} {env : EnvLayer} {path : Option String} :
      compose file? env path = .ok (c, w) → Arises c w
  | loaded {options : LoadOptions} {vars : Variables} {h : FileHistory} :
      (load options vars).Yields h (.ok (c, w)) → Arises c w

theorem compose_of_loadWith {options : LoadOptions} {env : EnvLayer} {h : FileHistory}
    {c : Config} {w : Warnings} (hy : (loadWith options env).Yields h (.ok (c, w))) :
    ∃ file? path, compose file? env path = .ok (c, w) := by
  obtain ⟨h₁, layer, h₂, rfl, -, hrest⟩ := Dialogue.yields_bind.1 hy
  match layer with
  | .error e => exact nomatch (Dialogue.yields_done.1 hrest).2
  | .ok none => exact ⟨none, none, (Dialogue.yields_done.1 hrest).2.symm⟩
  | .ok (some (layer, path)) =>
      exact ⟨some layer, some path, (Dialogue.yields_done.1 hrest).2.symm⟩

/-- What is loaded is composed, but for the note whether there were variables in
a file. -/
theorem compose_of_load {options : LoadOptions} {vars : Variables} {h : FileHistory}
    {c : Config} {w : Warnings} (hy : (load options vars).Yields h (.ok (c, w))) :
    ∃ file? env path c' provenance, compose file? env path = .ok (c', w) ∧
      c = { c' with provenance := provenance } := by
  obtain ⟨h₁, ⟨vars', outcome⟩, h₂, rfl, -, hrest⟩ := Dialogue.yields_bind.1 hy
  dsimp only at hrest
  split at hrest
  · exact nomatch (Dialogue.yields_done.1 hrest).2
  · obtain ⟨h₃, result, h₄, rfl, hload, hrest⟩ := Dialogue.yields_bind.1 hrest
    match result with
    | .error e => exact nomatch (Dialogue.yields_done.1 hrest).2
    | .ok (c', w') =>
        obtain ⟨rfl, rfl⟩ := Prod.mk.inj (Except.ok.inj (Dialogue.yields_done.1 hrest).2)
        obtain ⟨file?, path, hcompose⟩ := compose_of_loadWith hload
        exact ⟨file?, _, path, c', _, hcompose, rfl⟩

theorem Arises.sound {c : Config} {w : Warnings} (ha : c.Arises w) : c.Composed w := by
  cases ha with
  | composed h => exact compose_composed h
  | loaded hy =>
      obtain ⟨file?, env, path, c', provenance, h, rfl⟩ := compose_of_load hy
      have hc := compose_composed h
      exact ⟨hc.rpcUrl, hc.traceUrl, hc.proxyUrl, hc.cadence, hc.enableTrace, hc.maxCpus, hc.warned⟩

end Config

end NodeKeeper
