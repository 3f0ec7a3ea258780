/-
# Who is told that processors are unbounded

Two places look at the number of processors of an agent.  Composition compares
it with zero and warns; when an agent is started the number becomes a quota, and
there is no quota if nothing is left of it:

    number x                      warning   quota
    x ≤ 0                         yes       none
    not a number                  no        none
    infinite                      no        none
    less than half a microsecond
      of processor time a period  no        none
    any other                     no        the nearest whole number

So a warning is never wrong, and the lines with no warning and no quota are all
that is missing (`unbounded_cpu_warning`).  They can be written into the
variable of the environment (`unbounded_cpu_unwarned`).
-/
import Mathlib
import NodeKeeper.Docker.Commands
import NodeKeeper.Fleet.Supervisor
import NodeKeeper.Proofs.Config.Composed

namespace NodeKeeper

/-! ## Doubles beside zero -/

namespace Number

open Float.Model

theorem unpack_zero : (0.0 : Float).toModel.unpack = .zero .positive := rfl

theorem zero_lt_iff {x : Float} :
    0.0 < x ↔ UnpackedFloat.lt (.zero .positive) x.toModel.unpack = true := by
  show decide _ = true ↔ _
  rw [← unpack_zero, decide_eq_true_iff]
  exact Iff.rfl

theorem le_zero_iff {x : Float} :
    x ≤ 0.0 ↔ UnpackedFloat.le x.toModel.unpack (.zero .positive) = true := by
  show decide _ = true ↔ _
  rw [← unpack_zero, decide_eq_true_iff]
  exact Iff.rfl

theorem not_zero_lt_iff {x : Float} : ¬ 0.0 < x ↔ x ≤ 0.0 ∨ x.isNaN = true := by
  rw [zero_lt_iff, le_zero_iff]
  show _ ↔ _ ∨ x.toModel.unpack.isNaN = true
  cases x.toModel.unpack with
  | notANumber => decide
  | infinity s => cases s <;> decide
  | zero s => cases s <;> decide
  | finite s m e hm =>
      cases s <;>
        simp [UnpackedFloat.lt, UnpackedFloat.le, UnpackedFloat.compare, UnpackedFloat.isNaN]

theorem not_zero_lt_of_le {x : Float} (h : x ≤ 0.0) : ¬ 0.0 < x := not_zero_lt_iff.2 (.inl h)

end Number

open Number

namespace Limits

/-! ## The quota -/

/-- A number of processors gives no quota just when it is infinite or not
positive, or when the nearest whole number of microseconds is zero. -/
theorem cpuQuotaFor_eq_none_iff {x : Float} :
    cpuQuotaFor x = none ↔ isFinite x = false ∨ ¬ 0.0 < x ∨
      isFinite (x * cpuPeriod) = true ∧ roundHalfUp (x * cpuPeriod) = 0 := by
  simp only [cpuQuotaFor]
  split
  · next hx =>
    obtain ⟨hfinite, hpos⟩ := Bool.and_eq_true_iff.1 hx
    have hpos : 0.0 < x := of_decide_eq_true hpos
    simp only [hfinite, hpos, Bool.true_eq_false, not_true_eq_false, false_or]
    split
    · next hproduct =>
      have hmax : 0 < maxI64 := by decide
      simp only [hproduct, true_and, ite_eq_right_iff, reduceCtorEq, imp_false]
      omega
    · next hproduct => simp [hproduct, maxI64]
  · next hx =>
    rw [Bool.and_eq_true_iff, decide_eq_true_iff, Classical.not_and_iff_not_or_not, Bool.not_eq_true] at hx
    exact iff_of_true rfl (hx.imp_right .inl)

theorem cpuQuotaFor_of_le {x : Float} (h : x ≤ 0.0) : cpuQuotaFor x = none :=
  cpuQuotaFor_eq_none_iff.2 (.inr (.inl (not_zero_lt_of_le h)))

end Limits

theorem Docker.run_unlimited_iff (program : String) (spec : ContainerSpec) :
    Docker.run program spec =
      Docker.run program { spec with limits := { spec.limits with cpuQuota := none } } ↔
    spec.limits.cpuQuota = none := by
  constructor
  · intro h
    have hlength := congrArg (fun c => c.args.length) h
    cases hquota : spec.limits.cpuQuota with
    | none => rfl
    | some quota =>
        simp only [Docker.run, Docker.command, Docker.flag, hquota, Option.map_some, Option.map_none,
          List.length_append, List.length_cons, List.length_nil] at hlength
        omega
  · intro h
    simp [Docker.run, h]

/-! ## The warning -/

namespace Config

/-- Are the agents of this configuration started with no limit of processors? -/
def StartsUnbounded (c : Config) : Prop :=
  (Limits.ofResources c.fleet.policy.resources).cpuQuota = none

instance (c : Config) : Decidable c.StartsUnbounded := inferInstanceAs (Decidable (_ = none))

/-- An environment with the address of a chain and a number of processors. -/
def limitedTo (cpus : String) : EnvLayer :=
  .ofLookup fun name =>
    [("VIGIL_CHAIN_RPC_URL", "http://x"), ("VIGIL_AGENT_MAX_CPUS", cpus)].lookup name

/-- **Warned means unbounded, and what is unbounded without a warning.**  Every
configuration limits processors to some number `x`.  There is a warning just
when `x` is not greater than zero as a number, and then there is no quota.  With
no warning there is no quota just when `x` is not a number at all, is infinite,
or is nearer to no microsecond in a period than to one.  The agents of a
supervisor with this policy are started accordingly. -/
theorem unbounded_cpu_warning {c : Config} {w : Warnings} (h : c.Arises w) :
    ∃ x, c.fleet.policy.resources.maxCpus = some x ∧
      (unboundedCpu ∈ w.items ↔ x ≤ 0.0) ∧
      (unboundedCpu ∈ w.items → c.StartsUnbounded) ∧
      (unboundedCpu ∉ w.items → (c.StartsUnbounded ↔ x.isNaN = true ∨ isFinite x = false ∨
        isFinite (x * Limits.cpuPeriod) = true ∧ roundHalfUp (x * Limits.cpuPeriod) = 0)) ∧
      ∀ (s : Supervisor) (agent : Agent) (network program : String), s.policy = c.fleet.policy →
        (c.StartsUnbounded ↔ Docker.run program (s.agentSpec agent network) =
          Docker.run program { s.agentSpec agent network with
            limits := { (s.agentSpec agent network).limits with cpuQuota := none } }) := by
  have hsound := h.sound
  obtain ⟨x, hx⟩ := Option.isSome_iff_exists.1 hsound.maxCpus
  have hwarned : unboundedCpu ∈ w.items ↔ x ≤ 0.0 := by
    rw [hsound.warned]
    simp [lacksCpus, hx]
  have hquota : c.StartsUnbounded ↔ Limits.cpuQuotaFor x = none := by
    simp [StartsUnbounded, Limits.ofResources, hx]
  refine ⟨x, hx, hwarned, fun hmem => ?_, fun hmem => ?_, fun s agent network program hs => ?_⟩
  · exact hquota.2 (Limits.cpuQuotaFor_of_le (hwarned.1 hmem))
  · have hpos : ¬ 0.0 < x ↔ x.isNaN = true := by
      rw [not_zero_lt_iff, ← hwarned]
      exact or_iff_right hmem
    rw [hquota, Limits.cpuQuotaFor_eq_none_iff, hpos]
    exact or_left_comm
  · rw [Docker.run_unlimited_iff]
    show _ ↔ (Limits.ofResources s.policy.resources).cpuQuota = none
    rw [hs]
    exact Iff.rfl

/-- Less than no processor is no limit, and there is a warning. -/
theorem unbounded_cpu_warning_negative :
    ∃ c w, compose none (limitedTo "-0.5") none = .ok (c, w) ∧ c.Arises w ∧
      unboundedCpu ∈ w.items ∧ c.StartsUnbounded := by
  obtain ⟨c, w, hok, hmem⟩ := exists_of_passes
    (show passes (fun _ w => decide (unboundedCpu ∈ w.items))
      (compose none (limitedTo "-0.5") none) = true by decide +kernel)
  have hmem : unboundedCpu ∈ w.items := of_decide_eq_true hmem
  obtain ⟨-, -, -, hstarts, -⟩ := unbounded_cpu_warning (.composed hok)
  exact ⟨c, w, hok, .composed hok, hmem, hstarts hmem⟩

/-- With this number of processors agents are started with no limit of them, and
nobody is warned. -/
def Unwarned (cpus : String) : Prop :=
  ∃ c w, compose none (limitedTo cpus) none = .ok (c, w) ∧
    unboundedCpu ∉ w.items ∧ c.StartsUnbounded

theorem unwarned_of_passes {cpus : String}
    (h : passes (fun c w => decide (unboundedCpu ∉ w.items ∧ c.StartsUnbounded))
      (compose none (limitedTo cpus) none) = true) : Unwarned cpus := by
  obtain ⟨c, w, hok, htest⟩ := exists_of_passes h
  exact ⟨c, w, hok, of_decide_eq_true htest⟩

/-- No number, an infinite one and one that is too small are no limit, and
nobody is warned. -/
theorem unbounded_cpu_unwarned : Unwarned "NaN" ∧ Unwarned "inf" ∧ Unwarned "0.000001" := by
  refine ⟨unwarned_of_passes ?_, unwarned_of_passes ?_, unwarned_of_passes ?_⟩
  · decide +kernel
  · decide +kernel
  · decide +kernel

end Config

end NodeKeeper
