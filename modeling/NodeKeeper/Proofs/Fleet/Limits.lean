/-
# Which limits are kept

The limits of an agent's container are made of what the operator allows.  What is
allowed is a positive amount or none, but the limit also vanishes when the amount
cannot be carried over:

    memory        kept from 1 to 2 ^ 43 - 1 mebibytes, as that many bytes;
                  2 ^ 43 mebibytes are more bytes than the engine is told of
    processors    kept from five millionths of a processor on; less is nearer to
                  no microsecond of a period than to one

A limit that has vanished is none: the container is started as one of an agent
that may use as much as there is (`limits_kept_exactly`).  So both ends of the
range fail open (`positive_limits_dropped`).
-/
import NodeKeeper.Proofs.Config.Processors
import NodeKeeper.Proofs.Fleet.ProxyAddress
import NodeKeeper.Proofs.Number.Rounding

namespace NodeKeeper

open Number Float.Model Float.Model.UnpackedFloat

namespace Limits

/-! ## Processors -/

/-- The least number of processors that is kept. -/
def leastCpus : Float := 0.000005

theorem unpack_leastCpus :
    leastCpus.toModel.unpack = .finite .positive 5902958103587057 (-70) (by decide) := rfl

theorem unpack_cpuPeriod :
    cpuPeriod.toModel.unpack = .finite .positive 6871947673600000 (-36) (by decide) := rfl

variable {x : Float} {m : Nat} {e : Int} {hm : 0 < m}

theorem toModel_mul_cpuPeriod (h : x.toModel.unpack = .finite .positive m e hm) :
    (x * cpuPeriod).toModel = Float.Model.pack
      (roundWithAccuracy Format.binary64 .positive (m * 6871947673600000) (e - 36) .exact) := by
  show Float.Model.pack (UnpackedFloat.mul Format.binary64 x.toModel.unpack
    cpuPeriod.toModel.unpack) = _
  rw [h, unpack_cpuPeriod]
  rfl

theorem lt_leastCpus_iff (h : x.toModel.unpack = .finite .positive m e hm) :
    x < leastCpus ↔ e < -70 ∨ e = -70 ∧ m < 5902958103587057 := by
  have hlt : x < leastCpus ↔
      UnpackedFloat.lt x.toModel.unpack leastCpus.toModel.unpack = true := decide_eq_true_iff
  rw [hlt, h, unpack_leastCpus]
  simp [UnpackedFloat.lt, UnpackedFloat.compare, Ordering.then_eq_lt, Int.compare_eq_lt,
    Nat.compare_eq_lt]

/-- The number of processors next below vanishes: as an exact product it is less
than one half by more than half a unit of the last digit. -/
theorem vanishes_below_leastCpus
    (h : x.toModel.unpack = .finite .positive 5902958103587056 (-70) (by decide)) :
    Vanishes (x * cpuPeriod) := by
  have hproduct : x * cpuPeriod = ⟨Float.Model.pack (roundWithAccuracy Format.binary64 .positive
      (5902958103587056 * 6871947673600000) (-70 - 36) .exact)⟩ :=
    congrArg Float.ofModel (toModel_mul_cpuPeriod h)
  rw [hproduct]
  exact ⟨by decide +kernel, by decide +kernel⟩

theorem le_roundingExponent (hfits : Fits m e)
    (hlarge : ¬ (e < -70 ∨ e = -70 ∧ m < 5902958103587057)) :
    -53 ≤ roundingExponent (m * 6871947673600000) (e - 36) := by
  have hfull : 2 ^ 52 ≤ m := hfits.full.resolve_right (by omega)
  have hne : m * 6871947673600000 ≠ 0 := by omega
  unfold roundingExponent
  by_cases hleast : e = -70
  · have hlog : 105 ≤ (m * 6871947673600000).log2 := (Nat.le_log2 hne).2 (by omega)
    omega
  · have hlog : 104 ≤ (m * 6871947673600000).log2 := (Nat.le_log2 hne).2 (by omega)
    omega

/-- A smaller one makes less than one half, and rounding does not carry, except
perhaps for the one next below. -/
theorem roundingExponent_small (hfits : Fits m e) (hne : m * 6871947673600000 ≠ 0)
    (hsmall : e < -70 ∨ e = -70 ∧ m < 5902958103587056) :
    roundingExponent (m * 6871947673600000) (e - 36) ≤ -55 ∨
      roundingExponent (m * 6871947673600000) (e - 36) = -54 ∧
        m * 6871947673600000 / 2 ^ (-54 - (e - 36)).toNat + 1 < 2 ^ 53 := by
  have hlt := hfits.lt
  have hlog : (m * 6871947673600000).log2 < 106 := (Nat.log2_lt hne).2 (by omega)
  rcases hsmall with hsmall | ⟨rfl, hsmall⟩
  · by_cases hlow : roundingExponent (m * 6871947673600000) (e - 36) ≤ -55
    · exact .inl hlow
    · obtain rfl : e = -71 := by
        unfold roundingExponent at hlow
        omega
      refine .inr ⟨?_, ?_⟩
      · unfold roundingExponent at hlow ⊢
        omega
      · show m * 6871947673600000 / 2 ^ 53 + 1 < 2 ^ 53
        omega
  · have hlog : (m * 6871947673600000).log2 < 105 := (Nat.log2_lt hne).2 (by omega)
    by_cases hlow : roundingExponent (m * 6871947673600000) (-70 - 36) ≤ -55
    · exact .inl hlow
    · refine .inr ⟨?_, ?_⟩
      · unfold roundingExponent at hlow ⊢
        omega
      · show m * 6871947673600000 / 2 ^ 52 + 1 < 2 ^ 53
        omega

theorem vanishes_mul_cpuPeriod_iff (h : x.toModel.unpack = .finite .positive m e hm) :
    Vanishes (x * cpuPeriod) ↔ x < leastCpus := by
  have hproduct := toModel_mul_cpuPeriod h
  obtain ⟨hfits, -⟩ := fits_of_finite h
  have hdigits : 2 ^ 52 ≤ m * 6871947673600000 := by omega
  rw [lt_leastCpus_iff h]
  constructor
  · intro hvanishes
    by_contra hlarge
    exact not_vanishes_of_large hdigits hproduct (le_roundingExponent hfits hlarge) hvanishes
  · intro hsmall
    by_cases hbelow : e = -70 ∧ m = 5902958103587056
    · obtain ⟨rfl, rfl⟩ := hbelow
      exact vanishes_below_leastCpus h
    · exact vanishes_of_small hdigits hproduct
        (roundingExponent_small hfits (by omega) (by omega))

theorem cpuQuotaFor_eq_none_iff_lt (hfinite : isFinite x = true) :
    cpuQuotaFor x = none ↔ x < leastCpus := by
  have hlt : x < leastCpus ↔
      UnpackedFloat.lt x.toModel.unpack leastCpus.toModel.unpack = true := decide_eq_true_iff
  rw [cpuQuotaFor_eq_none_iff]
  cases h : x.toModel.unpack with
  | notANumber => exact nomatch (not_isFinite (s := .positive) (.inr h)).symm.trans hfinite
  | infinity s => exact nomatch (not_isFinite (.inl h)).symm.trans hfinite
  | zero s =>
      rw [hlt, zero_lt_iff, h]
      exact iff_of_true (.inr (.inl (by cases s <;> decide))) (by cases s <;> decide)
  | finite s m e hm =>
      cases s with
      | negative =>
          rw [hlt, zero_lt_iff, h]
          exact iff_of_true (.inr (.inl (by simp [UnpackedFloat.lt, UnpackedFloat.compare])))
            (by simp [unpack_leastCpus, UnpackedFloat.lt, UnpackedFloat.compare])
      | positive =>
          have hpos : 0.0 < x := by
            rw [zero_lt_iff, h]
            rfl
          rw [← vanishes_mul_cpuPeriod_iff h]
          simp [hfinite, hpos, Vanishes]

/-- A number of processors gives no quota just when it is less than the least one
that is kept, or not a finite number at all. -/
theorem cpuQuotaFor_eq_none_iff_imp :
    cpuQuotaFor x = none ↔ (isFinite x = true → x < leastCpus) := by
  by_cases hfinite : isFinite x = true
  · rw [cpuQuotaFor_eq_none_iff_lt hfinite]
    exact (imp_iff_right hfinite).symm
  · refine iff_of_true (cpuQuotaFor_eq_none_iff.2 (.inl ?_)) fun h => absurd h hfinite
    exact Bool.eq_false_of_not_eq_true hfinite

theorem cpuQuotaFor_bounds {q : Int} (h : cpuQuotaFor x = some q) : 0 < q ∧ q ≤ maxI64 := by
  unfold cpuQuotaFor at h
  obtain ⟨-, h⟩ := Option.ite_none_right_eq_some.1 h
  obtain ⟨hpos, h⟩ := Option.ite_none_right_eq_some.1 h
  cases h
  refine ⟨Int.natCast_pos.2 hpos, Int.ofNat_le.2 ?_⟩
  split
  · exact Nat.min_le_right _ _
  · exact Nat.le_refl _

/-! ## Memory -/

variable {mib : UInt64}

/-- Mebibytes are carried over as they are, unless a signed 64-bit number does
not hold their bytes. -/
theorem memoryBytesFor_eq_some_iff {b : Int} :
    memoryBytesFor mib = some b ↔ mib ≠ 0 ∧ mib.toNat < 2 ^ 43 ∧ b = mib.toNat * 2 ^ 20 := by
  have hzero : mib ≠ 0 ↔ mib.toNat ≠ 0 := not_congr UInt64.toNat_inj.symm
  have hmax : maxI64 = 2 ^ 63 - 1 := rfl
  rw [hzero, memoryBytesFor, Option.ite_none_right_eq_some, Option.some_inj]
  omega

theorem memoryBytesFor_eq_none_iff :
    memoryBytesFor mib = none ↔ mib = 0 ∨ 2 ^ 43 ≤ mib.toNat := by
  have hsome : memoryBytesFor mib ≠ none ↔ mib ≠ 0 ∧ mib.toNat < 2 ^ 43 := by
    simp only [Option.ne_none_iff_exists', memoryBytesFor_eq_some_iff]
    exact ⟨fun ⟨_, hne, hlt, _⟩ => ⟨hne, hlt⟩, fun ⟨hne, hlt⟩ => ⟨_, hne, hlt, rfl⟩⟩
  rw [← not_iff_not, ← ne_eq, hsome, not_or, Nat.not_le]

end Limits

/-! ## What containers are started with -/

theorem Docker.run_unlimited_memory_iff (program : String) (spec : ContainerSpec) :
    Docker.run program spec =
      Docker.run program { spec with limits := { spec.limits with memoryBytes := none } } ↔
    spec.limits.memoryBytes = none := by
  constructor
  · intro h
    have hlength := congrArg (fun c => c.args.length) h
    cases hbytes : spec.limits.memoryBytes with
    | none => rfl
    | some bytes =>
        simp only [Docker.run, Docker.command, Docker.flag, hbytes, Option.map_some,
          Option.map_none, List.length_append, List.length_cons, List.length_nil] at hlength
        omega
  · intro h
    simp [Docker.run, h]

open FleetExchange FleetHistory Supervisor

theorem Supervisor.Serves.starts_agents_always {s : Supervisor} {table table' : FleetTable}
    {calls : List ServedCall} {h : FleetHistory} {request : SupervisorRequest}
    {rest : FleetDialogue (SupervisorAnswer × FleetTable)} (hserves : s.Serves table calls table')
    (hpart : (s.serve request table').Leads h rest) :
    ∀ e ∈ ofCalls calls ++ h, s.StartsAgentOnly e := by
  obtain ⟨h', ⟨_, _⟩, hy, _, _⟩ := exists_yields_no_start rest
  have hserve := yields_serve.1 (Dialogue.leads_append.2 ⟨rest, hpart, hy⟩)
  exact List.forall_mem_append.2 ⟨hserves.starts_agents,
    fun e he => hserve.starts_agents e (List.mem_append_left _ he)⟩

namespace Limits

/-- **Which limits are kept.**  Whatever an operator allows, memory is limited
just when a number of mebibytes was given that is not zero and less than `2 ^ 43`,
and then to as many bytes; processors are limited just when a finite number was
given that is not less than `leastCpus`, and then to some quota greater than
zero.  At every moment of every request, a container that is asked for on its
behalf is started with these limits, and without one where there is none. -/
theorem limits_kept_exactly (r : Resources) :
    (∀ b, (ofResources r).memoryBytes = some b ↔ ∃ mib, r.maxMemoryMib = some mib ∧
      mib ≠ 0 ∧ mib.toNat < 2 ^ 43 ∧ b = mib.toNat * 2 ^ 20) ∧
    ((ofResources r).cpuQuota = none ↔
      ∀ x, r.maxCpus = some x → isFinite x = true → x < leastCpus) ∧
    (∀ q, (ofResources r).cpuQuota = some q → 0 < q ∧ q ≤ maxI64) ∧
    ∀ {s : Supervisor} {table table' : FleetTable} {calls : List ServedCall} {h : FleetHistory}
      {request : SupervisorRequest} {rest : FleetDialogue (SupervisorAnswer × FleetTable)},
      s.policy.resources = r → s.Serves table calls table' →
      (s.serve request table').Leads h rest →
      ∀ spec answer, answered (.start spec) answer ∈ ofCalls calls ++ h → ∀ program,
        (Docker.run program spec = Docker.run program
            { spec with limits := { spec.limits with memoryBytes := none } } ↔
          ∀ mib, r.maxMemoryMib = some mib → mib = 0 ∨ 2 ^ 43 ≤ mib.toNat) ∧
        (Docker.run program spec = Docker.run program
            { spec with limits := { spec.limits with cpuQuota := none } } ↔
          ∀ x, r.maxCpus = some x → isFinite x = true → x < leastCpus) := by
  have hmemory : (ofResources r).memoryBytes = none ↔
      ∀ mib, r.maxMemoryMib = some mib → mib = 0 ∨ 2 ^ 43 ≤ mib.toNat := by
    simp only [ofResources, Option.bind_eq_none_iff, memoryBytesFor_eq_none_iff]
  have hcpus : (ofResources r).cpuQuota = none ↔
      ∀ x, r.maxCpus = some x → isFinite x = true → x < leastCpus := by
    rw [ofResources, Option.bind_eq_none_iff]
    exact forall_congr' fun x => imp_congr_right fun _ => cpuQuotaFor_eq_none_iff_imp
  refine ⟨fun b => ?_, hcpus, fun q hq => ?_, ?_⟩
  · simp only [ofResources, Option.bind_eq_some_iff, memoryBytesFor_eq_some_iff]
  · obtain ⟨x, -, hx⟩ := Option.bind_eq_some_iff.1 hq
    exact cpuQuotaFor_bounds hx
  · rintro s table table' calls h request rest rfl hserves hpart spec answer hm program
    obtain ⟨agent, network, rfl⟩ := hserves.starts_agents_always hpart _ hm
    exact ⟨(Docker.run_unlimited_memory_iff program _).trans hmemory,
      (Docker.run_unlimited_iff program _).trans hcpus⟩

/-! A supervisor whose agents may use a little processor time and more memory than
there is. -/

namespace Vanishing

def resources : Resources := ⟨some 0.000001, some 8796093022208⟩

def supervisor : Supervisor :=
  { AbortedStop.supervisor with policy := { FleetPolicy.standard with resources := resources } }

def served : ServedCall × FleetTable × Unit :=
  supervisor.serveIn AbortedStop.respond (.run [AbortedStop.first]) AbortedStop.firstTable ()

/-- What the engine is asked to start. -/
def spec? : FleetExchange → Option ContainerSpec
  | ⟨.runtime (.start spec), _⟩ => some spec
  | _ => none

theorem exists_of_isSome_spec {e : FleetExchange} (h : (spec? e).isSome = true) :
    ∃ spec answer, e = answered (.start spec) answer := by
  unfold spec? at h
  split at h
  · exact ⟨_, _, rfl⟩
  · cases h

end Vanishing

/-- Such an agent is started without any limit. -/
theorem limits_kept_exactly_vanishing :
    Vanishing.supervisor.policy.resources = Vanishing.resources ∧
    ∃ spec answer, answered (.start spec) answer ∈ ofCalls [Vanishing.served.1] ∧
      Docker.run "docker" spec = Docker.run "docker"
        { spec with limits := { spec.limits with memoryBytes := none } } ∧
      Docker.run "docker" spec = Docker.run "docker"
        { spec with limits := { spec.limits with cpuQuota := none } } := by
  have hserves : Vanishing.supervisor.Serves AbortedStop.firstTable [Vanishing.served.1]
      Vanishing.served.2.1 := Supervisor.Serves.nil.serveIn AbortedStop.respond _ ()
  obtain ⟨e, hm, hstart⟩ := List.any_eq_true.1
    (show (ofCalls [Vanishing.served.1]).any (fun e => (Vanishing.spec? e).isSome) = true by
      decide +kernel)
  obtain ⟨spec, answer, rfl⟩ := Vanishing.exists_of_isSome_spec hstart
  obtain ⟨hmemory, hcpus⟩ := (limits_kept_exactly Vanishing.resources).2.2.2 rfl hserves
    (.refl (Vanishing.supervisor.serve .shutdown Vanishing.served.2.1)) spec answer
    (List.mem_append_left _ hm) "docker"
  refine ⟨rfl, spec, answer, hm, hmemory.2 ?_, hcpus.2 ?_⟩
  · rintro _ ⟨⟩
    decide
  · rintro _ ⟨⟩ -
    decide +kernel

/-- Not every amount of memory greater than zero limits it, and not every finite
number of processors greater than zero limits those. -/
theorem positive_limits_dropped :
    (¬ ∀ (r : Resources) (mib : UInt64), r.maxMemoryMib = some mib → 0 < mib →
      ∃ b, (ofResources r).memoryBytes = some b ∧ 0 < b) ∧
    (¬ ∀ (r : Resources) (x : Float), r.maxCpus = some x → isFinite x = true → 0.0 < x →
      ∃ q, (ofResources r).cpuQuota = some q ∧ 0 < q) ∧
    ofResources Vanishing.resources = ⟨none, none⟩ := by
  have hnone : ofResources Vanishing.resources = ⟨none, none⟩ := by decide +kernel
  refine ⟨fun h => ?_, fun h => ?_, hnone⟩
  · obtain ⟨b, hb, -⟩ := h Vanishing.resources 8796093022208 rfl (by decide)
    rw [hnone] at hb
    cases hb
  · obtain ⟨q, hq, -⟩ := h Vanishing.resources 0.000001 rfl (by decide +kernel) (by decide +kernel)
    rw [hnone] at hq
    cases hq

end Limits

end NodeKeeper
