/-
# The names of agents' containers

An agent's identifier is any text, and it reaches the name of its container
through a digest only.  So whatever the identifier is, the name has one form:

    vigil-agent-d₁d₂…d₁₂      twelve lower-case hexadecimal digits

A container whose name does not have this form is nobody's agent.
-/
import NodeKeeper.Agent.Descriptor

namespace NodeKeeper

namespace Text

/-- The digits that `hexOfBytes` writes. -/
def hexDigits : List Char := "0123456789abcdef".toList

theorem digitChar_mem {d : Nat} (hd : d < 16) : digitChar d ∈ hexDigits := by
  have hall : ∀ d : Fin 16, digitChar d ∈ hexDigits := by decide
  exact hall ⟨d, hd⟩

theorem hexOfBytes_digits (bytes : List UInt8) :
    ∃ digits : List Char, hexOfBytes bytes = String.ofList digits ∧
      digits.length = 2 * bytes.length ∧ ∀ c ∈ digits, c ∈ hexDigits := by
  refine ⟨_, rfl, ?_, ?_⟩
  · induction bytes with
    | nil => rfl
    | cons b rest ih =>
        rw [List.flatMap_cons, List.length_append, ih, List.length_cons, List.length_cons,
          List.length_cons, List.length_nil]
        omega
  · intro c hc
    obtain ⟨b, -, hc⟩ := List.mem_flatMap.1 hc
    have hb : b.toNat < 256 := b.toNat_lt
    rcases List.mem_cons.1 hc with rfl | hc
    · exact digitChar_mem (by omega)
    · obtain rfl := List.mem_singleton.1 hc
      exact digitChar_mem (by omega)

end Text

theorem Digest.length_ofBytes (bytes : List UInt8) : (Digest.ofBytes bytes).length = 32 := by
  have hwords : ∀ s : Digest.State, (s.words.flatMap Digest.bytesOfWord).length = 32 :=
    fun _ => rfl
  exact hwords _

/-- The form of the names of agents' containers. -/
def IsAgentName (name : String) : Prop :=
  ∃ digits : List Char, name = Agent.containerPrefix ++ "-" ++ String.ofList digits ∧
    digits.length = 12 ∧ ∀ c ∈ digits, c ∈ Text.hexDigits

/-- The digits are what follows the twelve characters in front. -/
theorem isAgentName_iff {name : String} :
    IsAgentName name ↔
      name.toList.take 12 = (Agent.containerPrefix ++ "-").toList ∧
      (name.toList.drop 12).length = 12 ∧
      (name.toList.drop 12).all Text.hexDigits.contains = true := by
  simp only [List.all_eq_true, List.contains_iff_mem]
  have hfront : (Agent.containerPrefix ++ "-").toList.length = 12 := by decide
  constructor
  · rintro ⟨digits, rfl, hlength, hdigits⟩
    rw [String.toList_append, String.toList_ofList, List.take_left' hfront, List.drop_left' hfront]
    exact ⟨rfl, hlength, hdigits⟩
  · rintro ⟨htake, hlength, hdigits⟩
    refine ⟨name.toList.drop 12, ?_, hlength, hdigits⟩
    rw [← String.toList_inj, String.toList_append, String.toList_ofList, ← htake,
      List.take_append_drop]

instance : DecidablePred IsAgentName := fun _ => decidable_of_iff' _ isAgentName_iff

theorem Agent.isAgentName_containerName (a : Agent) : IsAgentName a.containerName := by
  obtain ⟨digits, hhex, hlength, hdigits⟩ := Text.hexOfBytes_digits (a.digest.take 6)
  refine ⟨digits, ?_, ?_, hdigits⟩
  · rw [Agent.containerName, hhex]
  · have hbytes : a.digest.length = 32 := Digest.length_ofBytes _
    rw [hlength, List.length_take, hbytes]
    rfl

example : ¬ IsAgentName "vigil-scanner" := by decide +kernel

end NodeKeeper
