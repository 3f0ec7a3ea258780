/-
# The forms of a quantity

A number is written as a quantity in one way and read in many.  The written text
is the plainest of those that are read:

    0 x 1b4          what is written
    0 X 1B4          letters may be capitals       (`IsQuantity.raised`)
    0 x 000 1b4      zeros may follow the mark     (`IsQuantity.withZeros`)
    0 x + 1b4        a plus sign is read over

There are no other forms (`read_eq_ok_iff_form`).  So of the texts in small letters
that are read as a number, the written one is the shortest (`length_write_lt`).
-/
import NodeKeeper.Proofs.Inspection.Quantities
import NodeKeeper.Proofs.Number.Numerals

namespace NodeKeeper.Quantity

open Number Text

variable {raw raw' : String} {cs cs' sign : List Char} {m : Nat} {n : UInt64}

/-! ## The mark -/

theorem lowerChar_eq_x_iff {c : Char} : lowerChar c = 'x' ↔ c = 'x' ∨ c = 'X' := by
  have hletter : ∀ n < 91, 65 ≤ n → Char.ofNat (n + 32) = 'x' → n = 88 := by decide
  constructor
  · intro h
    obtain heq | ⟨n, hn, hle, rfl, hx⟩ := cases_of_lowerChar h
    · exact .inl heq
    · exact .inr (congrArg Char.ofNat (hletter n hn hle hx))
  · rintro (rfl | rfl)
    · rfl
    · rfl

theorem afterMark_iff :
    AfterMark raw cs ↔ ∃ mark, raw.toList = '0' :: mark :: cs ∧ lowerChar mark = 'x' := by
  simp only [lowerChar_eq_x_iff, and_or_left, exists_or, exists_eq_right, AfterMark]

/-! ## The forms -/

/-- A mark, a sign, zeros and the digits of the number; letters are in either
case. -/
def HasForm (sign : List Char) (raw : String) (m : Nat) : Prop :=
  ∃ mark k ds, raw.toList = '0' :: mark :: (sign ++ (List.replicate k '0' ++ ds)) ∧
    lowerChar mark = 'x' ∧ ds.map lowerChar = digits 16 m

theorem hasForm_iff :
    HasForm sign raw m ↔ ∃ ds, AfterMark raw (sign ++ ds) ∧ ds ≠ [] ∧ Spells 16 ds m := by
  simp only [afterMark_iff, spells_iff (show 1 < 16 by decide) (Nat.le_refl 16)]
  constructor
  · rintro ⟨mark, k, ds, hraw, hmark, hds⟩
    exact ⟨_, ⟨mark, hraw, hmark⟩, k, ds, rfl, hds⟩
  · rintro ⟨_, ⟨mark, hraw, hmark⟩, k, ds, rfl, hds⟩
    exact ⟨mark, k, ds, hraw, hmark, hds⟩

theorem isQuantity_iff_form : IsQuantity raw m ↔ HasForm [] raw m := by
  rw [hasForm_iff]
  rfl

theorem isPlusQuantity_iff_form : IsPlusQuantity raw m ↔ HasForm ['+'] raw m := by
  rw [hasForm_iff]
  rfl

theorem read_eq_ok_iff_form :
    read raw = .ok n ↔ ∃ sign, (sign = [] ∨ sign = ['+']) ∧ HasForm sign raw n.toNat := by
  rw [read_eq_ok_iff, isQuantity_iff_form, isPlusQuantity_iff_form]
  simp only [or_and_right, exists_or, exists_eq_left]

/-! ## What is written -/

theorem toList_write (n : UInt64) : (write n).toList = '0' :: 'x' :: digits 16 n.toNat :=
  String.toList_ofList

theorem isQuantity_write (n : UInt64) : IsQuantity (write n) n.toNat :=
  isQuantity_iff_form.2 ⟨'x', 0, _, toList_write n, rfl,
    lowerChar_digits (by decide) (Nat.le_refl 16) n.toNat⟩

theorem read_write (n : UInt64) : read (write n) = .ok n :=
  read_eq_ok_iff.2 (.inl (isQuantity_write n))

theorem lower_write (n : UInt64) : lower (write n) = write n := by
  have hdigits := lowerChar_digits (show 1 < 16 by decide) (Nat.le_refl 16) n.toNat
  rw [lower, toList_write, List.map_cons, List.map_cons, hdigits]
  rfl

/-- In small letters nothing else that is read as the number is as short as what is
written. -/
theorem length_write_lt (hread : read raw = .ok n) (hlower : lower raw = raw)
    (hne : raw ≠ write n) : (write n).length < raw.length := by
  obtain ⟨sign, -, mark, k, ds, hraw, hmark, hds⟩ := read_eq_ok_iff_form.1 hread
  have hsmall : ∀ c ∈ raw.toList, lowerChar c = c := by
    have htext := congrArg String.toList hlower
    rw [lower, String.toList_ofList] at htext
    exact List.map_inj_left.1 (htext.trans (List.map_id _).symm)
  obtain rfl : mark = 'x' := (hsmall mark (by simp [hraw])).symm.trans hmark
  obtain rfl : ds = digits 16 n.toNat := by
    rw [← hds]
    exact ((List.map_congr_left fun c hc => hsmall c (by simp [hraw, hc])).trans
      (List.map_id ds)).symm
  have hlength : raw.length = (write n).length + (sign.length + k) := by
    rw [← String.length_toList, ← String.length_toList, hraw, toList_write]
    simp only [List.length_cons, List.length_append, List.length_replicate]
    omega
  have hmore : 0 < sign.length + k := by
    refine Nat.pos_of_ne_zero fun hnone => hne ?_
    obtain ⟨hsign, rfl⟩ := Nat.add_eq_zero_iff.1 hnone
    rw [← String.toList_inj, hraw, List.eq_nil_of_length_eq_zero hsign, toList_write]
    rfl
  omega

/-! ## Capitals and zeros -/

/-- Letters may have become capitals. -/
def Raised (cs cs' : List Char) : Prop := List.Forall₂ (fun c c' => c' = c ∨ c' = c.toUpper) cs cs'

/-- Zeros put in after the mark. -/
def zerosAfterMark (k : Nat) (cs : List Char) : List Char :=
  cs.take 2 ++ (List.replicate k '0' ++ cs.drop 2)

theorem lowerChar_toUpper (c : Char) : lowerChar c.toUpper = lowerChar c := by
  have hascii : ∀ n < 128, lowerChar (Char.ofNat n).toUpper = lowerChar (Char.ofNat n) := by
    decide +kernel
  by_cases hc : c.toNat < 128
  · have hn := hascii c.toNat hc
    rwa [Char.ofNat_toNat] at hn
  · have hsame : c.toUpper = c := by
      refine dif_neg fun hletter => hc ?_
      have hz : c.toNat ≤ 'z'.toNat := hletter.2
      exact Nat.lt_of_le_of_lt hz (by decide)
    rw [hsame]

theorem lowerChar_of_raised {c c' : Char} (h : c' = c ∨ c' = c.toUpper) :
    lowerChar c' = lowerChar c := by
  rcases h with rfl | rfl
  · rfl
  · exact lowerChar_toUpper c

theorem Raised.map_lowerChar (h : Raised cs cs') : cs.map lowerChar = cs'.map lowerChar := by
  induction h with
  | nil => rfl
  | cons hc _ ih => rw [List.map_cons, List.map_cons, ih, lowerChar_of_raised hc]

theorem IsQuantity.raised (hq : IsQuantity raw m) (h : Raised raw.toList raw'.toList) :
    IsQuantity raw' m := by
  obtain ⟨ds, hmark, hne, hspells⟩ := hq
  obtain ⟨mark, hraw, hx⟩ := afterMark_iff.1 hmark
  rw [hraw] at h
  obtain ⟨zero, _, hzero, h, hraw'⟩ := List.forall₂_cons_left_iff.1 h
  obtain ⟨mark', ds', hmark', hds, rfl⟩ := List.forall₂_cons_left_iff.1 h
  obtain rfl : zero = '0' := eq_zero_of_lowerChar (lowerChar_of_raised hzero)
  refine ⟨ds', afterMark_iff.2 ⟨mark', hraw', (lowerChar_of_raised hmark').trans hx⟩, ?_, ?_⟩
  · rintro rfl
    exact hne (List.forall₂_nil_right_iff.1 hds)
  · exact hspells.of_lowerChar (Raised.map_lowerChar hds)

theorem IsQuantity.withZeros (hq : IsQuantity raw m) {k : Nat}
    (h : raw'.toList = zerosAfterMark k raw.toList) : IsQuantity raw' m := by
  obtain ⟨ds, hmark, hne, hspells⟩ := hq
  obtain ⟨mark, hraw, hx⟩ := afterMark_iff.1 hmark
  rw [hraw] at h
  exact ⟨List.replicate k '0' ++ ds, afterMark_iff.2 ⟨mark, h, hx⟩,
    List.append_ne_nil_of_right_ne_nil _ hne, hspells.zeros (by decide) k⟩

end NodeKeeper.Quantity
