/-
# Which texts are quantities

A quantity is `0x` or `0X` and one or more hexadecimal digits, in either case
(`IsQuantity`).  The reader takes the quantities below `2 ^ 64`, whatever zeros
they begin with, and gives their values.  But it leaves the digits to a reader of
integers, and that takes a plus sign in front of them: so `0x+1b4` is read as 436
(`read_takes_plus`).  Nothing else is read (`read_quantities_exactly`).
-/
import NodeKeeper.Inspection.Quantity
import NodeKeeper.Proofs.Number.Integers

namespace NodeKeeper.Quantity

open Number

variable {raw : String} {n : UInt64}

/-- What stands after the mark of a quantity. -/
def AfterMark (raw : String) (cs : List Char) : Prop :=
  raw.toList = '0' :: 'x' :: cs ∨ raw.toList = '0' :: 'X' :: cs

/-- The text is the mark and the digits of the number. -/
def IsQuantity (raw : String) (n : Nat) : Prop :=
  ∃ ds, AfterMark raw ds ∧ ds ≠ [] ∧ Spells 16 ds n

/-- The text is one with a plus sign between the mark and the digits. -/
def IsPlusQuantity (raw : String) (n : Nat) : Prop :=
  ∃ ds, AfterMark raw ('+' :: ds) ∧ ds ≠ [] ∧ Spells 16 ds n

theorem digits?_eq_some_iff {cs : List Char} : digits? raw.toList = some cs ↔ AfterMark raw cs := by
  unfold digits? AfterMark
  constructor
  · intro h
    split at h
    · next heq =>
      cases h
      exact .inl heq
    · next heq =>
      cases h
      exact .inr heq
    · cases h
  · rintro (h | h)
    · rw [h]
      rfl
    · rw [h]
      rfl

theorem read_eq_ok_iff_readUnsigned :
    read raw = .ok n ↔ ∃ cs, AfterMark raw cs ∧ readUnsigned 16 maxU64 cs = .ok n.toNat := by
  simp only [← digits?_eq_some_iff]
  unfold read
  cases hmark : digits? raw.toList with
  | none => exact iff_of_false nofun fun ⟨_, h, _⟩ => nomatch h
  | some cs =>
      simp only [Option.some.injEq, exists_eq_left']
      cases hread : readUnsigned 16 maxU64 cs with
      | error e => exact iff_of_false nofun nofun
      | ok m =>
          have hm : m ≤ maxU64 := ((readUnsigned_eq_ok_iff (by decide)).1 hread).1
          have hword : m.toUInt64.toNat = m := Nat.mod_eq_of_lt (Nat.lt_succ_of_le hm)
          rw [Except.ok.injEq, Except.ok.injEq, ← UInt64.toNat_inj, hword]

theorem read_eq_ok_iff :
    read raw = .ok n ↔ IsQuantity raw n.toNat ∨ IsPlusQuantity raw n.toNat := by
  have hlimit : n.toNat ≤ maxU64 := Nat.le_of_lt_succ n.toNat_lt
  simp only [read_eq_ok_iff_readUnsigned, readUnsigned_eq_ok_iff (show 0 < 16 by decide), hlimit,
    true_and]
  constructor
  · rintro ⟨cs, hmark, ⟨hne, hspells⟩ | ⟨ds, hne, rfl, hspells⟩⟩
    · exact .inl ⟨cs, hmark, hne, hspells⟩
    · exact .inr ⟨ds, hmark, hne, hspells⟩
  · rintro (⟨ds, hmark, hne, hspells⟩ | ⟨ds, hmark, hne, hspells⟩)
    · exact ⟨ds, hmark, .inl ⟨hne, hspells⟩⟩
    · exact ⟨'+' :: ds, hmark, .inr ⟨ds, hne, rfl, hspells⟩⟩

theorem exists_rpc_of_error {e : InspectionError} (h : read raw = .error e) :
    ∃ message, e = .rpc message := by
  unfold read at h
  split at h
  · cases h
    exact ⟨_, rfl⟩
  · split at h
    · cases h
    · cases h
      exact ⟨_, rfl⟩

/-- **Which texts are read as quantities.**  A text is read as a number just when
it is a quantity of the number, or would be one without the plus sign that stands
between the mark and the digits.  Every other text is refused. -/
theorem read_quantities_exactly (raw : String) :
    (∀ n, read raw = .ok n ↔ IsQuantity raw n.toNat ∨ IsPlusQuantity raw n.toNat) ∧
    ((∀ n < 2 ^ 64, ¬ IsQuantity raw n ∧ ¬ IsPlusQuantity raw n) ↔
      ∃ message, read raw = .error (.rpc message)) := by
  refine ⟨fun n => read_eq_ok_iff, ?_⟩
  constructor
  · intro hnone
    cases hread : read raw with
    | error e =>
        obtain ⟨message, rfl⟩ := exists_rpc_of_error hread
        exact ⟨message, rfl⟩
    | ok n =>
        obtain ⟨hquantity, hplus⟩ := hnone n.toNat n.toNat_lt
        rcases read_eq_ok_iff.1 hread with h | h
        · exact absurd h hquantity
        · exact absurd h hplus
  · rintro ⟨message, hread⟩ n hn
    have hword : (UInt64.ofNat n).toNat = n := Nat.mod_eq_of_lt hn
    have hnot : ¬ (IsQuantity raw n ∨ IsPlusQuantity raw n) := by
      intro h
      rw [← hword] at h
      exact nomatch hread.symm.trans (read_eq_ok_iff.2 h)
    exact not_or.1 hnot

example : read "0X00fF" = .ok 255 := rfl

/-- A plus sign is no part of a quantity, but it is read. -/
theorem read_takes_plus :
    read "0x+1b4" = .ok 436 ∧ (∀ n, ¬ IsQuantity "0x+1b4" n) ∧
    ¬ ∀ raw n, read raw = .ok n ↔ IsQuantity raw n.toNat := by
  have hread : read "0x+1b4" = .ok 436 := rfl
  have hnot : ∀ n, ¬ IsQuantity "0x+1b4" n := by
    rintro n ⟨ds, hmark, -, hspells⟩
    have hds : ds = ['+', '1', 'b', '4'] := by
      rcases hmark with h | h
      · exact (List.cons.inj (List.cons.inj h).2).2.symm
      · exact absurd (List.cons.inj (List.cons.inj h).2).1 (by decide)
    exact not_spells_sign (.inl rfl) (hds ▸ hspells)
  exact ⟨hread, hnot, fun h => hnot _ ((h "0x+1b4" 436).1 hread)⟩

end NodeKeeper.Quantity
