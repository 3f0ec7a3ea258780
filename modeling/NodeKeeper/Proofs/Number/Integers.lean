/-
# Which texts are unsigned integers

An integer in a base is spelled by digits, the most significant first, and a
letter is the same digit in either case (`Spells`).  The reader goes from left to
right, keeps the value so far and gives up when that exceeds the limit.  The value
never becomes less again, so what is accepted depends on the whole text alone:

    the digits, after a value so far      `readDigits_eq_ok_iff`
    the text, with its optional sign      `readUnsigned_eq_ok_iff`
-/
import Mathlib.Data.List.Forall2
import Mathlib.Data.Nat.Digits.Defs
import Mathlib.Tactic.Ring
import NodeKeeper.Number.Integer

namespace NodeKeeper.Number

open Text

variable {base limit value n d : Nat} {c : Char} {cs : List Char}

/-! ## Digits -/

/-- The digits in the order of their values. -/
def digitSymbols : List Char :=
  ['0', '1', '2', '3', '4', '5', '6', '7', '8', '9', 'a', 'b', 'c', 'd', 'e', 'f']

/-- The character is a digit of the base, in either case, and has the value. -/
def IsDigit (base : Nat) (c : Char) (d : Nat) : Prop :=
  d < base ∧ digitSymbols[d]? = some (lowerChar c)

theorem digitValue?_ascii : ∀ n < 128, ∀ d < 16,
    digitValue? 16 (Char.ofNat n) = some d ↔ digitSymbols[d]? = some (lowerChar (Char.ofNat n)) := by
  decide +kernel

theorem digitValue?_eq_some_iff_sixteen :
    digitValue? base c = some d ↔ d < base ∧ digitValue? 16 c = some d := by
  unfold digitValue?
  simp only [Option.ite_none_right_eq_some, Option.some.injEq]
  split_ifs <;> omega

theorem digitValue?_eq_none_of_le (hc : 128 ≤ c.toNat) : digitValue? base c = none := by
  unfold digitValue?
  simp only [ite_eq_right_iff, reduceCtorEq, imp_false]
  split_ifs <;> omega

theorem not_isDigit_of_le (hc : 128 ≤ c.toNat) : ¬ IsDigit base c d := by
  rintro ⟨-, hsymbol⟩
  have hsame : lowerChar c = c := by
    refine if_neg fun hupper => ?_
    have hle : c.toNat ≤ 90 := hupper.2
    omega
  have hascii : ∀ s ∈ digitSymbols, s.toNat < 128 := by simp [digitSymbols]
  rw [hsame] at hsymbol
  exact absurd (hascii c (List.mem_of_getElem? hsymbol)) (Nat.not_lt.2 hc)

theorem digitValue?_eq_some_iff : digitValue? base c = some d ↔ IsDigit base c d := by
  by_cases hc : 128 ≤ c.toNat
  · rw [digitValue?_eq_none_of_le hc]
    exact iff_of_false nofun (not_isDigit_of_le hc)
  rw [digitValue?_eq_some_iff_sixteen]
  refine and_congr_right fun _ => ?_
  by_cases hd : d < 16
  · have hn := digitValue?_ascii c.toNat (Nat.lt_of_not_le hc) d hd
    rwa [Char.ofNat_toNat] at hn
  · refine iff_of_false (fun h => hd (digitValue?_eq_some_iff_sixteen.1 h).1) ?_
    rw [List.getElem?_eq_none (Nat.le_of_not_lt hd)]
    exact nofun

theorem IsDigit.unique {d' : Nat} (h : IsDigit base c d) (h' : IsDigit base c d') : d = d' :=
  Option.some.inj ((digitValue?_eq_some_iff.2 h).symm.trans (digitValue?_eq_some_iff.2 h'))

theorem not_isDigit_sign (hc : c = '+' ∨ c = '-') : ¬ IsDigit base c d := by
  rintro ⟨-, hsymbol⟩
  rcases hc with rfl | rfl
  · exact absurd (List.mem_of_getElem? hsymbol) (by decide)
  · exact absurd (List.mem_of_getElem? hsymbol) (by decide)

/-! ## Numerals -/

/-- The characters are the digits of the number, the most significant first. -/
def Spells (base : Nat) (cs : List Char) (n : Nat) : Prop :=
  ∃ ds, List.Forall₂ (IsDigit base) cs ds ∧ Nat.ofDigits base ds.reverse = n

theorem ofDigits_reverse_cons (base d : Nat) (ds : List Nat) :
    Nat.ofDigits base (d :: ds).reverse = d * base ^ ds.length + Nat.ofDigits base ds.reverse := by
  rw [List.reverse_cons, Nat.ofDigits_append, Nat.ofDigits_singleton, List.length_reverse]
  ring

theorem readDigits_cons_of_digit (h : IsDigit base c d) :
    readDigits base limit value (c :: cs) =
      if value * base + d ≤ limit then readDigits base limit (value * base + d) cs
      else .error .tooLarge := by
  rw [readDigits, digitValue?_eq_some_iff.2 h]

theorem readDigits_cons_of_not_digit (h : ∀ d, ¬ IsDigit base c d) :
    readDigits base limit value (c :: cs) = .error .invalidDigit := by
  have hnone : digitValue? base c = none := by
    refine Option.eq_none_iff_forall_ne_some.2 fun d hd => ?_
    exact h d (digitValue?_eq_some_iff.1 hd)
  rw [readDigits, hnone]

/-- Digits that follow a value are read if all of them are digits and the limit is
kept in the end. -/
theorem readDigits_eq_ok_iff (hpos : 0 < base) (hvalue : value ≤ limit) :
    readDigits base limit value cs = .ok n ↔ n ≤ limit ∧
      ∃ ds, List.Forall₂ (IsDigit base) cs ds ∧
        value * base ^ ds.length + Nat.ofDigits base ds.reverse = n := by
  induction cs generalizing value with
  | nil =>
      constructor
      · rintro ⟨⟩
        exact ⟨hvalue, [], .nil, by simp⟩
      · rintro ⟨-, _, ⟨⟩, rfl⟩
        simp [readDigits]
  | cons c cs ih =>
      by_cases hdigit : ∃ d, IsDigit base c d
      case neg =>
        rw [readDigits_cons_of_not_digit (not_exists.1 hdigit)]
        refine iff_of_false nofun ?_
        rintro ⟨-, _, hall, -⟩
        obtain ⟨d, _, hd, -, -⟩ := List.forall₂_cons_left_iff.1 hall
        exact hdigit ⟨d, hd⟩
      obtain ⟨d, hd⟩ := hdigit
      have hcons : ∀ ds, value * base ^ (d :: ds).length + Nat.ofDigits base (d :: ds).reverse =
          (value * base + d) * base ^ ds.length + Nat.ofDigits base ds.reverse := by
        intro ds
        rw [ofDigits_reverse_cons, List.length_cons]
        ring
      have htail : (∃ ds, List.Forall₂ (IsDigit base) (c :: cs) ds ∧
            value * base ^ ds.length + Nat.ofDigits base ds.reverse = n) ↔
          ∃ ds, List.Forall₂ (IsDigit base) cs ds ∧
            (value * base + d) * base ^ ds.length + Nat.ofDigits base ds.reverse = n := by
        constructor
        · rintro ⟨_, hall, hn⟩
          obtain ⟨d', ds, hd', htail, rfl⟩ := List.forall₂_cons_left_iff.1 hall
          obtain rfl := hd.unique hd'
          exact ⟨ds, htail, (hcons ds).symm.trans hn⟩
        · rintro ⟨ds, hall, hn⟩
          exact ⟨d :: ds, .cons hd hall, (hcons ds).trans hn⟩
      rw [readDigits_cons_of_digit hd, htail]
      split
      case isTrue hnext => exact ih hnext
      case isFalse hnext =>
        -- what follows makes no less of what is too large already
        refine iff_of_false nofun ?_
        rintro ⟨hn, ds, -, rfl⟩
        have hgrows : value * base + d ≤ (value * base + d) * base ^ ds.length :=
          Nat.le_mul_of_pos_right _ (Nat.pow_pos hpos)
        omega

theorem readDigits_zero_eq_ok_iff (hpos : 0 < base) :
    readDigits base limit 0 cs = .ok n ↔ n ≤ limit ∧ Spells base cs n := by
  simp only [readDigits_eq_ok_iff hpos (Nat.zero_le limit), Nat.zero_mul, Nat.zero_add, Spells]

theorem not_spells_sign (hc : c = '+' ∨ c = '-') : ¬ Spells base (c :: cs) n := by
  rintro ⟨_, hall, -⟩
  obtain ⟨d, _, hd, -, -⟩ := List.forall₂_cons_left_iff.1 hall
  exact not_isDigit_sign hc hd

/-- A text is read as an integer if it is one up to the limit, or becomes one
without a plus sign in front. -/
theorem readUnsigned_eq_ok_iff (hpos : 0 < base) :
    readUnsigned base limit cs = .ok n ↔ n ≤ limit ∧
      (cs ≠ [] ∧ Spells base cs n ∨ ∃ ds, ds ≠ [] ∧ cs = '+' :: ds ∧ Spells base ds n) := by
  unfold readUnsigned
  split
  case h_1 =>
    refine iff_of_false nofun ?_
    rintro ⟨-, ⟨hne, -⟩ | ⟨_, -, h, -⟩⟩
    · exact hne rfl
    · exact nomatch h
  case h_2 =>
    refine iff_of_false nofun ?_
    rintro ⟨-, ⟨-, hspells⟩ | ⟨_, hne, h, -⟩⟩
    · exact not_spells_sign (.inl rfl) hspells
    · exact hne (List.cons.inj h).2.symm
  case h_3 =>
    refine iff_of_false nofun ?_
    rintro ⟨-, ⟨-, hspells⟩ | ⟨_, -, h, -⟩⟩
    · exact not_spells_sign (.inr rfl) hspells
    · exact absurd (List.cons.inj h).1 (by decide)
  case h_4 c cs =>
    rw [readDigits_zero_eq_ok_iff hpos]
    refine and_congr_right fun _ => ⟨?_, ?_⟩
    · exact fun hspells => .inr ⟨c :: cs, List.cons_ne_nil _ _, rfl, hspells⟩
    · rintro (⟨-, hspells⟩ | ⟨_, -, h, hspells⟩)
      · exact absurd hspells (not_spells_sign (.inl rfl))
      · exact (List.cons.inj h).2 ▸ hspells
  case h_5 hne _ _ hsigned =>
    rw [readDigits_zero_eq_ok_iff hpos]
    refine and_congr_right fun _ => ⟨?_, ?_⟩
    · exact fun hspells => .inl ⟨hne, hspells⟩
    · rintro (⟨-, hspells⟩ | ⟨ds, hds, h, -⟩)
      · exact hspells
      · obtain ⟨c, cs, rfl⟩ := List.exists_cons_of_ne_nil hds
        exact absurd h (hsigned c cs)

end NodeKeeper.Number
