/-
# The ways to spell a number

A number has digits, the most significant first, and no zero before them unless it
is zero.  It is spelled in other ways too: zeros may stand in front, and letters
may be capitals.  These are all the ways there are (`spells_iff`):

    cs spells n     ⟷     cs is zeros and then the digits of n, in either case

So the digits are the shortest spelling.
-/
import NodeKeeper.Proofs.Number.Integers

namespace NodeKeeper.Number

open Text

variable {base n d : Nat} {c : Char} {cs cs' : List Char}

/-! ## Digits in either case -/

theorem digitSymbols_getElem? : ∀ d < 16, digitSymbols[d]? = some (Nat.digitChar d) := by decide

theorem lowerChar_digitChar : ∀ d < 16, lowerChar (Nat.digitChar d) = Nat.digitChar d := by decide

theorem isDigit_iff (hbase : base ≤ 16) :
    IsDigit base c d ↔ d < base ∧ lowerChar c = Nat.digitChar d := by
  refine and_congr_right fun hd => ?_
  rw [digitSymbols_getElem? d (by omega), Option.some.injEq, eq_comm]

theorem isDigit_digitChar (hbase : base ≤ 16) (hd : d < base) :
    IsDigit base (Nat.digitChar d) d :=
  (isDigit_iff hbase).2 ⟨hd, lowerChar_digitChar d (by omega)⟩

theorem cases_of_lowerChar {l : Char} (h : lowerChar c = l) :
    c = l ∨ ∃ n < 91, 65 ≤ n ∧ c = Char.ofNat n ∧ Char.ofNat (n + 32) = l := by
  unfold lowerChar at h
  split at h
  · next hupper =>
    exact .inr ⟨c.toNat, Nat.lt_succ_of_le hupper.2, hupper.1, (Char.ofNat_toNat c).symm, h⟩
  · exact .inl h

theorem eq_zero_of_lowerChar (h : lowerChar c = '0') : c = '0' := by
  have hletter : ∀ n < 91, 65 ≤ n → Char.ofNat (n + 32) ≠ '0' := by decide
  obtain heq | ⟨n, hn, hle, -, hzero⟩ := cases_of_lowerChar h
  · exact heq
  · exact absurd hzero (hletter n hn hle)

/-! ## Spellings of one number -/

theorem Spells.of_lowerChar (h : cs.map lowerChar = cs'.map lowerChar) (hs : Spells base cs n) :
    Spells base cs' n := by
  obtain ⟨ds, hall, hn⟩ := hs
  refine ⟨ds, ?_, hn⟩
  let stands (l : Char) (d : Nat) : Prop := d < base ∧ digitSymbols[d]? = some l
  have hlower : List.Forall₂ stands (cs.map lowerChar) ds := List.forall₂_map_left_iff.2 hall
  rw [h] at hlower
  exact (List.forall₂_map_left_iff (R := stands) (f := lowerChar)).1 hlower

theorem Spells.cons_zero (hbase : 0 < base) (hs : Spells base cs n) : Spells base ('0' :: cs) n := by
  obtain ⟨ds, hall, hn⟩ := hs
  refine ⟨0 :: ds, .cons ⟨hbase, rfl⟩ hall, ?_⟩
  rw [ofDigits_reverse_cons, Nat.zero_mul, Nat.zero_add, hn]

theorem Spells.zeros (hbase : 0 < base) (hs : Spells base cs n) (k : Nat) :
    Spells base (List.replicate k '0' ++ cs) n := by
  induction k with
  | zero => exact hs
  | succ k ih => exact ih.cons_zero hbase

theorem Spells.snoc (hs : Spells base cs n) (hd : IsDigit base c d) :
    Spells base (cs ++ [c]) (base * n + d) := by
  obtain ⟨ds, hall, hn⟩ := hs
  refine ⟨ds ++ [d], List.rel_append hall (.cons hd .nil), ?_⟩
  rw [List.reverse_append, List.reverse_singleton, List.singleton_append, Nat.ofDigits_cons, hn]
  exact Nat.add_comm ..

theorem spells_digits (hone : 1 < base) (hbase : base ≤ 16) (n : Nat) :
    Spells base (digits base n) n := by
  unfold digits
  induction n using Nat.strongRecOn with
  | ind n ih =>
      rw [Nat.toDigits_eq_if hone]
      split
      · next hlt => exact ⟨[n], .cons (isDigit_digitChar hbase hlt) .nil, by simp⟩
      · next hle =>
        have hless : n / base < n := Nat.div_lt_self (by omega) hone
        have hlast := (ih (n / base) hless).snoc
          (isDigit_digitChar hbase (Nat.mod_lt n (by omega)))
        rwa [Nat.div_add_mod] at hlast

theorem lowerChar_digits (hone : 1 < base) (hbase : base ≤ 16) (n : Nat) :
    (digits base n).map lowerChar = digits base n := by
  unfold digits
  induction n using Nat.strongRecOn with
  | ind n ih =>
      rw [Nat.toDigits_eq_if hone]
      split
      · next hlt => exact congrArg ([·]) (lowerChar_digitChar n (by omega))
      · next hle =>
        have hless : n / base < n := Nat.div_lt_self (by omega) hone
        have hlast : n % base < base := Nat.mod_lt n (by omega)
        rw [List.map_append, ih (n / base) hless]
        exact congrArg (_ ++ [·]) (lowerChar_digitChar _ (by omega))

/-! ## No other spellings -/

/-- Digits that follow those of a number are the digits of a greater one. -/
theorem digits_append (hone : 1 < base) (hbase : base ≤ 16) {acc : Nat} (hpos : 0 < acc)
    {ds : List Nat} (hall : List.Forall₂ (IsDigit base) cs ds) :
    digits base acc ++ cs.map lowerChar =
      digits base (acc * base ^ ds.length + Nat.ofDigits base ds.reverse) := by
  induction hall generalizing acc with
  | nil => simp
  | @cons c d cs ds hd hall ih =>
      obtain ⟨hlt, hlower⟩ := (isDigit_iff hbase).1 hd
      have hnext : digits base acc ++ [lowerChar c] = digits base (base * acc + d) := by
        rw [hlower, ← Nat.toDigits_of_lt_base hlt]
        exact Nat.toDigits_append_toDigits hone hpos hlt
      have hgrows : 0 < base * acc + d := by
        have := Nat.mul_pos (Nat.zero_lt_of_lt hone) hpos
        omega
      rw [List.map_cons, List.append_cons, hnext, ih hgrows, ofDigits_reverse_cons,
        List.length_cons]
      congr 1
      ring

/-- Behind the zeros in front stand the digits. -/
theorem Spells.exists_zeros (hone : 1 < base) (hbase : base ≤ 16) (hs : Spells base cs n)
    (hne : cs ≠ []) :
    ∃ k ds, cs = List.replicate k '0' ++ ds ∧ ds.map lowerChar = digits base n := by
  obtain ⟨ds, hall, hn⟩ := hs
  induction hall with
  | nil => exact absurd rfl hne
  | @cons c d cs ds hd hall ih =>
      obtain ⟨hlt, hlower⟩ := (isDigit_iff hbase).1 hd
      rw [ofDigits_reverse_cons] at hn
      rcases Nat.eq_zero_or_pos d with rfl | hpos
      · obtain rfl : c = '0' := eq_zero_of_lowerChar hlower
        rw [Nat.zero_mul, Nat.zero_add] at hn
        cases hall with
        | nil =>
            -- the only zero is a digit itself
            subst hn
            exact ⟨0, ['0'], rfl, (Nat.toDigits_of_lt_base hlt).symm⟩
        | cons hd' hall' =>
            obtain ⟨k, rest, hrest, hdigits⟩ := ih (List.cons_ne_nil _ _) hn
            exact ⟨k + 1, rest, congrArg ('0' :: ·) hrest, hdigits⟩
      · refine ⟨0, c :: cs, rfl, ?_⟩
        rw [← hn, ← digits_append hone hbase hpos hall, List.map_cons, hlower, digits,
          Nat.toDigits_of_lt_base hlt]
        rfl

/-- A number is spelled by its digits in either case, after zeros, and in no other
way. -/
theorem spells_iff (hone : 1 < base) (hbase : base ≤ 16) :
    cs ≠ [] ∧ Spells base cs n ↔
      ∃ k ds, cs = List.replicate k '0' ++ ds ∧ ds.map lowerChar = digits base n := by
  constructor
  · rintro ⟨hne, hs⟩
    exact hs.exists_zeros hone hbase hne
  · rintro ⟨k, ds, rfl, hds⟩
    have hnil : ds ≠ [] := by
      rintro rfl
      exact Nat.toDigits_ne_nil hds.symm
    have hlower : (digits base n).map lowerChar = ds.map lowerChar := by
      rw [lowerChar_digits hone hbase, hds]
    have hspells : Spells base ds n := (spells_digits hone hbase n).of_lowerChar hlower
    exact ⟨List.append_ne_nil_of_right_ne_nil _ hnil, hspells.zeros (Nat.zero_lt_of_lt hone) k⟩

end NodeKeeper.Number
