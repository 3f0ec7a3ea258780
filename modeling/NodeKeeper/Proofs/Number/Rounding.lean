/-
# Rounded products

A finite double that is not zero has digits `m` and an exponent `e`, and its size
is `m * 2 ^ e`.  There are 53 digits, unless the exponent is the smallest one.  A
product has the digits multiplied and the exponents added; it has too many digits
then, and is rounded to 53 of them:

    M * 2 ^ E   ⟶   r * 2 ^ t     with   M / 2 ^ k ≤ r ≤ M / 2 ^ k + 1,   k = t - E

When a double is rounded to a whole number, all that decides whether it vanishes
is whether it has reached one half.

    Fits m e            digits and exponent are those of a double
    carried s r t       what rounding makes of the digits `r`

**Proved here.**

    digits and exponent are read off the bits                  (`ofBits_of_finite`)
    a double comes back from its bits                          (`unpack_pack`)
    rounding loses less than one unit of the last digit        (`roundWithAccuracy_eq`)
    a product from one half on does not vanish, nor does one
    that is too large for a double                             (`not_vanishes_of_large`)
    a smaller product vanishes                                 (`vanishes_of_small`)
-/
import Mathlib
import NodeKeeper.Number.Binary

namespace NodeKeeper.Number

open Float.Model Float.Model.UnpackedFloat

/-- Digits and exponent of a double that is finite and not zero; the exponent may
be too large. -/
structure Fits (m : Nat) (e : Int) : Prop where
  lt : m < 2 ^ 53
  le : -1074 ≤ e
  full : 2 ^ 52 ≤ m ∨ e = -1074

/-! ## Bits -/

/-- The exponent that is written. -/
def exponentField (b : UInt64) : Nat := (@unpackExponent Format.binary64 b.toBitVec).toNat

/-- The digits that are written. -/
def fractionField (b : UInt64) : Nat := (@unpackMantissa Format.binary64 b.toBitVec).toNat

theorem exponentField_lt (b : UInt64) : exponentField b < 2 ^ 11 :=
  (@unpackExponent Format.binary64 b.toBitVec).isLt

theorem fractionField_lt (b : UInt64) : fractionField b < 2 ^ 52 :=
  (@unpackMantissa Format.binary64 b.toBitVec).isLt

theorem toNat_exponent (b : UInt64) : ((b >>> 52) &&& 0x7FF).toNat = exponentField b := by
  rw [UInt64.toNat_and, UInt64.toNat_shiftRight]
  show (b.toNat >>> 52) &&& (2 ^ 11 - 1) = _
  rw [Nat.and_two_pow_sub_one_eq_mod]
  simp [exponentField, unpackExponent, BitVec.extractLsb, BitVec.extractLsb'_toNat]

theorem toNat_fraction (b : UInt64) : (b &&& 0xFFFFFFFFFFFFF).toNat = fractionField b := by
  rw [UInt64.toNat_and]
  show b.toNat &&& (2 ^ 52 - 1) = _
  rw [Nat.and_two_pow_sub_one_eq_mod]
  simp [fractionField, unpackMantissa, BitVec.extractLsb, BitVec.extractLsb'_toNat]

theorem ofBits_fields (b : UInt64) :
    (Binary.ofBits b).m = (if exponentField b = 0 then fractionField b
      else 2 ^ 52 + fractionField b) ∧
    (Binary.ofBits b).q =
      if exponentField b = 0 then (-1074 : Int) else (exponentField b : Int) - 1075 := by
  unfold Binary.ofBits
  rw [toNat_exponent, toNat_fraction]
  by_cases hzero : exponentField b = 0
  · simp [hzero]
  · simp [hzero]

theorem toNat_leading (f : BitVec 52) : (1#1 ++ f).toNat = 2 ^ 52 + f.toNat := by
  rw [BitVec.toNat_append, ← Nat.shiftLeft_add_eq_or_of_lt f.isLt]
  rfl

theorem unpack_cases (x : Float) :
    exponentField x.toBits = 2047 ∧
      ((∃ s, x.toModel.unpack = .infinity s) ∨ x.toModel.unpack = .notANumber) ∨
    exponentField x.toBits = 0 ∧ fractionField x.toBits = 0 ∧ (∃ s, x.toModel.unpack = .zero s) ∨
    exponentField x.toBits = 0 ∧
      (∃ s hm, x.toModel.unpack = .finite s (fractionField x.toBits) (-1074) hm) ∨
    exponentField x.toBits ≠ 2047 ∧ exponentField x.toBits ≠ 0 ∧
      (∃ s hm, x.toModel.unpack = .finite s (2 ^ 52 + fractionField x.toBits)
        (exponentField x.toBits - 1075) hm) := by
  have hE : ∀ v : BitVec 11, exponentField x.toBits = v.toNat ↔
      @unpackExponent Format.binary64 x.toModel.toBits.toBitVec = v :=
    fun v => @BitVec.toNat_inj 11 (@unpackExponent Format.binary64 x.toBits.toBitVec) v
  let sign := Sign.ofBitVec (@unpackSign Format.binary64 x.toModel.toBits.toBitVec)
  unfold Float.Model.unpack UnpackedFloat.unpack
  dsimp only
  split
  · next hmax =>
    refine .inl ⟨(hE (-1#_)).2 hmax, ?_⟩
    split
    · exact .inl ⟨_, rfl⟩
    · exact .inr rfl
  · next hmax =>
    split
    · next hzero =>
      split
      · next hnone => exact .inr (.inl ⟨(hE 0#_).2 hzero, congrArg BitVec.toNat hnone, _, rfl⟩)
      · next hsome =>
        refine .inr (.inr (.inl ⟨(hE 0#_).2 hzero, sign, Nat.pos_of_ne_zero fun hnone =>
          hsome (BitVec.eq_of_toNat_eq hnone), ?_⟩))
        rw [hzero]
        rfl
    · next hzero =>
      refine .inr (.inr (.inr ⟨fun h => hmax ((hE (-1#_)).1 h), fun h => hzero ((hE 0#_).1 h),
        sign, Nat.add_pos_left (by decide) _, ?_⟩))
      simp only [toNat_leading]
      rfl

variable {x : Float} {s : Sign} {m : Nat} {e : Int} {hm : 0 < m}

theorem fields_of_finite (h : x.toModel.unpack = .finite s m e hm) :
    exponentField x.toBits ≠ 2047 ∧
      (exponentField x.toBits = 0 ∧ m = fractionField x.toBits ∧ e = -1074 ∨
        exponentField x.toBits ≠ 0 ∧ m = 2 ^ 52 + fractionField x.toBits ∧
          e = exponentField x.toBits - 1075) := by
  obtain ⟨-, ⟨_, h'⟩ | h'⟩ | ⟨-, -, _, h'⟩ | ⟨hzero, _, _, h'⟩ | ⟨hmax, hzero, _, _, h'⟩ :=
    unpack_cases x
  all_goals
    rw [h'] at h
    cases h
  · exact ⟨by omega, .inl ⟨hzero, rfl, rfl⟩⟩
  · exact ⟨hmax, .inr ⟨hzero, rfl, rfl⟩⟩

theorem fits_of_finite (h : x.toModel.unpack = .finite s m e hm) : Fits m e ∧ e ≤ 971 := by
  have hE := exponentField_lt x.toBits
  have hF := fractionField_lt x.toBits
  obtain ⟨hmax, ⟨-, rfl, rfl⟩ | ⟨hzero, rfl, rfl⟩⟩ := fields_of_finite h
  · exact ⟨⟨by omega, by omega, .inr rfl⟩, by omega⟩
  · exact ⟨⟨by omega, by omega, .inl (by omega)⟩, by omega⟩

theorem ofBits_of_finite (h : x.toModel.unpack = .finite s m e hm) :
    (Binary.ofBits x.toBits).m = m ∧ (Binary.ofBits x.toBits).q = e := by
  obtain ⟨hdigits, hexponent⟩ := ofBits_fields x.toBits
  obtain ⟨-, ⟨hzero, rfl, rfl⟩ | ⟨hzero, rfl, rfl⟩⟩ := fields_of_finite h
  · rw [if_pos hzero] at hdigits hexponent
    exact ⟨hdigits, hexponent⟩
  · rw [if_neg hzero] at hdigits hexponent
    exact ⟨hdigits, hexponent⟩

theorem isFinite_iff (x : Float) : isFinite x = true ↔ exponentField x.toBits ≠ 2047 := by
  rw [isFinite, bne_iff_ne, ne_eq, ← UInt64.toNat_inj, toNat_exponent]
  exact Iff.rfl

theorem isFinite_of_finite (h : x.toModel.unpack = .finite s m e hm) : isFinite x = true :=
  (isFinite_iff x).2 (fields_of_finite h).1

theorem not_isFinite (h : x.toModel.unpack = .infinity s ∨ x.toModel.unpack = .notANumber) :
    isFinite x = false := by
  rw [← Bool.not_eq_true, isFinite_iff, Classical.not_not]
  obtain ⟨hmax, -⟩ | ⟨-, -, _, h'⟩ | ⟨-, _, _, h'⟩ | ⟨-, -, _, _, h'⟩ := unpack_cases x
  · exact hmax
  all_goals
    rw [h'] at h
    rcases h with h | h <;> cases h

theorem digits_of_zero (h : x.toModel.unpack = .zero s) :
    isFinite x = true ∧ (Binary.ofBits x.toBits).m = 0 := by
  have hfields : exponentField x.toBits = 0 ∧ fractionField x.toBits = 0 := by
    obtain ⟨-, ⟨_, h'⟩ | h'⟩ | ⟨hzero, hnone, -⟩ | ⟨-, _, _, h'⟩ | ⟨-, -, _, _, h'⟩ := unpack_cases x
    case inr.inl => exact ⟨hzero, hnone⟩
    all_goals
      rw [h'] at h
      cases h
  refine ⟨(isFinite_iff x).2 (by omega), ?_⟩
  rw [(ofBits_fields x.toBits).1, if_pos hfields.1, hfields.2]

/-! ## From digits to bits and back -/

theorem sign_packComponents (s : Sign) (v : BitVec 11) (f : BitVec 52) :
    Sign.ofBitVec (unpackSign (packComponents Format.binary64 s v f)) = s := by
  simp only [unpackSign, packComponents, BitVec.extractLsb]
  rw [BitVec.extractLsb'_append_eq_of_le (by decide),
    BitVec.extractLsb'_append_eq_of_le (by decide)]
  cases s <;> rfl

theorem unpack_packComponents (s : Sign) (v : BitVec 11) (f : BitVec 52) :
    unpack Format.binary64 (packComponents Format.binary64 s v f) =
      if v = -1#11 then if f = 0#52 then .infinity s else .notANumber
      else if v = 0#11 then
        if h : f = 0#52 then .zero s
        else .finite s f.toNat (-1074) (Nat.pos_of_ne_zero fun h' => h (BitVec.eq_of_toNat_eq h'))
      else .finite s (2 ^ 52 + f.toNat) (v.toNat - 1075) (Nat.add_pos_left (by decide) _) := by
  simp only [UnpackedFloat.unpack, unpackExponent_packComponents, unpackMantissa_packComponents,
    sign_packComponents, toNat_leading]
  split
  · rfl
  · split
    · next hzero => rw [hzero]; rfl
    · rfl

theorem pack_finite (s : Sign) (m : Nat) (e : Int) (hm : 0 < m) :
    pack Format.binary64 (.finite s m e hm) =
      if 2047 ≤ (e + 1075).toNat then packComponents Format.binary64 s (-1#11) 0#52
      else if m.log2 = 52 then
        packComponents Format.binary64 s (BitVec.ofNat 11 (e + 1075).toNat) (BitVec.ofNat 52 m)
      else packComponents Format.binary64 s 0#11 (BitVec.ofNat 52 m) := by
  have hbiased : (e + Format.binary64.exponentBias +
      Format.binary64.mantissaBitsWithoutImplicit).toNat = (e + 1075).toNat := by
    show (e + 1023 + 52).toNat = _
    omega
  have hmax : 2 ^ Format.binary64.exponentBits ≤ (e + 1075).toNat + 1 ↔ 2047 ≤ (e + 1075).toNat :=
    Nat.succ_le_succ_iff
  have hfull : m.log2 + 1 = Format.binary64.mantissaBits ↔ m.log2 = 52 := Nat.succ_inj
  simp only [UnpackedFloat.pack, hbiased, hmax, hfull]
  rfl

theorem unpack_pack_large (s : Sign) (hm : 0 < m) (hlarge : 971 < e) :
    unpack Format.binary64 (pack Format.binary64 (.finite s m e hm)) = .infinity s := by
  rw [pack_finite, if_pos (by omega), unpack_packComponents]
  rfl

theorem unpack_pack_full (s : Sign) (hfits : Fits m e) (hm : 0 < m) (hfull : 2 ^ 52 ≤ m)
    (he : e ≤ 971) :
    unpack Format.binary64 (pack Format.binary64 (.finite s m e hm)) = .finite s m e hm := by
  have hlt := hfits.lt
  have hle := hfits.le
  have hlog : m.log2 = 52 := (Nat.log2_eq_iff (by omega)).2 ⟨hfull, hlt⟩
  have hE : (BitVec.ofNat 11 (e + 1075).toNat).toNat = (e + 1075).toNat :=
    Nat.mod_eq_of_lt (by omega)
  have hF : (BitVec.ofNat 52 m).toNat = m % 2 ^ 52 := rfl
  have hmax : BitVec.ofNat 11 (e + 1075).toNat ≠ -1#11 := by
    intro h
    have h : (BitVec.ofNat 11 (e + 1075).toNat).toNat = 2047 := congrArg BitVec.toNat h
    omega
  have hzero : BitVec.ofNat 11 (e + 1075).toNat ≠ 0#11 := by
    intro h
    have h : (BitVec.ofNat 11 (e + 1075).toNat).toNat = 0 := congrArg BitVec.toNat h
    omega
  rw [pack_finite, if_neg (by omega), if_pos hlog, unpack_packComponents, if_neg hmax, if_neg hzero]
  congr 1
  · omega
  · omega

theorem unpack_pack_partial (s : Sign) (hm : 0 < m) (hlt : m < 2 ^ 52) :
    unpack Format.binary64 (pack Format.binary64 (.finite s m (-1074) hm)) =
      .finite s m (-1074) hm := by
  have hlog : m.log2 < 52 := (Nat.log2_lt (by omega)).2 hlt
  have hF : (BitVec.ofNat 52 m).toNat = m := Nat.mod_eq_of_lt hlt
  have hsome : BitVec.ofNat 52 m ≠ 0#52 := by
    intro h
    have h : (BitVec.ofNat 52 m).toNat = 0 := congrArg BitVec.toNat h
    omega
  rw [pack_finite, if_neg (by decide), if_neg (by omega), unpack_packComponents,
    if_neg (by decide), if_pos rfl, dif_neg hsome]
  congr 1

/-- A double comes back from its bits, unless its exponent is too large. -/
theorem unpack_pack (s : Sign) (hfits : Fits m e) (hm : 0 < m) :
    (Float.Model.pack (.finite s m e hm)).unpack =
      if e ≤ 971 then .finite s m e hm else .infinity s := by
  show unpack Format.binary64 (pack Format.binary64 (.finite s m e hm)) = _
  split
  · next he =>
    by_cases hfull : 2 ^ 52 ≤ m
    · exact unpack_pack_full s hfits hm hfull he
    · obtain rfl : e = -1074 := hfits.full.resolve_left hfull
      exact unpack_pack_partial s hm (Nat.not_le.1 hfull)
  · next he => exact unpack_pack_large s hm (Int.not_le.1 he)

/-! ## Rounding -/

theorem mantissa_shiftRight (em : ExtendedMantissa) (k : Nat) :
    (em >>> k).mantissa = em.mantissa / 2 ^ k := by
  induction k with
  | zero => exact (Nat.div_one _).symm
  | succ k ih =>
      show (em >>> k).mantissa / 2 = _
      rw [ih, Nat.div_div_eq_div_mul, Nat.pow_succ]

theorem roundedMantissa_bounds (em : ExtendedMantissa) :
    em.mantissa ≤ em.roundedMantissa ∧ em.roundedMantissa ≤ em.mantissa + 1 := by
  obtain ⟨m, roundBit, stickyBit⟩ := em
  cases roundBit <;> cases stickyBit
  · exact ⟨Nat.le_refl m, Nat.le_succ m⟩
  · exact ⟨Nat.le_refl m, Nat.le_succ m⟩
  · show m ≤ m + m % 2 ∧ m + m % 2 ≤ m + 1
    omega
  · exact ⟨Nat.le_succ m, Nat.le_refl _⟩

/-- The exponent that leaves 53 digits, if it is not too small. -/
def roundingExponent (m : Nat) (e : Int) : Int := max (m.log2 + e - 52) (-1074)

theorem targetExponent_eq (m : Nat) (e : Int) :
    Format.binary64.targetExponent (totalExponent m e) = roundingExponent m e := by
  show max ((m.log2 : Int) + 1 + e - 53) (-1074) = max ((m.log2 : Int) + e - 52) (-1074)
  omega

/-- What is made of digits that were rounded: a carry may have led to one digit
too many. -/
def carried (s : Sign) (r : Nat) (t : Int) : UnpackedFloat :=
  if h : r = 0 then .zero s
  else if r < 2 ^ 53 then .finite s r t (Nat.pos_of_ne_zero h)
  else .finite s (2 ^ 52) (t + 1) (by decide)

/-- Digits that fit are not shifted again, and after a carry one zero is dropped. -/
theorem shiftToTargetExponent_rounded {r : Nat} {t : Int} (hr : r ≤ 2 ^ 53) (ht : -1074 ≤ t) :
    shiftToTargetExponent Format.binary64 r t .exact =
      if r < 2 ^ 53 then (⟨r, false, false⟩, t) else (⟨2 ^ 52, false, false⟩, t + 1) := by
  unfold shiftToTargetExponent
  rw [targetExponent_eq]
  split
  · next hlt =>
    have hlog : r.log2 ≤ 52 := by
      by_cases hzero : r = 0
      · rw [hzero]
        decide
      · exact Nat.le_of_lt_succ ((Nat.log2_lt hzero).2 hlt)
    have hnone : (roundingExponent r t - t).toNat = 0 := by
      unfold roundingExponent
      omega
    simp only [shiftToExponent, hnone]
    exact Prod.ext rfl (Int.add_zero t)
  · next hcarry =>
    obtain rfl : r = 2 ^ 53 := by omega
    have hone : (roundingExponent (2 ^ 53) t - t).toNat = 1 := by
      unfold roundingExponent
      rw [Nat.log2_two_pow]
      omega
    simp only [shiftToExponent, hone]
    rfl

/-- The double of digits that have been shifted. -/
def ofShifted (s : Sign) (shifted : ExtendedMantissa × Int) : UnpackedFloat :=
  if h : shifted.1.mantissa = 0 then .zero s
  else .finite s shifted.1.mantissa shifted.2 (Nat.pos_of_ne_zero h)

theorem ofShifted_rounded (s : Sign) {r : Nat} {t : Int} (hr : r ≤ 2 ^ 53) (ht : -1074 ≤ t) :
    ofShifted s (shiftToTargetExponent Format.binary64 r t .exact) = carried s r t := by
  rw [shiftToTargetExponent_rounded hr ht, carried]
  by_cases hlt : r < 2 ^ 53
  · simp only [if_pos hlt]
    rfl
  · obtain rfl : r = 2 ^ 53 := by omega
    rfl

theorem full_of_rounded {m r : Nat} {e : Int} (hm : 2 ^ 52 ≤ m)
    (hr : m / 2 ^ (roundingExponent m e - e).toNat ≤ r) :
    2 ^ 52 ≤ r ∨ roundingExponent m e = -1074 := by
  have hlog : 52 ≤ m.log2 := (Nat.le_log2 (by omega)).2 hm
  by_cases hleast : roundingExponent m e = -1074
  · exact .inr hleast
  · have hdropped : (roundingExponent m e - e).toNat = m.log2 - 52 := by
      unfold roundingExponent at hleast ⊢
      omega
    refine .inl (Nat.le_trans ?_ hr)
    rw [hdropped, Nat.le_div_iff_mul_le (Nat.two_pow_pos _), ← Nat.pow_add,
      Nat.add_sub_cancel' hlog]
    exact Nat.log2_self_le (by omega)

/-- **Rounding loses less than one unit of the last digit that is left.** -/
theorem roundWithAccuracy_eq (s : Sign) {m : Nat} {e : Int} (hm : 2 ^ 52 ≤ m) :
    ∃ r, m / 2 ^ (roundingExponent m e - e).toNat ≤ r ∧
      r ≤ m / 2 ^ (roundingExponent m e - e).toNat + 1 ∧ r ≤ 2 ^ 53 ∧
      roundWithAccuracy Format.binary64 s m e .exact = carried s r (roundingExponent m e) := by
  have hlog : 52 ≤ m.log2 := (Nat.le_log2 (by omega)).2 hm
  have hexponent : e + ((roundingExponent m e - e).toNat : Int) = roundingExponent m e := by
    unfold roundingExponent
    omega
  have hfirst : shiftToTargetExponent Format.binary64 m e .exact =
      ((⟨m, false, false⟩ : ExtendedMantissa) >>> (roundingExponent m e - e).toNat,
        roundingExponent m e) := by
    unfold shiftToTargetExponent
    rw [targetExponent_eq]
    exact Prod.ext rfl hexponent
  obtain ⟨hlow, hhigh⟩ := roundedMantissa_bounds
    ((⟨m, false, false⟩ : ExtendedMantissa) >>> (roundingExponent m e - e).toNat)
  rw [mantissa_shiftRight] at hlow hhigh
  have hfits : m / 2 ^ (roundingExponent m e - e).toNat < 2 ^ 53 := by
    rw [Nat.div_lt_iff_lt_mul (Nat.two_pow_pos _), ← Nat.pow_add]
    refine Nat.lt_of_lt_of_le Nat.lt_log2_self (Nat.pow_le_pow_right (by decide) ?_)
    unfold roundingExponent
    omega
  have hle := Nat.le_trans hhigh hfits
  refine ⟨_, hlow, hhigh, hle, ?_⟩
  unfold roundWithAccuracy
  simp only [hfirst]
  exact ofShifted_rounded s hle (Int.le_max_right ..)

/-! ## What is rounded to no whole -/

/-- A finite double that is nearer to zero than to one. -/
def Vanishes (x : Float) : Prop := isFinite x = true ∧ roundHalfUp x = 0

theorem le_roundDiv (tie : Tie) (num den : Nat) : num / den ≤ roundDiv tie num den := by
  unfold roundDiv
  dsimp only
  repeat' split
  all_goals first | exact Nat.le_refl _ | exact Nat.le_succ _

theorem roundDiv_up_eq_zero_iff {num den : Nat} (hden : 0 < den) :
    roundDiv .up num den = 0 ↔ 2 * num < den := by
  by_cases hlt : num < den
  · unfold roundDiv
    rw [Nat.div_eq_of_lt hlt, Nat.mod_eq_of_lt hlt]
    rcases Nat.lt_trichotomy (2 * num) den with hhalf | hhalf | hhalf
    · simp [Nat.compare_eq_lt.2 hhalf, hhalf]
    · simp [hhalf]
    · simp [Nat.compare_eq_gt.2 hhalf, Nat.le_of_lt hhalf]
  · have hwhole : 0 < num / den := Nat.div_pos (Nat.not_lt.1 hlt) hden
    have hle := le_roundDiv .up num den
    exact iff_of_false (Nat.ne_of_gt (Nat.lt_of_lt_of_le hwhole hle)) (by omega)

theorem roundHalfUp_eq_zero_iff (x : Float) :
    roundHalfUp x = 0 ↔ 2 * ((Binary.ofBits x.toBits).m * 2 ^ (Binary.ofBits x.toBits).q.toNat) <
      2 ^ (-(Binary.ofBits x.toBits).q).toNat := by
  unfold roundHalfUp roundedUnits
  simp only [Nat.mul_one]
  exact roundDiv_up_eq_zero_iff (Nat.two_pow_pos _)

theorem vanishes_iff (h : x.toModel.unpack = .finite s m e hm) :
    Vanishes x ↔ 2 * (m * 2 ^ e.toNat) < 2 ^ (-e).toNat := by
  obtain ⟨hdigits, hexponent⟩ := ofBits_of_finite h
  rw [Vanishes, roundHalfUp_eq_zero_iff, hdigits, hexponent]
  exact and_iff_right (isFinite_of_finite h)

theorem vanishes_of_zero (h : x.toModel.unpack = .zero s) : Vanishes x := by
  obtain ⟨hfinite, hdigits⟩ := digits_of_zero h
  refine ⟨hfinite, (roundHalfUp_eq_zero_iff x).2 ?_⟩
  rw [hdigits, Nat.zero_mul]
  exact Nat.two_pow_pos _

theorem not_vanishes_of_pack (hfits : Fits m e) (hfull : 2 ^ 52 ≤ m) (he : -53 ≤ e)
    (hx : x.toModel = Float.Model.pack (.finite s m e hm)) : ¬ Vanishes x := by
  have hunpack := unpack_pack s hfits hm
  rw [← hx] at hunpack
  split at hunpack
  · rw [vanishes_iff hunpack]
    have hsize : 2 ^ 52 * 1 ≤ m * 2 ^ e.toNat := Nat.mul_le_mul hfull (Nat.one_le_two_pow)
    have hhalf : 2 ^ (-e).toNat ≤ 2 ^ 53 := Nat.pow_le_pow_right (by decide) (by omega)
    omega
  · intro hvanishes
    exact nomatch (not_isFinite (.inl hunpack)).symm.trans hvanishes.1

theorem vanishes_of_pack (hfits : Fits m e) (he : e ≤ -54)
    (hx : x.toModel = Float.Model.pack (.finite s m e hm)) : Vanishes x := by
  have hunpack := unpack_pack s hfits hm
  rw [← hx, if_pos (by omega)] at hunpack
  have hwhole : e.toNat = 0 := by omega
  have hhalf : 2 ^ 54 ≤ 2 ^ (-e).toNat := Nat.pow_le_pow_right (by decide) (by omega)
  have hlt := hfits.lt
  rw [vanishes_iff hunpack, hwhole]
  omega

/-! ### Rounded doubles -/

section Rounded

variable (hdigits : 2 ^ 52 ≤ m)
  (hx : x.toModel = Float.Model.pack (roundWithAccuracy Format.binary64 s m e .exact))
include hdigits hx

/-- What is at least one half before it is rounded does not vanish. -/
theorem not_vanishes_of_large (hlarge : -53 ≤ roundingExponent m e) : ¬ Vanishes x := by
  obtain ⟨r, hlow, -, hr, hround⟩ := roundWithAccuracy_eq s (e := e) hdigits
  have hfull : 2 ^ 52 ≤ r := (full_of_rounded hdigits hlow).resolve_right (by omega)
  rw [hround, carried, dif_neg (by omega)] at hx
  split at hx
  · next hlt => exact not_vanishes_of_pack ⟨hlt, by omega, .inl hfull⟩ hfull hlarge hx
  · exact not_vanishes_of_pack ⟨by decide, by omega, .inl (Nat.le_refl _)⟩ (Nat.le_refl _)
      (by omega) hx

/-- What is less than one half before it is rounded vanishes, unless rounding
carries. -/
theorem vanishes_of_small
    (hsmall : roundingExponent m e ≤ -55 ∨
      roundingExponent m e = -54 ∧ m / 2 ^ (-54 - e).toNat + 1 < 2 ^ 53) : Vanishes x := by
  obtain ⟨r, hlow, hhigh, hr, hround⟩ := roundWithAccuracy_eq s (e := e) hdigits
  have hle : -1074 ≤ roundingExponent m e := Int.le_max_right ..
  rw [hround, carried] at hx
  split at hx
  · refine vanishes_of_zero (s := s) ?_
    rw [hx]
    cases s <;> rfl
  split at hx
  · next hlt =>
    exact vanishes_of_pack ⟨hlt, hle, full_of_rounded hdigits hlow⟩ (by omega) hx
  · next hcarry =>
    have hlow : roundingExponent m e ≤ -55 := by
      refine hsmall.resolve_right fun ⟨heq, hfits⟩ => ?_
      rw [heq] at hhigh
      omega
    exact vanishes_of_pack ⟨by decide, by omega, .inl (Nat.le_refl _)⟩ (by omega) hx

end Rounded

end NodeKeeper.Number
