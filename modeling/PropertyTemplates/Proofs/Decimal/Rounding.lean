import PropertyTemplates.Decimal.FloatText
import Mathlib

namespace PropertyTemplates.Decimal

open Float.Model Float.Model.UnpackedFloat

-- The float `units · 2 ^ 11`, for 53 bits of units or the power of two after them.
def Binary.ofUnits (units : Nat) : Binary :=
  if units = 2 ^ 53 then ⟨2 ^ 52, 12, true⟩ else ⟨units, 11, units = 2 ^ 52⟩

-- Of the bits that are shifted out the last one stays as a half, the others as whether there is more.
theorem shiftRight_exact (n places : Nat) :
    ExtendedMantissa.ofMantissaAndAccuracy n .exact >>> (places + 1) =
      ⟨n / 2 ^ (places + 1), n / 2 ^ places % 2 != 0, n % 2 ^ places != 0⟩ := by
  induction places with
  | zero =>
      simp [ExtendedMantissa.ofMantissaAndAccuracy, ExtendedMantissa.shiftRightOne,
        HShiftRight.hShiftRight, Nat.repeat, Nat.mod_one]
  | succ places ih =>
      change (ExtendedMantissa.ofMantissaAndAccuracy n .exact >>> (places + 1)).shiftRightOne = _
      have hquotient : n / 2 ^ (places + 1) / 2 = n / 2 ^ (places + 1 + 1) := by
        rw [Nat.div_div_eq_div_mul, ← Nat.pow_succ]
      have hremainder : n % 2 ^ (places + 1) = n % 2 ^ places + 2 ^ places * (n / 2 ^ places % 2) := by
        rw [Nat.pow_succ, Nat.mod_mul]
      have hsticky : (n / 2 ^ places % 2 != 0 || n % 2 ^ places != 0) =
          (n % 2 ^ (places + 1) != 0) := by
        have hpos : 2 ^ places ≠ 0 := (Nat.two_pow_pos places).ne'
        rw [hremainder]
        rcases Nat.mod_two_eq_zero_or_one (n / 2 ^ places) with hbit | hbit <;> simp [hbit]
      rw [ih, ExtendedMantissa.shiftRightOne, hquotient, hsticky]

-- Rounding goes down unless the rest is more than a half, and up only if it is at least a half.
theorem roundedMantissa_eq (whole : Nat) (half more : Bool) :
    let rounded := (ExtendedMantissa.mk whole half more).roundedMantissa
    rounded = whole ∧ (half && more) = false ∨ rounded = whole + 1 ∧ half = true := by
  cases half <;> cases more
  · exact .inl ⟨rfl, rfl⟩
  · exact .inl ⟨rfl, rfl⟩
  · have hrounded : (ExtendedMantissa.mk whole true false).roundedMantissa = whole + whole % 2 := rfl
    rcases Nat.mod_two_eq_zero_or_one whole with heven | hodd
    · exact .inl ⟨by rw [hrounded, heven, Nat.add_zero], rfl⟩
    · exact .inr ⟨by rw [hrounded, hodd], rfl⟩
  · exact .inr ⟨rfl, rfl⟩

-- Rounding is off by one half at most.
theorem roundedMantissa_shiftRight (n places : Nat) :
    let rounded :=
      (ExtendedMantissa.ofMantissaAndAccuracy n .exact >>> (places + 1)).roundedMantissa
    n ≤ 2 ^ (places + 1) * rounded + 2 ^ places ∧ 2 ^ (places + 1) * rounded ≤ n + 2 ^ places := by
  have hsum : 2 ^ places * (n / 2 ^ places) + n % 2 ^ places = n := Nat.div_add_mod n _
  have hrest : n % 2 ^ places < 2 ^ places := Nat.mod_lt n (Nat.two_pow_pos places)
  have hhalves : 2 ^ places * (n / 2 ^ places) =
      2 ^ (places + 1) * (n / 2 ^ (places + 1)) + 2 ^ places * (n / 2 ^ places % 2) := by
    rw [Nat.pow_succ, ← Nat.div_div_eq_div_mul, Nat.mul_assoc, ← Nat.mul_add, Nat.div_add_mod]
  have hunit : 2 ^ (places + 1) = 2 * 2 ^ places := Nat.pow_succ'
  have hrounded := roundedMantissa_eq (n / 2 ^ (places + 1)) (n / 2 ^ places % 2 != 0)
    (n % 2 ^ places != 0)
  rw [← shiftRight_exact] at hrounded
  rcases Nat.mod_two_eq_zero_or_one (n / 2 ^ places) with hbit | hbit <;>
    rw [hbit] at hhalves hrounded
  · rcases hrounded with ⟨hdown, -⟩ | ⟨-, hhalf⟩
    · rw [hdown]
      omega
    · cases hhalf
  · rcases hrounded with ⟨hdown, hmore⟩ | ⟨hup, -⟩
    · have hzero : n % 2 ^ places = 0 := by simpa using hmore
      rw [hdown]
      omega
    · simp only [hup, Nat.mul_succ]
      omega

section Double

variable {n units : Nat}

theorem targetExponent_of_log2 {mantissa log : Nat} (hlog : mantissa.log2 = log) (exponent : Int)
    (h : -1022 ≤ log + exponent) :
    Format.binary64.targetExponent (totalExponent mantissa exponent) = log + exponent - 52 := by
  simp only [Format.targetExponent, totalExponent, hlog, Format.mantissaBits, Format.minExponent]
  omega

-- A number that has its 53 bits, or that is the power of two after them, is rounded no more.
theorem shiftToTargetExponent_units (hlow : 2 ^ 52 ≤ units) (hhigh : units ≤ 2 ^ 53) :
    (shiftToTargetExponent Format.binary64 units 11 .exact).1.mantissa =
        (Binary.ofUnits units).mantissa ∧
      (shiftToTargetExponent Format.binary64 units 11 .exact).2 =
        (Binary.ofUnits units).exponent := by
  rcases hhigh.lt_or_eq with hlt | rfl
  · have hlog : units.log2 = 52 := (Nat.log2_eq_iff (by omega)).mpr ⟨hlow, hlt⟩
    have htarget := targetExponent_of_log2 hlog 11 (by decide)
    simp only [shiftToTargetExponent, htarget, Binary.ofUnits, if_neg hlt.ne]
    exact ⟨rfl, rfl⟩
  · decide +kernel

theorem ofScientific_eq (hlow : 2 ^ 63 ≤ n) (hhigh : n < 2 ^ 64) :
    ∃ units, 2 ^ 52 ≤ units ∧ units ≤ 2 ^ 53 ∧ n ≤ 2 ^ 11 * units + 2 ^ 10 ∧
      2 ^ 11 * units ≤ n + 2 ^ 10 ∧ ∃ hpos,
        UnpackedFloat.ofScientific Format.binary64 n 0 =
          .finite .positive (Binary.ofUnits units).mantissa (Binary.ofUnits units).exponent hpos := by
  have hlog : (n * 2 ^ 53).log2 = 116 := by
    rw [Nat.log2_eq_iff (by omega)]
    omega
  have htarget := targetExponent_of_log2 hlog (-53) (by decide)
  have hshift : shiftToTargetExponent Format.binary64 (n * 2 ^ 53) (-53) .exact =
      (ExtendedMantissa.ofMantissaAndAccuracy (n * 2 ^ 53) .exact >>> (63 + 1), 11) := by
    simp only [shiftToTargetExponent, htarget]
    rfl
  obtain ⟨hdown, hup⟩ := roundedMantissa_shiftRight (n * 2 ^ 53) 63
  generalize hunits :
    (ExtendedMantissa.ofMantissaAndAccuracy (n * 2 ^ 53) .exact >>> (63 + 1)).roundedMantissa =
      units at hdown hup
  have hfirst : 2 ^ 52 ≤ units := by omega
  have hlast : units ≤ 2 ^ 53 := by omega
  obtain ⟨hmantissa, hexponent⟩ := shiftToTargetExponent_units hfirst hlast
  have hpos : 0 < (Binary.ofUnits units).mantissa := by
    unfold Binary.ofUnits
    split
    · decide
    · exact Nat.lt_of_lt_of_le (by decide) hfirst
  refine ⟨units, hfirst, hlast, by omega, by omega, hpos, ?_⟩
  have hproduct : UnpackedFloat.ofScientific Format.binary64 n 0 =
      roundWithAccuracy Format.binary64 .positive (n * 2 ^ 53) (-53) .exact := by
    unfold UnpackedFloat.ofScientific
    rw [dif_neg (by omega), if_neg (by decide), if_neg (by simp), if_pos (Int.le_refl 0)]
    change roundWithAccuracy Format.binary64 .positive (n <<< 53 * 1) (-53) .exact = _
    rw [Nat.mul_one, Nat.shiftLeft_eq]
  rw [hproduct, roundWithAccuracy, hshift]
  simp only [hunits, hmantissa, hexponent, dif_neg hpos.ne']

-- The fields of a number with 53 bits: no sign, the exponent above -1075, the bits after the first.
theorem pack_eq_append {m : Nat} {e : Int} (hpos : 0 < m) (hlow : 2 ^ 52 ≤ m) (hhigh : m < 2 ^ 53)
    (he : e ≤ 971) :
    UnpackedFloat.pack Format.binary64 (.finite .positive m e hpos) =
      0#1 ++ BitVec.ofNat 11 (e + 1075).toNat ++ BitVec.ofNat 52 m := by
  have hlog : m.log2 + 1 = Format.binary64.mantissaBits :=
    congrArg (· + 1) ((Nat.log2_eq_iff (by omega)).mpr ⟨hlow, hhigh⟩)
  have hfield : (e + Format.binary64.exponentBias +
      Format.binary64.mantissaBitsWithoutImplicit).toNat = (e + 1075).toNat :=
    congrArg Int.toNat (Int.add_assoc e 1023 52)
  have hfinite : (e + 1075).toNat + 1 < 2 ^ 11 := by omega
  unfold UnpackedFloat.pack
  simp only [hfield, if_neg (Nat.not_le_of_lt hfinite), if_pos hlog]
  rfl

theorem toNat_pack {m : Nat} {e : Int} (hpos : 0 < m) (hlow : 2 ^ 52 ≤ m) (hhigh : m < 2 ^ 53)
    (he : -1074 ≤ e) (he' : e ≤ 971) :
    (Float.Model.pack (.finite .positive m e hpos)).toBits.toNat =
      2 ^ 52 * (e + 1075).toNat + m % 2 ^ 52 := by
  have hfield : (BitVec.ofNat 11 (e + 1075).toNat).toNat = (e + 1075).toNat :=
    Nat.mod_eq_of_lt (by omega)
  have hsign : (0#1 ++ BitVec.ofNat 11 (e + 1075).toNat).toNat = (e + 1075).toNat := by
    rw [BitVec.toNat_append, hfield]
    simp
  change (UnpackedFloat.pack Format.binary64 (.finite .positive m e hpos)).toNat = _
  rw [pack_eq_append hpos hlow hhigh he', BitVec.toNat_append, hsign,
    ← Nat.shiftLeft_add_eq_or_of_lt (BitVec.isLt _), Nat.shiftLeft_eq, Nat.mul_comm]
  rfl

-- Taking a float apart gives the number back that was packed.
theorem ofFloat_pack {m : Nat} {e : Int} (hpos : 0 < m) (hlow : 2 ^ 52 ≤ m) (hhigh : m < 2 ^ 53)
    (he : -1074 ≤ e) (he' : e ≤ 971) :
    Parts.ofFloat ⟨Float.Model.pack (.finite .positive m e hpos)⟩ =
      .finite false ⟨m, e, m = 2 ^ 52 ∧ e ≠ -1074⟩ := by
  have hbits := toNat_pack hpos hlow hhigh he he'
  have hfraction : (2 ^ 52 * (e + 1075).toNat + m % 2 ^ 52) % fractionSize = m - 2 ^ 52 := by
    unfold fractionSize
    omega
  have hfield : (2 ^ 52 * (e + 1075).toNat + m % 2 ^ 52) >>> 52 % 2048 = (e + 1075).toNat := by
    rw [Nat.shiftRight_eq_div_pow]
    omega
  have hsign : (2 ^ 52 * (e + 1075).toNat + m % 2 ^ 52) >>> 63 = 0 := by
    rw [Nat.shiftRight_eq_div_pow]
    omega
  have hmantissa : fractionSize + (m - 2 ^ 52) = m := Nat.add_sub_of_le hlow
  have hexponent : ((e + 1075).toNat : Int) - 1075 = e := by omega
  have htight : (decide (m - 2 ^ 52 = 0) && (e + 1075).toNat != 1) =
      decide (m = 2 ^ 52 ∧ e ≠ -1074) := by
    rw [Bool.eq_iff_iff]
    simp only [Bool.and_eq_true, decide_eq_true_eq, bne_iff_ne]
    omega
  unfold Parts.ofFloat Float.toBits
  simp only [hbits, hfraction, hfield, hsign]
  rw [if_neg (by omega), if_neg (by omega), hmantissa, hexponent, htight]
  rfl

-- A number beyond the words becomes the float of the units nearest to it.
theorem ofFloat_ofInt (hlow : 2 ^ 63 ≤ n) (hhigh : n < 2 ^ 64) :
    ∃ units, 2 ^ 52 ≤ units ∧ units ≤ 2 ^ 53 ∧ n ≤ 2 ^ 11 * units + 2 ^ 10 ∧
      2 ^ 11 * units ≤ n + 2 ^ 10 ∧
      Parts.ofFloat (Float.ofInt n) = .finite false (.ofUnits units) := by
  obtain ⟨units, hfirst, hlast, hdown, hup, hpos, hunits⟩ := ofScientific_eq hlow hhigh
  refine ⟨units, hfirst, hlast, hdown, hup, ?_⟩
  have hfloat : Float.ofInt n = ⟨Float.Model.pack (.finite .positive (Binary.ofUnits units).mantissa
      (Binary.ofUnits units).exponent hpos)⟩ := by
    change Float.ofScientific n false 0 = _
    rw [Float.ofScientific, dif_neg (by omega), ← hunits]
    rfl
  rw [hfloat]
  unfold Binary.ofUnits at hpos ⊢
  by_cases htop : units = 2 ^ 53
  · simp only [if_pos htop] at hpos ⊢
    exact ofFloat_pack hpos (by decide) (by decide) (by decide) (by decide)
  · simp only [if_neg htop] at hpos ⊢
    rw [ofFloat_pack hpos hfirst (by omega) (by decide) (by decide)]
    simp

end Double

end PropertyTemplates.Decimal
