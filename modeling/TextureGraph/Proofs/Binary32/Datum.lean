import Mathlib
import TextureGraph.Proofs.Binary32.Value

/-!
# Sign, significand and exponent

The machine's arithmetic takes patterns apart into a sign, a significand and an exponent,
computes with these, and puts the result together again. What it takes out of a finite number
is the value of the number, and what it puts together from a significand and an exponent of
the format has that value, up to overflow.
-/

namespace TextureGraph

namespace Binary32

open Float.Model (Format UnpackedFloat)
open Float.Model.UnpackedFloat

/-- What the machine's arithmetic takes out of a number. -/
def datum (x : Binary32) : UnpackedFloat :=
  unpack .binary32 x.bits.toBitVec

/-- The number that the machine's arithmetic puts together. -/
def ofDatum (u : UnpackedFloat) : Binary32 :=
  ⟨UInt32.ofBitVec (pack .binary32 u)⟩

/-- The sign of arithmetic for a sign bit. -/
def signOf (negative : Bool) : Sign :=
  if negative then .negative else .positive

variable {x y : Binary32}

/-! ## Taking apart -/

theorem unpackMantissa_toNat (b : BitVec 32) :
    (@unpackMantissa .binary32 b).toNat = b.toNat % 2 ^ 23 := by
  simp [unpackMantissa]

theorem unpackExponent_toNat (b : BitVec 32) :
    (@unpackExponent .binary32 b).toNat = b.toNat / 2 ^ 23 % 2 ^ 8 := by
  simp [unpackExponent, Nat.shiftRight_eq_div_pow]

theorem unpackSign_toNat (b : BitVec 32) :
    (@unpackSign .binary32 b).toNat = b.toNat / 2 ^ 31 % 2 := by
  simp [unpackSign, Nat.shiftRight_eq_div_pow]

theorem ofBitVec_unpackSign (x : Binary32) :
    Sign.ofBitVec (@unpackSign .binary32 x.bits.toBitVec) = signOf x.isNegative := by
  have range := x.bits.toNat_lt
  have clear_iff : @unpackSign .binary32 x.bits.toBitVec = 0#1 ↔
      ¬ 0x80000000 ≤ x.bits.toNat := by
    rw [← BitVec.toNat_inj, unpackSign_toNat, UInt32.toNat_toBitVec, BitVec.toNat_ofNat]
    omega
  unfold Sign.ofBitVec signOf isNegative
  by_cases negative : 0x80000000 ≤ x.bits.toNat <;> simp [clear_iff, negative]

theorem exponentField_toNat (x : Binary32) :
    (@unpackExponent .binary32 x.bits.toBitVec).toNat = x.magnitude / 0x800000 := by
  rw [unpackExponent_toNat, UInt32.toNat_toBitVec]
  unfold magnitude
  omega

theorem fractionField_toNat (x : Binary32) :
    (@unpackMantissa .binary32 x.bits.toBitVec).toNat = x.magnitude % 0x800000 := by
  rw [unpackMantissa_toNat, UInt32.toNat_toBitVec]
  unfold magnitude
  omega

theorem magnitude_lt (x : Binary32) : x.magnitude < 0x80000000 :=
  Nat.mod_lt _ (by decide)

theorem exponentField_eq_allOnes_iff :
    @unpackExponent .binary32 x.bits.toBitVec = -1#8 ↔
      infinityMagnitude ≤ x.magnitude := by
  have := x.magnitude_lt
  have all : (-1#8).toNat = 255 := rfl
  rw [← BitVec.toNat_inj, exponentField_toNat, all]
  unfold infinityMagnitude
  omega

theorem exponentField_eq_zero_iff :
    @unpackExponent .binary32 x.bits.toBitVec = 0#8 ↔ x.magnitude < 0x800000 := by
  rw [← BitVec.toNat_inj, exponentField_toNat, BitVec.toNat_ofNat, Nat.zero_mod]
  omega

theorem fractionField_eq_zero_iff :
    @unpackMantissa .binary32 x.bits.toBitVec = 0#23 ↔ x.magnitude % 0x800000 = 0 := by
  rw [← BitVec.toNat_inj, fractionField_toNat, BitVec.toNat_ofNat]
  rfl

theorem datum_of_isNaN (isNaN : x.isNaN) : x.datum = .notANumber := by
  have above : infinityMagnitude < x.magnitude := by simpa [Binary32.isNaN] using isNaN
  have fraction : ¬ x.magnitude % 0x800000 = 0 := by
    have := x.magnitude_lt
    unfold infinityMagnitude at above
    omega
  unfold datum unpack
  rw [if_pos (exponentField_eq_allOnes_iff.mpr above.le),
    if_neg (mt fractionField_eq_zero_iff.mp fraction)]

theorem datum_of_infinite (infinite : x.magnitude = infinityMagnitude) :
    x.datum = .infinity (signOf x.isNegative) := by
  have fraction : x.magnitude % 0x800000 = 0 := by rw [infinite]; rfl
  unfold datum unpack
  rw [if_pos (exponentField_eq_allOnes_iff.mpr infinite.ge),
    if_pos (fractionField_eq_zero_iff.mpr fraction), ofBitVec_unpackSign]

theorem datum_of_zero (zero : x.magnitude = 0) : x.datum = .zero (signOf x.isNegative) := by
  unfold datum unpack
  rw [if_neg (by rw [exponentField_eq_allOnes_iff, zero]; decide),
    if_pos (by rw [exponentField_eq_zero_iff, zero]; decide),
    dif_pos (by rw [fractionField_eq_zero_iff, zero]), ofBitVec_unpackSign]

theorem significand_pos (nonzero : x.magnitude ≠ 0) : 0 < x.significand := by
  unfold significand
  split <;> omega

/-- A finite number is taken apart into its own significand and exponent. -/
theorem datum_of_nonzero (finite : x.isFinite) (nonzero : x.magnitude ≠ 0) :
    x.datum = .finite (signOf x.isNegative) x.significand x.exponent
      (significand_pos nonzero) := by
  have bounded : ¬ infinityMagnitude ≤ x.magnitude := not_le.mpr (isFinite_iff.mp finite)
  have bias : Format.binary32.exponentBias = 127 := rfl
  have width : Format.binary32.mantissaBitsWithoutImplicit = 23 := rfl
  unfold datum unpack
  rw [if_neg (mt exponentField_eq_allOnes_iff.mp bounded)]
  by_cases subnormal : x.magnitude < 0x800000
  · have fraction : ¬ x.magnitude % 0x800000 = 0 := by omega
    rw [if_pos (exponentField_eq_zero_iff.mpr subnormal),
      dif_neg (mt fractionField_eq_zero_iff.mp fraction), ofBitVec_unpackSign]
    congr 1
    · rw [fractionField_toNat, significand, if_pos subnormal]
      omega
    · rw [exponentField_toNat, exponent, if_pos subnormal, bias, width]
      omega
  · rw [if_neg (mt exponentField_eq_zero_iff.mp subnormal), ofBitVec_unpackSign]
    congr 1
    · rw [BitVec.toNat_append, fractionField_toNat, significand, if_neg subnormal]
      have := Nat.shiftLeft_add_eq_or_of_lt (i := 23) (b := x.magnitude % 0x800000) (by omega) 1
      simp at this ⊢
      omega
    · rw [exponentField_toNat, exponent, if_neg subnormal, bias, width]
      omega

/-! ## Putting together -/

theorem packComponents_toNat (sign : Sign) (exponent : BitVec 8) (fraction : BitVec 23) :
    (packComponents .binary32 sign exponent fraction).toNat =
      sign.toBitVec.toNat * 0x80000000 + (exponent.toNat * 0x800000 + fraction.toNat) := by
  have inner := Nat.shiftLeft_add_eq_or_of_lt exponent.isLt sign.toBitVec.toNat
  have outer := Nat.shiftLeft_add_eq_or_of_lt fraction.isLt
    (sign.toBitVec.toNat <<< 8 ||| exponent.toNat)
  unfold packComponents
  rw [BitVec.toNat_append, BitVec.toNat_append, ← outer, ← inner]
  simp only [Nat.shiftLeft_eq]
  ring

/-- The sign bit for a sign of arithmetic. -/
def signBit : Sign → Bool
  | .negative => true
  | .positive => false

@[simp]
theorem signBit_signOf (negative : Bool) : signBit (signOf negative) = negative := by
  cases negative <;> rfl

theorem magnitude_of_toBitVec_eq {sign : Sign} {exponent : BitVec 8} {fraction : BitVec 23}
    (fields : x.bits.toBitVec = packComponents .binary32 sign exponent fraction) :
    x.magnitude = exponent.toNat * 0x800000 + fraction.toNat := by
  have := exponent.isLt
  have := fraction.isLt
  rw [magnitude, ← UInt32.toNat_toBitVec, fields, packComponents_toNat]
  omega

theorem isNegative_of_toBitVec_eq {sign : Sign} {exponent : BitVec 8} {fraction : BitVec 23}
    (fields : x.bits.toBitVec = packComponents .binary32 sign exponent fraction) :
    x.isNegative = signBit sign := by
  have := exponent.isLt
  have := fraction.isLt
  rw [isNegative, ← UInt32.toNat_toBitVec, fields, packComponents_toNat]
  cases sign
  · simp [signBit, Sign.toBitVec]
  · simp [signBit, Sign.toBitVec]
    omega

theorem magnitude_ofDatum_zero (sign : Sign) : (ofDatum (.zero sign)).magnitude = 0 := by
  cases sign <;> rfl

theorem log2_add_one_eq_iff {m : ℕ} (m_pos : 0 < m) (m_lt : m < 2 ^ 24) :
    m.log2 + 1 = Format.binary32.mantissaBits ↔ 2 ^ 23 ≤ m := by
  have width : Format.binary32.mantissaBits = 24 := rfl
  have below : m.log2 < 24 := (Nat.log2_lt m_pos.ne').mpr m_lt
  rw [width, ← Nat.le_log2 m_pos.ne']
  omega

/-- Patterns that are put together from a significand and an exponent of the format. -/
theorem exists_fields {m : ℕ} {e : ℤ} (stands : Placed m e) (m_pos : 0 < m) (sign : Sign) :
    ∃ exponent fraction,
      (ofDatum (.finite sign m e m_pos)).bits.toBitVec =
        packComponents .binary32 sign exponent fraction ∧
      exponent.toNat * 0x800000 + fraction.toNat = min (code m e) infinityMagnitude := by
  have bias : Format.binary32.exponentBias = 127 := rfl
  have width : Format.binary32.mantissaBitsWithoutImplicit = 23 := rfl
  have m_lt := stands.significand_lt
  have least_le := stands.least_le
  have leading := stands.leading
  unfold ofDatum pack
  simp only [log2_add_one_eq_iff m_pos m_lt, bias]
  split_ifs with overflow normal
  · refine ⟨-1#8, 0, rfl, ?_⟩
    unfold code infinityMagnitude
    simp at overflow ⊢
    omega
  · refine ⟨_, _, rfl, ?_⟩
    unfold code infinityMagnitude
    simp at overflow ⊢
    omega
  · refine ⟨_, _, rfl, ?_⟩
    unfold code infinityMagnitude
    simp at overflow ⊢
    omega

theorem isNegative_ofDatum_zero (sign : Sign) :
    (ofDatum (.zero sign)).isNegative = signBit sign := by
  cases sign <;> rfl

theorem magnitude_ofDatum_finite {m : ℕ} {e : ℤ} (stands : Placed m e) (m_pos : 0 < m)
    (sign : Sign) :
    (ofDatum (.finite sign m e m_pos)).magnitude = min (code m e) infinityMagnitude := by
  obtain ⟨exponent, fraction, fields, code_eq⟩ := exists_fields stands m_pos sign
  rw [magnitude_of_toBitVec_eq fields, code_eq]

theorem isNegative_ofDatum_finite {m : ℕ} {e : ℤ} (stands : Placed m e) (m_pos : 0 < m)
    (sign : Sign) : (ofDatum (.finite sign m e m_pos)).isNegative = signBit sign := by
  obtain ⟨exponent, fraction, fields, -⟩ := exists_fields stands m_pos sign
  exact isNegative_of_toBitVec_eq fields

/-! ## Operations -/

/-- Putting together undoes taking apart, save that all NaNs become one. -/
theorem datum_ofDatum_datum (x : Binary32) : (ofDatum x.datum).datum = x.datum := by
  unfold ofDatum datum
  simp only
  rw [pack_unpack]
  split_ifs with isNaN
  · rw [unpack_packedNaN]
    simp [isNaNBits] at isNaN
    simp [unpack, isNaN]
  · rfl

/-- The machine's arithmetic takes its operands through its own form of them, which changes
nothing. -/
theorem ofDatum_operation (operation : UnpackedFloat → UnpackedFloat → UnpackedFloat)
    (x y : Binary32) :
    ofDatum (operation (ofDatum x.datum).datum (ofDatum y.datum).datum) =
      ofDatum (operation x.datum y.datum) := by
  rw [datum_ofDatum_datum, datum_ofDatum_datum]

theorem add_eq (x y : Binary32) : x + y = ofDatum (x.datum.add .binary32 y.datum) :=
  ofDatum_operation (UnpackedFloat.add .binary32) x y

theorem sub_eq (x y : Binary32) : x - y = ofDatum (x.datum.sub .binary32 y.datum) :=
  ofDatum_operation (UnpackedFloat.sub .binary32) x y

theorem mul_eq (x y : Binary32) : x * y = ofDatum (x.datum.mul .binary32 y.datum) :=
  ofDatum_operation (UnpackedFloat.mul .binary32) x y

theorem div_eq (x y : Binary32) : x / y = ofDatum (x.datum.div .binary32 y.datum) :=
  ofDatum_operation (UnpackedFloat.div .binary32) x y

/-! ## Values -/

/-- What is taken out of a finite number that stands for a rational. -/
inductive Holds : UnpackedFloat → ℚ → Prop
  | zero (sign : Sign) : Holds (.zero sign) 0
  | finite (sign : Sign) {m : ℕ} {e : ℤ} (m_pos : 0 < m) (stands : Placed m e) :
      Holds (.finite sign m e m_pos) (signed (signBit sign) (m * 2 ^ e))

theorem holds_datum (finite : x.isFinite) : Holds x.datum x.value := by
  by_cases zero : x.magnitude = 0
  · have value_eq : x.value = 0 := by
      rw [← abs_eq_zero, abs_value, modulus_eq_zero zero]
    rw [datum_of_zero zero, value_eq]
    exact .zero _
  · have holds := Holds.finite (signOf x.isNegative) (significand_pos zero) x.placed
    rwa [signBit_signOf, ← modulus, ← value, ← datum_of_nonzero finite zero] at holds

theorem Holds.isNearest {u : UnpackedFloat} {v : ℚ} (holds : Holds u v) :
    (ofDatum u).IsNearest v := by
  cases holds with
  | zero sign =>
    have magnitude_eq : (ofDatum (.zero sign)).magnitude = nearestMagnitude 0 := by
      rw [magnitude_ofDatum_zero, nearestMagnitude_of_nonpos le_rfl]
    have nearest := isNearest_of_magnitude_eq le_rfl magnitude_eq
    rwa [signed, neg_zero, ite_self] at nearest
  | @finite sign m e m_pos stands =>
    have magnitude_eq : (ofDatum (.finite sign m e m_pos)).magnitude =
        nearestMagnitude (m * 2 ^ e) := by
      rw [magnitude_ofDatum_finite stands, stands.nearestMagnitude_eq]
    have nearest := isNearest_of_magnitude_eq (by positivity) magnitude_eq
    rwa [isNegative_ofDatum_finite stands] at nearest

end Binary32

end TextureGraph
