import ClusterFramework.Binary64.Basic
import Mathlib

/-! What the bits of a number say. The float of a finite number other than zero has the sign, the
mantissa and the scale that its bits spell, and compares by them. -/
namespace ClusterFramework
namespace Binary64

open Float.Model Float.Model.UnpackedFloat

variable {x : Binary64}

/-- The number's bits, in the width of its format. -/
def word (x : Binary64) : BitVec Format.binary64.numBits := x.bits.toBitVec

/-- The sign its leading bit spells. -/
def leadingSign (x : Binary64) : Sign := if x.isNegative then .negative else .positive

theorem toNat_unpackExponent (x : Binary64) : (unpackExponent x.word).toNat = x.exponent := by
  rw [unpackExponent_def,BitVec.extractLsb'_toNat,Nat.shiftRight_eq_div_pow]
  rfl

theorem toNat_unpackMantissa (x : Binary64) : (unpackMantissa x.word).toNat = x.fraction := by
  rw [unpackMantissa_def,BitVec.extractLsb'_toNat,Nat.shiftRight_zero]
  rfl

theorem toNat_unpackSign (x : Binary64) :
    (unpackSign x.word).toNat = x.bits.toNat/0x8000000000000000 := by
  rw [unpackSign_def,BitVec.extractLsb'_toNat,Nat.shiftRight_eq_div_pow]
  exact Nat.mod_eq_of_lt (Nat.div_lt_of_lt_mul x.bits.toNat_lt)

theorem ofBitVec_unpackSign (x : Binary64) : Sign.ofBitVec (unpackSign x.word) = x.leadingSign := by
  have hs := toNat_unpackSign x
  have hx := x.bits.toNat_lt
  unfold leadingSign Sign.ofBitVec isNegative
  by_cases hn : 0x8000000000000000 ≤ x.bits.toNat
  · have : unpackSign x.word ≠ 0#1 := by
      rw [ne_eq,← BitVec.toNat_inj,hs,BitVec.toNat_zero]; omega
    simp only [this,hn,if_false,decide_true,if_true]
  · have : unpackSign x.word = 0#1 := by
      rw [← BitVec.toNat_inj,hs,BitVec.toNat_zero]; omega
    simp only [this,hn,if_true,decide_false,Bool.false_eq_true,if_false]

theorem fraction_lt (x : Binary64) : x.fraction < 2^52 := Nat.mod_lt _ (by decide)

theorem mantissa_lt (x : Binary64) : x.mantissa < 2^53 := by
  have := x.fraction_lt
  unfold mantissa
  split <;> omega

@[simp] theorem mantissa_eq_zero_iff : x.mantissa = 0 ↔ x.isZero := by
  unfold mantissa isZero
  split <;> simp_all

theorem mantissa_pos (hz : ¬x.isZero) : 0 < x.mantissa :=
  Nat.pos_of_ne_zero fun h => hz (mantissa_eq_zero_iff.mp h)

theorem unpackExponent_ne (hx : x.isFinite) : unpackExponent x.word ≠ -1#_ := by
  rw [ne_eq,← BitVec.toNat_inj,toNat_unpackExponent]
  exact of_decide_eq_true hx

theorem unpack_word (hx : x.isFinite) (hz : ¬x.isZero) :
    UnpackedFloat.unpack .binary64 x.word =
      .finite x.leadingSign x.mantissa ((x.scale:Int)-1074) (mantissa_pos hz) := by
  have he := toNat_unpackExponent x
  have hf := toNat_unpackMantissa x
  unfold UnpackedFloat.unpack
  simp only [unpackExponent_ne hx,if_false,ofBitVec_unpackSign,he]
  by_cases h0 : x.exponent = 0
  · have hexp : unpackExponent x.word = 0#_ := by
      rw [← BitVec.toNat_inj,he,h0]; rfl
    have hman : unpackMantissa x.word ≠ 0#_ := by
      rw [ne_eq,← BitVec.toNat_inj,hf]
      simpa [isZero,h0] using hz
    rw [if_pos hexp,dif_neg hman]
    simp only [mantissa,scale,h0,hf,if_true]
    rfl
  · have hexp : unpackExponent x.word ≠ 0#_ := by
      rw [ne_eq,← BitVec.toNat_inj,he]; exact h0
    have hman : (1#1 ++ unpackMantissa x.word).toNat = 0x10000000000000+x.fraction := by
      rw [BitVec.toNat_append,← Nat.shiftLeft_add_eq_or_of_lt (BitVec.isLt _),hf]
      rfl
    rw [if_neg hexp]
    simp only [mantissa,scale,h0,hman,if_false]
    congr 1
    simp only [Format.exponentBias]
    omega

/-- The float of a finite number has the mantissa and the scale that its bits spell. -/
theorem unpack_toFloat (hx : x.isFinite) (hz : ¬x.isZero) :
    x.toFloat.toModel.unpack =
      .finite x.leadingSign x.mantissa ((x.scale:Int)-1074) (mantissa_pos hz) := by
  have hnumber : ¬isNaNBits x.word := fun h => unpackExponent_ne hx (of_decide_eq_true h).1
  change UnpackedFloat.unpack .binary64
    (UnpackedFloat.pack .binary64 (UnpackedFloat.unpack .binary64 x.word)) = _
  rw [pack_unpack,if_neg hnumber,unpack_word hx hz]

theorem unpack_zero : zero.toFloat.toModel.unpack = .zero .positive := rfl

theorem lt_iff (x y : Binary64) :
    lt x y ↔ x.toFloat.toModel.unpack.lt y.toFloat.toModel.unpack :=
  decide_eq_true_iff.trans decide_eq_true_iff

theorem zero_lt_iff (hx : x.isFinite) : lt zero x ↔ ¬x.isNegative ∧ ¬x.isZero := by
  by_cases hz : x.isZero
  · obtain rfl | rfl := (isZero_iff x).mp hz <;> decide
  · rw [lt_iff,unpack_zero,unpack_toFloat hx hz,leadingSign]
    by_cases hn : x.isNegative <;> simp [hn,hz,UnpackedFloat.lt,UnpackedFloat.compare]

/-- Magnitudes have 53 digits, so one below a power of two is short of it by the last of them. -/
theorem scaled_add_le {k : Nat} (h : x.mantissa*2^x.scale < 2^53*2^k) :
    x.mantissa*2^x.scale+2^k ≤ 2^53*2^k := by
  have hm := x.mantissa_lt
  by_cases hs : x.scale ≤ k
  · calc x.mantissa*2^x.scale+2^k ≤ x.mantissa*2^k+2^k :=
          Nat.add_le_add_right (Nat.mul_le_mul_left _ (Nat.pow_le_pow_right (by decide) hs)) _
      _ = (x.mantissa+1)*2^k := (Nat.succ_mul _ _).symm
      _ ≤ 2^53*2^k := Nat.mul_le_mul_right _ hm
  · have hnormal : 2^52 ≤ x.mantissa := by
      have h0 : x.exponent ≠ 0 := by unfold scale at hs; omega
      rw [mantissa,if_neg h0]; omega
    have hlow : 2^53*2^k ≤ x.mantissa*2^x.scale :=
      calc 2^53*2^k = 2^52*2^(k+1) := by ring
        _ ≤ x.mantissa*2^x.scale :=
            Nat.mul_le_mul hnormal (Nat.pow_le_pow_right (by decide) (by omega))
    exact absurd h (Nat.not_lt.mpr hlow)

end Binary64
end ClusterFramework
