import Mathlib
import GraphBoard.Number.Binary64

set_option autoImplicit false

namespace GraphBoard.Number

open Float.Model Float.Model.UnpackedFloat

section Bits

abbrev Word := BitVec Format.binary64.numBits

variable (b : Word)

theorem toNat_unpackExponent :
    (unpackExponent b).toNat = b.toNat / 2 ^ 52 % 2 ^ 11 := by
  simp [unpackExponent, BitVec.extractLsb, Nat.shiftRight_eq_div_pow]

theorem toBitVec_ofBitVec (s : BitVec 1) : (Sign.ofBitVec s).toBitVec = s := by
  revert s
  decide

theorem packComponents_unpack :
    packComponents _ (Sign.ofBitVec (unpackSign b)) (unpackExponent b) (unpackMantissa b) = b := by
  simp only [packComponents, toBitVec_ofBitVec, unpackSign, unpackExponent, unpackMantissa,
    BitVec.extractLsb]
  ext i hi
  grind

theorem toNat_cons_mantissa (m : BitVec Format.binary64.mantissaBitsWithoutImplicit) :
    (1#1 ++ m).toNat = 2 ^ 52 + m.toNat := by
  have hm : m.toNat < 2 ^ 52 := m.isLt
  rw [BitVec.toNat_append, ← Nat.shiftLeft_add_eq_or_of_lt m.isLt]
  simp [Nat.shiftLeft_eq]

theorem log2_add {m : Nat} (h : m < 2 ^ 52) : (2 ^ 52 + m).log2 = 52 := by
  rw [Nat.log2_eq_iff (by omega)]
  omega

theorem log2_lt {m : Nat} (h : m < 2 ^ 52) (hm : m ≠ 0) : m.log2 < 52 := (Nat.log2_lt hm).2 h

variable {b}

theorem packComponents_eq {exponent : BitVec Format.binary64.exponentBits}
    {mantissa : BitVec Format.binary64.mantissaBitsWithoutImplicit}
    (hexponent : unpackExponent b = exponent) (hmantissa : unpackMantissa b = mantissa) :
    packComponents _ (Sign.ofBitVec (unpackSign b)) exponent mantissa = b := by
  rw [← hexponent, ← hmantissa, packComponents_unpack]

theorem pack_unpack (h : unpackExponent b ≠ -1#_) :
    UnpackedFloat.pack Format.binary64 (UnpackedFloat.unpack Format.binary64 b) = b := by
  have hbias : (Format.binary64.exponentBias : Int) = 1023 := rfl
  have hbits : Format.binary64.mantissaBits = 53 := rfl
  have hdigits : (unpackMantissa b).toNat < 2 ^ 52 := (unpackMantissa b).isLt
  rw [UnpackedFloat.unpack, if_neg h]
  split
  · -- The least exponent: zero, or digits that are not filled up.
    rename_i hexponent
    split
    · rename_i hmantissa
      exact packComponents_eq hexponent hmantissa
    · rename_i hmantissa
      have hne : (unpackMantissa b).toNat ≠ 0 := fun hzero =>
        hmantissa (BitVec.toNat_inj.1 (by simpa using hzero))
      have hbiased : ((unpackExponent b).toNat - (Format.binary64.exponentBias +
          Format.binary64.mantissaBitsWithoutImplicit : Int) + 1 + Format.binary64.exponentBias +
          Format.binary64.mantissaBitsWithoutImplicit).toNat = 1 := by
        have hzero : (unpackExponent b).toNat = 0 := by
          rw [hexponent]
          rfl
        omega
      have hlog := log2_lt hdigits hne
      rw [UnpackedFloat.pack]
      simp only [hbiased]
      rw [if_neg (by decide), if_neg (by omega)]
      refine packComponents_eq hexponent ?_
      rw [BitVec.ofNat_toNat, BitVec.setWidth_eq]
  · -- Elsewhere a digit that is not written is put in front, and taken off again.
    rename_i hexponent
    have hfield : (unpackExponent b).toNat ≠ 2 ^ 11 - 1 := fun hfull =>
      h (BitVec.toNat_inj.1 (by simpa using hfull))
    have hlt : (unpackExponent b).toNat < 2 ^ 11 := (unpackExponent b).isLt
    have hbiased : ((unpackExponent b).toNat - (Format.binary64.exponentBias +
        Format.binary64.mantissaBitsWithoutImplicit : Int) + Format.binary64.exponentBias +
        Format.binary64.mantissaBitsWithoutImplicit).toNat = (unpackExponent b).toNat := by
      omega
    have hcons := toNat_cons_mantissa (unpackMantissa b)
    have hlog : (1#1 ++ unpackMantissa b).toNat.log2 = 52 := by rw [hcons, log2_add hdigits]
    rw [UnpackedFloat.pack]
    simp only [hbiased]
    rw [if_neg (by simp only [Format.binary64]; omega), if_pos (by omega)]
    refine packComponents_eq ?_ (BitVec.toNat_inj.1 ?_)
    · rw [BitVec.ofNat_toNat, BitVec.setWidth_eq]
    · rw [BitVec.toNat_ofNat, hcons]
      change _ = (2 ^ 52 + _) % 2 ^ 52
      rw [Nat.add_mod_left, Nat.mod_eq_of_lt hdigits]

theorem toBits_ofBits {bits : UInt64} (h : bits.toNat / 2 ^ 52 % 2 ^ 11 ≠ 2047) :
    (Float.ofBits bits).toBits = bits := by
  have hexponent : @unpackExponent Format.binary64 bits.toBitVec ≠ -1#_ := fun hfull => by
    have hfield := toNat_unpackExponent bits.toBitVec
    rw [hfull] at hfield
    exact h hfield.symm
  exact UInt64.toBitVec_inj.1 (pack_unpack hexponent)

end Bits

section Exact

def Parts.toRat? : Parts → Option Rat
  | .finite negative digits exponent =>
    some ((if negative then -1 else 1) * digits * 2 ^ exponent)
  | _ => none

theorem Parts.of_ofSignedBits (negative : Bool) {field fraction : Nat} (hzero : field ≠ 0)
    (hfield : field < 2047) (hfraction : fraction < 2 ^ 52) :
    Parts.of (ofSignedBits negative (field * 2 ^ 52 + fraction)) =
      .finite negative (2 ^ 52 + fraction) ((field : Int) - 1075) := by
  obtain ⟨word, hbits, hlt, hsign, hfraction', hfield'⟩ : ∃ word : Nat,
      (if negative then field * 2 ^ 52 + fraction + Nat.pow 2 63
        else field * 2 ^ 52 + fraction) = word ∧ word < 2 ^ 64 ∧
      decide (2 ^ 63 ≤ word) = negative ∧ word % 2 ^ 52 = fraction ∧
      word / 2 ^ 52 % 2 ^ 11 = field := by
    refine ⟨_, rfl, ?_⟩
    simp only [Nat.pow_eq]
    cases negative <;> simp <;> omega
  have hword : (UInt64.ofNat word).toNat = word := UInt64.toNat_ofNat_of_lt' hlt
  have hread : (Float.ofBits (UInt64.ofNat word)).toBits = UInt64.ofNat word := toBits_ofBits (by
    rw [hword]
    omega)
  rw [ofSignedBits, hbits]
  simp only [Parts.of, hread, hword, Nat.pow_eq, hsign, hfraction', hfield']
  rw [if_neg (by simp; omega), if_neg (by simpa using hzero)]

theorem binaryExponent_one {n : Nat} (h : n ≠ 0) : binaryExponent n 1 = n.log2 := by
  have hhigh : ((n.log2 : Int) - (Nat.log2 1 : Nat)).toNat = n.log2 ∧
      (-((n.log2 : Int) - (Nat.log2 1 : Nat))).toNat = 0 := by
    have hone : Nat.log2 1 = 0 := by decide
    omega
  simp only [binaryExponent, powerOfTwo, hhigh]
  rw [if_pos (by simpa using Nat.log2_self_le h)]
  omega

theorem roundQuotient_one (n : Nat) : roundQuotient n 1 = n := by
  simp [roundQuotient, Nat.mod_one]

/-- The digits of a positive number below two to the 53rd, moved up to have 53 of them. -/
theorem digits_bounds {n : Nat} (hpos : n ≠ 0) (h : n.log2 ≤ 52) :
    2 ^ 52 ≤ n * 2 ^ (52 - n.log2) ∧ n * 2 ^ (52 - n.log2) < 2 ^ 53 := by
  have hup : ∀ k, k = n.log2 + (52 - n.log2) → 2 ^ k = 2 ^ n.log2 * 2 ^ (52 - n.log2) :=
    fun k hk => by rw [← Nat.pow_add, ← hk]
  constructor
  · rw [hup 52 (by omega)]
    exact Nat.mul_le_mul_right _ (Nat.log2_self_le hpos)
  · have hlt : n < 2 ^ (n.log2 + 1) := Nat.lt_log2_self
    calc n * 2 ^ (52 - n.log2) < 2 ^ (n.log2 + 1) * 2 ^ (52 - n.log2) :=
          Nat.mul_lt_mul_of_pos_right hlt (Nat.two_pow_pos _)
      _ = 2 ^ 53 := by
        rw [← Nat.pow_add]
        congr 1
        omega

theorem nearestBits_small {n : Nat} (hpos : n ≠ 0) (h : n.log2 ≤ 52) :
    nearestBits n 1 = (n.log2 + 1022) * 2 ^ 52 + n * 2 ^ (52 - n.log2) := by
  have hlast : max ((n.log2 : Int) - 52) (-1074) = n.log2 - 52 := by omega
  have hpower : ((n.log2 : Int) - 52).toNat = 0 ∧ (-((n.log2 : Int) - 52)).toNat = 52 - n.log2 ∧
      ((n.log2 : Int) - 52 + 1074).toNat = n.log2 + 1022 := by
    omega
  have hbounds := digits_bounds hpos h
  simp only [nearestBits, beq_iff_eq, hpos, if_false, binaryExponent_one hpos, hlast, powerOfTwo,
    hpower, Nat.pow_eq, Nat.pow_zero, Nat.mul_one, roundQuotient_one, infinityBits]
  omega

theorem nearestBits_whole {n : Nat} (hpos : n ≠ 0) (h : n ≤ 2 ^ 53) :
    ∃ field fraction : Nat, nearestBits n 1 = field * 2 ^ 52 + fraction ∧ field ≠ 0 ∧
      field < 2047 ∧ fraction < 2 ^ 52 ∧
      ((2 ^ 52 + fraction : Nat) : Rat) * 2 ^ ((field : Int) - 1075) = n := by
  by_cases hlog : n.log2 ≤ 52
  · have hbounds := digits_bounds hpos hlog
    refine ⟨n.log2 + 1023, n * 2 ^ (52 - n.log2) - 2 ^ 52, ?_, by omega, by omega, by omega, ?_⟩
    · rw [nearestBits_small hpos hlog]
      omega
    · have hdown : ((n.log2 + 1023 : Nat) : Int) - 1075 = -(52 - n.log2 : Nat) := by omega
      rw [Nat.add_sub_cancel' hbounds.1, hdown, zpow_neg, zpow_natCast]
      push_cast
      rw [mul_assoc, mul_inv_cancel₀ (pow_ne_zero _ two_ne_zero), mul_one]
  · have hn : 2 ^ 53 ≤ n := (Nat.le_log2 hpos).1 (by omega)
    obtain rfl := Nat.le_antisymm h hn
    refine ⟨1076, 0, by decide, by decide, by decide, by decide, ?_⟩
    norm_num

/-- A whole number up to two to the 53rd is what its floating-point number stands for. -/
theorem toRat?_ofInt {n : Int} (h : n.natAbs ≤ 2 ^ 53) :
    (Parts.of (ofInt n)).toRat? = some (n : Rat) := by
  by_cases hzero : n = 0
  · subst hzero
    have hparts : Parts.of (ofInt 0) = .finite false 0 (-1074) := by decide
    rw [hparts, Parts.toRat?]
    simp
  · obtain ⟨field, fraction, hbits, hfield, hlt, hfraction, hvalue⟩ :=
      nearestBits_whole (Int.natAbs_ne_zero.2 hzero) h
    rw [ofInt, hbits, Parts.of_ofSignedBits _ hfield hlt hfraction, Parts.toRat?, mul_assoc, hvalue]
    congr 1
    by_cases hn : n < 0
    · have habs : n = -(n.natAbs : Int) := by omega
      simp only [hn, decide_true, if_true]
      rw [neg_one_mul, ← Int.cast_natCast, ← Int.cast_neg, ← habs]
    · have habs : n = (n.natAbs : Int) := by omega
      simp only [hn, decide_false, Bool.false_eq_true, if_false]
      rw [one_mul, ← Int.cast_natCast, ← habs]

end Exact

end GraphBoard.Number
