import GraphBoard.Proofs.WholeNumbers

set_option autoImplicit false

namespace GraphBoard.Number

open Float.Model Float.Model.UnpackedFloat

/-- Whether a number has a value, and this is it. -/
def Stands (x : Float) (q : Rat) : Prop := (Parts.of x).toRat? = some q

def unpackedValue? : UnpackedFloat → Option Rat
  | .zero _ => some 0
  | .finite s m e _ => some ((s.apply m : Int) * 2 ^ e)
  | _ => none

/-- As many digits as there is room for. -/
def Kept : UnpackedFloat → Prop
  | .finite _ m e _ => m < 2 ^ 53 ∧ -1074 ≤ e ∧ e ≤ 971 ∧ (2 ^ 52 ≤ m ∨ e = -1074)
  | _ => True

structure Holds (u : UnpackedFloat) (q : Rat) : Prop where
  kept : Kept u
  value : unpackedValue? u = some q

section Unpacking

variable (b : Word)

theorem toNat_unpackMantissa : (unpackMantissa b).toNat = b.toNat % 2 ^ 52 := by
  simp [unpackMantissa, BitVec.extractLsb]

theorem toNat_unpackSign : (unpackSign b).toNat = b.toNat / 2 ^ 63 := by
  have hlt : b.toNat < 2 ^ 64 := b.isLt
  simp [unpackSign, BitVec.extractLsb, Nat.shiftRight_eq_div_pow]
  omega

theorem ofBitVec_unpackSign : Sign.ofBitVec (unpackSign b) =
    if 2 ^ 63 ≤ b.toNat then .negative else .positive := by
  have hsign := toNat_unpackSign b
  have hlt : b.toNat < 2 ^ 64 := b.isLt
  have hzero : unpackSign b = 0#1 ↔ ¬ 2 ^ 63 ≤ b.toNat := by
    rw [← BitVec.toNat_inj, hsign]
    change _ / 2 ^ 63 = 0 ↔ _
    omega
  simp only [Sign.ofBitVec, hzero]
  split <;> simp_all

theorem unpack_eq : UnpackedFloat.unpack Format.binary64 b =
    let s := if 2 ^ 63 ≤ b.toNat then Sign.negative else .positive
    let field : Nat := b.toNat / 2 ^ 52 % 2 ^ 11
    let fraction : Nat := b.toNat % 2 ^ 52
    if field = 2047 then if fraction = 0 then .infinity s else .notANumber
    else if field = 0 then
      if h : fraction = 0 then .zero s else .finite s fraction (-1074) (Nat.pos_of_ne_zero h)
    else .finite s (2 ^ 52 + fraction) ((field : Int) - 1075) (by omega) := by
  have hbias : (Format.binary64.exponentBias : Int) = 1023 := rfl
  have hfull : unpackExponent b = -1#_ ↔ b.toNat / 2 ^ 52 % 2 ^ 11 = 2047 := by
    rw [← BitVec.toNat_inj, toNat_unpackExponent]
    rfl
  have hleast : unpackExponent b = 0#_ ↔ b.toNat / 2 ^ 52 % 2 ^ 11 = 0 := by
    rw [← BitVec.toNat_inj, toNat_unpackExponent]
    rfl
  have hnone : unpackMantissa b = 0#_ ↔ b.toNat % 2 ^ 52 = 0 := by
    rw [← BitVec.toNat_inj, toNat_unpackMantissa]
    rfl
  dsimp only
  simp only [UnpackedFloat.unpack, hfull, hleast, hnone, ofBitVec_unpackSign,
    toNat_unpackMantissa, toNat_unpackExponent, hbias]
  by_cases hfield : b.toNat / 2 ^ 52 % 2 ^ 11 = 2047
  · rw [if_pos hfield, if_pos hfield]
  by_cases hzero : b.toNat / 2 ^ 52 % 2 ^ 11 = 0
  · rw [if_neg hfield, if_neg hfield, if_pos hzero, if_pos hzero, hzero]
    rfl
  · rw [if_neg hfield, if_neg hfield, if_neg hzero, if_neg hzero]
    congr 1
    rw [toNat_cons_mantissa, toNat_unpackMantissa]

end Unpacking

theorem kept_unpack (x : Float) : Kept x.toModel.unpack := by
  rw [Float.Model.unpack, unpack_eq]
  dsimp only
  split
  · split <;> trivial
  split
  · split
    · trivial
    · dsimp only [Kept]
      omega
  · dsimp only [Kept]
    omega

theorem Parts.of_eq (x : Float) : Parts.of x =
    let bits := x.toBits.toNat
    if bits / 2 ^ 52 % 2 ^ 11 == 2047 then
      if bits % 2 ^ 52 == 0 then .infinite (2 ^ 63 ≤ bits) else .notANumber
    else if bits / 2 ^ 52 % 2 ^ 11 == 0 then .finite (2 ^ 63 ≤ bits) (bits % 2 ^ 52) (-1074)
    else .finite (2 ^ 63 ≤ bits) (2 ^ 52 + bits % 2 ^ 52)
      ((bits / 2 ^ 52 % 2 ^ 11 : Nat) - 1075) := rfl

theorem toRat?_of (x : Float) : (Parts.of x).toRat? = unpackedValue? x.toModel.unpack := by
  have happly : ∀ (p : Prop) [Decidable p] (n : Nat),
      (((if p then Sign.negative else .positive).apply n : Int) : Rat) =
        (if decide p then -1 else 1) * n := by
    intro p _ n
    by_cases hp : p <;> simp [hp, Sign.apply]
  have hbits : x.toModel.toBits.toBitVec.toNat = x.toBits.toNat := rfl
  rw [Float.Model.unpack, unpack_eq, Parts.of_eq]
  simp only [hbits, beq_iff_eq]
  by_cases hfield : x.toBits.toNat / 2 ^ 52 % 2 ^ 11 = 2047
  · rw [if_pos hfield, if_pos hfield]
    split <;> rfl
  by_cases hzero : x.toBits.toNat / 2 ^ 52 % 2 ^ 11 = 0
  · rw [if_neg hfield, if_neg hfield, if_pos hzero, if_pos hzero]
    by_cases hfraction : x.toBits.toNat % 2 ^ 52 = 0
    · rw [dif_pos hfraction, hfraction, Parts.toRat?, unpackedValue?]
      simp
    · rw [dif_neg hfraction, unpackedValue?, happly]
      rfl
  · rw [if_neg hfield, if_neg hfield, if_neg hzero, if_neg hzero, unpackedValue?, happly]
    rfl

theorem stands_iff {x : Float} {q : Rat} : Stands x q ↔ Holds x.toModel.unpack q := by
  rw [Stands, toRat?_of]
  exact ⟨fun h => ⟨kept_unpack x, h⟩, Holds.value⟩

section Order

variable {m n : Nat} {e f : Int} {q r : Rat}

theorem two_zpow_pos (e : Int) : (0 : Rat) < 2 ^ e := zpow_pos two_pos e

/-- Of numbers with all digits the one with the greater exponent is greater. -/
theorem mul_zpow_lt_of_lt (hm : m < 2 ^ 53) (hn : 2 ^ 52 ≤ n) (h : e < f) :
    (m : Rat) * 2 ^ e < n * 2 ^ f := by
  have hm' : (m : Rat) < 2 ^ 53 := by exact_mod_cast hm
  have hn' : (2 : Rat) ^ 52 ≤ n := by exact_mod_cast hn
  calc (m : Rat) * 2 ^ e < 2 ^ 53 * 2 ^ e := mul_lt_mul_of_pos_right hm' (two_zpow_pos e)
    _ = 2 ^ 52 * 2 ^ (e + 1) := by
      rw [zpow_add_one₀ two_ne_zero]
      ring
    _ ≤ 2 ^ 52 * 2 ^ f := by
      refine mul_le_mul_of_nonneg_left ?_ (by positivity)
      exact zpow_le_zpow_right₀ one_le_two (by omega)
    _ ≤ n * 2 ^ f := mul_le_mul_of_nonneg_right hn' (two_zpow_pos f).le

theorem compare_mul_zpow {s t : Sign} {hm : 0 < m} {hn : 0 < n} (hx : Kept (.finite s m e hm))
    (hy : Kept (.finite t n f hn)) :
    (compare e f).then (compare m n) = compare ((m : Rat) * 2 ^ e) (n * 2 ^ f) := by
  obtain ⟨hm53, hme, -, hmk⟩ := hx
  obtain ⟨hn53, hne, -, hnk⟩ := hy
  obtain h | rfl | h := lt_trichotomy e f
  · rw [compare_lt_iff_lt.2 h]
    exact (compare_lt_iff_lt.2 (mul_zpow_lt_of_lt hm53 (hnk.resolve_right (by omega)) h)).symm
  · rw [compare_eq_iff_eq.2 rfl]
    change compare m n = _
    obtain h | rfl | h := lt_trichotomy m n
    · rw [compare_lt_iff_lt.2 h, compare_lt_iff_lt.2]
      exact mul_lt_mul_of_pos_right (by exact_mod_cast h) (two_zpow_pos e)
    · rw [compare_eq_iff_eq.2 rfl, compare_eq_iff_eq.2 rfl]
    · rw [compare_gt_iff_gt.2 h, compare_gt_iff_gt.2]
      exact mul_lt_mul_of_pos_right (by exact_mod_cast h) (two_zpow_pos e)
  · rw [compare_gt_iff_gt.2 h]
    exact (compare_gt_iff_gt.2 (mul_zpow_lt_of_lt hn53 (hmk.resolve_right (by omega)) h)).symm

theorem mul_zpow_pos (hm : 0 < m) (e : Int) : (0 : Rat) < m * 2 ^ e :=
  mul_pos (Nat.cast_pos.2 hm) (two_zpow_pos e)

theorem compare_neg (q r : Rat) : compare (-q) (-r) = compare r q := by
  obtain h | rfl | h := lt_trichotomy q r
  · rw [compare_gt_iff_gt.2 h, compare_gt_iff_gt.2 (neg_lt_neg h)]
  · rw [compare_eq_iff_eq.2 rfl, compare_eq_iff_eq.2 rfl]
  · rw [compare_lt_iff_lt.2 h, compare_lt_iff_lt.2 (neg_lt_neg h)]

theorem Holds.compare {u v : UnpackedFloat} (hu : Holds u q) (hv : Holds v r) :
    u.compare v = some (compare q r) := by
  obtain ⟨hu, hq⟩ := hu
  obtain ⟨hv, hr⟩ := hv
  cases u with
  | infinity s => cases hq
  | notANumber => cases hq
  | zero s =>
    obtain rfl := Option.some.inj hq
    cases v with
    | infinity t => cases hr
    | notANumber => cases hr
    | zero t =>
      obtain rfl := Option.some.inj hr
      rw [compare_eq_iff_eq.2 rfl]
      rfl
    | finite t n f hn =>
      obtain rfl := Option.some.inj hr
      have hpos := mul_zpow_pos hn f
      cases t with
      | positive => rw [compare_lt_iff_lt.2 (by simpa [Sign.apply] using hpos)]; rfl
      | negative => rw [compare_gt_iff_gt.2 (by simpa [Sign.apply] using hpos)]; rfl
  | finite s m e hm =>
    obtain rfl := Option.some.inj hq
    have hmpos := mul_zpow_pos hm e
    cases v with
    | infinity t => cases hr
    | notANumber => cases hr
    | zero t =>
      obtain rfl := Option.some.inj hr
      cases s with
      | positive => rw [compare_gt_iff_gt.2 (by simpa [Sign.apply] using hmpos)]; rfl
      | negative => rw [compare_lt_iff_lt.2 (by simpa [Sign.apply] using hmpos)]; rfl
    | finite t n f hn =>
      obtain rfl := Option.some.inj hr
      have hnpos := mul_zpow_pos hn f
      have hsame := compare_mul_zpow hu hv
      cases s with
      | positive =>
        cases t with
        | positive => exact congrArg some hsame
        | negative =>
          rw [compare_gt_iff_gt.2]
          · rfl
          · simp only [Sign.apply, Int.cast_neg, Int.cast_natCast]
            linarith
      | negative =>
        cases t with
        | positive =>
          rw [compare_lt_iff_lt.2]
          · rfl
          · simp only [Sign.apply, Int.cast_neg, Int.cast_natCast]
            linarith
        | negative =>
          simp only [Sign.apply, Int.cast_neg, Int.cast_natCast, neg_mul]
          change some ((compare e f).then (compare m n)).swap = _
          rw [hsame, ← Std.OrientedOrd.eq_swap, compare_neg]

theorem lt_iff {x y : Float} (hx : Stands x q) (hy : Stands y r) : x < y ↔ q < r := by
  have hcompare := (stands_iff.1 hx).compare (stands_iff.1 hy)
  change decide ((x.toModel.unpack.compare y.toModel.unpack == some .lt) = true) = true ↔ _
  rw [hcompare]
  simp [compare_lt_iff_lt]

theorem le_iff {x y : Float} (hx : Stands x q) (hy : Stands y r) : x ≤ y ↔ q ≤ r := by
  have hcompare := (stands_iff.1 hx).compare (stands_iff.1 hy)
  change decide ((x.toModel.unpack.compare y.toModel.unpack).any (·.isLE) = true) = true ↔ _
  rw [hcompare]
  simp [Ordering.isLE_iff_ne_gt, compare_le_iff_le]

theorem le_of_lt {x y : Float} (h : x < y) : x ≤ y := by
  change decide ((x.toModel.unpack.compare y.toModel.unpack == some .lt) = true) = true at h
  change decide ((x.toModel.unpack.compare y.toModel.unpack).any (·.isLE) = true) = true
  rw [eq_of_beq (of_decide_eq_true h)]
  rfl

theorem beq_iff {x y : Float} (hx : Stands x q) (hy : Stands y r) : (x == y) = true ↔ q = r := by
  have hcompare := (stands_iff.1 hx).compare (stands_iff.1 hy)
  change (x.toModel.unpack.compare y.toModel.unpack == some .eq) = true ↔ _
  rw [hcompare]
  simp

end Order

end GraphBoard.Number
