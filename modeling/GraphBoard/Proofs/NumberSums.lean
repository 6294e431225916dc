import GraphBoard.Proofs.NumberOrder

set_option autoImplicit false

/-!
# Sums of numbers

A sum is computed without loss and then rounded to 53 digits. Rounding keeps the highest digit
where it is or moves it up by one, and changes nothing when no digit has to go. So a sum that is a
whole number up to two to the 53rd is exact, and a difference of at least one stays at least one.
-/
namespace GraphBoard.Number

open Float.Model Float.Model.UnpackedFloat

section Packing

theorem unpackSign_packComponents (s : Sign) (exponent : BitVec Format.binary64.exponentBits)
    (mantissa : BitVec Format.binary64.mantissaBitsWithoutImplicit) :
    Sign.ofBitVec (unpackSign (packComponents _ s exponent mantissa)) = s := by
  have hsign : unpackSign (packComponents _ s exponent mantissa) = s.toBitVec := by
    simp only [unpackSign, packComponents, BitVec.extractLsb]
    ext i hi
    grind
  rw [hsign]
  cases s <;> rfl

theorem unpack_packedZero (s : Sign) :
    UnpackedFloat.unpack Format.binary64 (packedZero Format.binary64 s) = .zero s := by
  cases s <;> rfl

theorem toNat_ofNat_of_lt {w n : Nat} (h : n < 2 ^ w) : (BitVec.ofNat w n).toNat = n := by
  rw [BitVec.toNat_ofNat, Nat.mod_eq_of_lt h]

theorem unpack_components (s : Sign) {field fraction : Nat} (hzero : field ≠ 0)
    (hfield : field < 2047) (hfraction : fraction < 2 ^ 52) :
    UnpackedFloat.unpack Format.binary64 (packComponents Format.binary64 s (BitVec.ofNat 11 field)
      (BitVec.ofNat 52 fraction)) =
      .finite s (2 ^ 52 + fraction) ((field : Int) - 1075) (by omega) := by
  have hexponent := toNat_ofNat_of_lt (show field < 2 ^ 11 by omega)
  have hfull : BitVec.ofNat 11 field ≠ -1#_ := fun h => by
    have hnat : (BitVec.ofNat 11 field).toNat = 2047 := congrArg BitVec.toNat h
    omega
  have hleast : BitVec.ofNat 11 field ≠ 0#_ := fun h => by
    have hnat : (BitVec.ofNat 11 field).toNat = 0 := congrArg BitVec.toNat h
    omega
  rw [UnpackedFloat.unpack]
  simp only [unpackExponent_packComponents, unpackMantissa_packComponents,
    unpackSign_packComponents, if_neg hfull, if_neg hleast]
  congr 1
  · rw [toNat_cons_mantissa, toNat_ofNat_of_lt hfraction]
  · change ((BitVec.ofNat 11 field).toNat : Int) - (1023 + 52) = _
    omega

theorem unpack_components_least (s : Sign) {fraction : Nat} (hzero : 0 < fraction)
    (hfraction : fraction < 2 ^ 52) :
    UnpackedFloat.unpack Format.binary64 (packComponents Format.binary64 s (0#11)
      (BitVec.ofNat 52 fraction)) = .finite s fraction (-1074) hzero := by
  have hmantissa := toNat_ofNat_of_lt hfraction
  have hne : BitVec.ofNat 52 fraction ≠ 0#_ := fun h => by
    have hnat : (BitVec.ofNat 52 fraction).toNat = 0 := congrArg BitVec.toNat h
    omega
  have hfull : (0#11) ≠ -1#_ := by decide
  rw [UnpackedFloat.unpack]
  simp only [unpackExponent_packComponents, unpackMantissa_packComponents,
    unpackSign_packComponents, if_neg hfull, dif_neg hne, hmantissa]
  rfl

theorem unpack_pack_finite {s : Sign} {m : Nat} {e : Int} {hm : 0 < m}
    (h : Kept (.finite s m e hm)) : UnpackedFloat.unpack Format.binary64
      (UnpackedFloat.pack Format.binary64 (.finite s m e hm)) = .finite s m e hm := by
  obtain ⟨hm53, hlow, hhigh, hkept⟩ := h
  have hbits : Format.binary64.mantissaBits = 53 := rfl
  have hfield : (e + Format.binary64.exponentBias +
      Format.binary64.mantissaBitsWithoutImplicit).toNat = (e + 1075).toNat := by
    change (e + 1023 + 52).toNat = _
    omega
  have hfinite : ¬ 2 ^ Format.binary64.exponentBits ≤ (e + 1075).toNat + 1 := by
    change ¬ 2048 ≤ _
    omega
  rw [UnpackedFloat.pack]
  simp only [hfield, if_neg hfinite, hbits]
  by_cases hfull : 2 ^ 52 ≤ m
  · have hlog : m.log2 = 52 := (Nat.log2_eq_iff hm.ne').2 ⟨hfull, hm53⟩
    -- The highest digit is not written.
    have hdigits : BitVec.ofNat 52 m = BitVec.ofNat 52 (m - 2 ^ 52) :=
      BitVec.toNat_inj.1 (by rw [BitVec.toNat_ofNat, BitVec.toNat_ofNat]; omega)
    rw [if_pos (by omega), hdigits, unpack_components s (by omega) (by omega) (by omega),
      UnpackedFloat.finite.injEq]
    exact ⟨rfl, by omega, by omega⟩
  · have hleast : e = -1074 := hkept.resolve_left hfull
    have hlog : m.log2 < 52 := (Nat.log2_lt hm.ne').2 (by omega)
    rw [if_neg (by omega)]
    subst hleast
    exact unpack_components_least s hm (by omega)

theorem Holds.pack {u : UnpackedFloat} {q : Rat} (h : Holds u q) :
    Stands (.ofModel (Float.Model.pack u)) q := by
  obtain ⟨hu, hq⟩ := h
  rw [Stands, toRat?_of]
  change unpackedValue? (UnpackedFloat.unpack Format.binary64 (UnpackedFloat.pack _ u)) = _
  cases u with
  | infinity s => cases hq
  | notANumber => cases hq
  | zero s => exact (congrArg unpackedValue? (unpack_packedZero s)).trans hq
  | finite s m e hm => rw [unpack_pack_finite hu, hq]

end Packing

section Rounding

abbrev exactly (m : Nat) : ExtendedMantissa := ⟨m, false, false⟩

theorem targetExponent_eq (m : Nat) (e : Int) :
    Format.binary64.targetExponent (totalExponent m e) = max (m.log2 + e - 52) (-1074) := by
  have hbits : (Format.binary64.mantissaBits : Int) = 53 := rfl
  have hleast : Format.binary64.minExponent = -1074 := rfl
  rw [Format.targetExponent, hbits, hleast, totalExponent]
  omega

theorem mantissa_shiftRight (em : ExtendedMantissa) (k : Nat) :
    (em >>> k).mantissa = em.mantissa / 2 ^ k := by
  induction k with
  | zero => exact (Nat.div_one _).symm
  | succ k ih =>
    change (em >>> k).mantissa / 2 = _
    rw [ih, Nat.div_div_eq_div_mul, Nat.pow_succ]

theorem shiftRight_exact (a k : Nat) :
    exactly (a * 2 ^ k) >>> k = exactly a := by
  induction k generalizing a with
  | zero => rw [Nat.pow_zero, Nat.mul_one]; rfl
  | succ k ih =>
    change (exactly (a * 2 ^ (k + 1)) >>> k).shiftRightOne = _
    rw [Nat.pow_succ', ← Nat.mul_assoc, ih]
    simp [ExtendedMantissa.shiftRightOne]

theorem roundedMantissa_le (em : ExtendedMantissa) :
    em.mantissa ≤ em.roundedMantissa ∧ em.roundedMantissa ≤ em.mantissa + 1 := by
  obtain ⟨m, round, sticky⟩ := em
  cases round <;> cases sticky <;> simp [ExtendedMantissa.roundedMantissa,
    ExtendedMantissa.accuracy, Accuracy.roundToNearestEven]
  omega

variable {m : Nat} {e : Int}

theorem shiftToTarget_kept (hm : m.log2 = 52) (he : -1074 ≤ e) :
    shiftToTargetExponent Format.binary64 m e .exact = (exactly m, e) := by
  have hnone : (Format.binary64.targetExponent (totalExponent m e) - e).toNat = 0 := by
    rw [targetExponent_eq]
    omega
  simp only [shiftToTargetExponent, shiftToExponent, hnone]
  rw [Int.natCast_zero, add_zero]
  rfl

theorem log2_mul_two_pow (hm : m ≠ 0) (k : Nat) : (m * 2 ^ k).log2 = m.log2 + k := by
  have hlow := Nat.mul_le_mul_right (2 ^ k) (Nat.log2_self_le hm)
  have hhigh := Nat.mul_lt_mul_of_pos_right (Nat.lt_log2_self (n := m)) (Nat.two_pow_pos k)
  rw [← Nat.pow_add] at hlow hhigh
  rw [Nat.log2_eq_iff (Nat.mul_ne_zero hm (Nat.two_pow_pos k).ne')]
  exact ⟨hlow, by rwa [Nat.add_right_comm] at hhigh⟩

theorem log2_div_two_pow {k : Nat} (h : m.log2 = 52 + k) : (m / 2 ^ k).log2 = 52 := by
  have hm : m ≠ 0 := by
    rintro rfl
    simp at h
    omega
  have hlow := Nat.log2_self_le hm
  have hhigh := Nat.lt_log2_self (n := m)
  rw [h, Nat.pow_add] at hlow
  rw [h, Nat.add_right_comm, Nat.pow_add] at hhigh
  have hle : 2 ^ 52 ≤ m / 2 ^ k := (Nat.le_div_iff_mul_le (Nat.two_pow_pos k)).2 hlow
  rw [Nat.log2_eq_iff (by omega)]
  exact ⟨hle, (Nat.div_lt_iff_lt_mul (Nat.two_pow_pos k)).2 hhigh⟩

theorem mul_zpow_shift (a : Rat) (e : Int) (k : Nat) : a * 2 ^ k * 2 ^ (e - k) = a * 2 ^ e := by
  rw [zpow_sub₀ two_ne_zero, zpow_natCast]
  field_simp

theorem roundWithAccuracy_eq (s : Sign) {em : ExtendedMantissa} {e' e'' : Int} {m' : Nat}
    (hfirst : shiftToTargetExponent Format.binary64 m e .exact = (em, e'))
    (hsecond : shiftToTargetExponent Format.binary64 em.roundedMantissa e' .exact =
      (exactly m', e'')) (hpos : 0 < m') :
    roundWithAccuracy Format.binary64 s m e .exact = .finite s m' e'' hpos := by
  simp only [roundWithAccuracy, hfirst, hsecond]
  exact dif_neg hpos.ne'

/-- Digits beyond the 53rd go; what they were decides whether the last one that stays goes up. -/
theorem shiftToTarget_long {k : Nat} (hm : m.log2 = 52 + k) (he : -1074 ≤ e + k) :
    shiftToTargetExponent Format.binary64 m e .exact = (exactly m >>> k, e + k) := by
  have hshift : (Format.binary64.targetExponent (totalExponent m e) - e).toNat = k := by
    rw [targetExponent_eq]
    omega
  simp only [shiftToTargetExponent, shiftToExponent, hshift]
  rfl

theorem roundWithAccuracy_long (s : Sign) {k : Nat} (hm : m.log2 = 52 + k) (he : -1074 ≤ e + k) :
    ∃ (m' : Nat) (e' : Int) (hm' : 0 < m'),
      roundWithAccuracy Format.binary64 s m e .exact = .finite s m' e' hm' ∧ m'.log2 = 52 ∧
      e + k ≤ e' ∧ e' ≤ e + k + 1 ∧ (2 ^ k ∣ m → (m' : Rat) * 2 ^ e' = m * 2 ^ e) := by
  have hbetween := roundedMantissa_le (exactly m >>> k)
  have hfirst : (exactly m >>> k).mantissa = m / 2 ^ k := mantissa_shiftRight _ k
  have hlog := log2_div_two_pow hm
  have hbounds := (Nat.log2_eq_iff (by
    intro hzero
    rw [hzero] at hlog
    simp at hlog)).1 hlog
  have hexact : 2 ^ k ∣ m → (exactly m >>> k).roundedMantissa * 2 ^ k = m := by
    rintro ⟨a, rfl⟩
    rw [Nat.mul_comm (2 ^ k) a, shiftRight_exact]
    rfl
  have hround : ∀ (m' : Nat) (e' : Int) (hm' : 0 < m'),
      shiftToTargetExponent Format.binary64 (exactly m >>> k).roundedMantissa (e + k) .exact =
        (exactly m', e') →
      roundWithAccuracy Format.binary64 s m e .exact = .finite s m' e' hm' :=
    fun _ _ hm' h => roundWithAccuracy_eq s (shiftToTarget_long hm he) h hm'
  generalize (exactly m >>> k).roundedMantissa = r at *
  rw [hfirst] at hbetween
  by_cases hlt : r < 2 ^ 53
  · have hlog' : r.log2 = 52 := (Nat.log2_eq_iff (by omega)).2 ⟨by omega, hlt⟩
    refine ⟨r, e + k, by omega, hround _ _ _ (shiftToTarget_kept hlog' he), hlog', by omega,
      by omega, fun hdvd => ?_⟩
    rw [← hexact hdvd, Nat.cast_mul, Nat.cast_pow, Nat.cast_ofNat, zpow_add₀ two_ne_zero,
      zpow_natCast]
    ring
  · -- One digit more than there is room for, of which the last is zero.
    obtain rfl : r = 2 ^ 52 * 2 ^ 1 := by omega
    have hlog' : (2 ^ 52 * 2 ^ 1).log2 = 52 + 1 := by rw [← Nat.pow_add, Nat.log2_two_pow]
    have hsecond := shiftToTarget_long hlog' (show -1074 ≤ e + k + (1 : Nat) by omega)
    rw [shiftRight_exact] at hsecond
    refine ⟨2 ^ 52, e + k + 1, by decide, hround _ _ _ hsecond, Nat.log2_two_pow, by omega,
      by omega, fun hdvd => ?_⟩
    have hle := Nat.div_eq_of_eq_mul_left (Nat.two_pow_pos k) (hexact hdvd).symm
    omega

/-- Rounding to 53 digits: the number stays between the same powers of two or becomes the upper
one, and it stays the same if its digits beyond are all zero. -/
theorem round_normal (s : Sign) (hm : 0 < m) (he : -1022 ≤ m.log2 + e) :
    ∃ (m' : Nat) (e' : Int) (hm' : 0 < m'),
      UnpackedFloat.round Format.binary64 s m e = .finite s m' e' hm' ∧ m'.log2 = 52 ∧
      m.log2 + e - 52 ≤ e' ∧ e' ≤ m.log2 + e - 51 ∧
      (2 ^ (m.log2 - 52) ∣ m → (m' : Rat) * 2 ^ e' = m * 2 ^ e) := by
  have htarget : Format.binary64.targetExponent (totalExponent m e) = m.log2 + e - 52 := by
    rw [targetExponent_eq]
    omega
  simp only [UnpackedFloat.round, decreaseExponent, htarget, Nat.shiftLeft_eq]
  by_cases hlog : m.log2 ≤ 52
  · -- There is room for digits: the exponent goes down.
    have hshift : (e - (m.log2 + e - 52)).toNat = 52 - m.log2 := by omega
    have hlog' : (m * 2 ^ (52 - m.log2)).log2 = 52 := by
      rw [log2_mul_two_pow hm.ne']
      omega
    have hpos : 0 < m * 2 ^ (52 - m.log2) := Nat.mul_pos hm (Nat.two_pow_pos _)
    refine ⟨_, e - (52 - m.log2 : Nat), hpos, ?_, hlog', by omega, by omega, fun _ => ?_⟩
    · rw [hshift]
      exact roundWithAccuracy_eq s (shiftToTarget_kept hlog' (by omega))
        (shiftToTarget_kept hlog' (by omega)) hpos
    · rw [Nat.cast_mul, Nat.cast_pow, Nat.cast_ofNat, mul_zpow_shift]
  · have hshift : (e - (m.log2 + e - 52)).toNat = 0 := by omega
    obtain ⟨m', e', hm', hround, hlog', hlow, hhigh, hexact⟩ := roundWithAccuracy_long s
      (show m.log2 = 52 + (m.log2 - 52) by omega) (show -1074 ≤ e + (m.log2 - 52 : Nat) by omega)
    refine ⟨m', e', hm', ?_, hlog', by omega, by omega, hexact⟩
    rw [hshift, Nat.pow_zero, Nat.mul_one, Int.natCast_zero, sub_zero, hround]

theorem zpow_log2_le (hm : 0 < m) (e : Int) : (2 : Rat) ^ (m.log2 + e) ≤ m * 2 ^ e := by
  rw [zpow_add₀ two_ne_zero, zpow_natCast]
  refine mul_le_mul_of_nonneg_right ?_ (two_zpow_pos e).le
  exact_mod_cast Nat.log2_self_le hm.ne'

theorem lt_zpow_log2 (m : Nat) (e : Int) : (m : Rat) * 2 ^ e < 2 ^ (m.log2 + 1 + e) := by
  rw [zpow_add₀ two_ne_zero]
  refine mul_lt_mul_of_pos_right ?_ (two_zpow_pos e)
  exact_mod_cast Nat.lt_log2_self (n := m)

theorem log2_add_bounds (hm : 0 < m) {a : Nat} (hlow : (1 : Rat) ≤ m * 2 ^ e)
    (hhigh : (m : Rat) * 2 ^ e < 2 ^ a) : 0 ≤ m.log2 + e ∧ m.log2 + e < a := by
  constructor
  · by_contra hneg
    have hle : (2 : Rat) ^ (m.log2 + 1 + e) ≤ 2 ^ (0 : Int) :=
      zpow_le_zpow_right₀ one_le_two (by omega)
    have hlt := lt_zpow_log2 m e
    rw [zpow_zero] at hle
    linarith
  · have hlt := (zpow_log2_le hm e).trans_lt hhigh
    rw [← zpow_natCast] at hlt
    exact (zpow_lt_zpow_iff_right₀ one_lt_two).1 hlt

theorem two_pow_dvd_of_le {n : Nat} (hn : n ≤ 2 ^ 53) : 2 ^ (n.log2 - 52) ∣ n := by
  obtain rfl | hlt := Nat.eq_or_lt_of_le hn
  · rw [Nat.log2_two_pow]
    exact Nat.pow_dvd_pow 2 (by decide)
  · have hlog : n.log2 ≤ 52 := by
      by_cases hzero : n = 0
      · simp [hzero]
      · exact Nat.le_of_lt_succ ((Nat.log2_lt hzero).2 hlt)
    rw [Nat.sub_eq_zero_of_le hlog, Nat.pow_zero]
    exact Nat.one_dvd n

theorem two_pow_dvd_of_whole {n : Nat} (hm : 0 < m) (h : (m : Rat) * 2 ^ e = n)
    (hn : n ≤ 2 ^ 53) : 2 ^ (m.log2 - 52) ∣ m := by
  by_cases he : e ≤ 0
  · obtain ⟨k, rfl⟩ : ∃ k : Nat, e = -k := ⟨(-e).toNat, by omega⟩
    have hdigits : m = n * 2 ^ k := by
      rw [zpow_neg, zpow_natCast, ← div_eq_mul_inv, div_eq_iff (by positivity)] at h
      exact_mod_cast h
    have hpos : n ≠ 0 := by
      rintro rfl
      rw [Nat.zero_mul] at hdigits
      omega
    have hlog : m.log2 - 52 ≤ n.log2 - 52 + k := by
      rw [hdigits, log2_mul_two_pow hpos]
      omega
    calc 2 ^ (m.log2 - 52) ∣ 2 ^ (n.log2 - 52 + k) := Nat.pow_dvd_pow 2 hlog
      _ = 2 ^ (n.log2 - 52) * 2 ^ k := Nat.pow_add ..
      _ ∣ n * 2 ^ k := Nat.mul_dvd_mul_right (two_pow_dvd_of_le hn) _
      _ = m := hdigits.symm
  · have hle : (m : Rat) ≤ n := by
      rw [← h]
      exact le_mul_of_one_le_right (Nat.cast_nonneg m) (one_le_zpow₀ one_le_two (by omega))
    exact two_pow_dvd_of_le ((Nat.cast_le.1 hle).trans hn)

theorem cast_apply (s : Sign) (n : Nat) : ((s.apply n : Int) : Rat) = (s.apply 1 : Int) * n := by
  cases s <;> simp [Sign.apply]

theorem holds_round (s : Sign) (hm : 0 < m) (hlow : (1 : Rat) ≤ m * 2 ^ e)
    (hhigh : (m : Rat) * 2 ^ e < 2 ^ 54) :
    ∃ v : Rat, 1 ≤ v ∧ Holds (UnpackedFloat.round Format.binary64 s m e) ((s.apply 1 : Int) * v) ∧
      (2 ^ (m.log2 - 52) ∣ m → v = m * 2 ^ e) := by
  obtain ⟨hleast, hmost⟩ := log2_add_bounds hm hlow hhigh
  obtain ⟨m', e', hm', hround, hlog, hlow', hhigh', hexact⟩ :=
    round_normal s hm (show -1022 ≤ m.log2 + e by omega)
  obtain ⟨hdigits, hdigits'⟩ := (Nat.log2_eq_iff hm'.ne').1 hlog
  refine ⟨m' * 2 ^ e', ?_, ⟨?_, ?_⟩, hexact⟩
  · calc (1 : Rat) = 2 ^ (0 : Int) := (zpow_zero 2).symm
      _ ≤ 2 ^ (m'.log2 + e') := zpow_le_zpow_right₀ one_le_two (by omega)
      _ ≤ m' * 2 ^ e' := zpow_log2_le hm' e'
  · rw [hround]
    exact ⟨hdigits', by omega, by omega, .inl hdigits⟩
  · rw [hround, unpackedValue?, cast_apply, mul_assoc]

end Rounding

section Normalizing

variable {m e : Int} {q : Rat}

theorem normalize_of_ne (hm : m ≠ 0) (e : Int) :
    UnpackedFloat.normalize Format.binary64 m e .positive =
      UnpackedFloat.round Format.binary64 (if m < 0 then .negative else .positive) m.natAbs e := by
  rw [UnpackedFloat.normalize]
  obtain h | h | h := lt_trichotomy m 0
  · have habs : (-m).toNat = m.natAbs := by omega
    rw [compare_lt_iff_lt.2 h, if_pos h, ← habs]
  · exact absurd h hm
  · have habs : m.toNat = m.natAbs := by omega
    rw [compare_gt_iff_gt.2 h, if_neg (by omega), ← habs]

theorem apply_natAbs (m : Int) :
    (((if m < 0 then Sign.negative else .positive).apply 1 : Int) : Rat) * m.natAbs = m := by
  rw [← cast_apply]
  congr 1
  split
  · change -(m.natAbs : Int) = m
    omega
  · change (m.natAbs : Int) = m
    omega

theorem natAbs_mul_zpow (m e : Int) : (m.natAbs : Rat) * 2 ^ e = |(m : Rat) * 2 ^ e| := by
  rw [abs_mul, abs_of_pos (two_zpow_pos e), Nat.cast_natAbs, Int.cast_abs]

theorem holds_normalize (h : (m : Rat) * 2 ^ e = q) (hlow : 1 ≤ |q|) (hhigh : |q| < 2 ^ 54) :
    ∃ v : Rat, 1 ≤ v ∧ Holds (UnpackedFloat.normalize Format.binary64 m e .positive)
      (((if m < 0 then Sign.negative else .positive).apply 1 : Int) * v) ∧
      (2 ^ (m.natAbs.log2 - 52) ∣ m.natAbs → v = m.natAbs * 2 ^ e) := by
  have hne : m ≠ 0 := by
    rintro rfl
    rw [Int.cast_zero, zero_mul] at h
    rw [← h, abs_zero] at hlow
    exact absurd hlow (by norm_num)
  rw [normalize_of_ne hne]
  exact holds_round _ (Int.natAbs_pos.2 hne) (by rwa [natAbs_mul_zpow, h])
    (by rwa [natAbs_mul_zpow, h])

theorem holds_normalize_whole {n : Int} (h : (m : Rat) * 2 ^ e = n) (hn : n.natAbs ≤ 2 ^ 53) :
    Holds (UnpackedFloat.normalize Format.binary64 m e .positive) n := by
  by_cases hzero : n = 0
  · subst hzero
    have hm : m = 0 := by
      rw [Int.cast_zero] at h
      exact_mod_cast (mul_eq_zero.1 h).resolve_right (two_zpow_pos e).ne'
    subst hm
    exact ⟨trivial, congrArg some Int.cast_zero.symm⟩
  · have habs : |(n : Rat)| = n.natAbs := by rw [Nat.cast_natAbs, Int.cast_abs]
    have hlow : (1 : Nat) ≤ n.natAbs := Int.natAbs_pos.2 hzero
    obtain ⟨v, -, hholds, hexact⟩ := holds_normalize h (by rw [habs]; exact_mod_cast hlow)
      (by rw [habs]; exact_mod_cast lt_of_le_of_lt hn (by decide))
    have hm : m ≠ 0 := by
      rintro rfl
      rw [Int.cast_zero, zero_mul] at h
      exact hzero (Int.cast_eq_zero.1 h.symm)
    have hwhole : (m.natAbs : Rat) * 2 ^ e = n.natAbs := by rw [natAbs_mul_zpow, h, habs]
    rw [hexact (two_pow_dvd_of_whole (Int.natAbs_pos.2 hm) hwhole hn), ← mul_assoc, apply_natAbs,
      h] at hholds
    exact hholds

theorem holds_normalize_of_one_le (h : (m : Rat) * 2 ^ e = q) (hlow : 1 ≤ q) (hhigh : q < 2 ^ 54) :
    ∃ v : Rat, 1 ≤ v ∧ Holds (UnpackedFloat.normalize Format.binary64 m e .positive) v := by
  have hpos : 0 < q := zero_lt_one.trans_le hlow
  have hm : ¬ m < 0 := by
    intro hneg
    have hle : (m : Rat) * 2 ^ e ≤ 0 :=
      mul_nonpos_of_nonpos_of_nonneg (by exact_mod_cast hneg.le) (two_zpow_pos e).le
    linarith
  obtain ⟨v, hv, hholds, -⟩ :=
    holds_normalize h (by rwa [abs_of_pos hpos]) (by rwa [abs_of_pos hpos])
  rw [if_neg hm] at hholds
  change Holds _ (((1 : Int) : Rat) * v) at hholds
  rw [Int.cast_one, one_mul] at hholds
  exact ⟨v, hv, hholds⟩

end Normalizing

section Sums

variable {u v : UnpackedFloat} {q r : Rat}

theorem apply_neg (s : Sign) (n : Int) : (-s).apply n = -s.apply n := by
  cases s
  · exact (Int.neg_neg n).symm
  · rfl

theorem Holds.neg (h : Holds u q) : Holds u.neg (-q) := by
  obtain ⟨hu, hq⟩ := h
  refine ⟨by cases u <;> exact hu, ?_⟩
  cases u with
  | infinity s => cases hq
  | notANumber => cases hq
  | zero s =>
    obtain rfl := Option.some.inj hq
    rw [neg_zero]
    rfl
  | finite s m e hm =>
    obtain rfl := Option.some.inj hq
    rw [UnpackedFloat.neg, unpackedValue?, apply_neg, Int.cast_neg, neg_mul]

theorem Holds.abs (h : Holds u q) : Holds u.abs |q| := by
  obtain ⟨hu, hq⟩ := h
  refine ⟨by cases u <;> exact hu, ?_⟩
  cases u with
  | infinity s => cases hq
  | notANumber => cases hq
  | zero s =>
    obtain rfl := Option.some.inj hq
    rw [abs_zero]
    rfl
  | finite s m e hm =>
    obtain rfl := Option.some.inj hq
    rw [UnpackedFloat.abs, unpackedValue?, abs_mul, abs_of_pos (two_zpow_pos e)]
    cases s <;> simp [Sign.apply]

theorem unpacked_sub_eq (u v : UnpackedFloat) :
    UnpackedFloat.sub Format.binary64 u v = UnpackedFloat.add Format.binary64 u v.neg := by
  cases u <;> cases v <;> try rfl
  simp only [UnpackedFloat.sub, UnpackedFloat.neg, UnpackedFloat.add, apply_neg, Int.sub_eq_add_neg]

theorem apply_shiftLeft (s : Sign) (m : Nat) {e f : Int} (h : f ≤ e) :
    ((s.apply (m <<< (e - f).toNat : Nat) : Int) : Rat) * 2 ^ f = (s.apply m : Int) * 2 ^ e := by
  have hdown : e = f + (e - f).toNat := by omega
  rw [Nat.shiftLeft_eq, cast_apply, cast_apply s m]
  conv_rhs => rw [hdown, zpow_add₀ two_ne_zero, zpow_natCast]
  push_cast
  ring

/-- A sum is one of its terms if the other is zero, and else it is rounded from the exact one. -/
theorem Holds.add_cases (hu : Holds u q) (hv : Holds v r) :
    Holds (UnpackedFloat.add Format.binary64 u v) (q + r) ∨
    ∃ m e : Int, (m : Rat) * 2 ^ e = q + r ∧
      UnpackedFloat.add Format.binary64 u v =
        UnpackedFloat.normalize Format.binary64 m e .positive := by
  have hq := hu.value
  have hr := hv.value
  cases u with
  | infinity s => cases hq
  | notANumber => cases hq
  | zero s =>
    obtain rfl := Option.some.inj hq
    rw [zero_add]
    cases v with
    | infinity t => cases hr
    | notANumber => cases hr
    | zero t =>
      obtain rfl := Option.some.inj hr
      cases s <;> cases t <;> exact .inl ⟨trivial, rfl⟩
    | finite t n f hn => exact .inl hv
  | finite s m e hm =>
    cases v with
    | infinity t => cases hr
    | notANumber => cases hr
    | zero t =>
      obtain rfl := Option.some.inj hr
      rw [add_zero]
      exact .inl hu
    | finite t n f hn =>
      obtain rfl := Option.some.inj hq
      obtain rfl := Option.some.inj hr
      refine .inr ⟨_, min e f, ?_, rfl⟩
      rw [Int.cast_add, add_mul, apply_shiftLeft s m (min_le_left e f),
        apply_shiftLeft t n (min_le_right e f)]

theorem Holds.add_whole (hu : Holds u q) (hv : Holds v r) {n : Int} (hn : q + r = n)
    (h : n.natAbs ≤ 2 ^ 53) : Holds (UnpackedFloat.add Format.binary64 u v) n := by
  obtain hadd | ⟨m, e, hvalue, hadd⟩ := hu.add_cases hv
  · rwa [hn] at hadd
  · rw [hadd]
    exact holds_normalize_whole (hvalue.trans hn) h

theorem Holds.add_of_one_le (hu : Holds u q) (hv : Holds v r) (hlow : 1 ≤ q + r)
    (hhigh : q + r < 2 ^ 54) :
    ∃ w : Rat, 1 ≤ w ∧ Holds (UnpackedFloat.add Format.binary64 u v) w := by
  obtain hadd | ⟨m, e, hvalue, hadd⟩ := hu.add_cases hv
  · exact ⟨q + r, hlow, hadd⟩
  · rw [hadd]
    exact holds_normalize_of_one_le hvalue hlow hhigh

variable {x y : Float}

/-- A sum that is a whole number up to two to the 53rd is exact. -/
theorem stands_add (hx : Stands x q) (hy : Stands y r) {n : Int} (hn : q + r = n)
    (h : n.natAbs ≤ 2 ^ 53) : Stands (x + y) n :=
  ((stands_iff.1 hx).add_whole (stands_iff.1 hy) hn h).pack

theorem sub_eq_pack (x y : Float) : x - y = .ofModel (Float.Model.pack
    (UnpackedFloat.add Format.binary64 x.toModel.unpack y.toModel.unpack.neg)) := by
  rw [← unpacked_sub_eq]
  rfl

theorem stands_sub (hx : Stands x q) (hy : Stands y r) {n : Int} (hn : q - r = n)
    (h : n.natAbs ≤ 2 ^ 53) : Stands (x - y) n := by
  rw [sub_eq_pack]
  exact ((stands_iff.1 hx).add_whole (stands_iff.1 hy).neg (by rw [← hn, sub_eq_add_neg]) h).pack

theorem stands_abs (hx : Stands x q) : Stands x.abs |q| := (stands_iff.1 hx).abs.pack

/-- A difference of at least one stays at least one. -/
theorem one_le_sub (hx : Stands x q) (hy : Stands y r) (hlow : 1 ≤ q - r) (hhigh : q - r < 2 ^ 54) :
    ∃ w : Rat, 1 ≤ w ∧ Stands (x - y) w := by
  rw [sub_eq_add_neg] at hlow hhigh
  obtain ⟨w, hw, hholds⟩ := (stands_iff.1 hx).add_of_one_le (stands_iff.1 hy).neg hlow hhigh
  rw [sub_eq_pack]
  exact ⟨w, hw, hholds.pack⟩

end Sums

end GraphBoard.Number
