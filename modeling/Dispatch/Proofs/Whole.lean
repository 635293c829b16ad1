import Dispatch.Proofs.Binary64

/-! Whole numbers below `2 ^ 53` are binary numbers, and dividing one by one gives it back. -/

namespace Dispatch

open Float.Model Float.Model.UnpackedFloat

namespace Binary64

structure Denotes (x : Binary64) (n : ℕ) : Prop where
  isFinite : x.isFinite = true
  isNegative : x.isNegative = false
  value : x.significand * 2 ^ x.exponent = n * 2 ^ 1074

section round

variable {s : Sign} {n m : ℕ} {e i : ℤ}

lemma targetExponent_eq (t : ℤ) : Format.binary64.targetExponent t = (t - 53) ⊔ -1074 := rfl

lemma shiftToTargetExponent_exact (hm : m.log2 = 52) (he : -1074 ≤ e) :
    shiftToTargetExponent .binary64 m e .exact = (⟨m, false, false⟩, e) := by
  have hs : (Format.binary64.targetExponent (totalExponent m e) - e).toNat = 0 := by
    rw [targetExponent_eq, totalExponent, hm]
    omega
  rw [shiftToTargetExponent, shiftToExponent, hs]
  simp [ExtendedMantissa.ofMantissaAndAccuracy, HShiftRight.hShiftRight, Nat.repeat]

lemma shiftToTargetExponent_two_mul (hm : m.log2 = 52) (he : -1074 ≤ e) :
    shiftToTargetExponent .binary64 (2 * m) (e - 1) .exact = (⟨m, false, false⟩, e) := by
  have hl : (2 * m).log2 = 53 := by
    rw [Nat.log2_two_mul (by rintro rfl; simp at hm), hm]
  have hs : (Format.binary64.targetExponent (totalExponent (2 * m) (e - 1)) - (e - 1)).toNat = 1 := by
    rw [targetExponent_eq, totalExponent, hl]
    omega
  rw [shiftToTargetExponent, shiftToExponent, hs]
  simp [ExtendedMantissa.ofMantissaAndAccuracy, ExtendedMantissa.shiftRightOne,
    HShiftRight.hShiftRight, Nat.repeat]

lemma roundWithAccuracy_of_shift (hm : m.log2 = 52) (he : -1074 ≤ e) (hp : 0 < m)
    (h : shiftToTargetExponent .binary64 n i .exact = (⟨m, false, false⟩, e)) :
    roundWithAccuracy .binary64 s n i .exact = .finite s m e hp := by
  have hr : (⟨m, false, false⟩ : ExtendedMantissa).roundedMantissa = m := rfl
  rw [roundWithAccuracy]
  simp only [h, hr, shiftToTargetExponent_exact hm he, hp.ne', dite_false]

def scaled (n : ℕ) : ℕ := n * 2 ^ (52 - n.log2)

lemma scaled_pos (hn : n ≠ 0) : 0 < scaled n := Nat.mul_pos (Nat.pos_of_ne_zero hn) (Nat.two_pow_pos _)

lemma le_scaled (hn : n ≠ 0) (hb : n < 2 ^ 53) : 2 ^ 52 ≤ scaled n := by
  have hl : n.log2 < 53 := (Nat.log2_lt hn).mpr hb
  calc 2 ^ 52 = 2 ^ n.log2 * 2 ^ (52 - n.log2) := by rw [← pow_add]; congr 1; omega
    _ ≤ n * 2 ^ (52 - n.log2) := Nat.mul_le_mul_right _ (Nat.log2_self_le hn)

lemma scaled_lt (hn : n ≠ 0) (hb : n < 2 ^ 53) : scaled n < 2 ^ 53 := by
  have hl : n.log2 < 53 := (Nat.log2_lt hn).mpr hb
  calc n * 2 ^ (52 - n.log2) < 2 ^ (n.log2 + 1) * 2 ^ (52 - n.log2) :=
        Nat.mul_lt_mul_of_pos_right Nat.lt_log2_self (Nat.two_pow_pos _)
    _ = 2 ^ 53 := by rw [← pow_add]; congr 1; omega

lemma log2_scaled (hn : n ≠ 0) (hb : n < 2 ^ 53) : (scaled n).log2 = 52 :=
  (Nat.log2_eq_iff (scaled_pos hn).ne').mpr ⟨le_scaled hn hb, scaled_lt hn hb⟩

lemma ofNat_eq (hn : n ≠ 0) (hb : n < 2 ^ 53) :
    UnpackedFloat.ofNat .binary64 n = .finite .positive (scaled n) (n.log2 - 52) (scaled_pos hn) := by
  have hl : n.log2 < 53 := (Nat.log2_lt hn).mpr hb
  have hc : compare (n : ℤ) 0 = .gt := Int.compare_eq_gt.mpr (by omega)
  have ht : Format.binary64.targetExponent (totalExponent n 0) = (n.log2 : ℤ) - 52 := by
    rw [targetExponent_eq, totalExponent]
    omega
  have hs : (0 - ((n.log2 : ℤ) - 52)).toNat = 52 - n.log2 := by omega
  have he : (0 : ℤ) - (52 - n.log2 : ℕ) = n.log2 - 52 := by omega
  have hm := log2_scaled hn hb
  rw [UnpackedFloat.ofNat, UnpackedFloat.ofInt, UnpackedFloat.normalize, hc]
  dsimp only
  rw [Int.toNat_natCast, UnpackedFloat.round, ht, decreaseExponent, hs, he, Nat.shiftLeft_eq]
  exact roundWithAccuracy_of_shift hm (by omega) _ (shiftToTargetExponent_exact hm (by omega))

lemma ofNat_one : UnpackedFloat.ofNat .binary64 1 = .finite .positive (2 ^ 52) (-52) (by decide) :=
  ofNat_eq (n := 1) (by decide) (by decide)

lemma divCore_one (hm : m.log2 = 52) (he : -1073 ≤ e) :
    divCore .binary64 m e (2 ^ 52) (-52) = (2 * m, e - 1, .exact) := by
  have ht : Format.binary64.targetExponent (totalExponent m e - totalExponent (2 ^ 52) (-52)) = e - 1 := by
    rw [targetExponent_eq, totalExponent, totalExponent, hm, Nat.log2_two_pow]
    omega
  have hs : (e - -52 - (e - 1)).toNat = 1 + 52 := by omega
  rw [divCore, ht, show (e - -52) ⊓ (e - 1) = e - 1 by omega, hs, Nat.shiftLeft_eq, Nat.pow_add,
    ← Nat.mul_assoc, Nat.mul_div_cancel _ (by decide), Nat.mul_mod_left, Nat.mul_comm]
  rfl

lemma div_ofNat_one (hb : n < 2 ^ 53) :
    UnpackedFloat.div .binary64 (UnpackedFloat.ofNat .binary64 n) (UnpackedFloat.ofNat .binary64 1) =
      UnpackedFloat.ofNat .binary64 n := by
  by_cases hn : n = 0
  · subst hn
    rw [ofNat_one]
    rfl
  · have hm := log2_scaled hn hb
    rw [ofNat_one, ofNat_eq hn hb, UnpackedFloat.div, divCore_one hm (by omega)]
    exact roundWithAccuracy_of_shift hm (by omega) _ (shiftToTargetExponent_two_mul hm (by omega))

end round

section normal

variable {x : Binary64} {e m : ℕ} {s : Sign} {u : UnpackedFloat}

structure Normal (e m : ℕ) (x : Binary64) : Prop where
  exponent_pos : 0 < e
  exponent_lt : e < 2047
  fraction_lt : m < 2 ^ 52
  bits : x.bits.toNat = e * 2 ^ 52 + m

lemma Reads.eq_finite (h : Reads s e m u) (he : 0 < e) (he' : e < 2047) :
    u = .finite s (2 ^ 52 + m) (e - 1075) (by omega) := by
  cases h with
  | infinity => omega
  | zero => omega
  | subnormal => omega
  | normal _ _ _ hn hi =>
    subst hn hi
    rfl

lemma Normal.magnitude (h : Normal e m x) : x.magnitude.toNat = e * 2 ^ 52 + m := by
  obtain ⟨_, _, _, _⟩ := h
  rw [toNat_magnitude]
  omega

lemma Normal.isNegative (h : Normal e m x) : x.isNegative = false := by
  obtain ⟨_, _, _, _⟩ := h
  rw [isNegative_eq_false_iff]
  omega

lemma Normal.isNaN (h : Normal e m x) : x.isNaN = false := by
  obtain ⟨_, _, _, _⟩ := h
  rw [isNaN_eq_false_iff]
  omega

lemma Normal.unpack (h : Normal e m x) : UnpackedFloat.unpack .binary64 x.bits.toBitVec =
    .finite .positive (2 ^ 52 + m) (e - 1075) (by omega) := by
  have hr := reads_unpack (isNaN_eq_false_iff.mp h.isNaN)
  rw [sign_eq, h.isNegative, if_neg Bool.false_ne_true] at hr
  obtain ⟨hp, hl, hm, hb⟩ := h
  have he : x.bits.toBitVec.toNat / 2 ^ 52 % 2 ^ 11 = e := by rw [UInt64.toNat_toBitVec]; omega
  have hf : x.bits.toBitVec.toNat % 2 ^ 52 = m := by rw [UInt64.toNat_toBitVec]; omega
  rw [he, hf] at hr
  exact hr.eq_finite hp hl

lemma Normal.field (h : Normal e m x) : x.field = e := by
  have hm := h.magnitude
  obtain ⟨_, _, _, _⟩ := h
  rw [Binary64.field, UInt64.toNat_shiftRight, hm]
  change (e * 2 ^ 52 + m) >>> 52 = e
  rw [Nat.shiftRight_eq_div_pow]
  omega

lemma Normal.significand (h : Normal e m x) : x.significand = 2 ^ 52 + m := by
  have hf : (x.bits &&& 0xfffffffffffff).toNat = m := by
    obtain ⟨_, _, _, hb⟩ := h
    rw [UInt64.toNat_and, hb]
    exact (Nat.and_two_pow_sub_one_eq_mod _ 52).trans (by omega)
  rw [Binary64.significand, h.field, if_neg h.exponent_pos.ne', hf, Nat.add_comm]
  rfl

lemma Normal.denotes (h : Normal e m x) {n : ℕ} (hn : (2 ^ 52 + m) * 2 ^ (e - 1) = n * 2 ^ 1074) :
    x.Denotes n where
  isFinite := by
    have hm := h.magnitude
    obtain ⟨_, _, _, _⟩ := h
    rw [Binary64.isFinite, decide_eq_true_eq, UInt64.lt_iff_toNat_lt, hm]
    change _ < 2047 * 2 ^ 52
    omega
  isNegative := h.isNegative
  value := by rw [h.significand, exponent, h.field, hn]

end normal

section whole

variable {n : UInt64} {x y : Binary64}

lemma bits_ofUInt64 (n : UInt64) : (ofUInt64 n).bits.toBitVec =
    UnpackedFloat.pack .binary64 (UnpackedFloat.ofNat .binary64 n.toNat) := rfl

lemma normal_ofUInt64 (hn : n.toNat ≠ 0) (hb : n.toNat < 2 ^ 53) :
    Normal (n.toNat.log2 + 1023) (scaled n.toNat - 2 ^ 52) (ofUInt64 n) := by
  have hl : n.toNat.log2 < 53 := (Nat.log2_lt hn).mpr hb
  have hlo := le_scaled hn hb
  have hhi := scaled_lt hn hb
  have hr : Reads .positive (n.toNat.log2 + 1023) (scaled n.toNat - 2 ^ 52)
      (UnpackedFloat.ofNat .binary64 n.toNat) := by
    rw [ofNat_eq hn hb]
    exact .normal _ (by omega) (by omega) (by omega) (by omega)
  have hp := (bits_ofUInt64 n).trans (hr.pack (by omega))
  refine ⟨by omega, by omega, by omega, ?_⟩
  rw [← UInt64.toNat_toBitVec, hp, toNat_packComponents (by omega) (by omega)]
  simp [Sign.toBitVec]

lemma unpack_ofUInt64 (hb : n.toNat < 2 ^ 53) : UnpackedFloat.unpack .binary64 (ofUInt64 n).bits.toBitVec =
    UnpackedFloat.ofNat .binary64 n.toNat := by
  by_cases hn : n.toNat = 0
  · obtain rfl : n = 0 := UInt64.toNat_inj.mp hn
    rfl
  · have hlo := le_scaled hn hb
    rw [(normal_ofUInt64 hn hb).unpack, ofNat_eq hn hb, UnpackedFloat.finite.injEq]
    exact ⟨rfl, by omega, by omega⟩

lemma isNaN_ofUInt64 (hb : n.toNat < 2 ^ 53) : (ofUInt64 n).isNaN = false := by
  by_cases hn : n.toNat = 0
  · obtain rfl : n = 0 := UInt64.toNat_inj.mp hn
    rfl
  · exact (normal_ofUInt64 hn hb).isNaN

lemma denotes_ofUInt64 (hb : n.toNat < 2 ^ 53) : (ofUInt64 n).Denotes n.toNat := by
  by_cases hn : n.toNat = 0
  · obtain rfl : n = 0 := UInt64.toNat_inj.mp hn
    have hs : (ofUInt64 0).significand = 0 := rfl
    exact ⟨rfl, rfl, by rw [hs, UInt64.toNat_zero, Nat.zero_mul, Nat.zero_mul]⟩
  · have hl : n.toNat.log2 < 53 := (Nat.log2_lt hn).mpr hb
    apply (normal_ofUInt64 hn hb).denotes
    rw [Nat.add_sub_cancel' (le_scaled hn hb), scaled, Nat.mul_assoc, ← pow_add,
      show 52 - n.toNat.log2 + (n.toNat.log2 + 1023 - 1) = 1074 by omega]

lemma bits_div (hx : x.isNaN = false) (hy : y.isNaN = false) :
    (ofFloat (x.toFloat / y.toFloat)).bits.toBitVec = UnpackedFloat.pack .binary64
      (UnpackedFloat.div .binary64 (UnpackedFloat.unpack .binary64 x.bits.toBitVec)
        (UnpackedFloat.unpack .binary64 y.bits.toBitVec)) := by
  rw [← unpack_toFloat hx, ← unpack_toFloat hy]
  rfl

lemma quotient_one (hb : n.toNat < 2 ^ 53) : (Time.quotient n 1 : Binary64) = ofUInt64 n := by
  have hn := isNaN_ofUInt64 hb
  have h1 : (ofUInt64 1).isNaN = false := isNaN_ofUInt64 (by decide)
  have hd : ofFloat ((ofUInt64 n).toFloat / (ofUInt64 1).toFloat) = ofUInt64 n := by
    rw [Binary64.mk.injEq, ← UInt64.toBitVec_inj, bits_div hn h1, unpack_ofUInt64 hb,
      unpack_ofUInt64 (by decide), bits_ofUInt64]
    exact congrArg _ (div_ofNat_one hb)
  change lift _ _ _ = _
  rw [lift, hn, if_neg Bool.false_ne_true, h1, if_neg Bool.false_ne_true]
  dsimp only
  rw [hd, hn, if_neg Bool.false_ne_true]

end whole

end Binary64

end Dispatch
