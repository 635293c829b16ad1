import Dispatch.Proofs.Whole

/-! Rounding crosses no number: what is added to a number without a sign does not lead below it, and a quotient of
whole numbers has no sign. -/

namespace Dispatch

open Float.Model Float.Model.UnpackedFloat

namespace Binary64

/-- The bits of `m * 2 ^ t`, where the significand may have been rounded up to a power of two; numbers that are too
large are infinite. -/
def encoded (t : ℤ) (m : ℕ) : ℕ := ((t + 1074).toNat * 2 ^ 52 + m) ⊓ (2047 * 2 ^ 52)

structure Fits (t : ℤ) (m : ℕ) : Prop where
  exponent : -1074 ≤ t
  lt : m < 2 ^ 53
  leading : 2 ^ 52 ≤ m ∨ t = -1074

section encoding

variable {s : Sign} {e m n q r : ℕ} {t i : ℤ} {u : UnpackedFloat}

lemma toNat_pack_infinity : (UnpackedFloat.pack .binary64 (.infinity .positive)).toNat = 2047 * 2 ^ 52 := rfl

lemma Fits.reads (h : Fits t m) (ht : t < 972) (hm : 0 < m) :
    ∃ e f, f < 2 ^ 52 ∧ e * 2 ^ 52 + f = encoded t m ∧ e < 2 ^ 11 ∧
      Reads .positive e f (.finite .positive m t hm) := by
  obtain ⟨he, hl, hb⟩ := h
  by_cases hn : 2 ^ 52 ≤ m
  · refine ⟨(t + 1075).toNat, m - 2 ^ 52, by omega, ?_, by omega, ?_⟩
    · rw [encoded]
      omega
    · exact .normal _ (by omega) (by omega) (by omega) (by omega)
  · obtain rfl := hb.resolve_left hn
    refine ⟨0, m, by omega, ?_, by omega, ?_⟩
    · rw [encoded]
      omega
    · exact .subnormal _ rfl rfl

lemma pack_of_large (hm : 0 < m) (ht : 972 ≤ t) :
    UnpackedFloat.pack .binary64 (.finite .positive m t hm) =
      UnpackedFloat.pack .binary64 (.infinity .positive) := by
  have hb : 2 ^ Format.binary64.exponentBits ≤
      (t + (Format.binary64.exponentBias : ℤ) + (Format.binary64.mantissaBitsWithoutImplicit : ℤ)).toNat + 1 := by
    rw [show (Format.binary64.exponentBias : ℤ) = 1023 from rfl]
    change 2048 ≤ (t + 1023 + 52).toNat + 1
    omega
  rw [UnpackedFloat.pack, UnpackedFloat.pack]
  dsimp only
  rw [if_pos hb]

lemma Fits.toNat_pack (h : Fits t m) (hm : 0 < m) :
    (UnpackedFloat.pack .binary64 (.finite .positive m t hm)).toNat = encoded t m := by
  by_cases ht : t < 972
  · obtain ⟨e, f, hf, he, hl, hr⟩ := h.reads ht hm
    rw [hr.pack hf, toNat_packComponents hl hf, ← he]
    simp [Sign.toBitVec]
  · obtain ⟨_, _, hb⟩ := h
    rw [pack_of_large hm (Int.not_lt.mp ht), toNat_pack_infinity, encoded]
    omega

lemma Fits.le_encoded (h : Fits i n) (hi : i ≤ t) (hr : i < t → 2 ^ 52 ≤ r) (hn : i = t → n ≤ r) :
    encoded i n ≤ encoded t r := by
  obtain ⟨he, hl, _⟩ := h
  rw [encoded, encoded]
  rcases hi.lt_or_eq with hlt | heq
  · have hlead := hr hlt
    omega
  · have hle := hn heq
    subst heq
    omega

end encoding

section shift

variable {s : Sign} {e t : ℤ} {m r : ℕ} {em : ExtendedMantissa}

lemma mantissa_shiftRight (em : ExtendedMantissa) (k : ℕ) : (em >>> k).mantissa = em.mantissa / 2 ^ k := by
  induction k with
  | zero => exact (Nat.div_one _).symm
  | succ k ih =>
    change (em >>> k).mantissa / 2 = _
    rw [ih, Nat.div_div_eq_div_mul, pow_succ]

lemma le_roundedMantissa (em : ExtendedMantissa) :
    em.mantissa ≤ em.roundedMantissa ∧ em.roundedMantissa ≤ em.mantissa + 1 := by
  obtain ⟨m, round, sticky⟩ := em
  cases round <;> cases sticky <;>
    simp [ExtendedMantissa.roundedMantissa, ExtendedMantissa.accuracy, Accuracy.roundToNearestEven]
  omega

lemma Fits.shiftToTargetExponent (h : Fits t m) :
    shiftToTargetExponent .binary64 m t .exact = (⟨m, false, false⟩, t) := by
  have hs : (Format.binary64.targetExponent (totalExponent m t) - t).toNat = 0 := by
    have hl : m.log2 < 53 := by
      by_cases hm : m = 0
      · subst hm
        decide
      · exact (Nat.log2_lt hm).mpr h.lt
    have he := h.exponent
    rw [targetExponent_eq, totalExponent]
    omega
  rw [UnpackedFloat.shiftToTargetExponent, shiftToExponent, hs]
  simp [ExtendedMantissa.ofMantissaAndAccuracy, HShiftRight.hShiftRight, Nat.repeat]

lemma fits_shifted (hm : m ≠ 0) (ht : t = Format.binary64.targetExponent (totalExponent m e)) (he : e ≤ t) :
    Fits t (m / 2 ^ (t - e).toNat) := by
  rw [targetExponent_eq, totalExponent] at ht
  have hlo := Nat.log2_self_le hm
  have hhi : m < 2 ^ (m.log2 + 1) := Nat.lt_log2_self
  refine ⟨by omega, ?_, or_iff_not_imp_right.mpr fun hn => ?_⟩
  · rw [Nat.div_lt_iff_lt_mul (Nat.two_pow_pos _), ← pow_add]
    exact hhi.trans_le (Nat.pow_le_pow_right two_pos (by omega))
  · rw [Nat.le_div_iff_mul_le (Nat.two_pow_pos _), ← pow_add]
    exact (Nat.pow_le_pow_right two_pos (by omega)).trans hlo

lemma shiftToTargetExponent_eq (ht : t = Format.binary64.targetExponent (totalExponent m e)) (he : e ≤ t) :
    ∃ em : ExtendedMantissa, em.mantissa = m / 2 ^ (t - e).toNat ∧
      UnpackedFloat.shiftToTargetExponent .binary64 m e .exact = (em, t) := by
  refine ⟨_, mantissa_shiftRight ⟨m, false, false⟩ _, ?_⟩
  rw [UnpackedFloat.shiftToTargetExponent, shiftToExponent, ← ht]
  exact Prod.ext rfl (by dsimp only; omega)

lemma toNat_pack_rounded (h : Fits t m) (hr : em.mantissa = m)
    (hs : UnpackedFloat.shiftToTargetExponent .binary64 r e .exact = (em, t)) :
    (UnpackedFloat.pack .binary64 (roundWithAccuracy .binary64 .positive r e .exact)).toNat =
      encoded t em.roundedMantissa := by
  obtain ⟨hlo, hhi⟩ := le_roundedMantissa em
  rw [hr] at hlo hhi
  obtain ⟨he, hl, hb⟩ := h
  rw [roundWithAccuracy]
  simp only [hs]
  by_cases hc : em.roundedMantissa = 2 * 2 ^ 52
  · have hu := shiftToTargetExponent_two_mul (m := 2 ^ 52) (e := t + 1) (Nat.log2_two_pow) (by omega)
    have hf : Fits (t + 1) (2 ^ 52) := ⟨by omega, by decide, .inl le_rfl⟩
    rw [Int.add_sub_cancel] at hu
    simp only [hc, hu]
    rw [dif_neg (by decide), hf.toNat_pack, encoded, encoded]
    omega
  · have hf : Fits t em.roundedMantissa := ⟨he, by omega, hb.imp_left fun hb => hb.trans hlo⟩
    simp only [hf.shiftToTargetExponent]
    split_ifs with hz
    · change 0 = _
      rw [encoded]
      omega
    · exact hf.toNat_pack _

lemma log2_mul_two_pow (hm : m ≠ 0) (k : ℕ) : (m * 2 ^ k).log2 = m.log2 + k := by
  have hp : 0 < 2 ^ k := Nat.two_pow_pos k
  rw [Nat.log2_eq_iff (Nat.mul_ne_zero hm hp.ne'), pow_add, Nat.add_right_comm, pow_add]
  exact ⟨Nat.mul_le_mul_right _ (Nat.log2_self_le hm), Nat.mul_lt_mul_of_pos_right Nat.lt_log2_self hp⟩

lemma toNat_pack_round (hm : m ≠ 0) : ∃ t q r, t = Format.binary64.targetExponent (totalExponent m e) ∧
    q = m * 2 ^ (e - t).toNat / 2 ^ (t - e).toNat ∧ Fits t q ∧ q ≤ r ∧ r ≤ 2 ^ 53 ∧
      (UnpackedFloat.pack .binary64 (UnpackedFloat.round .binary64 .positive m e)).toNat = encoded t r := by
  obtain ⟨t, ht⟩ : ∃ t, t = Format.binary64.targetExponent (totalExponent m e) := ⟨_, rfl⟩
  have hm' : m * 2 ^ (e - t).toNat ≠ 0 := Nat.mul_ne_zero hm (Nat.two_pow_pos _).ne'
  have ht' : t = Format.binary64.targetExponent
      (totalExponent (m * 2 ^ (e - t).toNat) (e - (e - t).toNat)) := by
    rw [totalExponent, log2_mul_two_pow hm, ht, totalExponent]
    congr 1
    omega
  have hk : (t - (e - (e - t).toNat)).toNat = (t - e).toNat := by omega
  obtain ⟨em, hem, hs⟩ := shiftToTargetExponent_eq ht' (by omega)
  have hf := fits_shifted hm' ht' (by omega)
  obtain ⟨hlo, hhi⟩ := le_roundedMantissa em
  rw [hem] at hlo hhi
  have hl := hf.lt
  rw [hk] at hem hlo hhi hf hl
  refine ⟨t, _, em.roundedMantissa, ht, rfl, hf, hlo, by omega, ?_⟩
  rw [UnpackedFloat.round, ← ht, decreaseExponent, Nat.shiftLeft_eq]
  exact toNat_pack_rounded hf hem hs

end shift

section unsigned

variable {m n e f : ℕ} {i j : ℤ} {u v : UnpackedFloat}

inductive Unsigned : UnpackedFloat → Prop
  | infinity : Unsigned (.infinity .positive)
  | zero : Unsigned (.zero .positive)
  | finite {m : ℕ} {i : ℤ} (hm : 0 < m) : Unsigned (.finite .positive m i hm)

lemma Reads.unsigned (h : Reads .positive e f u) : Unsigned u := by
  cases h with
  | infinity => exact .infinity
  | zero => exact .zero
  | subnormal hm => exact .finite hm
  | normal hn => exact .finite hn

lemma unsigned_roundWithAccuracy (m : ℕ) (i : ℤ) (a : Accuracy) :
    Unsigned (roundWithAccuracy .binary64 .positive m i a) := by
  rw [roundWithAccuracy]
  dsimp only
  split
  · exact .zero
  · exact .finite _

lemma Unsigned.div (h : Unsigned u) (hm : 0 < m) :
    Unsigned (UnpackedFloat.div .binary64 u (.finite .positive m i hm)) := by
  cases h with
  | infinity => exact .infinity
  | zero => exact .zero
  | finite hn => exact unsigned_roundWithAccuracy ..

lemma Unsigned.toNat_pack_le (h : Unsigned u) :
    (UnpackedFloat.pack .binary64 u).toNat ≤ 2047 * 2 ^ 52 := by
  cases h with
  | infinity => exact le_rfl
  | zero => exact Nat.zero_le _
  | @finite m i hm =>
    have hl (e : ℕ) (he : e < 2047) : (packComponents .binary64 .positive (BitVec.ofNat _ e)
        (BitVec.ofNat _ m)).toNat ≤ 2047 * 2 ^ 52 := by
      have hf : BitVec.ofNat Format.binary64.mantissaBitsWithoutImplicit m =
          BitVec.ofNat _ (m % 2 ^ 52) := BitVec.eq_of_toNat_eq (by simp)
      have hm' : m % 2 ^ 52 < 2 ^ 52 := Nat.mod_lt m (by decide)
      rw [hf, toNat_packComponents (by omega) hm', Sign.toBitVec, BitVec.toNat_ofNat]
      omega
    have hb : 2 ^ Format.binary64.exponentBits = 2048 := rfl
    rw [UnpackedFloat.pack]
    dsimp only
    split_ifs with h₁ h₂
    · exact le_rfl
    · exact hl _ (by omega)
    · exact hl 0 (by decide)

lemma Reads.fits {hm : 0 < m} (h : Reads .positive e f (.finite .positive m i hm)) (hf : f < 2 ^ 52) :
    Fits i m ∧ encoded i m = e * 2 ^ 52 + f := by
  rw [encoded]
  cases h with
  | subnormal _ he hi =>
    subst he hi
    exact ⟨⟨le_rfl, by omega, .inr rfl⟩, by omega⟩
  | normal _ he he' hn hi =>
    subst hn hi
    exact ⟨⟨by omega, by omega, .inl (by omega)⟩, by omega⟩

lemma add_finite (hm : 0 < m) (hn : 0 < n) (i j : ℤ) : ∃ a k, k ≤ i ∧ m * 2 ^ (i - k).toNat ≤ a ∧
    UnpackedFloat.add .binary64 (.finite .positive m i hm) (.finite .positive n j hn) =
      UnpackedFloat.round .binary64 .positive a k := by
  obtain ⟨k, hk⟩ : ∃ k, k = i ⊓ j := ⟨_, rfl⟩
  obtain ⟨a, ha⟩ : ∃ a, a = m * 2 ^ (i - k).toNat + n * 2 ^ (j - k).toNat := ⟨_, rfl⟩
  have hp : 0 < m * 2 ^ (i - k).toNat := Nat.mul_pos hm (Nat.two_pow_pos _)
  have hc : compare (a : ℤ) 0 = .gt := Int.compare_eq_gt.mpr (by omega)
  have hs : Sign.positive.apply (m * 2 ^ (i - k).toNat : ℕ) +
      Sign.positive.apply (n * 2 ^ (j - k).toNat : ℕ) = (a : ℤ) := by
    rw [ha]
    rfl
  refine ⟨a, k, by omega, by omega, ?_⟩
  rw [UnpackedFloat.add, ← hk, decreaseExponent, decreaseExponent, Nat.shiftLeft_eq, Nat.shiftLeft_eq]
  dsimp only
  rw [hs, UnpackedFloat.normalize, hc]
  rfl

lemma Fits.le_add (h : Fits i m) (hm : 0 < m) (hn : 0 < n) :
    encoded i m ≤ (UnpackedFloat.pack .binary64
      (UnpackedFloat.add .binary64 (.finite .positive m i hm) (.finite .positive n j hn))).toNat := by
  obtain ⟨a, k, hk, ha, hr⟩ := add_finite hm hn i j
  have hp : 0 < m * 2 ^ (i - k).toNat := Nat.mul_pos hm (Nat.two_pow_pos _)
  obtain ⟨t, q, r, ht, hq, hf, hqr, _, hb⟩ := toNat_pack_round (m := a) (e := k) (by omega)
  rw [targetExponent_eq, totalExponent] at ht
  have hl : m.log2 + (i - k).toNat ≤ a.log2 := by
    rw [← log2_mul_two_pow hm.ne', Nat.le_log2 (by omega)]
    exact (Nat.log2_self_le hp.ne').trans (by omega)
  have hit : i ≤ t := by
    rcases h.leading with hm' | hi
    · have hle := (Nat.le_log2 hm.ne').mpr hm'
      omega
    · omega
  rw [show (k - t).toNat = 0 by omega, pow_zero, mul_one] at hq
  rw [hr, hb]
  refine h.le_encoded hit (fun hlt => ?_) fun heq => ?_
  · have he := h.exponent
    exact (hf.leading.resolve_right (by omega)).trans hqr
  · refine le_trans ?_ hqr
    rw [hq, ← heq, Nat.le_div_iff_mul_le (Nat.two_pow_pos _)]
    omega

lemma Unsigned.add (hu : Unsigned u) (hv : Unsigned v ∨ v = .zero .negative) :
    Unsigned (UnpackedFloat.add .binary64 u v) := by
  rcases hv with hv | rfl
  · cases hu with
    | infinity => cases hv <;> exact .infinity
    | zero =>
      cases hv with
      | infinity => exact .infinity
      | zero => exact .zero
      | finite hn => exact .finite hn
    | @finite m i hm =>
      cases hv with
      | infinity => exact .infinity
      | zero => exact .finite hm
      | @finite n j hn =>
        obtain ⟨a, k, _, _, ha⟩ := add_finite hm hn i j
        rw [ha]
        exact unsigned_roundWithAccuracy ..
  · cases hu with
    | infinity => exact .infinity
    | zero => exact .zero
    | finite hm => exact .finite hm

lemma Reads.le_add (h : Reads .positive e f u) (hf : f < 2 ^ 52) (he : e < 2 ^ 11)
    (hv : Unsigned v ∨ v = .zero .negative) :
    e * 2 ^ 52 + f ≤ (UnpackedFloat.pack .binary64 (UnpackedFloat.add .binary64 u v)).toNat := by
  have hp : (UnpackedFloat.pack .binary64 u).toNat = e * 2 ^ 52 + f := by
    rw [h.pack hf, toNat_packComponents he hf, Sign.toBitVec, BitVec.toNat_ofNat]
    omega
  cases u with
  | notANumber => cases h
  | infinity s =>
    obtain rfl : s = .positive := by cases h; rfl
    have ha : UnpackedFloat.add .binary64 (.infinity .positive) v = .infinity .positive := by
      rcases hv with hv | rfl
      · cases hv <;> rfl
      · rfl
    rw [ha, hp]
  | zero s =>
    obtain ⟨rfl, rfl⟩ : e = 0 ∧ f = 0 := by cases h; constructor <;> assumption
    omega
  | finite s m i hm =>
    obtain rfl : s = .positive := by cases h <;> rfl
    obtain ⟨hf, he⟩ := h.fits hf
    rcases hv with hv | rfl
    · cases hv with
      | infinity =>
        change _ ≤ 2047 * 2 ^ 52
        exact he ▸ Nat.min_le_right _ _
      | zero => exact hp.ge
      | finite hn =>
        rw [← he]
        exact hf.le_add hm hn
    · exact hp.ge

end unsigned

section bits

variable {x y : Binary64} {n : UInt64}

lemma plain_iff : Plain x ↔ x.bits.toNat ≤ 2047 * 2 ^ 52 := by
  have hx : x.bits.toNat < 2 ^ 64 := x.bits.toNat_lt
  constructor
  · rintro ⟨hn, hs⟩
    rw [isNaN_eq_false_iff] at hn
    rw [isNegative_eq_false_iff] at hs
    omega
  · intro h
    exact ⟨isNaN_eq_false_iff.mpr (by omega), isNegative_eq_false_iff.mpr (by omega)⟩

lemma Plain.reads (h : Plain x) : ∃ e f, Reads .positive e f (UnpackedFloat.unpack .binary64 x.bits.toBitVec) ∧
    f < 2 ^ 52 ∧ e < 2 ^ 11 ∧ e * 2 ^ 52 + f = x.bits.toNat := by
  have hr := reads_unpack (isNaN_eq_false_iff.mp h.isNaN)
  have hb := isNegative_eq_false_iff.mp h.isNegative
  rw [sign_eq, h.isNegative, if_neg Bool.false_ne_true] at hr
  refine ⟨_, _, hr, Nat.mod_lt _ (by decide), Nat.mod_lt _ (by decide), ?_⟩
  rw [UInt64.toNat_toBitVec]
  omega

lemma plain_of_pack {u : UnpackedFloat} (hu : Unsigned u)
    (hx : x.bits.toBitVec = UnpackedFloat.pack .binary64 u) : Plain x := by
  rw [plain_iff, ← UInt64.toNat_toBitVec, hx]
  exact hu.toNat_pack_le

lemma plain_zero : Plain zero := ⟨rfl, rfl⟩

lemma toNat_bits_ofUInt64 (hn : n.toNat ≠ 0) :
    2 ^ 52 ≤ (ofUInt64 n).bits.toNat ∧ (ofUInt64 n).bits.toNat < 2047 * 2 ^ 52 := by
  have hc : compare (n.toNat : ℤ) 0 = .gt := Int.compare_eq_gt.mpr (by omega)
  obtain ⟨t, q, r, ht, -, hf, hqr, hr, hb⟩ := toNat_pack_round (m := n.toNat) (e := 0) hn
  have hl : n.toNat.log2 < 64 := (Nat.log2_lt hn).mpr n.toNat_lt
  rw [targetExponent_eq, totalExponent] at ht
  rw [← UInt64.toNat_toBitVec, bits_ofUInt64, UnpackedFloat.ofNat, UnpackedFloat.ofInt,
    UnpackedFloat.normalize, hc]
  dsimp only
  rw [Int.toNat_natCast, hb, encoded]
  omega

lemma plain_ofUInt64 (n : UInt64) : Plain (ofUInt64 n) := by
  by_cases hn : n.toNat = 0
  · obtain rfl : n = 0 := UInt64.toNat_inj.mp hn
    exact plain_zero
  · exact plain_iff.mpr (toNat_bits_ofUInt64 hn).2.le

lemma exists_unpack_ofUInt64 (hn : n.toNat ≠ 0) : ∃ m i hm,
    UnpackedFloat.unpack .binary64 (ofUInt64 n).bits.toBitVec = .finite .positive m i hm := by
  obtain ⟨hlo, hhi⟩ := toNat_bits_ofUInt64 hn
  obtain ⟨e, f, hr, hf, -, hb⟩ := (plain_ofUInt64 n).reads
  exact ⟨_, _, _, hr.eq_finite (by omega) (by omega)⟩

lemma plain_quotient (length speed : UInt64) (hs : speed.toNat ≠ 0) :
    Plain (Time.quotient length speed : Binary64) := by
  have hx := plain_ofUInt64 length
  have hy := plain_ofUInt64 speed
  obtain ⟨e, f, hr, -⟩ := hx.reads
  obtain ⟨m, i, hm, hu⟩ := exists_unpack_ofUInt64 hs
  have hb := bits_div hx.isNaN hy.isNaN
  rw [hu] at hb
  have hp := plain_of_pack (hr.unsigned.div hm) hb
  change Plain (lift _ _ _)
  rw [lift, hx.isNaN, if_neg Bool.false_ne_true, hy.isNaN, if_neg Bool.false_ne_true]
  dsimp only
  rw [hp.isNaN, if_neg Bool.false_ne_true]
  exact hp

lemma bits_add (hx : x.isNaN = false) (hy : y.isNaN = false) :
    (ofFloat (x.toFloat + y.toFloat)).bits.toBitVec = UnpackedFloat.pack .binary64
      (UnpackedFloat.add .binary64 (UnpackedFloat.unpack .binary64 x.bits.toBitVec)
        (UnpackedFloat.unpack .binary64 y.bits.toBitVec)) := by
  rw [← unpack_toFloat hx, ← unpack_toFloat hy]
  rfl

lemma Plain.add (hx : Plain x) (hy : Plain y ∨ y = negativeZero) :
    Plain (x.add y) ∧ x.bits.toNat ≤ (x.add y).bits.toNat := by
  have hv : Unsigned (UnpackedFloat.unpack .binary64 y.bits.toBitVec) ∨
      UnpackedFloat.unpack .binary64 y.bits.toBitVec = .zero .negative := by
    rcases hy with hy | rfl
    · obtain ⟨e, f, hr, -⟩ := hy.reads
      exact .inl hr.unsigned
    · exact .inr rfl
  have hn : y.isNaN = false := by
    rcases hy with hy | rfl
    · exact hy.isNaN
    · rfl
  obtain ⟨e, f, hr, hf, he, hxb⟩ := hx.reads
  have hb := bits_add hx.isNaN hn
  have hp := plain_of_pack (hr.unsigned.add hv) hb
  have hs : x.add y = ofFloat (x.toFloat + y.toFloat) := by
    rw [Binary64.add, lift, hx.isNaN, if_neg Bool.false_ne_true, hn, if_neg Bool.false_ne_true]
    dsimp only
    rw [hp.isNaN, if_neg Bool.false_ne_true]
  rw [hs]
  refine ⟨hp, ?_⟩
  rw [← hxb, ← UInt64.toNat_toBitVec (ofFloat _).bits, hb]
  exact hr.le_add hf he hv

lemma max_zero (x : Binary64) : Plain (x.max zero) ∨ x.max zero = negativeZero := by
  rw [Binary64.max]
  cases hx : x.isNaN with
  | true => exact .inl plain_zero
  | false =>
    rw [if_neg Bool.false_ne_true, if_neg (by decide : ¬ zero.isNaN = true)]
    split_ifs with hl
    · exact .inl plain_zero
    · rw [toFloat_lt_iff hx plain_zero.isNaN, plain_zero.place] at hl
      cases hs : x.isNegative with
      | false => exact .inl ⟨hx, hs⟩
      | true =>
        -- a number with a sign that is not below zero is zero
        have hm := x.toNat_magnitude
        have hb := x.bits.toNat_lt
        have hn : ¬ x.bits.toNat < 2 ^ 63 := by
          rw [← isNegative_eq_false_iff, hs]
          decide
        rw [place, hs, if_pos rfl, hm] at hl
        have hz : x.bits.toNat = negativeZero.bits.toNat := by
          change _ = 2 ^ 63
          have h0 : zero.bits.toNat = 0 := rfl
          omega
        right
        cases x
        exact congrArg _ (UInt64.toNat_inj.mp hz)

end bits

end Binary64

end Dispatch
