import Dispatch.Time.Binary64
import Mathlib

namespace Dispatch

open Float.Model Float.Model.UnpackedFloat

namespace Binary64

inductive Reads (s : Sign) (e m : ℕ) : UnpackedFloat → Prop
  | infinity : e = 2047 → m = 0 → Reads s e m (.infinity s)
  | zero : e = 0 → m = 0 → Reads s e m (.zero s)
  | subnormal {i : ℤ} (hm : 0 < m) : e = 0 → i = -1074 → Reads s e m (.finite s m i hm)
  | normal {n : ℕ} {i : ℤ} (hn : 0 < n) : 0 < e → e < 2047 → n = 2 ^ 52 + m → i = e - 1075 →
      Reads s e m (.finite s n i hn)

section reads

variable {s s' : Sign} {e e' m m' : ℕ} {u v : UnpackedFloat}

lemma then_compare_eq_lt {i j : ℤ} {m m' : ℕ} :
    (compare i j).then (compare m m') = .lt ↔ i < j ∨ i = j ∧ m < m' := by
  rw [Ordering.then_eq_lt, Int.compare_eq_lt, Int.compare_eq_eq, Nat.compare_eq_lt]

lemma then_compare_eq_gt {i j : ℤ} {m m' : ℕ} :
    (compare i j).then (compare m m') = .gt ↔ j < i ∨ i = j ∧ m' < m := by
  rw [Ordering.then_eq_gt, Int.compare_eq_gt, Int.compare_eq_eq, Nat.compare_eq_gt]

lemma Reads.lt_iff (hu : Reads s e m u) (hv : Reads s' e' m' v) (hm : m < 2 ^ 52) (hm' : m' < 2 ^ 52) :
    u.lt v = true ↔ s.apply (e * 2 ^ 52 + m) < s'.apply (e' * 2 ^ 52 + m') := by
  rw [UnpackedFloat.lt, beq_iff_eq]
  cases hu with
  | infinity =>
    cases hv <;> cases s <;> cases s' <;> simp [UnpackedFloat.compare, Sign.apply, compare] <;> omega
  | zero =>
    cases hv <;> cases s <;> cases s' <;> simp [UnpackedFloat.compare, Sign.apply] <;> omega
  | subnormal =>
    cases hv <;> cases s <;> cases s' <;>
      simp [UnpackedFloat.compare, Sign.apply, then_compare_eq_lt, then_compare_eq_gt] <;> omega
  | normal =>
    cases hv <;> cases s <;> cases s' <;>
      simp [UnpackedFloat.compare, Sign.apply, then_compare_eq_lt, then_compare_eq_gt] <;> omega

lemma Reads.pack (hu : Reads s e m u) (hm : m < 2 ^ 52) :
    UnpackedFloat.pack .binary64 u = packComponents .binary64 s (BitVec.ofNat _ e) (BitVec.ofNat _ m) := by
  cases hu with
  | infinity he h =>
    subst he h
    rfl
  | zero he h =>
    subst he h
    rfl
  | subnormal h he hi =>
    subst he hi
    have hl : m.log2 < 52 := (Nat.log2_lt h.ne').mpr hm
    have hn : m.log2 + 1 ≠ Format.binary64.mantissaBits := by
      rw [show Format.binary64.mantissaBits = 53 from rfl]
      omega
    rw [UnpackedFloat.pack]
    dsimp only
    rw [if_neg (by decide), if_neg hn]
  | normal h he he' hn hi =>
    subst hn hi
    have hl : (2 ^ 52 + m).log2 + 1 = Format.binary64.mantissaBits := by
      rw [show Format.binary64.mantissaBits = 52 + 1 from rfl, Nat.add_right_cancel_iff,
        Nat.log2_eq_iff h.ne']
      omega
    have hb : (((e : ℤ) - 1075) + (Format.binary64.exponentBias : ℤ) + (52 : ℕ)).toNat = e := by
      rw [show (Format.binary64.exponentBias : ℤ) = 1023 from rfl]
      omega
    rw [UnpackedFloat.pack]
    dsimp only
    rw [hb, if_neg (by omega), if_pos hl]
    congr 1
    apply BitVec.eq_of_toNat_eq
    simp

end reads

section fields

variable {b : BitVec Format.binary64.numBits}

lemma toNat_unpackMantissa : (unpackMantissa b).toNat = b.toNat % 2 ^ 52 := by
  simp [unpackMantissa]

lemma toNat_unpackExponent : (unpackExponent b).toNat = b.toNat / 2 ^ 52 % 2 ^ 11 := by
  simp [unpackExponent, Nat.shiftRight_eq_div_pow]

lemma toNat_unpackSign : (unpackSign b).toNat = b.toNat / 2 ^ 63 % 2 := by
  simp [unpackSign, Nat.shiftRight_eq_div_pow]

lemma unpackExponent_eq_iff {e : ℕ} (he : e < 2 ^ 11) :
    unpackExponent b = BitVec.ofNat _ e ↔ b.toNat / 2 ^ 52 % 2 ^ 11 = e := by
  rw [← BitVec.toNat_inj, toNat_unpackExponent, BitVec.toNat_ofNat, Nat.mod_eq_of_lt he]

lemma unpackMantissa_eq_zero_iff : unpackMantissa b = 0#_ ↔ b.toNat % 2 ^ 52 = 0 := by
  rw [← BitVec.toNat_inj, toNat_unpackMantissa, BitVec.toNat_zero]

lemma toNat_one_append : (1#1 ++ unpackMantissa b).toNat = 2 ^ 52 + b.toNat % 2 ^ 52 := by
  rw [BitVec.toNat_append, toNat_unpackMantissa, BitVec.toNat_ofNat, ← Nat.shiftLeft_add_eq_or_of_lt]
  · rfl
  · exact Nat.mod_lt _ (by decide)

lemma reads_unpack (hb : b.toNat % 2 ^ 63 ≤ 2047 * 2 ^ 52) :
    Reads (Sign.ofBitVec (unpackSign b)) (b.toNat / 2 ^ 52 % 2 ^ 11) (b.toNat % 2 ^ 52)
      (UnpackedFloat.unpack .binary64 b) := by
  have hs : unpackExponent b = -1#_ ↔ b.toNat / 2 ^ 52 % 2 ^ 11 = 2047 :=
    unpackExponent_eq_iff (e := 2047) (by decide)
  have hz : unpackExponent b = 0#_ ↔ b.toNat / 2 ^ 52 % 2 ^ 11 = 0 :=
    unpackExponent_eq_iff (e := 0) (by decide)
  have hm : unpackMantissa b = 0#_ ↔ b.toNat % 2 ^ 52 = 0 := unpackMantissa_eq_zero_iff
  have hbias : Format.binary64.exponentBias = 1023 := rfl
  rw [UnpackedFloat.unpack]
  simp only [hs, hz, hm, toNat_unpackExponent, toNat_unpackMantissa, hbias]
  split_ifs with h₁ h₂ h₂ h₃
  · exact .infinity h₁ h₂
  · omega
  · exact .zero h₂ h₃
  · exact .subnormal _ h₂ (by omega)
  · exact .normal _ (by omega) (by omega) toNat_one_append (by omega)

lemma toBitVec_ofBitVec (v : BitVec 1) : (Sign.ofBitVec v).toBitVec = v := by
  revert v
  decide

lemma toNat_packComponents {s : Sign} {e m : ℕ} (he : e < 2 ^ 11) (hm : m < 2 ^ 52) :
    (packComponents .binary64 s (BitVec.ofNat _ e) (BitVec.ofNat _ m)).toNat =
      s.toBitVec.toNat * 2 ^ 63 + e * 2 ^ 52 + m := by
  rw [packComponents, BitVec.toNat_append, BitVec.toNat_append, BitVec.toNat_ofNat, BitVec.toNat_ofNat,
    Nat.mod_eq_of_lt hm, Nat.mod_eq_of_lt he, ← Nat.shiftLeft_add_eq_or_of_lt hm,
    ← Nat.shiftLeft_add_eq_or_of_lt he, Nat.shiftLeft_eq, Nat.shiftLeft_eq]
  omega

lemma packComponents_unpack : packComponents .binary64 (Sign.ofBitVec (unpackSign b))
    (BitVec.ofNat _ (b.toNat / 2 ^ 52 % 2 ^ 11)) (BitVec.ofNat _ (b.toNat % 2 ^ 52)) = b := by
  have hb : b.toNat < 2 ^ 64 := b.isLt
  apply BitVec.eq_of_toNat_eq
  rw [toNat_packComponents (Nat.mod_lt _ (by decide)) (Nat.mod_lt _ (by decide)), toBitVec_ofBitVec,
    toNat_unpackSign]
  omega

lemma pack_unpack (hb : b.toNat % 2 ^ 63 ≤ 2047 * 2 ^ 52) :
    UnpackedFloat.pack .binary64 (UnpackedFloat.unpack .binary64 b) = b :=
  ((reads_unpack hb).pack (Nat.mod_lt _ (by decide))).trans packComponents_unpack

end fields

variable {x y : Binary64}

lemma toNat_magnitude (x : Binary64) : x.magnitude.toNat = x.bits.toNat % 2 ^ 63 := by
  rw [magnitude, UInt64.toNat_and]
  exact Nat.and_two_pow_sub_one_eq_mod _ 63

lemma isNaN_eq_false_iff : x.isNaN = false ↔ x.bits.toNat % 2 ^ 63 ≤ 2047 * 2 ^ 52 := by
  rw [← toNat_magnitude]
  simp [isNaN, UInt64.le_iff_toNat_le]

lemma isNegative_eq_false_iff : x.isNegative = false ↔ x.bits.toNat < 2 ^ 63 := by
  rw [isNegative, bne_eq_false_iff_eq, ← UInt64.toNat_inj, UInt64.toNat_shiftRight]
  change x.bits.toNat >>> 63 = 0 ↔ _
  rw [Nat.shiftRight_eq_div_pow, Nat.div_eq_zero_iff_lt (by decide)]

lemma sign_eq (x : Binary64) : Sign.ofBitVec (@unpackSign .binary64 x.bits.toBitVec) =
    if x.isNegative then .negative else .positive := by
  have hb : x.bits.toNat < 2 ^ 64 := x.bits.toNat_lt
  have hs : @unpackSign .binary64 x.bits.toBitVec = 0#1 ↔ x.isNegative = false := by
    rw [← BitVec.toNat_inj, toNat_unpackSign, isNegative_eq_false_iff]
    change x.bits.toNat / 2 ^ 63 % 2 = 0 ↔ _
    omega
  cases h : x.isNegative with
  | false => exact if_pos (hs.mpr h)
  | true => exact if_neg fun h' => Bool.noConfusion ((hs.mp h').symm.trans h)

def place (x : Binary64) : ℤ := if x.isNegative then -x.magnitude.toNat else x.magnitude.toNat

lemma place_nonpos (h : x.isNegative = true) : x.place ≤ 0 := by
  rw [place, h, if_pos rfl]
  omega

lemma apply_sign (x : Binary64) :
    (Sign.ofBitVec (@unpackSign .binary64 x.bits.toBitVec)).apply
      ((x.bits.toNat / 2 ^ 52 % 2 ^ 11 : ℕ) * 2 ^ 52 + (x.bits.toNat % 2 ^ 52 : ℕ)) = x.place := by
  have hm : ((x.bits.toNat / 2 ^ 52 % 2 ^ 11 : ℕ) : ℤ) * 2 ^ 52 + (x.bits.toNat % 2 ^ 52 : ℕ) =
      x.magnitude.toNat := by
    rw [toNat_magnitude]
    omega
  rw [hm, sign_eq, place]
  cases x.isNegative <;> rfl

-- The bits are packed again once they have been read, so that they are read twice before a comparison.
lemma unpack_toFloat (h : x.isNaN = false) :
    x.toFloat.toModel.unpack = UnpackedFloat.unpack .binary64 x.bits.toBitVec :=
  congrArg (UnpackedFloat.unpack .binary64) (pack_unpack (isNaN_eq_false_iff.mp h))

lemma toFloat_lt_iff (hx : x.isNaN = false) (hy : y.isNaN = false) :
    x.toFloat < y.toFloat ↔ x.place < y.place := by
  have hl := (reads_unpack (isNaN_eq_false_iff.mp hx)).lt_iff (reads_unpack (isNaN_eq_false_iff.mp hy))
    (Nat.mod_lt _ (by decide)) (Nat.mod_lt _ (by decide))
  rw [← unpack_toFloat hx, ← unpack_toFloat hy] at hl
  rw [← apply_sign, ← apply_sign]
  exact decide_eq_true_iff.trans hl

def height (x : Binary64) : ℕ := if x.isNaN then 0 else x.place.toNat

lemma height_of_isNaN (h : x.isNaN = true) : x.height = 0 := if_pos h

lemma height_eq (h : x.isNaN = false) : x.height = x.place.toNat := by
  rw [height, h, if_neg Bool.false_ne_true]

structure Plain (x : Binary64) : Prop where
  isNaN : x.isNaN = false
  isNegative : x.isNegative = false

lemma Plain.place (h : Plain x) : x.place = x.bits.toNat := by
  have hb := isNegative_eq_false_iff.mp h.isNegative
  rw [Binary64.place, h.isNegative, if_neg Bool.false_ne_true, toNat_magnitude, Nat.mod_eq_of_lt hb]

lemma Plain.eq (hx : Plain x) (hy : Plain y) (h : x.height = y.height) : x = y := by
  rw [height_eq hx.isNaN, hx.place, height_eq hy.isNaN, hy.place, Int.toNat_natCast, Int.toNat_natCast,
    UInt64.toNat_inj] at h
  cases x
  cases y
  exact congrArg _ h

lemma Plain.max (hx : Plain x) (y : Binary64) :
    Plain (x.max y) ∧ (x.max y).height = x.height ⊔ y.height := by
  rw [Binary64.max, hx.isNaN, if_neg Bool.false_ne_true]
  cases hy : y.isNaN with
  | true =>
    rw [if_pos rfl, height_of_isNaN hy]
    exact ⟨hx, (Nat.max_zero _).symm⟩
  | false =>
    have hp := hx.place
    rw [if_neg Bool.false_ne_true, height_eq hx.isNaN, height_eq hy]
    split_ifs with hl <;> rw [toFloat_lt_iff hx.isNaN hy] at hl
    · refine ⟨⟨hy, ?_⟩, by rw [height_eq hy]; omega⟩
      by_contra hn
      have hneg := place_nonpos (Bool.eq_true_of_not_eq_false hn)
      omega
    · exact ⟨hx, by rw [height_eq hx.isNaN]; omega⟩

lemma Plain.foldl_max (hx : Plain x) (l : List Binary64) :
    Plain (l.foldl Binary64.max x) ∧
      (l.foldl Binary64.max x).height = (l.map height).foldl (· ⊔ ·) x.height := by
  induction l generalizing x with
  | nil => exact ⟨hx, rfl⟩
  | cons y l ih =>
    obtain ⟨hp, hh⟩ := hx.max y
    rw [List.foldl_cons, List.map_cons, List.foldl_cons, ← hh]
    exact ih hp

lemma foldl_max_perm {l l' : List Binary64} (h : l.Perm l') :
    l.foldl Binary64.max zero = l'.foldl Binary64.max zero := by
  have hz : Plain zero := ⟨by decide, by decide⟩
  obtain ⟨hp, hh⟩ := hz.foldl_max l
  obtain ⟨hp', hh'⟩ := hz.foldl_max l'
  apply hp.eq hp'
  rw [hh, hh']
  exact (h.map height).foldl_eq _

end Binary64

end Dispatch
