import Dispatch.Proofs.Forward

/-! The numeric order of times, which leaves out undefined times, beside the total one. -/

namespace Dispatch

variable {τ : Type} [Time τ]

def Time.Defined (x : τ) : Prop := ∃ y, Time.exceeds x y = true ∨ Time.exceeds y x = true

structure Time.AtMost (x y : τ) : Prop where
  left : Time.Defined x
  right : Time.Defined y
  not_exceeds : Time.exceeds x y = false

/-- The times that a clock can show are defined, and whatever one of them exceeds, a later one exceeds too. -/
class Numeric (τ : Type) [Time τ] : Prop extends Forward τ where
  defined : ∀ {x : τ}, Shown x → Time.Defined x
  exceeds_of_le : ∀ {x y z : τ}, Shown x → Shown y → Time.Le x y → Time.exceeds x z = true →
    Time.exceeds y z = true

instance : Numeric ℚ where
  defined {x} _ := ⟨x + 1, .inr (decide_eq_true (lt_add_one x))⟩
  exceeds_of_le _ _ hl hz := decide_eq_true ((of_decide_eq_true hz).trans_le (le_rat_iff.mp hl))

namespace Binary64

open Float.Model Float.Model.UnpackedFloat

variable {x y z : Binary64}

lemma unpack_of_isNaN (h : x.isNaN = true) :
    UnpackedFloat.unpack .binary64 x.bits.toBitVec = .notANumber := by
  have hn : ¬ x.bits.toNat % 2 ^ 63 ≤ 2047 * 2 ^ 52 := by
    rw [← isNaN_eq_false_iff, h]
    exact Bool.true_eq_false_eq_False.elim
  have he : @unpackExponent .binary64 x.bits.toBitVec = -1#_ := by
    refine (unpackExponent_eq_iff (e := 2047) (by decide)).mpr ?_
    change x.bits.toNat / 2 ^ 52 % 2 ^ 11 = 2047
    omega
  have hm : ¬ @unpackMantissa .binary64 x.bits.toBitVec = 0#_ := by
    rw [unpackMantissa_eq_zero_iff]
    change ¬ x.bits.toNat % 2 ^ 52 = 0
    omega
  rw [UnpackedFloat.unpack]
  dsimp only
  rw [if_pos he, if_neg hm]

lemma unpack_toFloat_of_isNaN (h : x.isNaN = true) : x.toFloat.toModel.unpack = .notANumber := by
  change UnpackedFloat.unpack .binary64 (UnpackedFloat.pack .binary64 (UnpackedFloat.unpack .binary64 _)) = _
  rw [unpack_of_isNaN h]
  rfl

lemma lt_notANumber (u : UnpackedFloat) : u.lt .notANumber = false ∧ UnpackedFloat.lt .notANumber u = false := by
  cases u <;> exact ⟨rfl, rfl⟩

lemma isNaN_of_exceeds (h : Time.exceeds x y = true) : x.isNaN = false ∧ y.isNaN = false := by
  have hl : y.toFloat.toModel.unpack.lt x.toFloat.toModel.unpack = true :=
    of_decide_eq_true (of_decide_eq_true h : y.toFloat < x.toFloat)
  constructor
  · by_contra hn
    rw [unpack_toFloat_of_isNaN (Bool.eq_true_of_not_eq_false hn), (lt_notANumber _).1] at hl
    cases hl
  · by_contra hn
    rw [unpack_toFloat_of_isNaN (Bool.eq_true_of_not_eq_false hn), (lt_notANumber _).2] at hl
    cases hl

lemma exceeds_iff (hx : x.isNaN = false) (hy : y.isNaN = false) :
    Time.exceeds x y = true ↔ y.place < x.place :=
  decide_eq_true_iff.trans (toFloat_lt_iff hy hx)

lemma defined_iff : Time.Defined x ↔ x.isNaN = false := by
  constructor
  · rintro ⟨y, h | h⟩
    · exact (isNaN_of_exceeds h).1
    · exact (isNaN_of_exceeds h).2
  · intro h
    have hz : zero.place = 0 := by decide
    have hi : 0 < infinity.place := by decide
    by_cases hp : 0 < x.place
    · exact ⟨zero, .inl ((exceeds_iff h rfl).mpr (hz ▸ hp))⟩
    · exact ⟨infinity, .inr ((exceeds_iff rfl h).mpr ((not_lt.mp hp).trans_lt hi))⟩

instance : Numeric Binary64 where
  defined hx := defined_iff.mpr (plain_of_shown hx).isNaN
  exceeds_of_le {x y z} hx hy hl hz := by
    have hx := plain_of_shown hx
    have hy := plain_of_shown hy
    have hz' := (isNaN_of_exceeds hz).2
    rw [exceeds_iff hx.isNaN hz', hx.place] at hz
    rw [exceeds_iff hy.isNaN hz', hy.place]
    exact hz.trans_le (Int.ofNat_le.mpr ((le_iff_of_plain hx hy).mp hl))

end Binary64

end Dispatch
