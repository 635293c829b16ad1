import Dispatch.Proofs.Cluster.Order
import Dispatch.Proofs.Rounding

namespace Dispatch

variable {τ : Type} [Time τ]

def Time.Le (x y : τ) : Prop := (Time.compare x y).isLE = true

inductive Delay : τ → Prop
  | none : Delay Time.zero
  | rest (x : τ) : Delay (Time.max x Time.zero)
  | work (length speed : UInt64) : Delay (Time.quotient length (max speed 1))

/-- Binary numbers are such times, though `max x 0` may be a zero with a sign, and though the sum of two infinite
ones may be undefined if one of them is below zero. -/
class Forward (τ : Type) [Time τ] : Prop extends Std.TransCmp (Time.compare (τ := τ)) where
  le_add : ∀ {c d : τ}, Time.Le Time.zero c → Delay d → Time.Le c (Time.add c d)

inductive Shown : τ → Prop
  | zero : Shown Time.zero
  | later {c d : τ} : Shown c → Delay d → Shown (Time.add c d)

/-- Of two times that a clock can show, the later one is the larger one. Binary numbers are such times as well:
no clock shows one that is undefined, and none with a sign. -/
class Chronological (τ : Type) [Time τ] : Prop extends Forward τ where
  max_of_le : ∀ {x y : τ}, Shown x → Shown y → Time.Le x y → Time.max x y = y ∧ Time.max y x = y

section order

variable [Std.TransCmp (Time.compare (τ := τ))] {x y z : τ} {times : List τ}

lemma Time.Le.refl (x : τ) : Time.Le x x := Ordering.isLE_of_eq_eq Std.ReflCmp.compare_self

lemma Time.le_total (x y : τ) : Time.Le x y ∨ Time.Le y x := by
  have hs : Time.compare y x = (Time.compare x y).swap := Std.OrientedCmp.eq_swap
  rw [Time.Le, Time.Le, hs, Ordering.isLE_swap]
  cases Time.compare x y <;> simp

lemma Time.Le.trans (h : Time.Le x y) (h' : Time.Le y z) : Time.Le x z := Std.TransCmp.isLE_trans h h'

lemma pairwise_concat_of_le (h : (times ++ [x]).Pairwise Time.Le) (hl : Time.Le x y) :
    (times ++ [y]).Pairwise Time.Le := by
  obtain ⟨hp, -, hb⟩ := List.pairwise_append.mp h
  refine List.pairwise_append.mpr ⟨hp, List.pairwise_singleton _ _, fun t ht z hz => ?_⟩
  rw [List.mem_singleton.mp hz]
  exact (hb t ht x List.mem_cons_self).trans hl

lemma pairwise_concat_self (h : (times ++ [x]).Pairwise Time.Le) :
    (times ++ [x] ++ [x]).Pairwise Time.Le := by
  refine List.pairwise_append.mpr ⟨h, List.pairwise_singleton _ _, fun t ht z hz => ?_⟩
  rw [List.mem_singleton.mp hz]
  rcases List.mem_append.mp ht with ht | ht
  · exact (List.pairwise_append.mp h).2.2 t ht x List.mem_cons_self
  · rw [List.mem_singleton.mp ht]
    exact .refl x

end order

lemma Shown.nonneg [Forward τ] {x : τ} (h : Shown x) : Time.Le Time.zero x := by
  induction h with
  | zero => exact .refl _
  | later _ hd ih => exact ih.trans (Forward.le_add ih hd)

lemma foldl_max_eq [Std.TransCmp (Time.compare (τ := τ))] {S : τ → Prop}
    (hmax : ∀ {x y}, S x → S y → Time.Le x y → Time.max x y = y ∧ Time.max y x = y) {l : List τ} {a x : τ}
    (ha : S a) (hl : Time.Le a x) (hs : ∀ y ∈ l, S y ∧ Time.Le y x) (hm : x ∈ a :: l) :
    l.foldl Time.max a = x := by
  induction l generalizing a with
  | nil => exact (List.mem_singleton.mp hm).symm
  | cons y l ih =>
    obtain ⟨⟨hy, hyx⟩, hs⟩ := List.forall_mem_cons.mp hs
    rw [List.foldl_cons]
    rcases Time.le_total a y with hay | hya
    · have hlater := (hmax ha hy hay).1
      rw [hlater]
      refine ih hy hyx hs ?_
      rcases List.mem_cons.mp hm with rfl | hm
      · rw [← hlater, (hmax hy ha hyx).2]
        exact List.mem_cons_self
      · exact hm
    · have hlater := (hmax hy ha hya).2
      rw [hlater]
      refine ih ha hl hs ?_
      rcases List.mem_cons.mp hm with rfl | hm
      · exact List.mem_cons_self
      · rcases List.mem_cons.mp hm with rfl | hm
        · rw [← hlater, (hmax ha hy hl).1]
          exact List.mem_cons_self
        · exact List.mem_cons_of_mem a hm

lemma forward_of_nonneg [Std.TransCmp (Time.compare (τ := τ))]
    (hmax : ∀ x : τ, Time.Le Time.zero (Time.max x Time.zero))
    (hquotient : ∀ length speed, Time.Le (τ := τ) Time.zero (Time.quotient length (max speed 1)))
    (hadd : ∀ c d : τ, Time.Le Time.zero d → Time.Le c (Time.add c d)) : Forward τ where
  le_add {c d} _ hd := by
    apply hadd
    cases hd with
    | none => exact .refl _
    | rest x => exact hmax x
    | work length speed => exact hquotient length speed

lemma le_of_before {a b : Appointment τ} (h : b.before a = false) : Time.Le a.time b.time := by
  rw [Time.Le, Ordering.isLE_iff_eq_lt_or_eq_eq]
  exact (Appointment.before_eq_false_iff.mp h).imp_right And.left

lemma le_rat_iff {x y : ℚ} : Time.Le x y ↔ x ≤ y := by
  rw [Time.Le, compare_rat]
  exact (Ordering.isLE_iff_ne_gt).trans compare_le_iff_le

instance : Forward ℚ := by
  refine forward_of_nonneg (fun x => ?_) (fun l s => ?_) fun c d hd => ?_
  · rw [le_rat_iff]
    change (0 : ℚ) ≤ if x < 0 then 0 else x
    split
    · exact le_rfl
    · rename_i hx
      exact not_lt.mp hx
  · exact le_rat_iff.mpr (div_nonneg (Nat.cast_nonneg _) (Nat.cast_nonneg _))
  · exact le_rat_iff.mpr (le_add_of_nonneg_right (le_rat_iff.mp hd))

lemma max_of_le_rat {x y : ℚ} (h : Time.Le x y) : Time.max x y = y ∧ Time.max y x = y := by
  have h : x ≤ y := le_rat_iff.mp h
  change (if x < y then y else x) = y ∧ (if y < x then x else y) = y
  rw [if_neg (not_lt.mpr h)]
  refine ⟨?_, rfl⟩
  split
  · rfl
  · rename_i hl
    exact le_antisymm h (not_lt.mp hl)

instance : Chronological ℚ where
  max_of_le _ _ h := max_of_le_rat h

lemma toNat_max_one_ne_zero (n : UInt64) : (max n 1).toNat ≠ 0 := by
  rw [UInt64.toNat_max]
  exact (Nat.lt_of_lt_of_le Nat.one_pos (Nat.le_max_right _ _)).ne'

namespace Binary64

variable {x y : Binary64}

lemma toNat_rank (h : x.isNegative = false) : x.rank.toNat = x.bits.toNat + 2 ^ 63 := by
  have hb := isNegative_eq_false_iff.mp h
  rw [rank, h, if_neg Bool.false_ne_true, UInt64.toNat_or]
  exact Nat.or_two_pow_eq_add_of_lt hb

lemma toNat_rank_lt (h : x.isNegative = true) : x.rank.toNat < 2 ^ 63 := by
  have hb : ¬ x.bits.toNat < 2 ^ 63 := by
    rw [← isNegative_eq_false_iff, h]
    decide
  have hs : UInt64.size = 2 ^ 64 := rfl
  rw [rank, h, if_pos rfl, UInt64.toNat_not]
  omega

lemma le_iff_rank : Time.Le x y ↔ x.rank.toNat ≤ y.rank.toNat := by
  rw [← UInt64.le_iff_toNat_le]
  exact Std.isLE_compare (a := x.rank)

lemma isNegative_of_le (h : Time.Le zero x) : x.isNegative = false := by
  by_contra hn
  have hr := toNat_rank_lt (Bool.eq_true_of_not_eq_false hn)
  rw [le_iff_rank, toNat_rank plain_zero.isNegative] at h
  omega

lemma plain_of_delay {d : Binary64} (h : Delay d) : Plain d ∨ d = negativeZero := by
  cases h with
  | none => exact .inl plain_zero
  | rest x => exact x.max_zero
  | work length speed => exact .inl (plain_quotient _ _ (toNat_max_one_ne_zero speed))

instance : Forward Binary64 where
  le_add {c d} hc hd := by
    have hn := isNegative_of_le hc
    cases hx : c.isNaN with
    | true =>
      have ha : Time.add c d = c := by
        change lift _ c d = c
        rw [lift, hx, if_pos rfl]
      rw [ha]
      exact .refl c
    | false =>
      obtain ⟨hp, hl⟩ := Plain.add ⟨hx, hn⟩ (plain_of_delay hd)
      refine le_iff_rank.mpr ?_
      change c.rank.toNat ≤ (c.add d).rank.toNat
      rw [toNat_rank hn, toNat_rank hp.isNegative]
      exact Nat.add_le_add_right hl _

lemma plain_of_shown (h : Shown x) : Plain x := by
  induction h with
  | zero => exact plain_zero
  | later _ hd ih => exact (ih.add (plain_of_delay hd)).1

lemma le_iff_of_plain (hx : Plain x) (hy : Plain y) : Time.Le x y ↔ x.bits.toNat ≤ y.bits.toNat := by
  rw [le_iff_rank, toNat_rank hx.isNegative, toNat_rank hy.isNegative]
  exact Nat.add_le_add_iff_right

instance : Chronological Binary64 where
  max_of_le {x y} hx hy h := by
    have hx := plain_of_shown hx
    have hy := plain_of_shown hy
    have hl := (le_iff_of_plain hx hy).mp h
    have hm (a b : Binary64) (ha : Plain a) (hb : Plain b) :
        a.max b = if a.bits.toNat < b.bits.toNat then b else a := by
      rw [Binary64.max, ha.isNaN, hb.isNaN, if_neg Bool.false_ne_true, if_neg Bool.false_ne_true]
      simp only [toFloat_lt_iff ha.isNaN hb.isNaN, ha.place, hb.place, Nat.cast_lt]
    refine ⟨(hm x y hx hy).trans ?_, (hm y x hy hx).trans (if_neg (Nat.not_lt.mpr hl))⟩
    split
    · rfl
    · rename_i hn
      cases x
      cases y
      exact congrArg _ (UInt64.toNat_inj.mp (Nat.le_antisymm hl (Nat.not_lt.mp hn)))

end Binary64

end Dispatch
