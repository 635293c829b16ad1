import Dispatch.Table
import Dispatch.Total
import Mathlib.Tactic

/-! Totals and counts when a measure changes at one place, and over the values of a table. -/

namespace Dispatch

variable {α : Type*}

lemma total_eq_sum (f : α → ℕ) (l : List α) : total f l = (l.map f).sum := by
  induction l with
  | nil => rfl
  | cons a l ih => rw [total_cons, List.map_cons, List.sum_cons, ih]

lemma total_congr {f g : α → ℕ} {l : List α} (h : ∀ a ∈ l, f a = g a) : total f l = total g l := by
  rw [total_eq_sum, total_eq_sum, List.map_congr_left h]

lemma total_eq_zero {f : α → ℕ} {l : List α} (h : ∀ a ∈ l, f a = 0) : total f l = 0 := by
  rw [total_congr h, total_eq_sum]
  simp

lemma le_total (f : α → ℕ) {l : List α} {a : α} (h : a ∈ l) : f a ≤ total f l := by
  rw [total_eq_sum]
  exact List.le_sum_of_mem (List.mem_map_of_mem h)

lemma total_filter (f : α → ℕ) (p : α → Bool) (l : List α) :
    total f (l.filter p) = total (fun a => if p a = true then f a else 0) l := by
  induction l with
  | nil => rfl
  | cons a l ih => cases hp : p a <;> simp [hp, ih]

lemma total_subset {f : α → ℕ} {l m : List α} (hl : l.Nodup) (hm : m.Nodup) (hs : l ⊆ m)
    (h : ∀ a ∈ m, a ∉ l → f a = 0) : total f l = total f m := by
  classical
  have hp : l.Perm (m.filter (· ∈ l)) := by
    refine (List.perm_ext_iff_of_nodup hl (hm.filter _)).mpr fun a => ?_
    rw [List.mem_filter, decide_eq_true_eq]
    exact ⟨fun ha => ⟨hs ha, ha⟩, And.right⟩
  rw [total_perm f hp, total_filter]
  refine total_congr fun a ha => ?_
  by_cases hl : a ∈ l
  · simp [hl]
  · simp [hl, h a ha hl]

lemma total_add (f g : α → ℕ) (l : List α) : total (fun a => f a + g a) l = total f l + total g l := by
  induction l with
  | nil => rfl
  | cons a l ih =>
    simp only [total_cons, ih]
    omega

lemma total_update {f g : α → ℕ} {l : List α} {a : α} (hl : l.Nodup) (ha : a ∈ l)
    (h : ∀ b ∈ l, b ≠ a → f b = g b) : total f l + g a = total g l + f a := by
  obtain ⟨s, t, rfl⟩ := List.append_of_mem ha
  obtain ⟨_, hc, hd⟩ := List.nodup_append.mp hl
  have hs : total f s = total g s := by
    refine total_congr fun b hb => h b (List.mem_append_left _ hb) ?_
    exact hd b hb a List.mem_cons_self
  have ht : total f t = total g t := by
    refine total_congr fun b hb => h b (List.mem_append_right _ (List.mem_cons_of_mem a hb)) ?_
    rintro rfl
    exact (List.nodup_cons.mp hc).1 hb
  simp only [total_append, total_cons, hs, ht]
  omega

lemma add_le_total (f : α → ℕ) {l : List α} {a b : α} (hl : l.Nodup) (ha : a ∈ l) (hb : b ∈ l) (hab : a ≠ b) :
    f a + f b ≤ total f l := by
  classical
  have ht := total_update (f := f) (g := Function.update f a 0) hl ha fun c _ hc =>
    (Function.update_of_ne hc _ _).symm
  have hf := le_total (Function.update f a 0) hb
  rw [Function.update_self] at ht
  rw [Function.update_of_ne hab.symm] at hf
  omega

lemma total_range (f : α → ℕ) (l : List α) :
    total (fun i => (l[i]?.map f).getD 0) (List.range l.length) = total f l := by
  rw [total_eq_sum, total_eq_sum]
  congr 1
  apply List.ext_getElem (by simp)
  intro i hi _
  have hl : i < l.length := by simpa using hi
  simp [hl]

lemma countP_eq_total (p : α → Bool) (l : List α) : l.countP p = total (fun a => (p a).toNat) l := by
  induction l with
  | nil => rfl
  | cons a l ih => cases hp : p a <;> simp [hp, ih, Nat.add_comm]

lemma countP_update {p q : α → Bool} {l : List α} {a : α} (hl : l.Nodup) (ha : a ∈ l)
    (h : ∀ b ∈ l, b ≠ a → p b = q b) : l.countP p + (q a).toNat = l.countP q + (p a).toNat := by
  simp only [countP_eq_total]
  exact total_update hl ha fun b hb hne => congrArg Bool.toNat (h b hb hne)

lemma total_single {m : List ℕ} (hm : m.Nodup) {u : ℕ} (hu : u ∈ m) :
    total (fun v => (some u == some v).toNat) m = 1 := by
  rw [← countP_eq_total]
  have hc := List.count_eq_one_of_mem hm hu
  rw [← hc, List.count]
  apply List.countP_congr
  intro v _
  simp only [beq_iff_eq, Option.some.injEq]
  exact eq_comm

lemma total_fibres (p : α → Bool) (f : α → Option ℕ) {m : List ℕ} (hm : m.Nodup) {l : List α}
    (h : ∀ a ∈ l, p a = true → ∃ u ∈ m, f a = some u) :
    total (fun u => l.countP fun a => p a && f a == some u) m = l.countP p := by
  induction l with
  | nil => simp [total_eq_sum]
  | cons a l ih =>
    have hl := ih fun b hb => h b (List.mem_cons_of_mem a hb)
    have ha : total (fun u => (p a && f a == some u).toNat) m = (p a).toNat := by
      cases hp : p a with
      | false => simp [total_eq_sum]
      | true =>
        obtain ⟨u, hu, hf⟩ := h a List.mem_cons_self hp
        simpa only [hf, Bool.true_and, Bool.toNat_true] using total_single hm hu
    have hs (q : α → Bool) : (a :: l).countP q = l.countP q + (q a).toNat := by
      cases hq : q a <;> simp [hq]
    simp only [hs, total_add, hl, ha]

namespace Table

lemma total_values (t : Table α) (f : α → ℕ) :
    total f t.values = total (fun k => ((t.get? k).map f).getD 0) t.keys.toList := by
  rw [values]
  induction t.keys.toList with
  | nil => rfl
  | cons k l ih => cases hk : t.get? k <;> simp [hk, ih]

lemma countP_values (t : Table α) (p : α → Bool) :
    t.values.countP p = t.keys.toList.countP fun k => (t.get? k).any p := by
  rw [values, List.countP_filterMap]
  apply List.countP_congr
  intro k _
  cases t.get? k <;> simp

lemma values_congr {t u : Table α} (hk : u.keys = t.keys) (h : ∀ j, u.get? j = t.get? j) :
    u.values = t.values := by
  rw [values, values, hk]
  exact List.filterMap_congr fun j _ => h j

lemma total_values_change {t u : Table α} {k : ℕ} {a b : α} (f : α → ℕ) (hk : u.keys = t.keys)
    (ha : t.get? k = some a) (hb : u.get? k = some b) (ho : ∀ j, j ≠ k → u.get? j = t.get? j) :
    total f u.values + f a = total f t.values + f b := by
  have hm : k ∈ t.keys.toList := Array.mem_toList_iff.mpr ((t.mem_keys_iff k).mpr ⟨a, ha⟩)
  have hu := total_update (f := fun k => ((u.get? k).map f).getD 0)
    (g := fun k => ((t.get? k).map f).getD 0) t.nodup hm fun j _ hj => by rw [ho j hj]
  simpa only [total_values, hk, ha, hb, Option.map_some, Option.getD_some] using hu

end Table

section gathered

variable {σ ι α : Type*} {step : σ → ι → σ} {yields : σ → ι → List α}

def gathered (step : σ → ι → σ) (yields : σ → ι → List α) : σ → List ι → List α
  | _, [] => []
  | s, x :: xs => yields s x ++ gathered step yields (step s x) xs

lemma gathered_append (s : σ) (xs ys : List ι) : gathered step yields s (xs ++ ys) =
    gathered step yields s xs ++ gathered step yields (xs.foldl step s) ys := by
  induction xs generalizing s with
  | nil => rfl
  | cons x xs ih =>
    rw [List.cons_append, gathered, ih, ← List.append_assoc]
    rfl

lemma gathered_concat (s : σ) (xs : List ι) (x : ι) : gathered step yields s (xs ++ [x]) =
    gathered step yields s xs ++ yields (xs.foldl step s) x := by
  rw [gathered_append, gathered, gathered, List.append_nil]

lemma forall_mem_gathered {P : σ → List ι → Prop} {Q : α → Prop} {s : σ} {xs : List ι}
    (hp : ∀ s x xs, P s (x :: xs) → (∀ a ∈ yields s x, Q a) ∧ P (step s x) xs) (h : P s xs) :
    ∀ a ∈ gathered step yields s xs, Q a := by
  induction xs generalizing s with
  | nil =>
    intro a ha
    cases ha
  | cons x xs ih =>
    obtain ⟨hq, hn⟩ := hp s x xs h
    intro a ha
    rcases List.mem_append.mp ha with ha | ha
    · exact hq a ha
    · exact ih hn a ha

end gathered

end Dispatch
