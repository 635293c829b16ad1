import Dispatch.Heap
import Dispatch.Proofs.Totals
import Dispatch.Queue
import Dispatch.Table

namespace Dispatch

section queues

namespace Queue

variable {α β : Type} (f : α → β) (q : Queue α)

def map : Queue β := ⟨q.front.map f, q.back.map f⟩

@[simp] lemma toList_map : (q.map f).toList = q.toList.map f := by simp [map, toList]

@[simp] lemma size_map : (q.map f).size = q.size := by simp [map, size]

lemma map_ofParts (front back : List α) :
    (ofParts front back).map f = ofParts (front.map f) (back.map f) := by
  cases front <;> simp [ofParts, map]

@[simp] lemma map_ofList (l : List α) : (ofList l).map f = ofList (l.map f) := rfl

@[simp] lemma map_enqueue (a : α) : (q.enqueue a).map f = (q.map f).enqueue (f a) :=
  map_ofParts f q.front (a :: q.back)

lemma head?_map : (q.map f).head? = q.head?.map f := by
  rw [head?_eq, toList_map, List.head?_map, head?_eq]

lemma dequeue?_map : (q.map f).dequeue? = q.dequeue?.map fun x => (f x.1, x.2.map f) := by
  obtain ⟨front, back⟩ := q
  cases front with
  | cons a rest => exact congrArg (fun r => some (f a, r)) (map_ofParts f rest back).symm
  | nil =>
    simp only [map, dequeue?, List.map_nil, ← List.map_reverse]
    cases back.reverse <;> rfl

lemma map_foldl_enqueue (l : List α) :
    (l.foldl (·.enqueue ·) q).map f = (l.map f).foldl (·.enqueue ·) (q.map f) := by
  induction l generalizing q with
  | nil => rfl
  | cons a l ih => rw [List.foldl_cons, ih, map_enqueue, List.map_cons, List.foldl_cons]

end Queue

end queues

namespace Heap

variable {α β : Type} {f : α → β} {before : α → α → Bool} {before' : β → β → Bool}

def map (f : α → β) : Heap α → Heap β
  | .empty => .empty
  | .node n a left right => .node n (f a) (left.map f) (right.map f)

@[simp] lemma rank_map (h : Heap α) : (h.map f).rank = h.rank := by cases h <;> rfl

@[simp] lemma min?_map (h : Heap α) : (h.map f).min? = h.min?.map f := by cases h <;> rfl

lemma map_make (a : α) (h k : Heap α) : (make a h k).map f = make (f a) (h.map f) (k.map f) := by
  rw [make, make, rank_map, rank_map]
  split <;> rfl

variable (hb : ∀ a b, before' (f a) (f b) = before a b)

include hb

lemma map_mergeNode (n : ℕ) (a : α) (left right : Heap α) {m : Heap α → Heap α} {m' : Heap β → Heap β}
    (hm : ∀ k, (m k).map f = m' (k.map f)) (k : Heap α) :
    (mergeNode before n a left right m k).map f =
      mergeNode before' n (f a) (left.map f) (right.map f) m' (k.map f) := by
  induction k with
  | empty => rfl
  | node j b l r _ ih =>
    simp only [mergeNode, map, hb]
    split
    · rw [map_make, ih]
    · rw [map_make, hm]
      rfl

lemma map_merge (h k : Heap α) : (merge before h k).map f = merge before' (h.map f) (k.map f) := by
  induction h generalizing k with
  | empty => rfl
  | node n a left right _ ih => exact map_mergeNode hb n a left right ih k

lemma map_insert (h : Heap α) (a : α) : (h.insert before a).map f = (h.map f).insert before' (f a) :=
  map_merge hb _ h

lemma deleteMin?_map (h : Heap α) :
    (h.map f).deleteMin? before' = (h.deleteMin? before).map fun x => (f x.1, x.2.map f) := by
  cases h with
  | empty => rfl
  | node n a left right => exact congrArg (fun r => some (f a, r)) (map_merge hb left right).symm

end Heap

namespace Table

variable {α β γ δ : Type} {ρ : ℕ → ℕ} {f : α → β} {t : Table α} {t' : Table β}

structure Renamed (ρ : ℕ → ℕ) (f : α → β) (t : Table α) (t' : Table β) : Prop where
  keys : t'.keys = t.keys.map ρ
  get? : ∀ k, t'.get? (ρ k) = (t.get? k).map f

namespace Renamed

lemma empty : Renamed ρ f Table.empty Table.empty := ⟨by simp, fun k => by simp⟩

variable (h : Renamed ρ f t t')

include h

lemma contains (k : ℕ) : t'.contains (ρ k) = t.contains k := by
  rw [contains_eq_isSome, h.get?, Option.isSome_map, contains_eq_isSome]

lemma exists_of_get? {k : ℕ} {b : β} (hb : t'.get? k = some b) :
    ∃ j a, ρ j = k ∧ t.get? j = some a ∧ f a = b := by
  have hk := (t'.mem_keys_iff k).mpr ⟨b, hb⟩
  rw [h.keys, Array.mem_map] at hk
  obtain ⟨j, _, rfl⟩ := hk
  rw [h.get?, Option.map_eq_some_iff] at hb
  obtain ⟨a, ha, hb⟩ := hb
  exact ⟨j, a, rfl, ha, hb⟩

lemma get?_eq_none {k : ℕ} (hk : ∀ j, ρ j ≠ k) : t'.get? k = none := by
  rw [Option.eq_none_iff_forall_ne_some]
  intro b hb
  obtain ⟨j, _, hj, _⟩ := h.exists_of_get? hb
  exact hk j hj

lemma size : t'.size = t.size := by
  rw [Table.size, h.keys, Array.size_map, Table.size]

lemma toList : t'.toList = t.toList.map fun x => (ρ x.1, f x.2) := by
  rw [Table.toList, h.keys, Array.toList_map, List.filterMap_map, Table.toList, List.map_filterMap]
  apply List.filterMap_congr
  intro k _
  rw [Function.comp_apply, h.get?]
  cases t.get? k <;> rfl

lemma map {g : ℕ → α → γ} {g' : ℕ → β → δ} {f' : γ → δ} (hg : ∀ k a, g' (ρ k) (f a) = f' (g k a)) :
    Renamed ρ f' (t.map g) (t'.map g') where
  keys := h.keys
  get? k := by
    rw [get?_map, h.get?, get?_map]
    cases t.get? k with
    | none => rfl
    | some a => exact congrArg some (hg k a)

variable (hρ : Function.Injective ρ)

include hρ

lemma insert (k : ℕ) (a : α) : Renamed ρ f (t.insert k a) (t'.insert (ρ k) (f a)) where
  keys := by
    have hk : ρ k ∈ t'.keys ↔ k ∈ t.keys := by
      rw [← contains_iff, h.contains, contains_iff]
    rw [keys_insert, keys_insert, h.keys]
    by_cases hm : k ∈ t.keys
    · rw [if_pos hm, if_pos (h.keys ▸ hk.mpr hm)]
    · rw [if_neg hm, if_neg (h.keys ▸ mt hk.mp hm), Array.map_push]
  get? j := by
    rw [get?_insert, get?_insert, h.get?]
    by_cases hk : k = j
    · rw [if_pos hk, if_pos (congrArg ρ hk), Option.map_some]
    · rw [if_neg hk, if_neg (hρ.ne hk)]

lemma modify (k : ℕ) {g : α → α} {g' : β → β} (hg : ∀ a, g' (f a) = f (g a)) :
    Renamed ρ f (t.modify k g) (t'.modify (ρ k) g') where
  keys := h.keys
  get? j := by
    rw [get?_modify, get?_modify, h.get?, h.get?]
    by_cases hk : k = j
    · rw [if_pos hk, if_pos (congrArg ρ hk)]
      cases t.get? k with
      | none => rfl
      | some a => exact congrArg some (hg a)
    · rw [if_neg hk, if_neg (hρ.ne hk)]

end Renamed

lemma exists_renamed_upTo (hρ : Function.Injective ρ) (f : α → β) (t : Table α) (l : List ℕ) (hn : l.Nodup)
    (hl : ∀ k ∈ l, k ∈ t.keys) : ∃ t' : Table β,
      t'.keys.toList = l.map ρ ∧ ∀ k, t'.get? (ρ k) = if k ∈ l then (t.get? k).map f else none := by
  induction l using List.reverseRecOn with
  | nil => exact ⟨Table.empty, by simp, fun k => by simp⟩
  | append_singleton l k ih =>
    obtain ⟨hn, _, hk⟩ := List.nodup_append.mp hn
    obtain ⟨t', hs, hg⟩ := ih hn fun j hj => hl j (List.mem_append_left _ hj)
    obtain ⟨a, ha⟩ := (t.mem_keys_iff k).mp (hl k (by simp))
    have hm : ρ k ∉ t'.keys := by
      rw [← Array.mem_toList_iff, hs, List.mem_map]
      rintro ⟨j, hj, he⟩
      exact hk j hj k (by simp) (hρ he)
    refine ⟨t'.insert (ρ k) (f a), ?_, fun j => ?_⟩
    · rw [keys_insert, if_neg hm, Array.toList_push, hs, List.map_append, List.map_singleton]
    · rw [get?_insert, hg]
      by_cases hj : k = j
      · subst hj
        simp [ha]
      · simp [Ne.symm hj, hρ.ne hj]

lemma exists_renamed (hρ : Function.Injective ρ) (f : α → β) (t : Table α) :
    ∃ t' : Table β, Renamed ρ f t t' := by
  obtain ⟨t', hs, hg⟩ := exists_renamed_upTo hρ f t t.keys.toList t.nodup
    fun k hk => Array.mem_toList_iff.mp hk
  refine ⟨t', Array.ext' (by rw [hs, Array.toList_map]), fun k => ?_⟩
  rw [hg]
  split
  · rfl
  · rename_i hk
    have hn : t.get? k = none := by
      rw [Option.eq_none_iff_forall_ne_some]
      exact fun a ha => hk (Array.mem_toList_iff.mpr ((t.mem_keys_iff k).mpr ⟨a, ha⟩))
    rw [hn, Option.map_none]

end Table

end Dispatch
