import Dispatch.Workflow.Basic
import Mathlib.Tactic

namespace Dispatch

namespace Table

lemma toList_insert_of_notMem {α : Type*} {t : Table α} {k : ℕ} (h : k ∉ t.keys) (a : α) :
    (t.insert k a).toList = t.toList ++ [(k, a)] := by
  rw [toList, toList, keys_insert, if_neg h, Array.toList_push, List.filterMap_append]
  congr 1
  · apply List.filterMap_congr
    intro j hj
    rw [get?_insert, if_neg]
    rintro rfl
    exact h (Array.mem_toList_iff.mp hj)
  · simp [get?_insert]

lemma map_fst_toList {α : Type*} (t : Table α) : t.toList.map Prod.fst = t.keys.toList := by
  rw [toList, List.map_filterMap, ← List.filterMap_some (l := t.keys.toList)]
  rw [List.filterMap_filterMap]
  apply List.filterMap_congr
  intro k hk
  obtain ⟨a, ha⟩ := (t.mem_keys_iff k).mp (Array.mem_toList_iff.mp hk)
  simp [ha]

lemma map_snd_toList {α : Type*} (t : Table α) : t.toList.map Prod.snd = t.values := by
  rw [toList, List.map_filterMap, values]
  apply List.filterMap_congr
  intro k _
  cases t.get? k <;> rfl

lemma mem_toList {α : Type*} {t : Table α} {k : ℕ} {a : α} : (k, a) ∈ t.toList ↔ t.get? k = some a := by
  rw [toList, List.mem_filterMap]
  constructor
  · rintro ⟨j, _, hj⟩
    obtain ⟨b, hb, he⟩ := Option.map_eq_some_iff.mp hj
    cases he
    exact hb
  · exact fun h => ⟨k, Array.mem_toList_iff.mpr ((t.mem_keys_iff k).mpr ⟨a, h⟩), by rw [h]; rfl⟩

end Table

namespace Workflow

variable {τ : Type} {g : Workflow τ} {t : Task τ}

lemma ids_insertTask (h : t.id ∉ g.ids) : (g.insertTask t).ids = g.ids ++ [t.id] := by
  rw [ids, Array.mem_toList_iff] at h
  rw [ids, insertTask, Table.keys_insert, if_neg h, Array.toList_push, ids]

lemma foldl_insertTask (l : List (Task τ)) (g : Workflow τ) (h : (g.ids ++ l.map Task.id).Nodup) :
    (l.foldl insertTask g).tasks.toList = g.tasks.toList ++ l.map (fun t => (t.id, t)) ∧
      (l.foldl insertTask g).links = g.links ∧ (l.foldl insertTask g).root? = g.root? := by
  induction l generalizing g with
  | nil => simp
  | cons t l ih =>
    have ht : t.id ∉ g.ids := fun hi => (List.nodup_append.mp h).2.2 _ hi _ List.mem_cons_self rfl
    obtain ⟨hl, hr⟩ := ih (g.insertTask t) (by simpa [ids_insertTask ht] using h)
    refine ⟨?_, hr⟩
    have hk : t.id ∉ g.tasks.keys := fun hi => ht (Array.mem_toList_iff.mpr hi)
    rw [List.foldl_cons, hl, insertTask, Table.toList_insert_of_notMem hk, List.append_assoc]
    rfl

end Workflow

end Dispatch
