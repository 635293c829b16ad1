import Dispatch.Proofs.Totals
import Dispatch.Workflow.Progress

namespace Dispatch.Workflow

variable {τ : Type} (g : Workflow τ) {p c : TaskId} {cs : List TaskId}

def Closed : Prop := ∀ p c, c ∈ g.children p → g.contains p = true ∧ g.contains c = true

def knot : Workflow Rat :=
  let task (id : TaskId) := Task.ofCost id "" 0 (.sequential 1 1 1)
  ((((empty.insertTask (task 0)).insertTask (task 1)).insertTask (task 2)).link 0 1).link 2 2

lemma contains_iff_task? : g.contains p = true ↔ ∃ t, g.task? p = some t := by
  rw [contains, Table.contains_eq_isSome, task?, Option.isSome_iff_exists]

lemma children_eq_of_get? (h : g.links.get? p = some cs) : g.children p = cs := by
  rw [children, h, Option.getD_some]

lemma mem_links_of_mem_children (h : c ∈ g.children p) : p ∈ g.links.keys := by
  rw [Table.mem_keys_iff]
  cases hp : g.links.get? p with
  | none => simp [children, hp] at h
  | some cs => exact ⟨cs, rfl⟩

lemma families_eq : g.families = g.links.keys.toList.map fun p => (p, g.children p) := by
  rw [families, Table.toList]
  rw [← List.filterMap_eq_map']
  apply List.filterMap_congr
  intro p hp
  obtain ⟨cs, hcs⟩ := (g.links.mem_keys_iff p).mp (Array.mem_toList_iff.mp hp)
  rw [hcs, g.children_eq_of_get? hcs]
  rfl

lemma mem_parents : p ∈ g.parents c ↔ c ∈ g.children p := by
  simp only [parents, List.mem_filter, decide_eq_true_eq, Array.mem_toList_iff]
  exact ⟨And.right, fun h => ⟨g.mem_links_of_mem_children h, h⟩⟩

lemma nodup_parents (c : TaskId) : (g.parents c).Nodup := g.links.nodup.filter _

lemma danglingLink?_eq_none_iff : g.danglingLink? = none ↔ g.Closed := by
  rw [danglingLink?]
  rw [List.findSome?_eq_none_iff, families_eq]
  simp only [List.mem_map, Array.mem_toList_iff, forall_exists_index, and_imp,
    forall_apply_eq_imp_iff₂]
  constructor
  · intro h p c hc
    have hp := h p (g.mem_links_of_mem_children hc)
    split at hp
    · rename_i hk
      rw [Option.map_eq_none_iff, List.find?_eq_none] at hp
      exact ⟨hk, by simpa using hp c hc⟩
    · cases hp
  · intro h p hp
    obtain ⟨cs, hcs⟩ := (g.links.mem_keys_iff p).mp hp
    obtain ⟨c, hc⟩ := List.exists_mem_of_ne_nil _ (g.family p cs hcs).1
    rw [← g.children_eq_of_get? hcs] at hc
    rw [if_pos (h p c hc).1, Option.map_eq_none_iff, List.find?_eq_none]
    exact fun d hd => by simp [(h p d hd).2]

def linked : List TaskId := g.families.flatMap Prod.snd

lemma parentCounts_eq : g.parentCounts =
    g.linked.foldl (fun counts c => counts.modify c (· + 1)) (g.tasks.map fun _ _ => 0) := by
  rw [parentCounts, linked, List.foldl_flatMap]

lemma get?_foldl_modify (l : List TaskId) (t : Table ℕ) (k : TaskId) :
    (l.foldl (fun counts c => counts.modify c (· + 1)) t).get? k =
      (t.get? k).map (· + l.count k) := by
  induction l generalizing t with
  | nil => cases h : t.get? k <;> simp [h]
  | cons c l ih =>
    rw [List.foldl_cons, ih, Table.get?_modify]
    by_cases hc : c = k
    · subst hc
      cases t.get? c <;> simp [Nat.add_assoc, Nat.add_comm 1]
    · simp [hc]

lemma keys_foldl_modify (l : List TaskId) (t : Table ℕ) :
    (l.foldl (fun counts c => counts.modify c (· + 1)) t).keys = t.keys := by
  induction l generalizing t with
  | nil => rfl
  | cons c l ih => rw [List.foldl_cons, ih, Table.keys_modify]

lemma total_modify_le (t : Table ℕ) (c : TaskId) :
    total id (t.modify c (· + 1)).values ≤ total id t.values + 1 := by
  cases h : t.get? c with
  | none =>
    have hv : (t.modify c (· + 1)).values = t.values := by
      apply Table.values_congr (t.keys_modify c _)
      intro j
      rw [Table.get?_modify]
      split
      · rename_i hj
        rw [← hj, h, Option.map_none]
      · rfl
    rw [hv]
    exact Nat.le_succ _
  | some n =>
    have hu := Table.total_values_change id (t.keys_modify c (· + 1)) h
      (by rw [Table.get?_modify, if_pos rfl, h]; rfl)
      (fun j hj => by rw [Table.get?_modify, if_neg (Ne.symm hj)])
    simp only [id] at hu ⊢
    omega

lemma total_foldl_modify_le (l : List TaskId) (t : Table ℕ) :
    total id (l.foldl (fun counts c => counts.modify c (· + 1)) t).values ≤
      total id t.values + l.length := by
  induction l generalizing t with
  | nil => exact le_rfl
  | cons c l ih =>
    have hc := total_modify_le t c
    have hl := ih (t.modify c (· + 1))
    rw [List.foldl_cons, List.length_cons]
    omega

lemma count_linked (c : TaskId) : g.linked.count c = (g.parents c).length := by
  rw [linked, families_eq, List.count_flatMap, parents, ← List.countP_eq_length_filter,
    countP_eq_total, total_eq_sum, List.map_map]
  congr 1
  apply List.map_congr_left
  intro p _
  simp only [Function.comp_apply, (g.nodup_children p).count]
  by_cases h : c ∈ g.children p <;> simp [h]

lemma parents_eq_nil_iff {c : TaskId} : g.parents c = [] ↔ c ∉ g.linked := by
  rw [← List.length_eq_zero_iff, ← count_linked, List.count_eq_zero]

lemma length_linked : g.linked.length = g.linkCount := by
  rw [linked, length_flatMap_eq_total, linkCount]

@[simp] lemma keys_parentCounts : g.parentCounts.keys = g.tasks.keys := by
  rw [parentCounts_eq, keys_foldl_modify, Table.keys_map]

lemma get?_parentCounts (id : TaskId) :
    g.parentCounts.get? id = (g.task? id).map fun _ => (g.parents id).length := by
  rw [parentCounts_eq, get?_foldl_modify, Table.get?_map, count_linked, Option.map_map, task?]
  congr 1
  funext t
  simp

lemma total_parentCounts_le : total id g.parentCounts.values ≤ g.linkCount := by
  have hz : total id (g.tasks.map fun _ _ => 0).values = 0 := by
    rw [Table.total_values]
    apply total_eq_zero
    intro k _
    cases h : g.tasks.get? k <;> simp [h]
  have hl := total_foldl_modify_le g.linked (g.tasks.map fun _ _ => 0)
  rw [← parentCounts_eq, hz, length_linked, Nat.zero_add] at hl
  exact hl

end Dispatch.Workflow
