import Dispatch.Proofs.Workflow.Links

namespace Dispatch.Workflow

variable {τ : Type} (g : Workflow τ)

structure Listed (visited : Std.TreeSet Nat) (order : Array TaskId) : Prop where
  nodup : order.toList.Nodup
  marked : ∀ id ∈ order, visited.contains id = true
  task : ∀ id ∈ order, g.contains id = true

lemma Listed.push {g : Workflow τ} {visited : Std.TreeSet Nat} {order : Array TaskId} {id : TaskId}
    (h : Listed g visited order) (hg : g.contains id = true) (hv : visited.contains id = false) :
    Listed g (visited.insert id) (order.push id) where
  nodup := by
    rw [Array.toList_push, List.nodup_append]
    refine ⟨h.nodup, List.nodup_singleton id, ?_⟩
    rintro a ha b hb rfl
    rw [List.mem_singleton.mp hb] at ha
    rw [h.marked id (Array.mem_toList_iff.mp ha)] at hv
    cases hv
  marked a ha := by
    rw [Std.TreeSet.contains_insert, Bool.or_eq_true, beq_iff_eq]
    rcases Array.mem_push.mp ha with ha | rfl
    · exact Or.inr (h.marked a ha)
    · exact Or.inl (by simp)
  task a ha := by
    rcases Array.mem_push.mp ha with ha | rfl
    · exact h.task a ha
    · exact hg

lemma visit_listed (n : ℕ) (stack : List TaskId) (visited : Std.TreeSet Nat) (order : Array TaskId)
    (h : Listed g visited order) : ∃ v, Listed g v (g.visit n stack visited order) := by
  fun_induction visit g n stack visited order with
  | case1 => exact ⟨_, h⟩
  | case2 => exact ⟨_, h⟩
  | case3 n id stack visited order hc ih =>
    rw [Bool.and_eq_true, Bool.not_eq_true'] at hc
    exact ih (h.push hc.1 hc.2)
  | case4 n id stack visited order hc ih => exact ih h

lemma preorder_listed : g.preorder.Nodup ∧ ∀ id ∈ g.preorder, g.contains id = true := by
  obtain ⟨v, hv⟩ := g.visit_listed (g.starts.length + g.linkCount) g.starts ∅ #[]
    ⟨List.nodup_nil, by simp, by simp⟩
  exact ⟨hv.nodup, fun id h => hv.task id (Array.mem_toList_iff.mp h)⟩

lemma contains_foldl_insert (l : List ℕ) (s : Std.TreeSet Nat) (k : ℕ) :
    (l.foldl (·.insert ·) s).contains k = (s.contains k || decide (k ∈ l)) := by
  induction l generalizing s with
  | nil => simp
  | cons a l ih =>
    rw [List.foldl_cons, ih, Bool.eq_iff_iff]
    simp only [Bool.or_eq_true, Std.TreeSet.contains_insert, beq_iff_eq, decide_eq_true_eq,
      List.mem_cons, Nat.compare_eq_eq]
    tauto

lemma contains_targets (id : TaskId) : g.targets.contains id = decide (id ∈ g.linked) := by
  have ht : g.targets = g.linked.foldl (·.insert ·) ∅ := by
    rw [targets, linked, List.foldl_flatMap]
  rw [ht, contains_foldl_insert, Std.TreeSet.contains_emptyc, Bool.false_or]

lemma mem_ids {id : TaskId} : id ∈ g.ids ↔ g.contains id = true := by
  rw [ids, Array.mem_toList_iff, contains, Table.contains_iff]

lemma nodup_ids : g.ids.Nodup := g.tasks.nodup

lemma preorderAll_eq : g.preorderAll = g.preorder ++ g.ids.filter (· ∉ g.preorder) := by
  dsimp only [preorderAll]
  congr 1
  apply List.filter_congr
  intro id _
  simp [contains_foldl_insert]

lemma preorderAll_perm : g.preorderAll.Perm g.ids := by
  obtain ⟨hn, ht⟩ := g.preorder_listed
  refine (List.perm_ext_iff_of_nodup ?_ g.nodup_ids).mpr fun id => ?_
  · rw [preorderAll_eq, List.nodup_append]
    refine ⟨hn, g.nodup_ids.filter _, ?_⟩
    rintro a ha b hb rfl
    simp [ha] at hb
  · rw [preorderAll_eq, List.mem_append, List.mem_filter, mem_ids]
    by_cases h : id ∈ g.preorder <;> simp [h, ht]

end Dispatch.Workflow
