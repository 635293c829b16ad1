import Dispatch.Proofs.Workflow.Cycles

/-! The traversal with a stack lists the tasks in the order in which a recursive exploration finds them. -/

namespace Dispatch.Workflow

open Relation

variable {τ : Type} {g : Workflow τ} {seen : Finset TaskId} {ids : List TaskId} {id p c : TaskId}

lemma unseen_ssubset (h : g.contains id = true) (hs : id ∉ seen) (more : Finset TaskId) :
    g.ids.toFinset \ (insert id seen ∪ more) ⊂ g.ids.toFinset \ seen := by
  refine Finset.ssubset_iff_subset_ne.mpr ⟨fun x hx => ?_, fun he => ?_⟩
  · rw [Finset.mem_sdiff, Finset.mem_union, Finset.mem_insert, not_or, not_or] at hx
    exact Finset.mem_sdiff.mpr ⟨hx.1, hx.2.1.2⟩
  · have hi : id ∈ g.ids.toFinset \ seen :=
      Finset.mem_sdiff.mpr ⟨List.mem_toFinset.mpr (g.mem_ids.mpr h), hs⟩
    rw [← he, Finset.mem_sdiff] at hi
    exact hi.2 (Finset.mem_union_left _ (Finset.mem_insert_self id seen))

/-- What is found from some identifiers, taken in turn. One that is no task or was seen already leads to nothing;
any other is found itself, then whatever is found from its children. All that was found has been seen. -/
def explore (g : Workflow τ) : List TaskId → Finset TaskId → List TaskId
  | [], _ => []
  | id :: ids, seen =>
    if g.contains id = true ∧ id ∉ seen then
      let below := g.explore (g.children id) (insert id seen)
      id :: (below ++ g.explore ids (insert id seen ∪ below.toFinset))
    else g.explore ids seen
termination_by ids seen => ((g.ids.toFinset \ seen).card, ids.length)
decreasing_by
  · rename_i h
    have hc := Finset.card_lt_card (unseen_ssubset h.1 h.2 ∅)
    rw [Finset.union_empty] at hc
    exact Prod.Lex.left _ _ hc
  · rename_i h
    exact Prod.Lex.left _ _ (Finset.card_lt_card (unseen_ssubset h.1 h.2 _))
  · exact Prod.Lex.right _ (Nat.lt_succ_self _)

-- what has been seen when some identifiers were explored
def explored (g : Workflow τ) (ids : List TaskId) (seen : Finset TaskId) : Finset TaskId :=
  seen ∪ (g.explore ids seen).toFinset

variable (g seen)

@[simp] lemma explore_nil : g.explore [] seen = [] := by rw [explore]

variable {g seen}

lemma explore_of_fresh (h : g.contains id = true) (hs : id ∉ seen) : g.explore (id :: ids) seen =
    id :: (g.explore (g.children id) (insert id seen) ++
      g.explore ids (g.explored (g.children id) (insert id seen))) := by
  rw [explore, if_pos ⟨h, hs⟩, explored]

lemma explore_of_stale (h : ¬ (g.contains id = true ∧ id ∉ seen)) :
    g.explore (id :: ids) seen = g.explore ids seen := by
  rw [explore, if_neg h]

lemma explored_of_fresh (h : g.contains id = true) (hs : id ∉ seen) :
    g.explored (id :: ids) seen = g.explored ids (g.explored (g.children id) (insert id seen)) := by
  ext x
  rw [explored, explore_of_fresh h hs]
  simp only [explored, Finset.mem_union, Finset.mem_insert, List.mem_toFinset, List.mem_cons, List.mem_append]
  tauto

lemma explored_of_stale (h : ¬ (g.contains id = true ∧ id ∉ seen)) :
    g.explored (id :: ids) seen = g.explored ids seen := by
  rw [explored, explore_of_stale h, explored]

lemma explore_append (l m : List TaskId) (seen : Finset TaskId) :
    g.explore (l ++ m) seen = g.explore l seen ++ g.explore m (g.explored l seen) := by
  fun_induction explore g l seen with
  | case1 seen => simp [explored]
  | case2 id l seen h below ihb ihl =>
    rw [List.cons_append, explore_of_fresh h.1 h.2, explored_of_fresh h.1 h.2, List.cons_append, List.append_assoc]
    exact congrArg _ (congrArg _ ihl)
  | case3 id l seen h ih => rw [List.cons_append, explore_of_stale h, explored_of_stale h, ih]

-- how many identifiers can still be put on the stack
def linksAhead (g : Workflow τ) (seen : Finset TaskId) : ℕ :=
  ∑ p ∈ g.links.keys.toList.toFinset \ seen, (g.children p).length

lemma linksAhead_empty : g.linksAhead ∅ = g.linkCount := by
  rw [linksAhead, Finset.sdiff_empty, List.sum_toFinset _ g.links.nodup, linkCount, families_eq, total_eq_sum,
    List.map_map]
  rfl

lemma linksAhead_insert (h : id ∉ seen) :
    g.linksAhead (insert id seen) + (g.children id).length = g.linksAhead seen := by
  rw [linksAhead, linksAhead, Finset.sdiff_insert]
  by_cases hk : id ∈ g.links.keys.toList.toFinset
  · exact Finset.sum_erase_add _ _ (Finset.mem_sdiff.mpr ⟨hk, h⟩)
  · have hc : g.children id = [] := by
      by_contra hn
      obtain ⟨c, hc⟩ := List.exists_mem_of_ne_nil _ hn
      exact hk (List.mem_toFinset.mpr (Array.mem_toList_iff.mpr (g.mem_links_of_mem_children hc)))
    rw [hc, Finset.erase_eq_of_notMem fun hm => hk (Finset.mem_sdiff.mp hm).1]
    rfl

lemma visit_eq_explore (n : ℕ) (stack : List TaskId) (visited : Std.TreeSet Nat) (order : Array TaskId)
    (seen : Finset TaskId) (hv : ∀ id, visited.contains id = true ↔ id ∈ seen)
    (hn : stack.length + g.linksAhead seen ≤ n) :
    (g.visit n stack visited order).toList = order.toList ++ g.explore stack seen := by
  -- the stack holds what is still to be explored, and there are steps enough to take all of it off
  fun_induction visit g n stack visited order generalizing seen with
  | case1 stack visited order =>
    have hs : stack = [] := List.length_eq_zero_iff.mp (by omega)
    rw [hs, explore_nil, List.append_nil]
  | case2 => rw [explore_nil, List.append_nil]
  | case3 n id stack visited order hc ih =>
    rw [Bool.and_eq_true, Bool.not_eq_true', ← Bool.not_eq_true, hv] at hc
    have ha := linksAhead_insert (g := g) hc.2
    have hi (k : TaskId) : (visited.insert id).contains k = true ↔ k ∈ insert id seen := by
      rw [Std.TreeSet.contains_insert, Bool.or_eq_true, beq_iff_eq, Nat.compare_eq_eq, hv, Finset.mem_insert,
        eq_comm]
    have hl : (g.children id ++ stack).length + g.linksAhead (insert id seen) ≤ n := by
      rw [List.length_cons] at hn
      rw [List.length_append]
      omega
    rw [ih _ hi hl, explore_append, explore_of_fresh hc.1 hc.2, Array.toList_push, List.append_assoc]
    rfl
  | case4 n id stack visited order hc ih =>
    rw [Bool.and_eq_true, Bool.not_eq_true', ← Bool.not_eq_true, hv] at hc
    rw [ih seen hv (by rw [List.length_cons] at hn; omega), explore_of_stale hc]

lemma preorder_eq_explore (g : Workflow τ) : g.preorder = g.explore g.starts ∅ := by
  rw [preorder, visit_eq_explore _ _ _ _ ∅ (fun id => by simp) (by rw [linksAhead_empty])]
  rfl

lemma sources_eq (g : Workflow τ) : g.sources = g.ids.filter fun id => g.parents id = [] := by
  apply List.filter_congr
  intro id _
  rw [contains_targets, decide_eq_decide.mpr g.parents_eq_nil_iff, decide_not]

end Dispatch.Workflow
