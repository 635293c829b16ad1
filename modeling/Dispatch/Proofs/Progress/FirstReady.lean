import Dispatch.Proofs.Progress.Counters
import Dispatch.Proofs.Workflow.Exploration

namespace Dispatch

namespace Workflow

variable {τ : Type} {g : Workflow τ} {seen : Finset TaskId} {ids : List TaskId} {id : TaskId}

lemma parents_ne_nil {p : TaskId} (h : id ∈ g.children p) : g.parents id ≠ [] :=
  List.ne_nil_of_mem (g.mem_parents.mpr h)

-- no link leads to a task without parents, so that it is found at its own turn only
lemma filter_explore (hn : ids.Nodup)
    (hs : ∀ id ∈ ids, g.parents id = [] → g.contains id = true ∧ id ∉ seen) :
    (g.explore ids seen).filter (fun id => g.parents id = []) = ids.filter fun id => g.parents id = [] := by
  fun_induction explore g ids seen with
  | case1 => rfl
  | case2 id ids seen hf below ihb ihl =>
    obtain ⟨hi, hn⟩ := List.nodup_cons.mp hn
    have hb : below.filter (fun id => g.parents id = []) = [] := by
      rw [ihb (g.nodup_children id) fun c hc hp => (parents_ne_nil hc hp).elim]
      exact List.filter_eq_nil_iff.mpr fun c hc => by simpa using parents_ne_nil hc
    have hl := ihl hn fun k hk hp => by
      obtain ⟨ht, hv⟩ := hs k (List.mem_cons_of_mem id hk) hp
      refine ⟨ht, fun hm => ?_⟩
      rcases Finset.mem_union.mp hm with hm | hm
      · rcases Finset.mem_insert.mp hm with rfl | hm
        · exact hi hk
        · exact hv hm
      · exact (List.filter_eq_nil_iff.mp hb) k (List.mem_toFinset.mp hm) (by simpa using hp)
    rw [List.filter_cons, List.filter_cons, List.filter_append, hb, hl]
    rfl
  | case3 id ids seen hf ih =>
    have hp : g.parents id ≠ [] := fun hp => hf (hs id List.mem_cons_self hp)
    rw [List.filter_cons_of_neg (by simpa using hp)]
    exact ih (List.nodup_cons.mp hn).2 fun k hk => hs k (List.mem_cons_of_mem id hk)

lemma mem_sources : id ∈ g.sources ↔ g.contains id = true ∧ g.parents id = [] := by
  rw [sources_eq, List.mem_filter, mem_ids, decide_eq_true_eq]

lemma filter_preorder (g : Workflow τ) :
    g.preorder.filter (fun id => g.parents id = []) = g.starts.filter fun id => g.parents id = [] := by
  have hs : g.starts.Nodup ∧ ∀ id ∈ g.starts, g.contains id = true := by
    rw [starts]
    cases hr : g.root? with
    | some root =>
      refine ⟨List.nodup_singleton root, fun id hi => ?_⟩
      rw [List.mem_singleton.mp hi]
      exact g.contains_root root hr
    | none => exact ⟨g.nodup_ids.filter _, fun id hi => (mem_sources.mp hi).1⟩
  rw [preorder_eq_explore]
  exact filter_explore hs.1 fun id hi _ => ⟨hs.2 id hi, Finset.notMem_empty id⟩

end Workflow

namespace Progress

open Workflow

variable {τ : Type} {id : TaskId}

lemma ready_begun (g : Workflow τ) : (begun g).ready.toList =
    g.starts.filter (fun id => g.parents id = []) ++ g.sources.filter (· ∉ g.starts) := by
  have hc : ∀ id ∈ g.preorderAll, (g.parentCounts.get? id == some 0) = decide (g.parents id = []) := by
    intro id hi
    obtain ⟨t, ht⟩ := g.contains_iff_task?.mp (g.mem_ids.mp (g.preorderAll_perm.subset hi))
    rw [get?_parentCounts, ht, Bool.eq_iff_iff, beq_iff_eq, decide_eq_true_eq, Option.map_some, Option.some_inj,
      List.length_eq_zero_iff]
  rw [begun, Queue.toList_ofList, List.filter_congr hc, preorderAll_eq, List.filter_append, filter_preorder,
    sources_eq, List.filter_comm]
  congr 1
  apply List.filter_congr
  intro id hi
  have hp : decide (g.parents id = []) = true := (List.mem_filter.mp hi).2
  -- a task without parents is listed only where the traversal starts
  have hm : id ∈ g.preorder ↔ id ∈ g.starts := by
    have h := congrArg (id ∈ ·) g.filter_preorder
    simpa only [List.mem_filter, hp, and_true, eq_iff_iff] using h
  rw [decide_eq_decide, hm]

/-- At the outset the tasks without parents are ready and all others are blocked. The root comes first if it has no
parents, and the tasks follow as they were added. -/
theorem first_ready (r r' : Progress τ) (g : Workflow τ) (h : r.start g = .ok r') :
    let sources := g.ids.filter fun id => g.parents id = []
    (r'.ready.toList = match g.root? with
      | some root => if g.parents root = [] then root :: sources.filter (· ≠ root) else sources
      | none => sources) ∧
    r'.ready.toList.Nodup ∧ (∀ id, id ∈ r'.ready.toList ↔ id ∈ g.sources) ∧
    ∀ id, r'.phase? id =
      if g.contains id = true then some (if g.parents id = [] then .ready else .blocked) else none := by
  obtain ⟨_, hg, rfl⟩ := start_eq_ok h
  intro sources
  have hs : g.sources = sources := g.sources_eq
  have hp (id : TaskId) : (begun g).phase? id =
      if g.contains id = true then some (if g.parents id = [] then .ready else .blocked) else none := by
    rw [phase?_begun]
    cases ht : g.task? id with
    | none =>
      have hc : ¬ g.contains id = true := fun hi => by
        obtain ⟨t, hm⟩ := g.contains_iff_task?.mp hi
        cases ht.symm.trans hm
      rw [if_neg hc, Option.map_none]
    | some t => simp only [if_pos (g.contains_iff_task?.mpr ⟨t, ht⟩), Option.map_some, List.length_eq_zero_iff]
  refine ⟨?_, (sound_begun hg).nodup_ready, fun id => ?_, hp⟩
  · rw [ready_begun, starts]
    cases hr : g.root? with
    | none =>
      have ha : g.sources.filter (fun id => g.parents id = []) = g.sources := by
        rw [List.filter_eq_self]
        exact fun id hi => decide_eq_true (mem_sources.mp hi).2
      have hn : g.sources.filter (· ∉ g.sources) = [] := by
        rw [List.filter_eq_nil_iff]
        exact fun id hi => by simpa using hi
      change g.sources.filter (fun id => g.parents id = []) ++ g.sources.filter (· ∉ g.sources) = sources
      rw [ha, hn, List.append_nil, hs]
    | some root =>
      simp only [List.mem_singleton, hs]
      split
      case isTrue hn => rw [List.filter_cons_of_pos (by simpa using hn)]; rfl
      case isFalse hn =>
        rw [List.filter_cons_of_neg (by simpa using hn), List.filter_nil, List.nil_append, List.filter_eq_self, ← hs]
        exact fun id hi => decide_eq_true fun he => hn (he ▸ (mem_sources.mp hi).2)
  · rw [(sound_begun hg).mem_ready, hp, mem_sources]
    by_cases hi : g.contains id = true <;> by_cases hn : g.parents id = [] <;> simp [hi, hn]

theorem first_ready_root :
    let task (id : TaskId) : Task Rat := .ofCost id "" 0 (.sequential 1 1 1)
    let g := ((((Workflow.empty.insertTask (task 2)).insertTask (task 0)).insertRoot (task 1)).insertTask
      (task 3)).link 1 3
    let bound := g.link 3 1
    (begun g).ready.toList = [1, 2, 0] ∧ (begun bound).ready.toList = [2, 0] ∧
      (begun bound).phase? 1 = some .blocked := by
  intro task g bound
  have hg : empty.start g = .ok (begun g) :=
    start_of_closed rfl (g.danglingLink?_eq_none_iff.mp (by decide +kernel))
  have hb : empty.start bound = .ok (begun bound) :=
    start_of_closed rfl (bound.danglingLink?_eq_none_iff.mp (by decide +kernel))
  obtain ⟨hr, -⟩ := first_ready empty (begun g) g hg
  obtain ⟨hl, -, -, hp⟩ := first_ready empty (begun bound) bound hb
  exact ⟨hr.trans (by decide +kernel), hl.trans (by decide +kernel), (hp 1).trans (by decide +kernel)⟩

end Progress

end Dispatch
