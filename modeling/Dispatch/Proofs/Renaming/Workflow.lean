import Dispatch.Proofs.Renaming.Containers
import Dispatch.Proofs.Workflow.Preorder

namespace Dispatch

def Task.rename {τ : Type} (ρ : TaskId → TaskId) (t : Task τ) : Task τ := { t with id := ρ t.id }

def LinkError.rename (ρ : TaskId → TaskId) : LinkError → LinkError
  | .missingChild p c => .missingChild (ρ p) (ρ c)
  | .missingParent p => .missingParent (ρ p)
  | .alreadyStarted => .alreadyStarted

namespace Workflow

variable {τ : Type} {ρ : TaskId → TaskId} {g g' : Workflow τ}

structure Renamed (ρ : TaskId → TaskId) (g g' : Workflow τ) : Prop where
  root : g'.root? = g.root?.map ρ
  tasks : Table.Renamed ρ (Task.rename ρ) g.tasks g'.tasks
  links : Table.Renamed ρ (List.map ρ) g.links g'.links

namespace Renamed

lemma empty : Renamed ρ (Workflow.empty : Workflow τ) Workflow.empty := ⟨rfl, .empty, .empty⟩

section lookup

variable (h : Renamed ρ g g')

include h

lemma size : g'.size = g.size := h.tasks.size

lemma contains (id : TaskId) : g'.contains (ρ id) = g.contains id := h.tasks.contains id

lemma task? (id : TaskId) : g'.task? (ρ id) = (g.task? id).map (Task.rename ρ) := h.tasks.get? id

lemma ids : g'.ids = g.ids.map ρ := by
  rw [Workflow.ids, h.tasks.keys, Array.toList_map, Workflow.ids]

lemma children (id : TaskId) : g'.children (ρ id) = (g.children id).map ρ := by
  rw [Workflow.children, h.links.get?, Workflow.children]
  cases g.links.get? id <;> rfl

lemma families : g'.families = g.families.map fun e => (ρ e.1, e.2.map ρ) := h.links.toList

lemma linked : g'.linked = g.linked.map ρ := by
  rw [Workflow.linked, h.families, Workflow.linked, List.flatMap_map, List.map_flatMap]

lemma linkCount : g'.linkCount = g.linkCount := by
  rw [← length_linked, h.linked, List.length_map, length_linked]

end lookup

section traversal

variable (h : Renamed ρ g g') (hρ : Function.Injective ρ)

include h hρ

lemma parents (id : TaskId) : g'.parents (ρ id) = (g.parents id).map ρ := by
  rw [Workflow.parents, h.links.keys, Array.toList_map, List.filter_map, Workflow.parents]
  congr 1
  apply List.filter_congr
  intro p _
  rw [Function.comp_apply, decide_eq_decide, h.children, List.mem_map_of_injective hρ]

lemma sources : g'.sources = g.sources.map ρ := by
  rw [Workflow.sources, h.ids, List.filter_map, Workflow.sources]
  congr 1
  apply List.filter_congr
  intro id _
  rw [Function.comp_apply, contains_targets, contains_targets, h.linked, Bool.not_inj_iff, decide_eq_decide,
    List.mem_map_of_injective hρ]

lemma starts : g'.starts = g.starts.map ρ := by
  rw [Workflow.starts, h.root, Workflow.starts]
  cases g.root? with
  | none => exact h.sources hρ
  | some id => rfl

lemma visit (n : ℕ) (stack : List TaskId) (visited visited' : Std.TreeSet ℕ) (order : Array TaskId)
    (hv : ∀ id, visited'.contains (ρ id) = visited.contains id) :
    g'.visit n (stack.map ρ) visited' (order.map ρ) = (g.visit n stack visited order).map ρ := by
  induction n generalizing stack visited visited' order with
  | zero => rfl
  | succ n ih =>
    cases stack with
    | nil => rfl
    | cons id stack =>
      rw [List.map_cons, Workflow.visit, Workflow.visit, h.contains, hv]
      split
      · rw [h.children, ← List.map_append, ← Array.map_push]
        apply ih
        intro k
        rw [Std.TreeSet.contains_insert, Std.TreeSet.contains_insert, hv]
        congr 1
        simp [hρ.eq_iff]
      · exact ih stack visited visited' order hv

lemma preorder : g'.preorder = g.preorder.map ρ := by
  have hv := h.visit hρ (g.starts.length + g.linkCount) g.starts ∅ ∅ #[] (by simp)
  rw [Array.map_empty] at hv
  rw [Workflow.preorder, h.starts hρ, List.length_map, h.linkCount, hv, Array.toList_map, Workflow.preorder]

lemma preorderAll : g'.preorderAll = g.preorderAll.map ρ := by
  rw [preorderAll_eq, preorderAll_eq, h.preorder hρ, h.ids, List.filter_map, List.map_append]
  congr 2
  apply List.filter_congr
  intro id _
  rw [Function.comp_apply, decide_eq_decide, List.mem_map_of_injective hρ]

omit hρ in
lemma danglingLink? : g'.danglingLink? = g.danglingLink?.map (LinkError.rename ρ) := by
  rw [Workflow.danglingLink?, h.families, List.findSome?_map, Workflow.danglingLink?, List.map_findSome?]
  congr 1
  funext e
  simp only [Function.comp_apply, h.contains]
  split
  · rw [List.find?_map, Option.map_map, Option.map_map]
    congr 1
    apply congrArg (List.find? · e.2)
    funext c
    rw [Function.comp_apply, h.contains]
  · rfl

lemma parentCounts : Table.Renamed ρ id g.parentCounts g'.parentCounts where
  keys := by rw [keys_parentCounts, h.tasks.keys, keys_parentCounts]
  get? k := by
    rw [get?_parentCounts, get?_parentCounts, h.task?, h.parents hρ, List.length_map, Option.map_map,
      Option.map_id]
    rfl

end traversal

section growth

variable (h : Renamed ρ g g') (hρ : Function.Injective ρ)

include h hρ

lemma insertTask (t : Task τ) : Renamed ρ (g.insertTask t) (g'.insertTask (t.rename ρ)) :=
  ⟨h.root, h.tasks.insert hρ t.id t, h.links⟩

lemma insertRoot (t : Task τ) : Renamed ρ (g.insertRoot t) (g'.insertRoot (t.rename ρ)) :=
  ⟨rfl, h.tasks.insert hρ t.id t, h.links⟩

lemma link (p c : TaskId) : Renamed ρ (g.link p c) (g'.link (ρ p) (ρ c)) := by
  have hm : ρ c ∈ g'.children (ρ p) ↔ c ∈ g.children p := by
    rw [h.children, List.mem_map_of_injective hρ]
  rw [Workflow.link, Workflow.link]
  by_cases hc : c ∈ g.children p
  · rw [dif_pos hc, dif_pos (hm.mpr hc)]
    exact h
  · rw [dif_neg hc, dif_neg (mt hm.mp hc)]
    refine ⟨h.root, h.tasks, ?_⟩
    have hi := h.links.insert hρ p (g.children p ++ [c])
    rw [List.map_append, ← h.children] at hi
    exact hi

lemma modifyTask (id : TaskId) {f : Task τ → Task τ} (hf : ∀ t, (f t).id = t.id)
    (hr : ∀ t, f (t.rename ρ) = (f t).rename ρ) :
    Renamed ρ (g.modifyTask id f hf) (g'.modifyTask (ρ id) f hf) :=
  ⟨h.root, h.tasks.modify hρ id hr, h.links⟩

end growth

end Renamed

lemma exists_renamed (hρ : Function.Injective ρ) (g : Workflow τ) : ∃ g', Renamed ρ g g' := by
  obtain ⟨tasks, ht⟩ := Table.exists_renamed hρ (Task.rename ρ) g.tasks
  obtain ⟨links, hl⟩ := Table.exists_renamed hρ (List.map ρ) g.links
  refine ⟨⟨g.root?.map ρ, tasks, links, ?_, ?_, ?_⟩, rfl, ht, hl⟩
  · intro k t hk
    obtain ⟨j, a, rfl, ha, rfl⟩ := ht.exists_of_get? hk
    exact congrArg ρ (g.id_of_get? j a ha)
  · intro k hk
    obtain ⟨j, hj, rfl⟩ := Option.map_eq_some_iff.mp hk
    rw [ht.contains]
    exact g.contains_root j hj
  · intro k cs hk
    obtain ⟨j, a, rfl, ha, rfl⟩ := hl.exists_of_get? hk
    obtain ⟨hn, hd⟩ := g.family j a ha
    exact ⟨by simpa using hn, hd.map hρ⟩

end Workflow

end Dispatch
