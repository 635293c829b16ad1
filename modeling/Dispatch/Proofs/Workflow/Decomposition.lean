import Dispatch.Proofs.Workflow.Assembly
import Dispatch.Proofs.Workflow.CallTree
import Dispatch.Workflow.Recursion

namespace Dispatch

open Workflow

namespace Recursion

def Falls (r : Recursion) : Prop := ∀ n, r.threshold < n → (r.split n).1 < n ∧ (r.split n).2 < n

def callTree (r : Recursion) (h : r.Falls) (n : UInt64) : CallTree UInt64 :=
  if n ≤ r.threshold then .leaf n
  else .node n (r.callTree h (r.split n).1) (r.callTree h (r.split n).2)
termination_by n.toNat
decreasing_by
  · rename_i hn
    exact UInt64.lt_iff_toNat_lt.mp (h n (UInt64.not_le.mp hn)).1
  · rename_i hn
    exact UInt64.lt_iff_toNat_lt.mp (h n (UInt64.not_le.mp hn)).2

variable {τ : Type} [Time τ] {r : Recursion} {n input : UInt64}

/-- What a task's descendants make of a workflow, with no bound on their generations. No identifier may be taken
twice. -/
inductive Grows (r : Recursion) : Workflow τ → TaskId → UInt64 → Workflow τ → Prop
  | leaf {g : Workflow τ} {parent : TaskId} {input : UInt64} (h : input ≤ r.threshold) : Grows r g parent input g
  | node {g g₁ g₂ g₃ g₄ : Workflow τ} {parent : TaskId} {input : UInt64} (h : r.threshold < input)
      (hl : g.insertTask? (r.task g.size (r.split input).1) = some g₁)
      (hr : g₁.insertTask? (r.task g₁.size (r.split input).2) = some g₂)
      (left : Grows r ((g₂.link parent g.size).link parent g₁.size) g.size (r.split input).1 g₃)
      (right : Grows r g₃ g₁.size (r.split input).2 g₄) : Grows r g parent input g₄

lemma Grows.unique {g g₁ g₂ : Workflow τ} {p : TaskId} (h₁ : r.Grows g p input g₁) (h₂ : r.Grows g p input g₂) :
    g₁ = g₂ := by
  induction h₁ generalizing g₂ with
  | leaf h =>
    cases h₂ with
    | leaf => rfl
    | node h' => exact absurd h' (UInt64.not_lt.mpr h)
  | node h hl hr _ _ ihl ihr =>
    cases h₂ with
    | leaf h' => exact absurd h (UInt64.not_lt.mpr h')
    | node _ hl' hr' left right =>
      cases hl.symm.trans hl'
      cases hr.symm.trans hr'
      cases ihl left
      exact ihr right

lemma callTree_of_le (h : r.Falls) (hn : n ≤ r.threshold) : r.callTree h n = .leaf n := by
  rw [callTree, if_pos hn]

lemma callTree_of_lt (h : r.Falls) (hn : r.threshold < n) :
    r.callTree h n = .node n (r.callTree h (r.split n).1) (r.callTree h (r.split n).2) := by
  rw [callTree, if_neg (UInt64.not_le.mpr hn)]

@[simp] lemma top_callTree (h : r.Falls) (n : UInt64) : (r.callTree h n).top = n := by
  by_cases hn : n ≤ r.threshold
  · rw [callTree_of_le h hn]; rfl
  · rw [callTree_of_lt h (UInt64.not_le.mp hn)]; rfl

section grow

variable {g : Workflow τ} {tasks roots : List (Task τ)} {pairs : List (TaskId × TaskId)} {p next depth : ℕ}

def tasksOf (r : Recursion) (calls : List (TaskId × UInt64)) : List (Task τ) := calls.map fun c => r.task c.1 c.2

lemma ids_tasksOf (r : Recursion) (calls : List (TaskId × UInt64)) :
    (r.tasksOf calls : List (Task τ)).map Task.id = calls.map Prod.fst := by
  rw [tasksOf, List.map_map]
  rfl

omit [Time τ] in
lemma size_of_shows (hs : g.Shows tasks roots pairs) (hi : tasks.map Task.id = List.range next) : g.size = next := by
  have hl := congrArg List.length (hs.ids.trans hi)
  simpa [Workflow.ids, Workflow.size, Table.size] using hl

lemma insertTask_shows (hs : g.Shows tasks roots pairs) (hi : tasks.map Task.id = List.range next) (input : UInt64) :
    g.insertTask? (r.task next input) = some (g.insertTask (r.task next input)) ∧
    (g.insertTask (r.task next input)).Shows (tasks ++ [r.task next input]) roots pairs ∧
    (tasks ++ [r.task next input]).map Task.id = List.range (next + 1) := by
  have hn : (r.task next input : Task τ).id ∉ g.ids := by
    rw [hs.ids, hi]
    exact List.not_mem_range_self
  refine ⟨insertTask?_of_notMem hn, hs.insertTask hn, ?_⟩
  rw [List.map_append, hi, List.range_succ]
  rfl

def branch (r : Recursion) (g : Workflow τ) (p : TaskId) (next : ℕ) (inputs : UInt64 × UInt64) : Workflow τ :=
  (((g.insertTask (r.task next inputs.1)).insertTask (r.task (next + 1) inputs.2)).link p next).link p (next + 1)

lemma branch_shows (hs : g.Shows tasks roots pairs) (hi : tasks.map Task.id = List.range next) (p : TaskId)
    (inputs : UInt64 × UInt64) :
    (r.branch g p next inputs).Shows (tasks ++ r.tasksOf [(next, inputs.1), (next + 1, inputs.2)]) roots
        (pairs ++ [(p, next), (p, next + 1)]) ∧
      (tasks ++ r.tasksOf [(next, inputs.1), (next + 1, inputs.2)]).map Task.id = List.range (next + 2) := by
  obtain ⟨-, hs₁, hi₁⟩ := insertTask_shows hs hi inputs.1
  obtain ⟨-, hs₂, hi₂⟩ := insertTask_shows hs₁ hi₁ inputs.2
  have hs₃ := (hs₂.link p next).link p (next + 1)
  rw [List.append_assoc] at hi₂ hs₃
  rw [List.append_assoc] at hs₃
  exact ⟨hs₃, hi₂⟩

lemma Grows.branch (hs : g.Shows tasks roots pairs) (hi : tasks.map Task.id = List.range next)
    (hn : r.threshold < input) {g₃ g₄ : Workflow τ}
    (left : r.Grows (r.branch g p next (r.split input)) next (r.split input).1 g₃)
    (right : r.Grows g₃ (next + 1) (r.split input).2 g₄) : r.Grows g p input g₄ := by
  obtain ⟨ha, hs₁, hi₁⟩ := insertTask_shows (r := r) hs hi (r.split input).1
  obtain ⟨hb, -, -⟩ := insertTask_shows (r := r) hs₁ hi₁ (r.split input).2
  have hz := size_of_shows hs hi
  have hz₁ := size_of_shows hs₁ hi₁
  subst hz
  rw [← hz₁] at hb right
  refine .node hn ha hb ?_ right
  rw [hz₁]
  exact left

lemma grow_of_lt (hs : g.Shows tasks roots pairs) (hi : tasks.map Task.id = List.range next)
    (hn : r.threshold < input) : r.grow (depth + 1) g p input =
      r.grow depth (r.grow depth (r.branch g p next (r.split input)) next (r.split input).1) (next + 1)
        (r.split input).2 := by
  obtain ⟨-, hs₁, hi₁⟩ := insertTask_shows (r := r) hs hi (r.split input).1
  rw [grow, if_neg (UInt64.not_le.mpr hn), size_of_shows hs hi]
  simp only [size_of_shows hs₁ hi₁]
  rfl

lemma ids_grown (r : Recursion) (t : CallTree UInt64) (p : TaskId) (hi : tasks.map Task.id = List.range next) :
    (tasks ++ r.tasksOf (t.number p next).descendants).map Task.id =
      List.range (next + t.descendants.length) := by
  rw [List.map_append, hi, ids_tasksOf, CallTree.map_fst_descendants_number, List.range_eq_range',
    List.range_eq_range', ← List.range'_append_1, Nat.zero_add]

lemma grow_of_le (hz : input ≤ r.threshold) : r.grow depth g p input = g := by
  cases depth with
  | zero => rfl
  | succ depth => rw [grow, if_pos hz]

lemma shows_of_le (h : r.Falls) (hz : input ≤ r.threshold) (hs : g.Shows tasks roots pairs) :
    let calls := (r.callTree h input).number p next
    r.Grows g p input (r.grow depth g p input) ∧
      (r.grow depth g p input).Shows (tasks ++ r.tasksOf calls.descendants) roots
        (pairs ++ (calls.map Prod.fst).pairs) := by
  rw [callTree_of_le h hz, grow_of_le hz]
  refine ⟨.leaf hz, ?_⟩
  simpa [CallTree.number, CallTree.descendants, CallTree.map, CallTree.pairs, tasksOf] using hs

-- a task and a link for every call below, numbered from the first number that is free; the left calls take theirs
-- before the right ones, which start from what the left ones leave
lemma grow_shows (h : r.Falls) (hd : input.toNat ≤ depth) (hs : g.Shows tasks roots pairs)
    (hi : tasks.map Task.id = List.range next) :
    let calls := (r.callTree h input).number p next
    r.Grows g p input (r.grow depth g p input) ∧
      (r.grow depth g p input).Shows (tasks ++ r.tasksOf calls.descendants) roots
        (pairs ++ (calls.map Prod.fst).pairs) := by
  induction depth generalizing g tasks pairs p next input with
  | zero =>
    refine shows_of_le h ?_ hs
    rw [UInt64.le_iff_toNat_le]
    omega
  | succ depth ih =>
    by_cases hz : input ≤ r.threshold
    · exact shows_of_le h hz hs
    · have hlt := UInt64.not_le.mp hz
      obtain ⟨hfl, hfr⟩ := h input hlt
      rw [UInt64.lt_iff_toNat_lt] at hfl hfr
      have hl : (r.split input).1.toNat ≤ depth := by omega
      have hr : (r.split input).2.toNat ≤ depth := by omega
      obtain ⟨hs₁, hi₁⟩ := branch_shows hs hi p (r.split input)
      obtain ⟨left, hs₂⟩ := ih (p := next) hl hs₁ hi₁
      have hi₂ := ids_grown r (r.callTree h (r.split input).1) next hi₁
      obtain ⟨right, hs₃⟩ := ih (p := next + 1) hr hs₂ hi₂
      rw [grow_of_lt hs hi hlt, callTree_of_lt h hlt]
      refine ⟨.branch hs hi hlt left right, ?_⟩
      simpa [CallTree.number, CallTree.descendants, CallTree.map, CallTree.pairs, tasksOf] using hs₃

end grow

section workflow

variable (h : r.Falls)

-- the calls with the identifiers of the tasks that stand for them
def calls (r : Recursion) (h : r.Falls) (input : UInt64) : CallTree (TaskId × UInt64) :=
  (r.callTree h input).number 0 1

def idTree (r : Recursion) (h : r.Falls) (input : UInt64) : CallTree TaskId := (r.calls h input).map Prod.fst

lemma workflow_shows (input : UInt64) :
    r.Grows (empty.insertRoot (r.task 0 input)) 0 input (r.workflow input : Workflow τ) ∧
      (r.workflow input : Workflow τ).Shows (r.tasksOf ((0, input) :: (r.calls h input).descendants))
        [r.task 0 input] (r.idTree h input).pairs :=
  grow_shows h le_rfl (shows_empty.insertRoot (t := r.task 0 input) List.not_mem_nil) rfl

lemma descendants_calls (input : UInt64) :
    (r.calls h input).descendants.map Prod.fst = List.range' 1 (r.callTree h input).descendants.length :=
  (r.callTree h input).map_fst_descendants_number 0 1

lemma ids_workflow (input : UInt64) :
    (r.workflow input : Workflow τ).ids = List.range (r.callTree h input).size := by
  rw [(workflow_shows h input).2.ids, ids_tasksOf, List.map_cons, descendants_calls, CallTree.size_eq,
    List.range_eq_range', List.range'_succ]

lemma size_workflow (input : UInt64) : (r.workflow input : Workflow τ).size = (r.callTree h input).size :=
  size_of_shows (workflow_shows h input).2 <| by
    rw [← (workflow_shows (τ := τ) h input).2.ids, ids_workflow h]

lemma nodup_idTree (input : UInt64) : (r.idTree h input).preorder.Nodup :=
  (r.callTree h input).preorder_number_perm.nodup_iff.mpr List.nodup_range

lemma snd_pairs_idTree (input : UInt64) : (r.idTree h input).pairs.map Prod.snd =
    List.range' 1 (r.callTree h input).descendants.length := by
  rw [CallTree.map_snd_pairs, idTree, CallTree.descendants_map, descendants_calls]

lemma reads_workflow (input : UInt64) :
    (r.idTree h input).Reads (r.workflow input : Workflow τ).children := by
  refine CallTree.reads_of_pairs (nodup_idTree h input) fun p _ => ?_
  rw [(workflow_shows h input).2.children]
  refine eraseDups_of_nodup (List.Nodup.sublist (List.filter_sublist.map Prod.snd) ?_)
  rw [snd_pairs_idTree]
  exact List.nodup_range'

include h in
lemma root?_workflow (input : UInt64) : (r.workflow input : Workflow τ).root? = some 0 :=
  (workflow_shows h input).2.root

lemma contains_workflow {input : UInt64} {id : TaskId} :
    (r.workflow input : Workflow τ).contains id = true ↔ id < (r.callTree h input).size := by
  rw [← mem_ids, ids_workflow h, List.mem_range]

lemma top_idTree (input : UInt64) : (r.idTree h input).top = 0 := by
  rw [idTree, CallTree.top_map, calls, CallTree.top_number]

lemma preorder_workflow (input : UInt64) :
    (r.workflow input : Workflow τ).preorder = (r.idTree h input).preorder := by
  have hs : (r.workflow input : Workflow τ).starts = [(r.idTree h input).top] := by
    rw [starts, root?_workflow h, top_idTree]
  rw [preorder_eq_explore, hs]
  refine explore_of_reads (reads_workflow h input) (nodup_idTree h input) fun id hid => ⟨?_, Finset.notMem_empty id⟩
  rw [contains_workflow h, ← List.mem_range]
  exact (r.callTree h input).preorder_number_perm.mem_iff.mp hid

lemma task?_workflow {input : UInt64} {id : TaskId} {t : Task τ} :
    (r.workflow input : Workflow τ).task? id = some t ↔
      ∃ c ∈ (r.calls h input).preorder, c.1 = id ∧ r.task c.1 c.2 = t := by
  have hp : ((0, input) :: (r.calls h input).descendants).Perm (r.calls h input).preorder := by
    have hc := (r.calls h input).cons_descendants_perm
    rwa [calls, CallTree.top_number, top_callTree] at hc
  rw [(workflow_shows h input).2.task?_eq_some_iff, tasksOf, List.mem_map]
  constructor
  · rintro ⟨⟨c, hc, rfl⟩, rfl⟩
    exact ⟨c, hp.mem_iff.mp hc, rfl, rfl⟩
  · rintro ⟨c, hc, rfl, rfl⟩
    exact ⟨⟨c, hp.mem_iff.mpr hc, rfl⟩, rfl⟩

lemma inputs_workflow (input : UInt64) : (r.idTree h input).map
    (fun id => ((r.workflow input : Workflow τ).task? id).map Task.input) = (r.callTree h input).map some := by
  rw [idTree, CallTree.map_map, ← (r.callTree h input).map_snd_number 0 1, CallTree.map_map]
  refine CallTree.map_congr fun c hc => ?_
  rw [Function.comp_apply, (task?_workflow h).mpr ⟨c, hc, rfl, rfl⟩]
  rfl

lemma mem_parents_workflow {input : UInt64} {p c : TaskId} : p ∈ (r.workflow input : Workflow τ).parents c ↔
    (p, c) ∈ (r.idTree h input).pairs :=
  (mem_parents _).trans (workflow_shows h input).2.mem_children

lemma eq_of_mem_pairs {input : UInt64} {p q c : TaskId} (hp : (p, c) ∈ (r.idTree h input).pairs)
    (hq : (q, c) ∈ (r.idTree h input).pairs) : p = q := by
  have hn : ((r.idTree h input).pairs.map Prod.snd).Nodup := snd_pairs_idTree h input ▸ List.nodup_range'
  cases List.inj_on_of_nodup_map hn hp hq rfl
  rfl

lemma lt_of_mem_pairs {input : UInt64} {p c : TaskId} (h' : (p, c) ∈ (r.idTree h input).pairs) :
    p < c := by
  rw [idTree, CallTree.pairs_map] at h'
  obtain ⟨e, he, hpc⟩ := List.mem_map.mp h'
  cases hpc
  exact (r.callTree h input).lt_of_mem_pairs_number Nat.zero_lt_one he

include h in
lemma parents_workflow_zero (input : UInt64) : (r.workflow input : Workflow τ).parents 0 = [] := by
  refine List.eq_nil_iff_forall_not_mem.mpr fun p hp => ?_
  rw [mem_parents_workflow h] at hp
  have hc := List.mem_map_of_mem (f := Prod.snd) hp
  rw [snd_pairs_idTree] at hc
  simp at hc

lemma exists_parents_workflow {input : UInt64} {id : ℕ} (hz : 0 < id) (hi : id < (r.callTree h input).size) :
    ∃ p < id, (r.workflow input : Workflow τ).parents id = [p] := by
  have hc : id ∈ (r.idTree h input).pairs.map Prod.snd := by
    rw [snd_pairs_idTree, List.mem_range'_1]
    rw [CallTree.size_eq] at hi
    omega
  obtain ⟨⟨p, _⟩, he, rfl⟩ := List.mem_map.mp hc
  refine ⟨p, lt_of_mem_pairs h he, List.perm_singleton.mp ?_⟩
  refine (List.perm_ext_iff_of_nodup (nodup_parents _ _) (List.nodup_singleton p)).mpr fun q => ?_
  rw [mem_parents_workflow h, List.mem_singleton]
  exact ⟨fun hq => eq_of_mem_pairs h hq he, by rintro rfl; exact he⟩

end workflow

section fibonacci

variable {cost : CostRule}

lemma toNat_split_fibonacci (cost : CostRule) (n : UInt64) :
    ((fibonacci cost).split n).1.toNat = n.toNat - 1 ∧ ((fibonacci cost).split n).2.toNat = n.toNat - 2 :=
  ⟨Saturating.toNat_sub n 1, Saturating.toNat_sub n 2⟩

lemma fibonacci_falls (cost : CostRule) : (fibonacci cost).Falls := by
  intro n hn
  obtain ⟨hl, hr⟩ := toNat_split_fibonacci cost n
  have hn' : 1 < n.toNat := UInt64.lt_iff_toNat_lt.mp hn
  rw [UInt64.lt_iff_toNat_lt, UInt64.lt_iff_toNat_lt]
  omega

lemma leaves_fibonacci (h : (fibonacci cost).Falls) (n : UInt64) :
    ((fibonacci cost).callTree h n).leaves = Nat.fib (n.toNat + 1) := by
  induction hk : n.toNat using Nat.strong_induction_on generalizing n with
  | h k ih =>
    subst hk
    by_cases hn : n ≤ (fibonacci cost).threshold
    · have hn' : n.toNat ≤ 1 := UInt64.le_iff_toNat_le.mp hn
      rw [callTree_of_le h hn, CallTree.leaves]
      interval_cases n.toNat <;> rfl
    · have hlt := UInt64.not_le.mp hn
      have hn' : 1 < n.toNat := UInt64.lt_iff_toNat_lt.mp hlt
      obtain ⟨hl, hr⟩ := toNat_split_fibonacci cost n
      rw [callTree_of_lt h hlt, CallTree.leaves, ih _ (by omega) _ rfl, ih _ (by omega) _ rfl, hl, hr]
      obtain ⟨m, hm⟩ : ∃ m, n.toNat = m + 2 := ⟨n.toNat - 2, by omega⟩
      rw [hm, Nat.fib_add_two (n := m + 1), add_comm]
      rfl

lemma size_fibonacci (h : (fibonacci cost).Falls) (n : UInt64) :
    ((fibonacci cost).callTree h n).size = 2 * Nat.fib (n.toNat + 1) - 1 := by
  have hs := ((fibonacci cost).callTree h n).size_add_one
  rw [leaves_fibonacci] at hs
  omega

end fibonacci

/-- Where inputs fall, everything that has to be split is split and no identifier is taken twice. From task 0, the
children and their inputs read as the tree of the recursive calls and in no other way; the identifiers stand in
order, every task but the first has one parent that was there before it, and the preorder is that of the tree. -/
theorem workflow_reads_calls (r : Recursion) (h : r.Falls) (input : UInt64) :
    let g : Workflow τ := r.workflow input
    (∃ g₀, empty.insertRoot? (r.task 0 input) = some g₀ ∧ ∀ g', r.Grows g₀ 0 input g' ↔ g' = g) ∧
      (∃ ids : CallTree TaskId, (∀ t, t.top = 0 ∧ t.Reads g.children ↔ t = ids) ∧
        ids.map (fun id => (g.task? id).map Task.input) = (r.callTree h input).map some ∧
        g.preorder = ids.preorder) ∧
      g.root? = some 0 ∧ g.ids = List.range g.size ∧
      (∀ id t, g.task? id = some t → t = r.task id t.input) ∧
      g.parents 0 = [] ∧ (∀ id, 0 < id → id < g.size → ∃ p < id, g.parents id = [p]) ∧
      g.size = (r.callTree h input).size ∧
      ∀ cost n, ∃ hf : (fibonacci cost).Falls,
        ((fibonacci cost).workflow n : Workflow τ).size = 2 * Nat.fib (n.toNat + 1) - 1 ∧
          ((fibonacci cost).callTree hf n).leaves = Nat.fib (n.toNat + 1) := by
  intro g
  have hg : r.Grows (empty.insertRoot (r.task 0 input)) 0 input g := (workflow_shows h input).1
  have hz : g.size = (r.callTree h input).size := size_workflow h input
  have ht := top_idTree h input
  refine ⟨⟨_, insertRoot?_of_notMem List.not_mem_nil, fun g' => ?_⟩,
    ⟨r.idTree h input, fun t => ?_, inputs_workflow h input, preorder_workflow h input⟩,
    root?_workflow h input, ?_, ?_, parents_workflow_zero h input, ?_, hz, fun cost n => ?_⟩
  · exact ⟨fun h' => h'.unique hg, by rintro rfl; exact hg⟩
  · refine ⟨fun h' => h'.2.unique (reads_workflow h input) (h'.1.trans ht.symm), ?_⟩
    rintro rfl
    exact ⟨ht, reads_workflow h input⟩
  · rw [hz]
    exact ids_workflow h input
  · intro id t hid
    obtain ⟨c, -, rfl, rfl⟩ := (task?_workflow h).mp hid
    rfl
  · exact fun id hp hi => exists_parents_workflow h hp (hz ▸ hi)
  · have hf := fibonacci_falls cost
    exact ⟨hf, (size_workflow hf n).trans (size_fibonacci hf n), leaves_fibonacci hf n⟩

theorem workflow_reads_calls_halved :
    let r : Recursion :=
      { name := "half", threshold := 1, split := fun n => (n / 2, n - 1), cost := fun n => .sequential n 1 1 }
    let g : Workflow Rat := r.workflow 4
    ∃ h : r.Falls, (r.callTree h 4).size = 9 ∧ g.ids = List.range 9 ∧ (∃ p < 8, g.parents 8 = [p]) ∧
      ∃ ids : CallTree TaskId, ids.Reads g.children ∧ ids.preorder = [0, 1, 3, 4, 2, 5, 6, 7, 8] := by
  intro r g
  have h : r.Falls := by
    intro n hn
    have hn' : 1 < n.toNat := UInt64.lt_iff_toNat_lt.mp hn
    rw [UInt64.lt_iff_toNat_lt, UInt64.lt_iff_toNat_lt]
    have hl : (r.split n).1.toNat = n.toNat / 2 := UInt64.toNat_div n 2
    have hr : (r.split n).2.toNat = n.toNat - 1 := UInt64.toNat_sub_of_le n 1 (UInt64.le_iff_toNat_le.mpr hn'.le)
    omega
  have hz : g.size = 9 := by decide +kernel
  obtain ⟨-, ⟨ids, hu, -, hp⟩, -, hi, -, -, he, hs, -⟩ := workflow_reads_calls (τ := Rat) r h 4
  refine ⟨h, hs.symm.trans hz, hi.trans (congrArg List.range hz), he 8 (by decide) (hz.symm ▸ by decide), ids, ?_, ?_⟩
  · exact ((hu ids).mpr rfl).2
  · exact hp.symm.trans (by decide +kernel)

end Recursion

end Dispatch
