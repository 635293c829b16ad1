import Dispatch.Proofs.Workflow.Exploration
import Std.Data.HashSet.Lemmas
import Mathlib.Tactic

/-! A workflow that keeps its links twice, by their parents and as a set of pairs, of which only the set is asked
whether a link is new. The two never disagree. -/

namespace Dispatch

namespace Workflow

variable {τ : Type}

inductive Addition (τ : Type) where
  | task (t : Task τ)
  | root (t : Task τ)
  | link (parent child : TaskId)

namespace Addition

def task? : Addition τ → Option (Task τ)
  | .task t => some t
  | .root t => some t
  | .link _ _ => none

def root? : Addition τ → Option (Task τ)
  | .root t => some t
  | _ => none

def pair? : Addition τ → Option (TaskId × TaskId)
  | .link p c => some (p, c)
  | _ => none

end Addition

def add? (g : Workflow τ) : Addition τ → Option (Workflow τ)
  | .task t => g.insertTask? t
  | .root t => g.insertRoot? t
  | .link p c => some (g.link p c)

def assemble? (additions : List (Addition τ)) : Option (Workflow τ) := additions.foldlM add? empty

end Workflow

/-- Nothing ties the set of pairs to the lists of children. -/
structure Ledger (τ : Type) where
  root? : Option TaskId := none
  tasks : Table (Task τ) := .empty
  links : Table (List TaskId) := .empty
  known : Std.HashSet (TaskId × TaskId) := ∅

namespace Ledger

variable {τ : Type}

def insertTask? (l : Ledger τ) (t : Task τ) : Option (Ledger τ) :=
  if l.tasks.contains t.id then none else some { l with tasks := l.tasks.insert t.id t }

def insertRoot? (l : Ledger τ) (t : Task τ) : Option (Ledger τ) :=
  (l.insertTask? t).map ({ · with root? := some t.id })

def children (l : Ledger τ) (id : TaskId) : List TaskId := (l.links.get? id).getD []

def link (l : Ledger τ) (parent child : TaskId) : Ledger τ :=
  let (old, known) := l.known.containsThenInsert (parent, child)
  let l := { l with known := known }
  if old then l else { l with links := l.links.insert parent (l.children parent ++ [child]) }

def add? (l : Ledger τ) : Workflow.Addition τ → Option (Ledger τ)
  | .task t => l.insertTask? t
  | .root t => l.insertRoot? t
  | .link p c => some (l.link p c)

def assemble? (additions : List (Workflow.Addition τ)) : Option (Ledger τ) := additions.foldlM add? {}

def rootTask? (l : Ledger τ) : Option (Task τ) := l.root?.bind l.tasks.get?

def families (l : Ledger τ) : List (TaskId × List TaskId) := l.links.toList

def parents (l : Ledger τ) (id : TaskId) : List TaskId := (l.families.filter (·.2.contains id)).map Prod.fst

def mark (l : Ledger τ) (marks : Array Bool) (child : TaskId) : Array Bool :=
  match l.tasks.keys.toList.idxOf? child with
  | some i => marks.setIfInBounds i true
  | none => marks

def sources (l : Ledger τ) : List TaskId :=
  let marks := l.families.foldl (fun marks e => e.2.foldl l.mark marks) (Array.replicate l.tasks.size false)
  (l.tasks.keys.toList.zipIdx.filter fun e => !marks.getD e.2 false).map Prod.fst

section marks

variable {l : Ledger τ} {marks : Array Bool} {i : ℕ}

lemma idxOf?_eq_some_iff {t : Table (Task τ)} {k : ℕ} : t.keys.toList.idxOf? k = some i ↔ t.keys[i]? = some k := by
  rw [List.idxOf?_eq_some_iff, ← Array.getElem?_toList, List.getElem?_eq_some_iff]
  refine exists_congr fun hi => and_iff_left_of_imp fun hk j hj he => ?_
  exact hj.ne (t.nodup.getElem_inj_iff.mp (he.trans hk.symm))

lemma size_mark (l : Ledger τ) (marks : Array Bool) (c : TaskId) : (l.mark marks c).size = marks.size := by
  rw [mark]
  split <;> simp

lemma getElem?_mark (l : Ledger τ) (marks : Array Bool) (c : TaskId) (hi : i < marks.size) :
    (l.mark marks c)[i]? = if l.tasks.keys[i]? = some c then some true else marks[i]? := by
  rw [mark]
  cases hc : l.tasks.keys.toList.idxOf? c with
  | none =>
    rw [if_neg]
    intro hk
    cases hc.symm.trans (idxOf?_eq_some_iff.mpr hk)
  | some j =>
    have hj : j = i ↔ l.tasks.keys[i]? = some c := by
      rw [← idxOf?_eq_some_iff, hc, Option.some_inj]
    rw [Array.getElem?_setIfInBounds]
    by_cases hk : j = i
    · rw [if_pos hk, if_pos (hj.mp hk), if_pos (hk ▸ hi)]
    · rw [if_neg hk, if_neg (mt hj.mpr hk)]

lemma getElem?_foldl_mark (l : Ledger τ) (cs : List TaskId) (marks : Array Bool) (hi : i < marks.size) :
    (cs.foldl l.mark marks)[i]? = if ∃ c ∈ cs, l.tasks.keys[i]? = some c then some true else marks[i]? := by
  induction cs generalizing marks with
  | nil => simp
  | cons c cs ih =>
    rw [List.foldl_cons, ih _ (by rwa [size_mark]), getElem?_mark _ _ _ hi]
    by_cases hc : l.tasks.keys[i]? = some c
    · simp [hc]
    · simp only [hc, if_false, List.mem_cons, exists_eq_or_imp, false_or]

-- a task is left out just when its own identifier is among the children of some parent
lemma sources_eq_filter (l : Ledger τ) : l.sources =
    l.tasks.keys.toList.filter fun id => id ∉ l.families.flatMap Prod.snd := by
  rw [sources, ← List.foldl_flatMap]
  conv_rhs => rw [← List.zipIdx_map_fst 0 l.tasks.keys.toList, List.filter_map]
  refine congrArg _ (List.filter_congr fun ⟨id, i⟩ he => ?_)
  have hk : l.tasks.keys[i]? = some id := by simpa using List.mk_mem_zipIdx_iff_getElem?.mp he
  obtain ⟨hi, -⟩ := Array.getElem?_eq_some_iff.mp hk
  have hm : i < (Array.replicate l.tasks.size false).size := by simpa [Table.size] using hi
  have hc : (∃ c ∈ l.families.flatMap Prod.snd, some id = some c) ↔ id ∈ l.families.flatMap Prod.snd := by
    simp only [Option.some_inj, exists_eq_right']
  rw [Array.getD_eq_getD_getElem?, getElem?_foldl_mark _ _ _ hm, hk, if_congr hc rfl rfl,
    Array.getElem?_eq_getElem hm, Array.getElem_replicate]
  by_cases hs : id ∈ l.families.flatMap Prod.snd
  · rw [if_pos hs]
    exact (decide_eq_false (not_not.mpr hs)).symm
  · rw [if_neg hs]
    exact (decide_eq_true hs).symm

end marks

structure Agrees (l : Ledger τ) (g : Workflow τ) : Prop where
  root : l.root? = g.root?
  tasks : l.tasks = g.tasks
  links : l.links = g.links
  known : ∀ p c, (p, c) ∈ l.known ↔ c ∈ l.children p

variable {l : Ledger τ} {g : Workflow τ} {t : Task τ} {p c : TaskId}

lemma agrees_empty : ({} : Ledger τ).Agrees .empty where
  root := rfl
  tasks := rfl
  links := rfl
  known p c := by simp [children]

lemma link_of_mem (h : (p, c) ∈ l.known) : l.link p c = { l with known := l.known.insert (p, c) } := by
  simp [link, Std.HashSet.containsThenInsert_fst, Std.HashSet.containsThenInsert_snd, h]

lemma link_of_notMem (h : (p, c) ∉ l.known) : l.link p c =
    { l with
      known := l.known.insert (p, c)
      links := l.links.insert p (l.children p ++ [c]) } := by
  simp [link, children, Std.HashSet.containsThenInsert_fst, Std.HashSet.containsThenInsert_snd, h]

namespace Agrees

variable (h : l.Agrees g)

include h

lemma children (id : TaskId) : l.children id = g.children id := by
  rw [Ledger.children, h.links, Workflow.children]

lemma insertTask? (t : Task τ) : Option.Rel Agrees (l.insertTask? t) (g.insertTask? t) := by
  rw [Ledger.insertTask?, Workflow.insertTask?, h.tasks, Workflow.contains]
  split
  · exact .none
  · exact .some ⟨h.root, rfl, h.links, h.known⟩

lemma insertRoot? (t : Task τ) : Option.Rel Agrees (l.insertRoot? t) (g.insertRoot? t) := by
  rw [Ledger.insertRoot?, Ledger.insertTask?, Workflow.insertRoot?, h.tasks, Workflow.contains]
  split
  · exact .none
  · exact .some ⟨rfl, rfl, h.links, h.known⟩

lemma rootTask? : l.rootTask? = g.rootTask? := by
  rw [Ledger.rootTask?, h.root, h.tasks]
  rfl

lemma families : l.families = g.families := congrArg Table.toList h.links

lemma parents (id : TaskId) : l.parents id = g.parents id := by
  rw [Ledger.parents, h.families, Workflow.families_eq, List.filter_map, List.map_map, Workflow.parents]
  simp [Function.comp_def]

lemma sources : l.sources = g.sources := by
  rw [sources_eq_filter, Workflow.sources_eq, h.families, h.tasks]
  exact List.filter_congr fun id _ => decide_eq_decide.mpr g.parents_eq_nil_iff.symm

-- the set is asked where the workflow looks at the children; a new pair goes into both stores
lemma link (p c : TaskId) : (l.link p c).Agrees (g.link p c) := by
  have hm : (p, c) ∈ l.known ↔ c ∈ g.children p := h.children p ▸ h.known p c
  by_cases hc : c ∈ g.children p
  · rw [link_of_mem (hm.mpr hc), Workflow.link, dif_pos hc]
    refine ⟨h.root, h.tasks, h.links, fun q d => ?_⟩
    rw [Std.HashSet.mem_insert, beq_iff_eq, h.known]
    exact or_iff_right_of_imp fun he => by cases he; exact (h.children p).symm ▸ hc
  · rw [link_of_notMem (mt hm.mp hc), Workflow.link, dif_neg hc]
    refine ⟨h.root, h.tasks, by rw [h.links, h.children], fun q d => ?_⟩
    rw [Std.HashSet.mem_insert, beq_iff_eq, h.known, Ledger.children, Ledger.children, Table.get?_insert]
    by_cases hq : p = q
    · subst hq
      simp [Ledger.children, or_comm, eq_comm]
    · simp [hq]

lemma add? (a : Workflow.Addition τ) : Option.Rel Agrees (l.add? a) (g.add? a) := by
  cases a with
  | task t => exact h.insertTask? t
  | root t => exact h.insertRoot? t
  | link p c => exact .some (h.link p c)

end Agrees

lemma assemble?_agrees (additions : List (Workflow.Addition τ)) :
    Option.Rel Agrees (assemble? additions) (Workflow.assemble? additions) := by
  induction additions using List.reverseRecOn with
  | nil => exact .some agrees_empty
  | append_singleton additions a ih =>
    rw [assemble?, Workflow.assemble?, List.foldlM_append, List.foldlM_append, ← assemble?, ← Workflow.assemble?]
    generalize assemble? additions = l at ih ⊢
    generalize Workflow.assemble? additions = g at ih ⊢
    cases ih with
    | none => exact .none
    | some h => simpa using h.add? a

lemma exists_of_assemble? {additions : List (Workflow.Addition τ)} (h : Workflow.assemble? additions = some g) :
    ∃ l, assemble? additions = some l ∧ l.Agrees g := by
  have ha := assemble?_agrees additions
  rw [h] at ha
  cases hl : assemble? additions with
  | none =>
    rw [hl] at ha
    cases ha
  | some l =>
    rw [hl] at ha
    cases ha with
    | some ha => exact ⟨l, rfl, ha⟩

end Ledger

end Dispatch
