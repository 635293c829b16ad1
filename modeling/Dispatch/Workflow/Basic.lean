import Dispatch.Table
import Dispatch.Workflow.Task
import Std.Data.TreeSet

/-!
Workflows: tasks in the order in which they were added, and links from each parent to its
children. Links may name tasks that were never added and may form cycles; whether the ends of every
link exist is checked only when a workflow starts.
-/

namespace Dispatch

structure Workflow (τ : Type) where
  root? : Option TaskId := none
  tasks : Table (Task τ) := .empty
  links : Table (List TaskId) := .empty
  id_of_get? : ∀ id t, tasks.get? id = some t → t.id = id := by simp
  contains_root : ∀ id, root? = some id → tasks.contains id = true := by simp
  family : ∀ p cs, links.get? p = some cs → cs ≠ [] ∧ cs.Nodup := by simp

namespace Workflow

variable {τ : Type}

def empty : Workflow τ := {}

instance : Inhabited (Workflow τ) := ⟨empty⟩

def size (g : Workflow τ) : Nat := g.tasks.size

def isEmpty (g : Workflow τ) : Bool := g.size == 0

def contains (g : Workflow τ) (id : TaskId) : Bool := g.tasks.contains id

def task? (g : Workflow τ) (id : TaskId) : Option (Task τ) := g.tasks.get? id

def ids (g : Workflow τ) : List TaskId := g.tasks.keys.toList

def rootTask? (g : Workflow τ) : Option (Task τ) := g.root?.bind g.task?

def insertTask (g : Workflow τ) (t : Task τ) : Workflow τ :=
  { g with
    tasks := g.tasks.insert t.id t
    id_of_get? := fun id u h => by
      rw [Table.get?_insert] at h
      split at h
      · cases h
        assumption
      · exact g.id_of_get? id u h
    contains_root := fun id h => by simp [Table.contains_insert, g.contains_root id h] }

def insertTask? (g : Workflow τ) (t : Task τ) : Option (Workflow τ) :=
  if g.contains t.id then none else some (g.insertTask t)

def insertRoot (g : Workflow τ) (t : Task τ) : Workflow τ :=
  { g.insertTask t with
    root? := some t.id
    contains_root := fun id h => by
      cases h
      simp [insertTask, Table.contains_insert] }

def insertRoot? (g : Workflow τ) (t : Task τ) : Option (Workflow τ) :=
  if g.contains t.id then none else some (g.insertRoot t)

def modifyTask (g : Workflow τ) (id : TaskId) (f : Task τ → Task τ)
    (hf : ∀ t, (f t).id = t.id) : Workflow τ :=
  { g with
    tasks := g.tasks.modify id f
    id_of_get? := fun k t h => by
      rw [Table.get?_modify] at h
      split at h
      · rename_i hk
        obtain ⟨u, hu, rfl⟩ := Option.map_eq_some_iff.1 h
        rw [hf, g.id_of_get? id u hu, hk]
      · exact g.id_of_get? k t h
    contains_root := fun k h => by rw [Table.contains_modify, g.contains_root k h] }

def children (g : Workflow τ) (id : TaskId) : List TaskId := (g.links.get? id).getD []

theorem nodup_children (g : Workflow τ) (id : TaskId) : (g.children id).Nodup := by
  unfold children
  cases h : g.links.get? id with
  | none => exact List.nodup_nil
  | some cs => exact (g.family id cs h).2

def link (g : Workflow τ) (parent child : TaskId) : Workflow τ :=
  if hc : child ∈ g.children parent then g
  else
    { g with
      links := g.links.insert parent (g.children parent ++ [child])
      family := fun p cs h => by
        rw [Table.get?_insert] at h
        split at h
        · cases h
          refine ⟨by simp, List.nodup_append.2 ⟨g.nodup_children parent, by simp, ?_⟩⟩
          intro a ha b hb
          rw [List.mem_singleton.1 hb]
          exact fun e => hc (e ▸ ha)
        · exact g.family p cs h }

def families (g : Workflow τ) : List (TaskId × List TaskId) := g.links.toList

def parents (g : Workflow τ) (id : TaskId) : List TaskId :=
  g.links.keys.toList.filter fun p => id ∈ g.children p

def linkCount (g : Workflow τ) : Nat := total (fun e => e.2.length) g.families

def targets (g : Workflow τ) : Std.TreeSet Nat :=
  g.families.foldl (fun s e => e.2.foldl (·.insert ·) s) ∅

def sources (g : Workflow τ) : List TaskId :=
  let targets := g.targets
  g.ids.filter fun id => !targets.contains id

def starts (g : Workflow τ) : List TaskId :=
  match g.root? with
  | some id => [id]
  | none => g.sources

def visit (g : Workflow τ) : Nat → List TaskId → Std.TreeSet Nat → Array TaskId → Array TaskId
  | 0, _, _, order => order
  | _, [], _, order => order
  | n + 1, id :: stack, visited, order =>
    if g.contains id && !visited.contains id then
      g.visit n (g.children id ++ stack) (visited.insert id) (order.push id)
    else g.visit n stack visited order

/-- The tasks in depth-first preorder from the root, or from every task without parents if there is
no root. Every start is taken from the stack once and every link puts one identifier on it at most
once, which bounds the number of steps. -/
def preorder (g : Workflow τ) : List TaskId :=
  (g.visit (g.starts.length + g.linkCount) g.starts ∅ #[]).toList

end Workflow

end Dispatch
