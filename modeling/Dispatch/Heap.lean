import Dispatch.Total

/-!
Leftist heaps over a comparison that says which of two elements comes first. `toList` holds the
elements in no particular order: `insert` adds one, `deleteMin?` removes the root.
-/

namespace Dispatch

inductive Heap (α : Type u) where
  | empty
  | node (rank : Nat) (a : α) (left right : Heap α)

namespace Heap

variable {α : Type u}

instance : Inhabited (Heap α) := ⟨.empty⟩

def rank : Heap α → Nat
  | .empty => 0
  | .node n .. => n

def make (a : α) (h k : Heap α) : Heap α :=
  if k.rank ≤ h.rank then .node (k.rank + 1) a h k else .node (h.rank + 1) a k h

def mergeNode (before : α → α → Bool) (n : Nat) (a : α) (left right : Heap α)
    (mergeRight : Heap α → Heap α) : Heap α → Heap α
  | .empty => .node n a left right
  | .node m b l r =>
    if before b a then make b l (mergeNode before n a left right mergeRight r)
    else make a left (mergeRight (.node m b l r))

def merge (before : α → α → Bool) : Heap α → Heap α → Heap α
  | .empty => id
  | .node n a left right => mergeNode before n a left right (merge before right)

def insert (before : α → α → Bool) (h : Heap α) (a : α) : Heap α :=
  merge before (.node 1 a .empty .empty) h

def min? : Heap α → Option α
  | .empty => none
  | .node _ a _ _ => some a

def deleteMin? (before : α → α → Bool) : Heap α → Option (α × Heap α)
  | .empty => none
  | .node _ a left right => some (a, merge before left right)

def toList : Heap α → List α
  | .empty => []
  | .node _ a left right => a :: (left.toList ++ right.toList)

def size : Heap α → Nat
  | .empty => 0
  | .node _ _ left right => left.size + right.size + 1

def sumBy (weight : α → Nat) : Heap α → Nat
  | .empty => 0
  | .node _ a left right => weight a + left.sumBy weight + right.sumBy weight

theorem toList_make_perm (a : α) (h k : Heap α) :
    (make a h k).toList.Perm (a :: (h.toList ++ k.toList)) := by
  unfold make
  split
  · exact .refl _
  · exact .cons a List.perm_append_comm

theorem toList_mergeNode_perm (before : α → α → Bool) (n : Nat) (a : α) (left right : Heap α)
    (mergeRight : Heap α → Heap α)
    (hm : ∀ k, (mergeRight k).toList.Perm (right.toList ++ k.toList)) (k : Heap α) :
    (mergeNode before n a left right mergeRight k).toList.Perm
      (a :: (left.toList ++ right.toList) ++ k.toList) := by
  induction k with
  | empty => simp [mergeNode, toList]
  | node m b l r _ ih =>
    simp only [mergeNode]
    split
    · refine (toList_make_perm _ _ _).trans (.trans (.cons b (.append_left _ ih)) ?_)
      simp only [toList]
      refine .trans (.cons b List.perm_append_comm) ?_
      refine .trans ?_ List.perm_middle.symm
      refine .cons b ?_
      rw [List.append_assoc]
      exact .append_left _ List.perm_append_comm
    · refine (toList_make_perm _ _ _).trans ?_
      simp only [List.cons_append]
      refine .cons a ?_
      rw [List.append_assoc]
      exact .append_left _ (hm _)

theorem toList_merge_perm (before : α → α → Bool) (h k : Heap α) :
    (merge before h k).toList.Perm (h.toList ++ k.toList) := by
  induction h generalizing k with
  | empty => exact .refl _
  | node n a left right _ ih =>
    exact toList_mergeNode_perm before n a left right _ ih k

theorem toList_insert_perm (before : α → α → Bool) (h : Heap α) (a : α) :
    (h.insert before a).toList.Perm (a :: h.toList) :=
  toList_merge_perm before _ h

theorem toList_of_deleteMin? {before : α → α → Bool} {h h' : Heap α} {a : α}
    (hd : h.deleteMin? before = some (a, h')) : h.toList.Perm (a :: h'.toList) := by
  cases h with
  | empty => simp [deleteMin?] at hd
  | node n b left right =>
    simp only [deleteMin?, Option.some.injEq, Prod.mk.injEq] at hd
    rcases hd with ⟨rfl, rfl⟩
    exact .cons b (toList_merge_perm before left right).symm

@[simp] theorem length_toList (h : Heap α) : h.toList.length = h.size := by
  induction h with
  | empty => rfl
  | node n a left right ihl ihr => simp [toList, size, ihl, ihr]

theorem sumBy_eq_total (weight : α → Nat) (h : Heap α) : h.sumBy weight = total weight h.toList := by
  induction h with
  | empty => rfl
  | node n a left right ihl ihr => simp [sumBy, toList, ihl, ihr, Nat.add_assoc]

end Heap

end Dispatch
