/-!
First-in first-out queues. `toList` lists the elements in the order in which they leave; each
operation is described through it.
-/

namespace Dispatch

/-- A queue holds the elements that leave next in `front` and the newest ones, reversed, in `back`.
The operations take care that `front` is empty only if `back` is, for the sake of speed. -/
structure Queue (α : Type u) where
  front : List α := []
  back : List α := []

namespace Queue

variable {α : Type u}

def empty : Queue α := {}

instance : Inhabited (Queue α) := ⟨empty⟩

def toList (q : Queue α) : List α := q.front ++ q.back.reverse

def size (q : Queue α) : Nat := q.front.length + q.back.length

def isEmpty (q : Queue α) : Bool := q.front.isEmpty && q.back.isEmpty

def ofParts (front back : List α) : Queue α :=
  match front with
  | [] => { front := back.reverse }
  | _ :: _ => { front := front, back := back }

def enqueue (q : Queue α) (a : α) : Queue α := ofParts q.front (a :: q.back)

def ofList (l : List α) : Queue α := { front := l }

def head? (q : Queue α) : Option α :=
  match q.front with
  | a :: _ => some a
  | [] => q.back.getLast?

def dequeue? (q : Queue α) : Option (α × Queue α) :=
  match q.front with
  | a :: rest => some (a, ofParts rest q.back)
  | [] =>
    match q.back.reverse with
    | a :: rest => some (a, { front := rest })
    | [] => none

@[simp] theorem toList_empty : (empty : Queue α).toList = [] := rfl

@[simp] theorem toList_ofList (l : List α) : (ofList l).toList = l := by
  simp [ofList, toList]

@[simp] theorem toList_ofParts (front back : List α) :
    (ofParts front back).toList = front ++ back.reverse := by
  cases front <;> simp [ofParts, toList]

@[simp] theorem toList_enqueue (q : Queue α) (a : α) :
    (q.enqueue a).toList = q.toList ++ [a] := by
  rw [enqueue, toList_ofParts, List.reverse_cons, ← List.append_assoc]
  rfl

@[simp] theorem length_toList (q : Queue α) : q.toList.length = q.size := by
  simp [toList, size]

theorem head?_eq (q : Queue α) : q.head? = q.toList.head? := by
  rcases q with ⟨front, back⟩
  cases front <;> simp [head?, toList]

theorem toList_of_dequeue? {q q' : Queue α} {a : α} (h : q.dequeue? = some (a, q')) :
    q.toList = a :: q'.toList := by
  rcases q with ⟨front, back⟩
  cases front with
  | cons b rest =>
    simp only [dequeue?, Option.some.injEq, Prod.mk.injEq] at h
    rcases h with ⟨rfl, rfl⟩
    rw [toList_ofParts]
    rfl
  | nil =>
    cases hb : back.reverse with
    | nil => simp [dequeue?, hb] at h
    | cons b rest =>
      simp only [dequeue?, hb, Option.some.injEq, Prod.mk.injEq] at h
      rcases h with ⟨rfl, rfl⟩
      simp [toList, hb]

theorem dequeue?_eq_none_iff {q : Queue α} : q.dequeue? = none ↔ q.toList = [] := by
  rcases q with ⟨front, back⟩
  cases front with
  | cons b rest => simp [dequeue?, toList]
  | nil =>
    cases hb : back.reverse with
    | nil => simp [dequeue?, toList, hb]
    | cons b rest => simp [dequeue?, toList, hb]

end Queue

end Dispatch
