import Dispatch.Heap
import Dispatch.Workflow.Task

/-!
What happens to units and tasks, and the queue of events that are still to happen. The queue yields
the earliest event, and of several at one time the one that was created first.
-/

namespace Dispatch

inductive Event (τ : Type) where
  | provisioned (unit : UnitId)
  | ready
  | arrived (task : Job τ) (unit : UnitId)
  | completed (task : TaskId) (unit : UnitId)
  deriving DecidableEq

structure Appointment (τ : Type) where
  id : Nat
  time : τ
  event : Event τ

namespace Appointment

variable {τ : Type} [Time τ]

def priority (a b : Appointment τ) : Ordering :=
  (Time.compare b.time a.time).then (compare b.id a.id)

def before (a b : Appointment τ) : Bool := a.priority b == .gt

def same (a b : Appointment τ) : Bool := a.id == b.id

end Appointment

abbrev Calendar (τ : Type) := Heap (Appointment τ)

namespace Calendar

variable {τ : Type} [Time τ]

def push (q : Calendar τ) (e : Appointment τ) : Calendar τ := q.insert Appointment.before e

def peek? (q : Calendar τ) : Option (Appointment τ) := q.min?

def pop? (q : Calendar τ) : Option (Appointment τ × Calendar τ) :=
  q.deleteMin? Appointment.before

def inOrder (q : Calendar τ) : List (Appointment τ) := go q.size q
where
  go : Nat → Calendar τ → List (Appointment τ)
    | 0, _ => []
    | n + 1, q =>
      match pop? q with
      | none => []
      | some (e, rest) => e :: go n rest

end Calendar

end Dispatch
