import Dispatch.Workflow.Basic

namespace Dispatch

abbrev CostRule := UInt64 → Cost

structure Doubling where
  base : UInt64 := 10
  memory : UInt64 := 128
  rating : UInt64
  deriving DecidableEq

/-- The exponent stops at 63, the last power of two that a word holds. -/
def Doubling.cost (m : Doubling) : CostRule := fun input =>
  .sequential (Saturating.mul m.base (1 <<< min input 63)) m.memory m.rating

structure Recursion where
  name : String
  threshold : UInt64
  split : UInt64 → UInt64 × UInt64
  cost : CostRule

namespace Recursion

variable {τ : Type} [Time τ]

def fibonacci (cost : CostRule) : Recursion where
  name := "fib"
  threshold := 1
  split n := (Saturating.sub n 1, Saturating.sub n 2)
  cost := cost

def task (r : Recursion) (id : TaskId) (input : UInt64) : Task τ :=
  .ofCost id r.name input (r.cost input)

def grow (r : Recursion) : Nat → Workflow τ → TaskId → UInt64 → Workflow τ
  | 0, g, _, _ => g
  | depth + 1, g, parent, input =>
    if input ≤ r.threshold then g
    else
      let inputs := r.split input
      let left := g.size
      let g := g.insertTask (r.task left inputs.1)
      let right := g.size
      let g := g.insertTask (r.task right inputs.2)
      let g := (g.link parent left).link parent right
      r.grow depth (r.grow depth g left inputs.1) right inputs.2

/-- The workflow for an input, its tasks numbered from 0. Inputs fall from one generation to the
next, so that there are no more generations than the input says. -/
def workflow (r : Recursion) (input : UInt64) : Workflow τ :=
  r.grow input.toNat (Workflow.empty.insertRoot (r.task 0 input)) 0 input

end Recursion

end Dispatch
