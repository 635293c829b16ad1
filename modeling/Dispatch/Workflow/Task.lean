import Dispatch.Pool
import Dispatch.Saturating
import Dispatch.Time

namespace Dispatch

abbrev TaskId := Nat

inductive Phase where
  | blocked
  | ready
  | submitted
  | completed
  deriving DecidableEq, Inhabited

namespace Phase

def all : List Phase := [.blocked, .ready, .submitted, .completed]

def label : Phase → String
  | .blocked => "Blocked"
  | .ready => "Ready"
  | .submitted => "Submitted"
  | .completed => "Completed"

end Phase

/-- What a task demands. Its length is the runtime on a unit of the reference rating, times that
rating. -/
structure Cost where
  runtime : UInt64
  memory : UInt64
  cores : UInt32
  length : UInt64
  deriving DecidableEq, Inhabited

def Cost.sequential (runtime memory rating : UInt64) : Cost where
  runtime := runtime
  memory := memory
  cores := 1
  length := Saturating.mul runtime rating

structure Assignment (τ : Type) where
  unit : UnitId
  time : τ
  deriving DecidableEq

structure Job (τ : Type) where
  taskId : TaskId
  length : UInt64
  cores : UInt32
  memory : UInt64
  notBefore : τ
  deriving DecidableEq

structure Task (τ : Type) where
  id : TaskId
  name : String
  input : UInt64
  runtime : UInt64
  memory : UInt64
  cores : UInt32
  length : UInt64
  notBefore : τ
  assignment : Option (Assignment τ) := none
  done : Bool := false
  deriving DecidableEq

namespace Task

variable {τ : Type}

def ofCost [Time τ] (id : TaskId) (name : String) (input : UInt64) (cost : Cost) : Task τ where
  id := id
  name := name
  input := input
  runtime := cost.runtime
  memory := cost.memory
  cores := cost.cores
  length := cost.length
  notBefore := Time.zero

def startingFrom (t : Task τ) (time : τ) : Task τ := { t with notBefore := time }

def isParallel (t : Task τ) : Bool := 1 < t.cores

def job (t : Task τ) : Job τ where
  taskId := t.id
  length := t.length
  cores := t.cores
  memory := t.memory
  notBefore := t.notBefore

end Task

end Dispatch
