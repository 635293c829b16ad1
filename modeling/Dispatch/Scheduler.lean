import Dispatch.Cluster.Basic
import Dispatch.Policy
import Dispatch.Workflow.Progress

/-!
The scheduler. It is told every event and answers with actions: the event is passed on to the
cluster, and where it made tasks ready these are placed on units and submitted. A malformed workflow
or a policy that finds no unit halts the scheduler for good.
-/

namespace Dispatch

inductive Fault where
  | link (error : LinkError)
  | policy (error : PolicyError)
  deriving DecidableEq

inductive SchedulerReport where
  | malformedWorkflow (error : LinkError)
  | startedWorkflow (tasks units : Nat)
  | ignoredCompletion (task : TaskId)
  | completedTask (task : TaskId) (released : Nat)
  | placingFailed (task : TaskId) (error : PolicyError)
  | submittedTask (task : TaskId) (unit : UnitId)
  | finishedWorkflow
  | unfinishedWorkflow (counts : List (Phase × Nat))
  deriving DecidableEq

inductive Notice (τ : Type) where
  | cluster (time : τ) (report : ClusterReport τ)
  | scheduler (time : τ) (report : SchedulerReport)
  | progress (task : TaskId) (reason : Refusal)
  | policy (fault : ReleaseFault)
  deriving DecidableEq

inductive Action (τ : Type) where
  | forward (event : Event τ)
  | submit (task : Job τ) (unit : UnitId)
  | note (notice : Notice τ)
  deriving DecidableEq

structure Scheduler (σ τ : Type) where
  workflow? : Option (Workflow τ)
  progress : Progress τ := .empty
  policy : σ
  finished : Bool := false
  error? : Option Fault := none

namespace Scheduler

variable {σ τ : Type} [Policy σ τ]

def ofWorkflow (g : Workflow τ) (policy : σ) : Scheduler σ τ where
  workflow? := some g
  policy := policy

def halted (c : Scheduler σ τ) : Bool := c.error?.isSome

def loads (c : Scheduler σ τ) : Array Nat := Policy.loads τ c.policy

def policyName (c : Scheduler σ τ) : String := Policy.name τ c.policy

def unitFor? (c : Scheduler σ τ) (id : TaskId) : Option UnitId :=
  (c.progress.task? id).bind fun t => t.assignment.map (·.unit)

def submitUpTo (time : τ) : Nat → Scheduler σ τ → Array (Action τ) →
    Scheduler σ τ × Array (Action τ)
  | 0, c, out => (c, out)
  | n + 1, c, out =>
    match c.progress.peek? with
    | none => (c, out)
    | some task =>
      match Policy.choose c.policy task with
      | (.error e, policy) =>
        ({ c with policy := policy, error? := some (.policy e) },
          out.push (.note (.scheduler time (.placingFailed task.id e))))
      | (.ok unit, policy) =>
        match c.progress.next? with
        | none => ({ c with policy := policy }, out)
        | some (id, progress) =>
          submitUpTo time n
            { c with policy := policy, progress := progress.assign id ⟨unit, time⟩ }
            ((out.push (.note (.scheduler time (.submittedTask id unit)))).push
              (.submit task.job unit))

def noteFinish (c : Scheduler σ τ) (time : τ) (out : Array (Action τ)) :
    Scheduler σ τ × Array (Action τ) :=
  if !c.finished && c.progress.isFinished then
    ({ c with finished := true }, out.push (.note (.scheduler time .finishedWorkflow)))
  else (c, out)

def advance (c : Scheduler σ τ) (time : τ) (out : Array (Action τ)) :
    Scheduler σ τ × Array (Action τ) :=
  let (c, out) := submitUpTo time c.progress.readySize c out
  c.noteFinish time out

def whenReady (c : Scheduler σ τ) (time : τ) (out : Array (Action τ)) :
    Scheduler σ τ × Array (Action τ) :=
  if c.halted then (c, out)
  else
    match c.workflow? with
    | none => c.advance time out
    | some g =>
      match c.progress.start g with
      | .error e =>
        ({ c with workflow? := none, error? := some (.link e) },
          out.push (.note (.scheduler time (.malformedWorkflow e))))
      | .ok progress =>
        advance { c with workflow? := none, progress := progress } time
          (out.push (.note (.scheduler time
            (.startedWorkflow g.size (Policy.size τ c.policy)))))

def unitToFree? (c : Scheduler σ τ) (id : TaskId) : Option UnitId :=
  if c.progress.phase? id = some .submitted then c.unitFor? id else none

def freeUnit (policy : σ) (unit? : Option UnitId) : σ × Option ReleaseFault :=
  match unit? with
  | some u => Policy.release τ policy u
  | none => (policy, none)

def whenCompleted (c : Scheduler σ τ) (time : τ) (id : TaskId) (out : Array (Action τ)) :
    Scheduler σ τ × Array (Action τ) :=
  if c.halted || !c.progress.started then
    (c, out.push (.note (.scheduler time (.ignoredCompletion id))))
  else
    let (policy, fault) := freeUnit (τ := τ) c.policy (c.unitToFree? id)
    let (progress, completion) := c.progress.complete id
    let out := out ++ (fault.map fun f => .note (.policy f)).toArray
    let out := out ++ (completion.refusal?.map fun r => .note (.progress id r)).toArray
    let out := out.push (.note (.scheduler time (.completedTask id completion.released.size)))
    advance { c with policy := policy, progress := progress } time out

def handle (c : Scheduler σ τ) (time : τ) (event : Event τ) : Scheduler σ τ × Array (Action τ) :=
  let out := #[.forward event]
  match event with
  | .ready => c.whenReady time out
  | .completed id _ => c.whenCompleted time id out
  | _ => (c, out)

def unfinished? (c : Scheduler σ τ) : Option SchedulerReport :=
  if c.finished then none
  else some (.unfinishedWorkflow ((Phase.all.map fun s => (s, c.progress.countIn s)).filter
    (·.2 != 0)))

def remaining (c : Scheduler σ τ) : Nat :=
  c.progress.remaining + match c.workflow? with
    | some g => g.size + g.linkCount
    | none => 0

end Scheduler

end Dispatch
