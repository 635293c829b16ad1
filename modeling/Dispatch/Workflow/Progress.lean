import Dispatch.Workflow.Basic
import Dispatch.Queue

/-!
The progress of a workflow: it counts for each task the parents that are not completed and releases
a task into a queue when none is left. `start` takes over a workflow, `next?` submits the task at
the front of the queue, `complete` records a completion.
-/

namespace Dispatch

inductive LinkError where
  | missingChild (parent child : TaskId)
  | missingParent (parent : TaskId)
  | alreadyStarted
  deriving DecidableEq

namespace LinkError

def message : LinkError → String
  | .missingChild p c => s!"task {p} references child {c} which is not part of the graph"
  | .missingParent p => s!"edge source {p} is not part of the graph"
  | .alreadyStarted => "dependency resolver is already initialized"

end LinkError

structure Status where
  phase : Phase
  pending : Nat
  deriving DecidableEq

inductive Refusal where
  | unknown
  | duplicate
  | premature (phase : Phase)
  deriving DecidableEq

def Refusal.message (task : TaskId) : Refusal → String
  | .unknown => s!"completion of unknown task {task} is ignored"
  | .duplicate => s!"duplicate completion of task {task} is ignored"
  | .premature phase => s!"completion of task {task} in state {phase.label} is ignored"

inductive Completion where
  | effective (released : Array TaskId)
  | refused (reason : Refusal)
  deriving DecidableEq

namespace Completion

def released : Completion → Array TaskId
  | .effective r => r
  | .refused _ => #[]

def refusal? : Completion → Option Refusal
  | .effective _ => none
  | .refused reason => some reason

end Completion

structure Progress (τ : Type) where
  workflow : Workflow τ := .empty
  status : Table Status := .empty
  ready : Queue TaskId := .empty
  submitted : Nat := 0
  completed : Nat := 0
  started : Bool := false

namespace Workflow

variable {τ : Type}

def danglingLink? (g : Workflow τ) : Option LinkError :=
  g.families.findSome? fun (p, cs) =>
    if g.contains p then (cs.find? (!g.contains ·)).map (.missingChild p)
    else some (.missingParent p)

def parentCounts (g : Workflow τ) : Table Nat :=
  g.families.foldl (fun counts e => e.2.foldl (fun counts c => counts.modify c (· + 1)) counts)
    (g.tasks.map fun _ _ => 0)

def preorderAll (g : Workflow τ) : List TaskId :=
  let order := g.preorder
  let seen : Std.TreeSet Nat := order.foldl (·.insert ·) ∅
  order ++ g.ids.filter (!seen.contains ·)

end Workflow

namespace Progress

variable {τ : Type}

def empty : Progress τ := {}

instance : Inhabited (Progress τ) := ⟨empty⟩

def start (r : Progress τ) (g : Workflow τ) : Except LinkError (Progress τ) :=
  if r.started then .error .alreadyStarted
  else
    match g.danglingLink? with
    | some e => .error e
    | none =>
      let counts := g.parentCounts
      .ok {
        workflow := g
        status := counts.map fun _ n => ⟨if n = 0 then .ready else .blocked, n⟩
        ready := .ofList (g.preorderAll.filter fun id => counts.get? id == some 0)
        submitted := 0
        completed := 0
        started := true }

def task? (r : Progress τ) (id : TaskId) : Option (Task τ) := r.workflow.task? id

def phase? (r : Progress τ) (id : TaskId) : Option Phase := (r.status.get? id).map (·.phase)

def pending? (r : Progress τ) (id : TaskId) : Option Nat := (r.status.get? id).map (·.pending)

def readySize (r : Progress τ) : Nat := r.ready.size

def countIn (r : Progress τ) (s : Phase) : Nat :=
  r.status.values.countP (·.phase == s)

def isFinished (r : Progress τ) : Bool := r.started && r.completed == r.workflow.size

def setPhase (r : Progress τ) (id : TaskId) (s : Phase) : Progress τ :=
  { r with status := r.status.modify id ({ · with phase := s }) }

def assign (r : Progress τ) (id : TaskId) (e : Assignment τ) : Progress τ :=
  { r with workflow := r.workflow.modifyTask id ({ · with assignment := some e }) fun _ => rfl }

def peek? (r : Progress τ) : Option (Task τ) := r.ready.head?.bind r.task?

def next? (r : Progress τ) : Option (TaskId × Progress τ) :=
  r.ready.dequeue?.map fun (id, ready) =>
    (id, { r.setPhase id .submitted with ready := ready, submitted := r.submitted + 1 })

def releaseChild (status : Table Status) (released : Array TaskId) (child : TaskId) :
    Table Status × Array TaskId :=
  match status.get? child with
  | some ⟨_, 1⟩ => (status.insert child ⟨.ready, 0⟩, released.push child)
  | some ⟨s, n + 2⟩ => (status.insert child ⟨s, n + 1⟩, released)
  | _ => (status, released)

def finish (r : Progress τ) (id : TaskId) : Progress τ × Array TaskId :=
  let r' := r.setPhase id .completed
  let (status, released) :=
    (r.workflow.children id).foldl (fun (st, rel) c => releaseChild st rel c) (r'.status, #[])
  ({ r' with
      workflow := r.workflow.modifyTask id ({ · with done := true }) fun _ => rfl
      status := status
      ready := released.foldl (·.enqueue ·) r.ready
      submitted := r.submitted - 1
      completed := r.completed + 1 }, released)

def complete (r : Progress τ) (id : TaskId) : Progress τ × Completion :=
  match r.phase? id with
  | none => (r, .refused .unknown)
  | some .submitted => let (r', released) := r.finish id; (r', .effective released)
  | some .completed => (r, .refused .duplicate)
  | some s => (r, .refused (.premature s))

def playFor : Nat → Progress τ → Array (TaskId × Array TaskId) →
    Progress τ × Array (TaskId × Array TaskId)
  | 0, r, out => (r, out)
  | n + 1, r, out =>
    match r.next? with
    | none => (r, out)
    | some (id, r') =>
      let (r'', completion) := r'.complete id
      playFor n r'' (out.push (id, completion.released))

def remaining (r : Progress τ) : Nat :=
  r.ready.size + total (·.pending) r.status.values

def playOut (r : Progress τ) : Progress τ × Array (TaskId × Array TaskId) :=
  playFor r.remaining r #[]

end Progress

end Dispatch
