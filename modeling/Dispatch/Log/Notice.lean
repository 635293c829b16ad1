import Dispatch.Decimal
import Dispatch.Log.Entry
import Dispatch.Scheduler

namespace Dispatch

namespace Event

def object (members : List (String × String)) : String :=
  "\x7b" ++ ",".intercalate (members.map fun (k, v) => "\"" ++ k ++ "\":" ++ v) ++ "\x7d"

def jobText (d : Job Binary64) : String :=
  object [("cores", toString d.cores.toNat), ("length", toString d.length.toNat),
    ("memory", toString d.memory.toNat), ("submission_offset", d.notBefore.toShortest),
    ("task_id", toString d.taskId)]

def text : Event Binary64 → String
  | .provisioned u => object [("UnitProvisioned", object [("unit", toString u)])]
  | .ready => "\"UnitsReady\""
  | .arrived d u =>
    object [("TaskArrived", object [("task", jobText d), ("unit", toString u)])]
  | .completed id u =>
    object [("TaskCompleted", object [("task_id", toString id), ("unit", toString u)])]

end Event

namespace ClusterReport

def level : ClusterReport Binary64 → Level
  | .delivered _ => .trace
  | .provisioned .. => .debug
  | .allReady _ => .info
  | .startedTask .. => .debug
  | .unexpectedCompletion _ => .error
  | .unknownUnit .. => .error

def text : ClusterReport Binary64 → String
  | .delivered event => event.text
  | .provisioned u n total => s!"provisioned unit {u} ({n}/{total})"
  | .allReady n => s!"all {n} units are ready"
  | .startedTask t u d => s!"started task {t} on unit {u} for " ++ d.toFixed 3
  | .unexpectedCompletion t => s!"unexpected completion of task {t}"
  | .unknownUnit t u => s!"task {t} is submitted to unknown unit {u}"

end ClusterReport

namespace SchedulerReport

def level : SchedulerReport → Level
  | .malformedWorkflow _ => .error
  | .startedWorkflow .. => .info
  | .ignoredCompletion _ => .warn
  | .completedTask .. => .debug
  | .placingFailed .. => .error
  | .submittedTask .. => .debug
  | .finishedWorkflow => .info
  | .unfinishedWorkflow _ => .error

def text : SchedulerReport → String
  | .malformedWorkflow e => "failed to initialize task graph: " ++ e.message
  | .startedWorkflow tasks units => s!"started DAG with {tasks} tasks on {units} units"
  | .ignoredCompletion t => s!"completion of task {t} is ignored, scheduling is not running"
  | .completedTask t n => s!"task {t} completed, {n} tasks became ready"
  | .placingFailed t e => s!"failed to place task {t}: " ++ e.message
  | .submittedTask t u => s!"submitted task {t} to unit {u}"
  | .finishedWorkflow => "finished DAG"
  | .unfinishedWorkflow counts =>
    "DAG is not completed, currently " ++
      ", ".intercalate (counts.map fun (s, n) => toString n ++ " " ++ s.label) ++ " tasks"

end SchedulerReport

def ReleaseFault.level : ReleaseFault → Level
  | .zeroLoad _ => .warn
  | .unknownUnit _ => .error

namespace Notice

def level : Notice Binary64 → Level
  | .cluster _ r => r.level
  | .scheduler _ r => r.level
  | .progress .. => .warn
  | .policy fault => fault.level

def source : Notice Binary64 → String
  | .cluster .. => "engine"
  | .scheduler .. => "controller"
  | .progress .. => "resolver"
  | .policy _ => "placement"

def entry (n : Notice Binary64) : LogEntry :=
  match n with
  | .cluster time r => .stamped n.level time n.source r.text
  | .scheduler time r => .stamped n.level time n.source r.text
  | .progress task reason => ⟨n.level, n.source, reason.message task⟩
  | .policy fault => ⟨n.level, n.source, fault.message⟩

end Notice

end Dispatch
