import Dispatch.Workflow.Basic
import Dispatch.Log.Entry
import Dispatch.Text.Visible
import Dispatch.Trace.Cells
import Dispatch.Trace.Rows

/-!
Invocation traces. After a header a trace has a row for each function: owner, application, function,
trigger, and the number of invocations in each minute of a day. Every invocation becomes a task.
-/

namespace Dispatch

namespace Trace

def minutes : Nat := 1440

def firstMinute : Nat := 4

def columns : Nat := firstMinute + minutes

def nameColumn : Nat := 2

structure Settings where
  rating : UInt64 := 1000
  minuteLimit : UInt64 := 1000
  rowLimit : Nat := 1000
  deriving DecidableEq, Inhabited

structure Tally where
  rows : Nat := 0
  skipped : Nat := 0
  invalid : Nat := 0
  cut : Nat := 0
  tasks : Nat := 0
  deriving DecidableEq, Inhabited

structure RowFault where
  record : Nat
  position : Position
  fault : CellFault
  deriving DecidableEq, Inhabited

def RowFault.message (f : RowFault) : String :=
  s!"CSV parse error: record {f.record} (line {f.position.line}, field: {f.fault.cell}, " ++
  s!"byte: {f.position.byte}): invalid utf-8: invalid UTF-8 in field {f.fault.cell} " ++
  s!"near byte index {f.fault.length}"

inductive Warning where
  | unreadable (row : Nat) (fault : RowFault)
  | short (row columns : Nat)
  | invalidCount (row : Nat) (value : String) (minute : Nat) (function : String)
  deriving DecidableEq

namespace Warning

def text : Warning → String
  | .unreadable row fault => s!"skipping row {row}: " ++ fault.message
  | .short row n => s!"skipping row {row}: expected {columns} columns, got {n}"
  | .invalidCount row value minute function =>
    s!"row {row}: invalid invocation count " ++ Text.quote value ++
      s!" at minute {minute} of function " ++ function

def entry (w : Warning) : LogEntry := ⟨.warn, "trace", w.text⟩

end Warning

structure Reading (τ : Type) where
  tasks : Array (Task τ) := #[]
  tally : Tally := {}
  warnings : Array Warning := #[]

namespace Reading

variable {τ : Type} [Time τ] (cost : String → UInt64 → Cost)

def task (settings : Settings) (function : String) (minute id : Nat) : Task τ :=
  (Task.ofCost id function (UInt64.ofNat minute) (cost function settings.rating)).startingFrom
    (Time.quotient (UInt64.ofNat (minute * 60)) 1)

def addTasks (settings : Settings) (function : String) (minute : Nat) :
    Nat → Reading τ → Reading τ
  | 0, r => r
  | n + 1, r =>
    addTasks settings function minute n
      { r with tasks := r.tasks.push (task cost settings function minute r.tasks.size) }

def addMinute (settings : Settings) (function : String) (r : Reading τ) (minute : Nat)
    (cell : String) : Reading τ :=
  let count := Count.parse cell
  let r := if count = .invalid then
      { r with
        warnings := r.warnings.push (.invalidCount r.tally.rows cell minute function)
        tally.invalid := r.tally.invalid + 1 }
    else r
  let n := count.invocations
  if settings.minuteLimit < n then
    addTasks cost settings function minute settings.minuteLimit.toNat
      { r with tally.cut := r.tally.cut + 1 }
  else addTasks cost settings function minute n.toNat r

def skip (r : Reading τ) (w : Warning) : Reading τ :=
  { r with
    warnings := r.warnings.push w
    tally.skipped := r.tally.skipped + 1 }

def addMinutes (settings : Settings) (function : String) (r : Reading τ) (minute : Nat) :
    List String → Reading τ
  | [] => r
  | cell :: rest =>
    addMinutes settings function (addMinute cost settings function r minute cell) (minute + 1) rest

def addRow (settings : Settings) (r : Reading τ) (row : Except RowFault (Array String)) :
    Reading τ :=
  let number := r.tally.rows + 1
  let r := { r with tally.rows := number }
  match row with
  | .error fault => r.skip (.unreadable number fault)
  | .ok cells =>
    if cells.size < columns then r.skip (.short number cells.size)
    else
      let function := cells.getD nameColumn ""
      addMinutes cost settings function r 0 ((cells.toList.drop firstMinute).take minutes)

end Reading

def read {τ : Type} [Time τ] (cost : String → UInt64 → Cost) (settings : Settings)
    (rows : List (Except RowFault (Array String))) : Reading τ :=
  let r := (rows.take settings.rowLimit).foldl (Reading.addRow cost settings) {}
  { r with tally.tasks := r.tasks.size }

/-- The rows of a file after its header. Reading starts before the header, so that the first row
counts as following nothing. -/
def rows (bytes : List UInt8) : List (Except RowFault (Array String)) :=
  (Row.ofBytes bytes).tail.mapIdx fun i row =>
    let (record, position) := if i = 0 then (0, ⟨0, 1⟩) else (i + 1, row.position)
    row.texts.mapError (⟨record, position, ·⟩)

structure Format where
  rows : List UInt8 → List (Except RowFault (Array String)) := rows
  cost : String → UInt64 → Cost := demands

def toWorkflow {τ : Type} (tasks : Array (Task τ)) : Workflow τ :=
  tasks.foldl Workflow.insertTask .empty

end Trace

end Dispatch
