import Dispatch.Trace.Reading

namespace Dispatch.Trace

inductive Source.Error where
  | notFound (path : String)
  | unreadable
  deriving DecidableEq

def Source.Error.message : Source.Error → String
  | .notFound path => "trace source not found: " ++ path
  | .unreadable => "CSV error: No such file or directory (os error 2)"

/-- A trace that is read at most once: what the first reading gave stays, whatever becomes of the
file. Its tasks and its tally are set one after the other. -/
structure Source (τ : Type) where
  settings : Settings
  format : Format := {}
  tasks? : Option (Array (Task τ)) := none
  tally : Tally := {}

namespace Source

variable {τ : Type} [Time τ]

def ofPath (path : String) (file? : Option (List UInt8)) (settings : Settings) (format : Format := {}) :
    Except Source.Error (Source τ) :=
  match file? with
  | some _ => .ok { settings := settings, format := format }
  | none => .error (.notFound path)

def read (i : Source τ) (file? : Option (List UInt8)) :
    Source τ × Except Source.Error (Array (Task τ)) × Array Warning :=
  match i.tasks? with
  | some tasks => (i, .ok tasks, #[])
  | none =>
    match file? with
    | none => (i, .error .unreadable, #[])
    | some bytes =>
      let r := Trace.read i.format.cost i.settings (i.format.rows bytes)
      let i := { i with tally := r.tally }
      ({ i with tasks? := some r.tasks }, .ok r.tasks, r.warnings)

def workflow (i : Source τ) (file? : Option (List UInt8)) :
    Except Source.Error (Workflow τ) × Array Warning :=
  let (_, tasks, warnings) := i.read file?
  (tasks.map toWorkflow, warnings)

end Source

end Dispatch.Trace
