import Dispatch.Command.Arguments
import Dispatch.Scenario.Document
import Dispatch.Log.Filter
import Dispatch.Log.Notice

namespace Dispatch

abbrev Files := String → Found

structure Logging where
  filter : LogFilter := .default
  eventTarget : String

inductive Ending where
  | success
  | misuse
  | failure (message : String)
  deriving DecidableEq

def Ending.code : Ending → UInt32
  | .success => 0
  | .misuse => 2
  | .failure _ => 101

inductive Output where
  | line (text : String)
  | summary (s : Summary Binary64)

structure Outcome where
  ending : Ending := .success
  output : List Output := []
  log : List String := []

structure Command (σ : Type) where
  usage : Usage σ
  paths : σ → List String
  run : Files → Logging → σ → Outcome

namespace Logging

def admits (l : Logging) : Notice Binary64 → Bool
  | .cluster _ (.delivered _) => l.filter.enables .trace l.eventTarget
  | _ => true

def texts (l : Logging) (notices : Array (Notice Binary64)) : List String :=
  (notices.toList.filter fun n => l.filter.enables n.level n.source && l.admits n).filterMap
    fun n => if l.filter.keeps n.entry then some n.entry.text else none

end Logging

namespace Run

variable {ρ : Type} [Policy ρ Binary64]

def finish (s : Run ρ Binary64) : Run ρ Binary64 × Array (Notice Binary64) :=
  let (s, notices) := s.toEnd
  (s, notices ++ (s.scheduler.unfinished?.map (.scheduler s.time)).toArray)

def unitLines (s : Run ρ Binary64) : List Output :=
  (s.cluster.units.toList.zip s.summary.perUnit.toList).map fun (u, n) =>
    .line ("  " ++ u.unit.name ++ s!": {n} tasks")

end Run

def Output.time (x? : Option Binary64) : String := (x?.getD .zero).toFixed 2

namespace Command

variable {σ : Type}

def needed (c : Command σ) (arguments : List String) : List String :=
  match c.usage.read arguments with
  | .ok settings => c.paths settings
  | .error _ => []

def perform (c : Command σ) (name : String) (files : Files) (filter? : Option String)
    (eventTarget : String) (arguments : List String) : Outcome :=
  let (filter, warnings) := (filter?.map LogFilter.parse).getD (.default, [])
  match c.usage.read arguments with
  | .ok settings =>
    let o := c.run files { filter, eventTarget } settings
    { o with log := warnings ++ o.log }
  | .error .helpWanted => { output := (c.usage.help name).map .line, log := warnings }
  | .error .misuse => { ending := .misuse, log := warnings }

end Command

end Dispatch
