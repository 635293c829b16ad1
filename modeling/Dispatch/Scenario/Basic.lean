import Dispatch.Run
import Dispatch.Trace.Source

namespace Dispatch

/-- A scenario as it is written down: zero, an empty name and an empty list stand for the
default. -/
structure Draft where
  rating : UInt64 := 0
  minuteLimit : UInt64 := 0
  rowLimit : Nat := 0
  policy : String := ""
  units : List UnitGroup := []
  deriving DecidableEq, Inhabited

structure Scenario where
  rating : UInt64 := 1000
  minuteLimit : UInt64 := 1000
  rowLimit : Nat := 1000
  policy : String := "LeastLoaded"
  units : List UnitGroup :=
    [{ name := "vm", speed := 1000, cores := 1, memory := 1024, count := 5 }]
  deriving DecidableEq, Inhabited

inductive Scenario.Error where
  | fileNotFound
  | malformed
  | zeroSpeed (unit : String)
  | zeroCores (unit : String)
  | unknownPolicy (name : String)
  deriving DecidableEq

def Scenario.Error.message : Scenario.Error → String
  | .fileNotFound => "IO error: No such file or directory (os error 2)"
  | .malformed => "YAML error"
  | .zeroSpeed unit => "invalid config: unit " ++ unit ++ " has zero speed"
  | .zeroCores unit => "invalid config: unit " ++ unit ++ " has zero cores"
  | .unknownPolicy name => "unknown placement policy: " ++ name

def UnitGroup.fault? (c : UnitGroup) : Option Scenario.Error :=
  if c.speed = 0 then some (.zeroSpeed c.name)
  else if c.cores = 0 then some (.zeroCores c.name)
  else none

namespace Scenario

def ofDraft (raw : Draft) : Except Scenario.Error Scenario :=
  match raw.units.findSome? UnitGroup.fault? with
  | some e => .error e
  | none =>
    let d : Scenario := {}
    .ok {
      rating := if raw.rating = 0 then d.rating else raw.rating
      minuteLimit :=
        if raw.minuteLimit = 0 then d.minuteLimit
        else raw.minuteLimit
      rowLimit := if raw.rowLimit = 0 then d.rowLimit else raw.rowLimit
      policy := if raw.policy.isEmpty then d.policy else raw.policy
      units := if raw.units.isEmpty then d.units else raw.units }

def traceSettings (c : Scenario) : Trace.Settings where
  rating := c.rating
  minuteLimit := c.minuteLimit
  rowLimit := c.rowLimit

def poolSize (c : Scenario) : Nat := UnitGroup.totalCount c.units

def pool (c : Scenario) : Array ComputeUnit := Pool.ofGroups c.units

def start {τ : Type} [Time τ] (c : Scenario) (g : Workflow τ) :
    Except Scenario.Error (Run NamedPolicy τ) :=
  match NamedPolicy.ofName? c.policy c.pool.size with
  | some policy => .ok (.ofPool c.pool g policy)
  | none => .error (.unknownPolicy c.policy)

end Scenario

end Dispatch
