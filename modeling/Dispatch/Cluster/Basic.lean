import Dispatch.Cluster.Calendar
import Dispatch.Queue
import Dispatch.Summary.Basic
import Std.Data.TreeMap

/-!
A cluster of units in discrete time: it provisions the units of a pool, runs submitted tasks on
them and reports completions. Each unit runs tasks at the same time as long as it has free cores and
keeps the others in the order of their arrival.
-/

namespace Dispatch

structure Record (τ : Type) where
  taskId : TaskId
  unit : UnitId
  cores : UInt32 := 0
  arrived : τ
  started : Option τ := none
  finished : Option τ := none
  deriving DecidableEq

structure Station (τ : Type) where
  unit : ComputeUnit
  free : UInt32
  queue : Queue (Job τ) := .empty

namespace Station

variable {τ : Type}

/-- A task takes at least one core and at most all cores of the unit; a unit without cores counts
as one with a single core here. -/
def demand (s : Station τ) (d : Job τ) : UInt32 :=
  min (max d.cores 1) (max s.unit.cores 1)

def timeFor [Time τ] (s : Station τ) (d : Job τ) : τ :=
  Time.quotient d.length (max s.unit.speed 1)

end Station

inductive ClusterReport (τ : Type) where
  | delivered (event : Event τ)
  | provisioned (unit : UnitId) (ready total : Nat)
  | allReady (total : Nat)
  | startedTask (task : TaskId) (unit : UnitId) (duration : τ)
  | unexpectedCompletion (task : TaskId)
  | unknownUnit (task : TaskId) (unit : UnitId)
  deriving DecidableEq

structure Cluster (τ : Type) where
  clock : τ
  calendar : Calendar τ := .empty
  created : Nat := 0
  units : Array (Station τ)
  readyUnits : Nat := 0
  records : Std.TreeMap Nat (Record τ) := ∅

namespace Cluster

variable {τ : Type} [Time τ]

def ofPool (pool : Array ComputeUnit) : Cluster τ where
  clock := Time.zero
  units := pool.map fun u => { unit := u, free := u.cores }

def size (e : Cluster τ) : Nat := e.units.size

def unit? (e : Cluster τ) (u : UnitId) : Option ComputeUnit := e.units[u]?.map (·.unit)

def record? (e : Cluster τ) (id : TaskId) : Option (Record τ) := e.records[id]?

def schedule (e : Cluster τ) (event : Event τ) (delay : τ) : Cluster τ :=
  { e with
    calendar := e.calendar.push ⟨e.created, Time.add e.clock delay, event⟩
    created := e.created + 1 }

def startUnits (e : Cluster τ) : Cluster τ :=
  if e.units.isEmpty then e.schedule .ready Time.zero
  else (List.range e.units.size).foldl (fun e u => e.schedule (.provisioned u) Time.zero) e

def nextTime? (e : Cluster τ) : Option τ := e.calendar.peek?.map (·.time)

def next? (e : Cluster τ) : Option (Event τ × Cluster τ) :=
  e.calendar.pop?.map fun (s, rest) => (s.event, { e with clock := s.time, calendar := rest })

def submit (e : Cluster τ) (d : Job τ) (u : UnitId) : Cluster τ × Array (ClusterReport τ) :=
  if u < e.units.size then
    (e.schedule (.arrived d u) (Time.max (Time.sub d.notBefore e.clock) Time.zero), #[])
  else (e, #[.unknownUnit d.taskId u])

def startTask (e : Cluster τ) (u : UnitId) (s : Station τ) (d : Job τ)
    (rest : Queue (Job τ)) : Cluster τ :=
  let cores := s.demand d
  let e := { e with
    units := e.units.setIfInBounds u { s with free := s.free - cores, queue := rest }
    records := e.records.modify d.taskId
      ({ · with started := some e.clock, cores := cores }) }
  e.schedule (.completed d.taskId u) (s.timeFor d)

def startFront : Nat → Cluster τ → UnitId → Array (ClusterReport τ) →
    Cluster τ × Array (ClusterReport τ)
  | 0, e, _, out => (e, out)
  | n + 1, e, u, out =>
    match e.units[u]? with
    | none => (e, out)
    | some s =>
      match s.queue.dequeue? with
      | none => (e, out)
      | some (d, rest) =>
        if s.free < s.demand d then (e, out)
        else
          startFront n (e.startTask u s d rest) u (out.push (.startedTask d.taskId u (s.timeFor d)))

/-- Every task takes a core at least, so that not more of them can start than cores are free. -/
def startWaiting (e : Cluster τ) (u : UnitId) : Cluster τ × Array (ClusterReport τ) :=
  match e.units[u]? with
  | none => (e, #[])
  | some s => startFront s.free.toNat e u #[]

def isRunning (e : Cluster τ) (id : TaskId) : Bool :=
  match e.record? id with
  | some r => r.started.isSome && r.finished.isNone
  | none => false

def coresOf (e : Cluster τ) (id : TaskId) : UInt32 := ((e.record? id).map (·.cores)).getD 0

def countUnit (e : Cluster τ) (u : UnitId) : Cluster τ × Array (ClusterReport τ) :=
  let n := e.readyUnits + 1
  let e := { e with readyUnits := n }
  (if n = e.units.size then e.schedule .ready Time.zero else e,
    #[.provisioned u n e.units.size])

def enter (e : Cluster τ) (d : Job τ) (u : UnitId) : Cluster τ :=
  { e with
    records := e.records.insert d.taskId { taskId := d.taskId, unit := u, arrived := e.clock }
    units := e.units.modify u fun s => { s with queue := s.queue.enqueue d } }

def leave (e : Cluster τ) (id : TaskId) (u : UnitId) : Cluster τ :=
  { e with
    records := e.records.modify id ({ · with finished := some e.clock })
    units := e.units.modify u fun s => { s with free := s.free + e.coresOf id } }

def receive (e : Cluster τ) (d : Job τ) (u : UnitId) :
    Cluster τ × Array (ClusterReport τ) :=
  (e.enter d u).startWaiting u

def complete (e : Cluster τ) (id : TaskId) (u : UnitId) :
    Cluster τ × Array (ClusterReport τ) :=
  if e.isRunning id then (e.leave id u).startWaiting u
  else (e, #[.unexpectedCompletion id])

def handle (e : Cluster τ) : Event τ → Cluster τ × Array (ClusterReport τ)
  | .provisioned u => e.countUnit u
  | .ready => (e, #[.allReady e.units.size])
  | .arrived d u => e.receive d u
  | .completed id u => e.complete id u

def canRegain (e : Cluster τ) (u : UnitId) (cores : UInt32) : Bool :=
  match e.units[u]? with
  | some s => s.free.toNat + cores.toNat < UInt32.size
  | none => false

def admits (e : Cluster τ) : Event τ → Bool
  | .arrived _ u => u < e.units.size
  | .completed id u => !e.isRunning id || e.canRegain u (e.coresOf id)
  | _ => true

def weight : Event τ → Nat
  | .provisioned _ => 2
  | .ready => 1
  | .arrived .. => 2
  | .completed .. => 1

/-- A bound on the number of events that happen if nothing more is submitted: an arrived task
completes at most once, and a provisioned unit may complete the pool. -/
def budget (e : Cluster τ) : Nat :=
  e.calendar.sumBy (fun s => weight s.event) + total (·.queue.size) e.units.toList

def countRecord (summary : Summary τ) (r : Record τ) : Summary τ :=
  match r.started, r.finished with
  | some started, some finished =>
    { completed := summary.completed + 1
      makespan := Time.max summary.makespan finished
      working := summary.working.add (Time.sub finished started)
      waiting := summary.waiting.add (Time.sub started r.arrived)
      perUnit := summary.perUnit.modify r.unit (· + 1) }
  | _, _ => summary

def summary (e : Cluster τ) : Summary τ :=
  e.records.foldl (fun summary _ r => countRecord summary r) {
    completed := 0
    makespan := Time.zero
    working := .empty
    waiting := .empty
    perUnit := Array.replicate e.units.size 0 }

end Cluster

end Dispatch
