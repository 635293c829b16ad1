import Dispatch.Scheduler

/-!
A run joins a cluster and a scheduler: each step takes the next event from the cluster, tells the
scheduler, and lets the cluster perform what the scheduler asks for.
-/

namespace Dispatch

structure Run (σ τ : Type) where
  cluster : Cluster τ
  scheduler : Scheduler σ τ

namespace Cluster

variable {τ : Type} [Time τ]

def notices (e : Cluster τ) (reports : Array (ClusterReport τ)) : Array (Notice τ) :=
  reports.map (.cluster e.clock)

def perform : Cluster τ × Array (Notice τ) → Action τ → Cluster τ × Array (Notice τ)
  | (e, out), .forward event =>
    let (e, reports) := e.handle event
    (e, out ++ e.notices reports)
  | (e, out), .submit d u =>
    let (e, reports) := e.submit d u
    (e, out ++ e.notices reports)
  | (e, out), .note notice => (e, out.push notice)

end Cluster

namespace Run

variable {σ τ : Type} [Time τ] [Policy σ τ]

def ofPool (pool : Array ComputeUnit) (g : Workflow τ) (policy : σ) : Run σ τ where
  cluster := (Cluster.ofPool pool).startUnits
  scheduler := .ofWorkflow g policy

def ofPool? (pool : Array ComputeUnit) (g : Workflow τ) (policy : σ) : Option (Run σ τ) :=
  if Policy.size τ policy = pool.size then some (ofPool pool g policy) else none

def time (s : Run σ τ) : τ := s.cluster.clock

def created (s : Run σ τ) : Nat := s.cluster.created

def summary (s : Run σ τ) : Summary τ := s.cluster.summary

def step? (s : Run σ τ) : Option (Run σ τ × Array (Notice τ)) :=
  s.cluster.next?.map fun (event, cluster) =>
    let (scheduler, actions) := s.scheduler.handle cluster.clock event
    let (cluster', notices) :=
      actions.foldl Cluster.perform (cluster, #[.cluster cluster.clock (.delivered event)])
    (⟨cluster', scheduler⟩, notices)

def advance : Nat → Run σ τ → Array (Notice τ) → Bool × Run σ τ × Array (Notice τ)
  | 0, s, out => (true, s, out)
  | n + 1, s, out =>
    match s.step? with
    | none => (false, s, out)
    | some (s', notices) => advance n s' (out ++ notices)

def runUntil (stop : τ → Bool) : Nat → Run σ τ → Array (Notice τ) →
    Run σ τ × Array (Notice τ)
  | 0, s, out => (s, out)
  | n + 1, s, out =>
    match s.cluster.nextTime? with
    | none => (s, out)
    | some t =>
      if stop t then (s, out)
      else
        match s.step? with
        | none => (s, out)
        | some (s', notices) => runUntil stop n s' (out ++ notices)

/-- A bound on the number of events that can still happen: each task that can still be submitted
brings its arrival and its completion. -/
def budget (s : Run σ τ) : Nat := s.cluster.budget + 2 * s.scheduler.remaining

def toEnd (s : Run σ τ) : Run σ τ × Array (Notice τ) :=
  runUntil (fun _ => false) s.budget s #[]

def during (s : Run σ τ) (duration : τ) : Bool × Run σ τ × Array (Notice τ) :=
  let last := Time.add s.time duration
  let (s', notices) := runUntil (Time.exceeds · last) s.budget s #[]
  (s'.cluster.nextTime?.isSome, s', notices)

end Run

end Dispatch
