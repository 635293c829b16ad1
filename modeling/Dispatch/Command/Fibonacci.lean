import Dispatch.Command.Basic
import Dispatch.Workflow.Recursion

namespace Dispatch

structure Fibonacci where
  n : UInt64 := 10
  units : UInt32 := 5
  speed : UInt64 := 1000
  policy : String := "LeastLoaded"
  deriving DecidableEq

namespace Fibonacci

def word? (text : String) : Option UInt64 :=
  ((Document.natOfText? 10 text.toList).filter (· < UInt64.size)).map UInt64.ofNat

def halfWord? (text : String) : Option UInt32 :=
  ((Document.intOfText? text.toList).filter fun (i : Int) => 0 ≤ i && i.toNat < UInt32.size).map
    fun i => UInt32.ofNat i.toNat

def usage : Usage Fibonacci where
  purpose := "Simulates the execution of the naive recursive Fibonacci call tree " ++
    "on a pool of identical units"
  initial := {}
  options := [
    ⟨"n", "Fibonacci number to compute", .value "n" "10" fun text s =>
      (word? text).map ({ s with n := · })⟩,
    ⟨"units", "Number of units", .value "u" "5" fun text s =>
      (halfWord? text).map ({ s with units := · })⟩,
    ⟨"speed", "Unit speed in MIPS", .value none "1000" fun text s =>
      (word? text).map ({ s with speed := · })⟩,
    ⟨"placement", "Placement policy (LeastLoaded or RoundRobin)",
      .value "p" "LeastLoaded" fun text s => some { s with policy := text }⟩]
  operands := []

def scenario (s : Fibonacci) : Scenario where
  policy := s.policy
  units := [{ name := "vm", speed := s.speed, cores := 1, memory := 1024, count := s.units }]

def workflow (s : Fibonacci) : Workflow Binary64 :=
  (Recursion.fibonacci (Doubling.cost { rating := s.scenario.rating })).workflow s.n

def report (s : Fibonacci) (tasks : Nat) (r : Run NamedPolicy Binary64) : List Output :=
  let summary := r.summary
  [.line "",
    .line (s!"fib({s.n.toNat}): {tasks} tasks on {s.units.toNat} units (" ++ s.policy ++ ")"),
    .line s!"Completed tasks: {summary.completed}",
    .line ("Makespan: " ++ Output.time summary.makespan),
    .line ("Mean execution time: " ++ Output.time summary.working.mean?),
    .line ("Mean waiting time: " ++ Output.time summary.waiting.mean?)] ++
  r.unitLines ++ [.line s!"Processed {r.created} events"]

def run (logging : Logging) (s : Fibonacci) : Outcome :=
  let g := s.workflow
  match s.scenario.start g with
  | .error e => { ending := .failure ("Failed to create simulation: " ++ e.message) }
  | .ok r =>
    let (r, notices) := r.finish
    { output := s.report g.size r, log := logging.texts notices }

def command : Command Fibonacci where
  usage := usage
  paths _ := []
  run _ := run

end Fibonacci

end Dispatch
