import Dispatch.Command.Basic

namespace Dispatch

structure Replay where
  trace : String := ""
  scenario? : Option String := none
  asObject : Bool := false
  deriving DecidableEq

namespace Replay

def usage : Usage Replay where
  purpose := "Schedules invocations from an Azure Functions trace file on a pool of units"
  initial := {}
  options := [
    ⟨"config", "Path to a simulation config in YAML format", .value none none fun text s =>
      some { s with scenario? := some text }⟩,
    ⟨"json", "Print run statistics as JSON", .switch fun s => { s with asObject := true }⟩]
  operands := [
    ⟨"trace", "Path to a trace file (invocations_per_function_md.anon.d*.csv)", fun text s =>
      { s with trace := text }⟩]

def scenario (s : Replay) (files : Files) : Except Scenario.Error Scenario :=
  match s.scenario? with
  | some path => Scenario.ofFile (files path)
  | none => .ok {}

def readingLine (t : Trace.Tally) : Output :=
  .line (s!"trace processed successfully: {t.rows} rows read, {t.skipped} skipped, " ++
    s!"{t.tasks} invocations")

def report (s : Replay) (r : Run NamedPolicy Binary64) : List Output :=
  let summary := r.summary
  let working := summary.working
  let waiting := summary.waiting
  if s.asObject then [.summary summary]
  else
    [.line s!"Completed tasks: {summary.completed}",
      .line ("Makespan: " ++ Output.time summary.makespan),
      .line ("Execution time: mean " ++ Output.time working.mean? ++ ", min " ++
        Output.time working.min? ++ ", max " ++ Output.time working.max?),
      .line ("Waiting time: mean " ++ Output.time waiting.mean? ++ ", max " ++
        Output.time waiting.max?)] ++
    r.unitLines

def run (files : Files) (logging : Logging) (s : Replay) : Outcome :=
  match s.scenario files with
  | .error e => { ending := .failure ("Failed to read config: " ++ e.message) }
  | .ok scenario =>
    match Trace.Source.ofPath s.trace (files s.trace).content? scenario.traceSettings with
    | .error e => { ending := .failure ("Failed to open trace: " ++ e.message) }
    | .ok source =>
      let (source, tasks, warnings) := source.read (files s.trace).content?
      let log := (warnings.toList.map (·.entry)).filterMap fun e =>
        if logging.filter.keeps e then some e.text else none
      match tasks with
      | .error e => { ending := .failure ("Failed to read trace: " ++ e.message), log := log }
      | .ok tasks =>
        let first := readingLine source.tally
        match scenario.start (Trace.toWorkflow tasks) with
        | .error e =>
          { ending := .failure ("Failed to create simulation: " ++ e.message)
            output := [first]
            log := log }
        | .ok r =>
          let (r, notices) := r.finish
          { output := first :: s.report r, log := log ++ logging.texts notices }

def command : Command Replay where
  usage := usage
  paths s := s.trace :: s.scenario?.toList
  run := run

end Replay

end Dispatch
