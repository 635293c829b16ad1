import Dispatch.Command.Fibonacci
import Dispatch.Command.Replay
import Dispatch.Summary.Lines

namespace Dispatch.Main

def eventTarget : String := "dispatch::cluster"

def findFiles (paths : List String) : IO (List (String × Found)) :=
  paths.mapM fun (path : String) => do
    try
      let bytes ← IO.FS.readBinFile path
      return (path, .file bytes.toList)
    catch
      | .noFileOrDirectory .. => return (path, .nothing)
      | _ => return (path, .noFile)

def write (output : List Output) : IO Unit :=
  for o in output do
    match o with
    | .line text => IO.println text
    | .summary s => s.lines.forM IO.println

def perform {σ : Type} (c : Command σ) (name : String) (arguments : List String) : IO UInt32 := do
  let found ← findFiles (c.needed arguments)
  let files : Files := fun path => (found.lookup path).getD .nothing
  let o := c.perform name files (← IO.getEnv "DISPATCH_LOG") eventTarget arguments
  o.log.forM IO.eprintln
  write o.output
  match o.ending with
  | .success => pure ()
  | .misuse => IO.eprintln (name ++ ": wrong arguments, see --help")
  | .failure message => IO.eprintln message
  return o.ending.code

end Dispatch.Main

def main : List String → IO UInt32
  | "fibonacci" :: arguments =>
    Dispatch.Main.perform Dispatch.Fibonacci.command "dispatch fibonacci" arguments
  | "replay" :: arguments =>
    Dispatch.Main.perform Dispatch.Replay.command "dispatch replay" arguments
  | _ => do
    IO.eprintln "Usage: dispatch fibonacci|replay [OPTIONS] ..."
    return 2
