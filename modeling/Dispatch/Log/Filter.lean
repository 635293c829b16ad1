import Dispatch.Log.Entry
import Dispatch.Pattern.Size

/-!
Filters of log entries. A filter is written as directives between commas, each a level, a target, or
a target with its level; the directive with the longest target that begins the target of an entry
decides. After a slash stands a pattern that must occur in the entry.
-/

namespace Dispatch

structure Directive where
  target? : Option String
  level? : Option Level
  deriving DecidableEq

structure LogFilter where
  directives : List Directive
  pattern? : Option Pattern := none
  deriving DecidableEq

namespace Directive

def levelOfName? (name : String) : Option (Option Level) :=
  if name.map Char.toUpper == "OFF" then some none else (Level.ofName? name).map some

def parse (s : String) : Except String Directive :=
  match s.splitOn "=" with
  | [name] =>
    match levelOfName? name with
    | some level => .ok ⟨none, level⟩
    | none => .ok ⟨some name, some .trace⟩
  | [name, level] =>
    let level := Text.trimString level
    if level.isEmpty then .ok ⟨some name, some .trace⟩
    else
      match levelOfName? level with
      | some l => .ok ⟨some name, l⟩
      | none => .error level
  | _ => .error s

def matchLength (d : Directive) : Nat := (d.target?.getD "").utf8ByteSize

def matchesTarget (d : Directive) (target : String) : Bool :=
  match d.target? with
  | some name => name.toList.isPrefixOf target.toList
  | none => true

end Directive

namespace LogFilter

def default : LogFilter := ⟨[⟨none, some .error⟩], none⟩

def warning (part reason : String) : String :=
  "warning: invalid logging spec '" ++ part ++ "', ignoring it" ++ reason

def addDirective (ds : List Directive) (d : Directive) : List Directive :=
  if ds.any (·.target? == d.target?) then
    ds.map fun e => if e.target? == d.target? then d else e
  else ds ++ [d]

def readDirectives (s : String) : List Directive × List String :=
  ((s.splitOn ",").map Text.trimString).foldl (fun (ds, ws) part =>
    if part.isEmpty then (ds, ws)
    else
      match Directive.parse part with
      | .ok d => (addDirective ds d, ws)
      | .error e => (ds, ws ++ [warning e ""])) ([], [])

def readPattern (text : String) : Option Pattern × List String :=
  match Pattern.ofText text with
  | .ok p => (some p, [])
  | .error r =>
    (none, ["warning: invalid regex filter - " ++ "\n".intercalate (r.report text)])

def parse (spec : String) : LogFilter × List String :=
  let ofNames (names : String) :=
    let (ds, warnings) := readDirectives names
    ((⟨if ds.isEmpty then default.directives else ds, none⟩ : LogFilter), warnings)
  match spec.splitOn "/" with
  | [names] => ofNames names
  | [names, text] =>
    let (filter, warnings) := ofNames names
    let (pattern?, flaws) := readPattern text
    ({ filter with pattern? := pattern? }, warnings ++ flaws)
  | _ => (default, [warning spec " (too many '/'s)"])

def directiveFor? (f : LogFilter) (target : String) : Option Directive :=
  (f.directives.filter (·.matchesTarget target)).foldl (fun best d =>
    match best with
    | none => some d
    | some b => if b.matchLength ≤ d.matchLength then some d else some b) none

def enables (f : LogFilter) (level : Level) (target : String) : Bool :=
  match (f.directiveFor? target).bind (·.level?) with
  | some l => level.verbosity ≤ l.verbosity
  | none => false

def keeps (f : LogFilter) (e : LogEntry) : Bool :=
  f.enables e.level e.target && f.pattern?.all (·.occursIn e.text)

end LogFilter

end Dispatch
