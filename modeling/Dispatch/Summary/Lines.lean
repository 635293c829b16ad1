import Dispatch.Decimal
import Dispatch.Summary.Basic

namespace Dispatch

namespace Summary

def separated : List (List String) → List String
  | [] => []
  | [b] => b
  | b :: rest => b.dropLast ++ (b.getLast?.map (· ++ ",")).toList ++ separated rest

def enclosed (opening closing : String) (blocks : List (List String)) : List String :=
  if blocks.isEmpty then [opening ++ closing]
  else opening :: (separated blocks).map ("  " ++ ·) ++ [closing]

def named (name : String) : List String → List String
  | [] => []
  | first :: rest => ("\"" ++ name ++ "\": " ++ first) :: rest

def object (members : List (String × List String)) : List String :=
  enclosed "\x7b" "\x7d" (members.map fun (name, lines) => named name lines)

def array (items : List String) : List String := enclosed "[" "]" (items.map ([·]))

end Summary

open Summary (object array)

def Sample.lines (s : Sample Binary64) : List String :=
  object [("data", array (s.data.toList.map Binary64.toShortest))]

def Summary.lines (s : Summary Binary64) : List String :=
  object [("completed_tasks", [toString s.completed]), ("makespan", [s.makespan.toShortest]),
    ("execution_time", s.working.lines), ("waiting_time", s.waiting.lines),
    ("tasks_per_unit", array (s.perUnit.toList.map toString))]

end Dispatch
