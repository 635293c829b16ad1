import Dispatch.Scenario.Basic
import Dispatch.Document.Integer
import Dispatch.Text.Basic

/-!
Scenarios as documents. A record is a mapping of its fields by name, of which unknown ones are
passed over, or a sequence of them in order; fields that are left out take their defaults.
-/

namespace Dispatch

inductive Found where
  | nothing
  | noFile
  | file (bytes : List UInt8)
  deriving DecidableEq, Inhabited

def Found.content? : Found → Option (List UInt8)
  | .file bytes => some bytes
  | _ => none

open Document (Node Tree)

namespace Document

abbrev Fields := List (String × Node)

def Tree.text? (t : Tree) (n : Node) : Option String :=
  match t.resolve n with
  | some (.scalar _ _ text) => some text
  | _ => none

def Tree.natBelow? (t : Tree) (bound : Nat) (n : Node) : Option Nat :=
  (t.resolve n).bind (·.natBelow? bound)

def Tree.items? (t : Tree) (n : Node) : Option (List Node) :=
  match t.resolve n with
  | some (.sequence items) => some items
  | _ => none

def Tree.knownFields? (t : Tree) (names : List String) : List (Node × Node) → Option Fields
  | [] => some []
  | (k, v) :: rest => do
    let key ← t.text? k
    let fields ← t.knownFields? names rest
    if !names.contains key then return fields
    else if (fields.lookup key).isSome then none
    else return (key, v) :: fields

def Tree.fields? (t : Tree) (names : List String) (n : Node) : Option Fields :=
  match t.resolve n with
  | some (.mapping entries) => t.knownFields? names entries
  | some (.sequence items) => if names.length < items.length then none else some (names.zip items)
  | _ => none

def Fields.get? {α : Type} (fields : Fields) (name : String) (read : Node → Option α)
    (default : α) : Option α :=
  match fields.lookup name with
  | some n => read n
  | none => some default

def Tree.word? (t : Tree) (n : Node) : Option UInt64 := (t.natBelow? UInt64.size n).map UInt64.ofNat

def Tree.halfWord? (t : Tree) (n : Node) : Option UInt32 :=
  (t.natBelow? UInt32.size n).map UInt32.ofNat

end Document

def UnitGroup.fieldNames : List String := ["name", "speed", "cores", "memory", "count"]

def UnitGroup.ofNode? (t : Tree) (n : Node) : Option UnitGroup := do
  let fields ← t.fields? fieldNames n
  return {
    name := ← t.text? (← fields.lookup "name")
    speed := ← t.word? (← fields.lookup "speed")
    cores := ← fields.get? "cores" t.halfWord? 1
    memory := ← fields.get? "memory" t.word? 0
    count := ← fields.get? "count" t.halfWord? 1 }

def Draft.fieldNames : List String :=
  ["rating", "max_invocations_per_minute", "max_records", "placement", "units"]

def Draft.ofTree? (t : Tree) : Option Draft := do
  let fields ← t.fields? fieldNames t.root
  return {
    rating := ← fields.get? "rating" t.word? 0
    minuteLimit := ← fields.get? "max_invocations_per_minute" t.word? 0
    rowLimit := ← fields.get? "max_records" (t.natBelow? UInt64.size) 0
    policy := ← fields.get? "placement" t.text? ""
    units := ← fields.get? "units" (fun n => do (← t.items? n).mapM (UnitGroup.ofNode? t)) [] }

def Draft.ofText? (text : String) : Option Draft := do
  Draft.ofTree? (← Tree.ofText? text)

def Scenario.ofFile (found : Found) : Except Scenario.Error Scenario :=
  match found with
  | .nothing => .error .fileNotFound
  | .noFile => .error .malformed
  | .file bytes =>
    match Text.decodeUtf8 bytes with
    | .error _ => .error .malformed
    | .ok text =>
      match Draft.ofText? text with
      | none => .error .malformed
      | some raw => Scenario.ofDraft raw

end Dispatch
