import Dispatch.Workflow.Task

/-! What the cells of a trace stand for: the name of a function, by its hash, for what an invocation demands, and the
others for numbers of invocations. -/

namespace Dispatch.Trace

def mix (hash word : UInt64) : UInt64 :=
  ((hash <<< 5 ||| hash >>> 59) ^^^ word) * 0x517cc1b727220a95

def littleEndian (bytes : List UInt8) : UInt64 :=
  bytes.foldr (fun b w => w * 256 + b.toUInt64) 0

def words : List UInt8 → List UInt64
  | a :: b :: c :: d :: e :: f :: g :: h :: rest =>
    littleEndian [a, b, c, d, e, f, g, h] :: words rest
  | a :: b :: c :: d :: rest => littleEndian [a, b, c, d] :: words rest
  | a :: b :: rest => littleEndian [a, b] :: words rest
  | [a] => [a.toUInt64]
  | [] => []

def nameHash (name : String) : UInt64 :=
  mix ((words name.toUTF8.toList).foldl mix 0) 0xff

def demands (name : String) (rating : UInt64) : Cost :=
  let hash := nameHash name
  .sequential (10 + hash % 91) (128 + hash % 385) rating

inductive Count where
  | exact (n : UInt64)
  | overflow
  | invalid
  deriving DecidableEq, Inhabited

namespace Count

def digit? (c : Char) : Option Nat := if c.isDigit then some (c.toNat - '0'.toNat) else none

/-- Reads digits from left to right after a number. The first character that is no digit or that
makes the number too large decides. -/
def ofDigits (n : Nat) : List Char → Count
  | [] => .exact (UInt64.ofNat n)
  | c :: rest =>
    match digit? c with
    | none => .invalid
    | some d => if n * 10 + d < UInt64.size then ofDigits (n * 10 + d) rest else .overflow

def parse (cell : String) : Count :=
  match cell.toList with
  | [] => .invalid
  | ['+'] => .invalid
  | '+' :: digits => ofDigits 0 digits
  | digits => ofDigits 0 digits

def invocations : Count → UInt64
  | .exact n => n
  | .overflow => 0xffffffffffffffff
  | .invalid => 0

end Count

end Dispatch.Trace
