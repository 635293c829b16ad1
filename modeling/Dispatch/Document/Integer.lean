import Dispatch.Document.Node

namespace Dispatch.Document

def digitOf? (base : Nat) (c : Char) : Option Nat := (hexDigit? c).filter (· < base)

def natOfDigits? (base : Nat) (digits : List Char) : Option Nat :=
  if digits.isEmpty then none
  else digits.foldlM (fun n c => (digitOf? base c).map (n * base + ·)) 0

def natOfText? (base : Nat) : List Char → Option Nat
  | '+' :: digits => natOfDigits? base digits
  | digits => natOfDigits? base digits

def intOfText? : List Char → Option Int
  | '-' :: digits => (natOfDigits? 10 digits).map fun n => -(n : Int)
  | text => (natOfText? 10 text).map Int.ofNat

def splitBase (text : List Char) : Nat × List Char :=
  match text with
  | '0' :: 'x' :: digits => (16, digits)
  | '0' :: 'o' :: digits => (8, digits)
  | '0' :: 'b' :: digits => (2, digits)
  | _ => (10, text)

def hasLeadingZero (text : List Char) : Bool :=
  2 ≤ text.length && text.head? == some '0' && text.all Char.isDigit

def magnitude? (readDigits : Nat → List Char → Option Nat) (text : List Char) : Option Nat :=
  match splitBase text with
  | (10, digits) => if hasLeadingZero digits then none else natOfDigits? 10 digits
  | (base, digits) => readDigits base digits

def plainInt? : List Char → Option Int
  | '+' :: text => (magnitude? natOfText? text).map Int.ofNat
  | '-' :: text => (magnitude? natOfDigits? text).map fun n => -(n : Int)
  | text => (magnitude? natOfText? text).map Int.ofNat

/-- The integer that a node denotes. Without a tag only plain scalars denote one. With the tag of
integers the form does not matter and zeros in front do no harm, but the number must fit a signed
word; no other tag stands for an integer. -/
def Node.int? : Node → Option Int
  | .scalar .plain none text => plainInt? text.toList
  | .scalar _ (some tag) text =>
    if tag = ("!!", "int") then
      (intOfText? text.toList).filter fun n =>
        -0x8000000000000000 ≤ n && n < 0x8000000000000000
    else none
  | _ => none

def Node.natBelow? (bound : Nat) (n : Node) : Option Nat :=
  n.int?.bind fun i => if 0 ≤ i ∧ i < bound then some i.toNat else none

end Dispatch.Document
