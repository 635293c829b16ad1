import Dispatch.Pattern.Group
import Dispatch.Pattern.Meaning

/-!
How much memory a pattern takes as a machine that reads bytes, once forwards and once backwards.
Patterns that take too much are refused. A state takes 32 bytes, a transition beyond the first of a
state 8 with it, and a way to choose 4.
-/

namespace Dispatch.Pattern

def sizeLimit : Nat := 10485760

def stateSize : Nat := 32

def readingSize (ranges : Nat) : Nat := stateSize + (if ranges < 2 then 0 else 8 * ranges)

def choosingSize (ways : Nat) : Nat := stateSize + 4 * ways

def bytesOfCode (n : Nat) : List Nat :=
  if n < 0x80 then [n]
  else if n < 0x800 then [0xc0 + n / 64, 0x80 + n % 64]
  else if n < 0x10000 then [0xe0 + n / 4096, 0x80 + n / 64 % 64, 0x80 + n % 64]
  else [0xf0 + n / 262144, 0x80 + n / 4096 % 64, 0x80 + n / 64 % 64, 0x80 + n % 64]

def splitPoint? (first last : Nat) : Option Nat :=
  let lengths := [0x7f, 0x7ff, 0xffff].find? fun n => first ≤ n && n < last
  let blocks := [64, 4096, 262144].findSome? fun size =>
    if first / size = last / size then none
    else if first % size ≠ 0 then some (first / size * size + size - 1)
    else if last % size ≠ size - 1 then some (last / size * size - 1)
    else none
  lengths.or (if last < 0x80 then none else blocks)

def byteRanges : Nat → Nat → Nat → List (List (Nat × Nat))
  | 0, _, _ => []
  | fuel + 1, first, last =>
    match splitPoint? first last with
    | some n => byteRanges fuel first n ++ byteRanges fuel (n + 1) last
    | none => [(bytesOfCode first).zip (bytesOfCode last)]

def CharSet.scalarRanges (s : CharSet) : List (Nat × Nat) :=
  (s.difference (.ofRange 0xd800 0xdfff)).ranges

def CharSet.byteSequences (s : CharSet) : List (List (Nat × Nat)) :=
  s.scalarRanges.flatMap fun (first, last) => byteRanges 64 first last

inductive ByteTree where
  | node (children : List ((Nat × Nat) × ByteTree))
  deriving BEq, Inhabited

namespace ByteTree

def ofSequences : Nat → List (List (Nat × Nat)) → ByteTree
  | 0, _ => .node []
  | n + 1, sequences =>
    let heads := (sequences.filterMap (·.head?)).eraseDups
    .node (heads.map fun r =>
      (r, ofSequences n ((sequences.filter (·.head? == some r)).map (·.drop 1))))

def degree : ByteTree → Nat
  | .node children => children.length

def inner : ByteTree → List ByteTree
  | .node [] => []
  | .node (child :: children) => .node (child :: children) :: innerOf (child :: children)
where
  innerOf : List ((Nat × Nat) × ByteTree) → List ByteTree
    | [] => []
    | (_, t) :: rest => t.inner ++ innerOf rest

end ByteTree

/-- The size of a set. A single character is read byte by byte. Forwards, equal ends are shared;
backwards, equal ends of what was read. -/
def CharSet.size (forwards : Bool) (s : CharSet) : Nat :=
  match s.only? with
  | some n => (bytesOfCode n).length * stateSize
  | none =>
    if s.isEmpty then stateSize
    else if s.ranges.all fun (_, last) => last < 128 then
      stateSize + readingSize s.ranges.length
    else
      let sequences := s.byteSequences
      let tree := ByteTree.ofSequences 4 sequences
      if forwards then
        stateSize + (tree.inner.eraseDups.map fun t => readingSize t.degree).foldl (· + ·) 0
      else
        let begun := sequences.flatMap fun q => (List.range q.length).map fun i => q.take (i + 1)
        stateSize + choosingSize sequences.length + stateSize * begun.eraseDups.length

def isWeightless : Pattern → Bool
  | .empty => true
  | .one _ => false
  | .place _ => true
  | .both p q => p.isWeightless && q.isWeightless
  | .either p q => p.isWeightless && q.isWeightless
  | .times p _ _ => p.isWeightless
  | .group p => p.isWeightless

def isOptional : Pattern → Bool
  | .empty => true
  | .one _ => false
  | .place _ => true
  | .both p q => p.isOptional && q.isOptional
  | .either p q => p.isOptional || q.isOptional
  | .times p least _ => least == 0 || p.isOptional
  | .group p => p.isOptional

def isChoice : Pattern → Bool
  | .either .. => true
  | _ => false

def timesSize (p : Pattern) (size least : Nat) (most? : Option Nat) : Nat :=
  match most? with
  | none =>
    if least = 0 then
      size + (if p.isOptional then 2 * choosingSize 2 + stateSize else choosingSize 2)
    else least * size + choosingSize 2
  | some most =>
    if most = 0 then stateSize
    else if least = 0 ∧ most = 1 then size + choosingSize 2 + stateSize
    else if least = most then least * size
    else
      (if least = 0 then stateSize else least * size) + stateSize +
        (most - least) * (size + choosingSize 2)

/-- The size of a pattern. A choice is chosen at one state and ends at another one; the ways of a
choice within it become its own. -/
def size (forwards : Bool) : Pattern → Nat
  | .empty => stateSize
  | .one s => s.size forwards
  | .place _ => stateSize
  | .both p q => p.size forwards + q.size forwards
  | .either p q =>
    let shared := choosingSize 1 + stateSize
    p.size forwards + q.size forwards + (choosingSize 2 + stateSize) -
      (if p.isChoice then shared else 0) - (if q.isChoice then shared else 0)
  | .times p least most? =>
    let once (n : Nat) := if p.isWeightless then min n 1 else n
    let most? := if p.isWeightless then some ((most?.map once).getD 1) else most?
    timesSize p (p.size forwards) (once least) most?
  | .group p => p.size forwards + (if forwards then 2 * stateSize else 0)

def isBoundTo (place : Place) : Pattern → Bool
  | .place p => p == place
  | .both p q => if place = .textStart then p.isBoundTo place else q.isBoundTo place
  | .either p q => p.isBoundTo place && q.isBoundTo place
  | .times p least _ => 0 < least && p.isBoundTo place
  | .group p => p.isBoundTo place
  | _ => false

def machineSize (forwards : Bool) (p : Pattern) : Nat :=
  let isBound := p.isBoundTo (if forwards then .textStart else .textEnd)
  (if isBound then stateSize else 2 * stateSize + choosingSize 2) + p.size forwards + stateSize +
    (if forwards then 2 * stateSize else 0)

def isTooLarge (forwards : Bool) (p : Pattern) : Bool := sizeLimit < p.machineSize forwards

def asksForWords : Pattern → Bool
  | .place (.boundary _ inAscii) => !inAscii
  | .both p q => p.asksForWords || q.asksForWords
  | .either p q => p.asksForWords || q.asksForWords
  | .times p _ _ => p.asksForWords
  | .group p => p.asksForWords
  | _ => false

inductive Refusal where
  | fault (f : Fault)
  | tooLarge
  | noWords

def Refusal.report (text : String) : Refusal → List String
  | .fault f => f.report text.toList
  | .tooLarge => [s!"Compiled regex exceeds size limit of {sizeLimit} bytes."]
  | .noWords => ["error building NFA"]

def ofText (text : String) : Except Refusal Pattern :=
  match Phrase.ofText text with
  | .error f => .error (.fault f)
  | .ok phrase =>
    match ofPhrase {} phrase with
    | .error f => .error (.fault f)
    | .ok (p, _) =>
      if p.isTooLarge true then .error .tooLarge
      else if p.asksForWords then .error .noWords
      else if p.isTooLarge false then .error .tooLarge
      else .ok p

end Dispatch.Pattern
