import Dispatch.Pattern.Flaw

namespace Dispatch.Pattern

inductive Kind where
  | digit
  | blank
  | word
  deriving DecidableEq, Inhabited

inductive AsciiKind where
  | alnum
  | alpha
  | ascii
  | blank
  | cntrl
  | digit
  | graph
  | lower
  | print
  | punct
  | space
  | upper
  | word
  | xdigit
  deriving Inhabited

inductive Boundary where
  | edge
  | noEdge
  | start
  | stop
  | startHalf
  | stopHalf
  deriving DecidableEq, Hashable, Inhabited

inductive Anchor where
  | lineStart
  | lineEnd
  | textStart
  | textEnd
  | boundary (b : Boundary)
  deriving DecidableEq, Inhabited

inductive Flag where
  | anyCase
  | manyLines
  | dotAll
  | leastFirst
  | unicode
  | carriageReturn
  | loose
  deriving DecidableEq, Inhabited

inductive FlagItem where
  | minus
  | flag (f : Flag)
  deriving DecidableEq, Inhabited

def Flag.state? (f : Flag) (items : List FlagItem) : Option Bool :=
  if items.contains (.flag f) then
    some !((items.takeWhile (· != .flag f)).contains .minus)
  else none

structure Letter where
  span : Span
  char : Char
  asByte : Bool := false
  deriving Inhabited

inductive Property where
  | named (name : String)
  | withValue
  deriving Inhabited

inductive SetOperation where
  | intersection
  | difference
  | symmetricDifference
  deriving Inhabited

inductive SetPhrase where
  | empty (span : Span)
  | letter (l : Letter)
  | range (span : Span) (first last : Letter)
  | ascii (span : Span) (negated : Bool) (kind : AsciiKind)
  | kind (span : Span) (negated : Bool) (kind : Kind)
  | property (span : Span) (p : Property)
  | brackets (span : Span) (negated : Bool) (inner : SetPhrase)
  | union (span : Span) (items : List SetPhrase)
  | combined (span : Span) (operation : SetOperation) (left right : SetPhrase)
  deriving Inhabited

def SetPhrase.span : SetPhrase → Span
  | .empty s => s
  | .letter l => l.span
  | .range s _ _ => s
  | .ascii s _ _ => s
  | .kind s _ _ => s
  | .property s _ => s
  | .brackets s _ _ => s
  | .union s _ => s
  | .combined s _ _ _ => s

inductive Opening where
  | numbered
  | flagged (items : List FlagItem)
  deriving Inhabited

inductive Phrase where
  | empty (span : Span)
  | flags (span : Span) (items : List FlagItem)
  | letter (l : Letter)
  | dot (span : Span)
  | anchor (span : Span) (a : Anchor)
  | kind (span : Span) (negated : Bool) (kind : Kind)
  | property (span : Span) (p : Property)
  | brackets (span : Span) (negated : Bool) (inner : SetPhrase)
  | repeated (span : Span) (body : Phrase) (least : Nat) (most? : Option Nat)
  | group (span : Span) (opening : Opening) (body : Phrase)
  | sequence (span : Span) (items : List Phrase)
  | choice (span : Span) (branches : List Phrase)
  deriving Inhabited

namespace Phrase

def span : Phrase → Span
  | .empty s => s
  | .flags s _ => s
  | .letter l => l.span
  | .dot s => s
  | .anchor s _ => s
  | .kind s _ _ => s
  | .property s _ => s
  | .brackets s _ _ => s
  | .repeated s _ _ _ => s
  | .group s _ _ => s
  | .sequence s _ => s
  | .choice s _ => s

def ofItems (span : Span) : List Phrase → Phrase
  | [] => .empty span
  | [p] => p
  | items => .sequence span items

def ofBranches (span : Span) : List Phrase → Phrase
  | [p] => p
  | branches => .choice span branches

def isRepeatable : Phrase → Bool
  | .empty _ => false
  | .flags .. => false
  | _ => true

end Phrase

def SetPhrase.ofItems (span : Span) : List SetPhrase → SetPhrase
  | [] => .empty span
  | [i] => i
  | items => .union span items

def SetPhrase.tooDeep? (n : Nat) : SetPhrase → Option Span
  | .brackets s _ inner =>
    match n with
    | 0 => some s
    | m + 1 => inner.tooDeep? m
  | .union s items =>
    match n with
    | 0 => some s
    | m + 1 => anyTooDeep? m items
  | .combined s _ left right =>
    match n with
    | 0 => some s
    | m + 1 => (left.tooDeep? m).or (right.tooDeep? m)
  | _ => none
where
  anyTooDeep? (n : Nat) : List SetPhrase → Option Span
    | [] => none
    | i :: rest => (i.tooDeep? n).or (anyTooDeep? n rest)

def Phrase.tooDeep? (n : Nat) : Phrase → Option Span
  | .brackets s _ inner =>
    match n with
    | 0 => some s
    | m + 1 => inner.tooDeep? m
  | .repeated s body _ _ =>
    match n with
    | 0 => some s
    | m + 1 => body.tooDeep? m
  | .group s _ body =>
    match n with
    | 0 => some s
    | m + 1 => body.tooDeep? m
  | .sequence s items =>
    match n with
    | 0 => some s
    | m + 1 => anyTooDeep? m items
  | .choice s branches =>
    match n with
    | 0 => some s
    | m + 1 => anyTooDeep? m branches
  | _ => none
where
  anyTooDeep? (n : Nat) : List Phrase → Option Span
    | [] => none
    | p :: rest => (p.tooDeep? n).or (anyTooDeep? n rest)

end Dispatch.Pattern
