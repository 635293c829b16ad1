import Dispatch.Pattern.Basic

/-!
What phrases mean. Flags hold from where they stand to the end of their group, across its branches.
-/

namespace Dispatch.Pattern

structure Mode where
  anyCase : Bool := false
  manyLines : Bool := false
  dotAll : Bool := false
  carriageReturn : Bool := false
  unicode : Bool := true
  deriving Inhabited

def Mode.apply (m : Mode) (items : List FlagItem) : Mode where
  anyCase := (Flag.anyCase.state? items).getD m.anyCase
  manyLines := (Flag.manyLines.state? items).getD m.manyLines
  dotAll := (Flag.dotAll.state? items).getD m.dotAll
  carriageReturn := (Flag.carriageReturn.state? items).getD m.carriageReturn
  unicode := (Flag.unicode.state? items).getD m.unicode

namespace AsciiKind

def letters : List (Char × Char) := [('A', 'Z'), ('a', 'z')]

def ranges : AsciiKind → List (Char × Char)
  | .alnum => ('0', '9') :: letters
  | .alpha => letters
  | .ascii => [('\x00', '\x7f')]
  | .blank => [('\t', '\t'), (' ', ' ')]
  | .cntrl => [('\x00', '\x1f'), ('\x7f', '\x7f')]
  | .digit => [('0', '9')]
  | .graph => [('!', '~')]
  | .lower => [('a', 'z')]
  | .print => [(' ', '~')]
  | .punct => [('!', '/'), (':', '@'), ('[', '\x60'), ('\x7b', '~')]
  | .space => [('\t', '\r'), (' ', ' ')]
  | .upper => [('A', 'Z')]
  | .word => ('0', '9') :: ('_', '_') :: letters
  | .xdigit => [('0', '9'), ('A', 'F'), ('a', 'f')]

def set (k : AsciiKind) : CharSet :=
  .ofRanges (k.ranges.map fun (first, last) => (first.toNat, last.toNat))

end AsciiKind

def Kind.ascii : Kind → AsciiKind
  | .digit => .digit
  | .blank => .space
  | .word => .word

def Property.lookUp (name : String) : String :=
  let cs := name.toList.map Char.toLower
  let cs := if "is".toList.isPrefixOf cs then cs.drop 2 else cs
  String.ofList (cs.filter fun c => c.toNat < 128 && c != ' ' && c != '_' && c != '-')

def Property.flaw : Property → Flaw
  | .named name =>
    if ["cf", "sc", "lc"].contains (lookUp name) then .unknownPropertyValue else .unknownProperty
  | .withValue => .unknownProperty

namespace Mode

variable (m : Mode)

def propertyFlaw (p : Property) : Flaw := if m.unicode then p.flaw else .beyondBytes

def character (l : Letter) : Except Fault Char :=
  if !m.unicode && l.asByte && 128 ≤ l.char.toNat then .error ⟨.notText, l.span⟩ else .ok l.char

def member (l : Letter) : Except Fault Nat := do
  let c ← m.character l
  if !m.unicode && 128 ≤ c.toNat then .error ⟨.beyondBytes, l.span⟩ else .ok c.toNat

def folded (span : Span) (s : CharSet) : Except Fault CharSet :=
  if !m.anyCase then .ok s
  else if !m.unicode then .ok s.withBothCases
  else if s.isEmpty then .ok s
  else .error ⟨.noTableOfCase, span⟩

def negatedIf (span : Span) (negated : Bool) (s : CharSet) : Except Fault CharSet :=
  if !negated then .ok s
  else if m.unicode then .ok s.complement
  else .error ⟨.notText, span⟩

def ofKind (span : Span) (negated : Bool) (k : Kind) : Except Fault CharSet :=
  if m.unicode then .error ⟨.noTableOfKind, span⟩ else m.negatedIf span negated k.ascii.set

def set : SetPhrase → Except Fault CharSet
  | .empty _ => .ok .empty
  | .letter l => do
    let c ← m.member l
    return .ofRange c c
  | .range _ first last => do return .ofRange (← m.member first) (← m.member last)
  | .ascii span negated k => do m.negatedIf span negated (← m.folded span k.set)
  | .kind span negated k => m.ofKind span negated k
  | .property span p => .error ⟨m.propertyFlaw p, span⟩
  | .brackets span negated inner => do
    m.negatedIf span negated (← m.folded span (← set inner))
  | .union _ items => sets items
  | .combined _ operation left right => do
    let s ← set left
    let t ← set right
    let t ← m.folded right.span t
    let s ← m.folded left.span s
    return match operation with
      | .intersection => s.inter t
      | .difference => s.difference t
      | .symmetricDifference => s.symmetricDifference t
where
  sets : List SetPhrase → Except Fault CharSet
    | [] => .ok .empty
    | i :: rest => do
      let s ← set i
      return s.union (← sets rest)

def dot (span : Span) : Except Fault CharSet :=
  let feed := CharSet.ofChar '\n'
  if !m.unicode then .error ⟨.notText, span⟩
  else if m.dotAll then .ok CharSet.empty.complement
  else if m.carriageReturn then .ok (feed.union (.ofChar '\r')).complement
  else .ok feed.complement

def place : Anchor → Place
  | .lineStart => if m.manyLines then .lineStart m.carriageReturn else .textStart
  | .lineEnd => if m.manyLines then .lineEnd m.carriageReturn else .textEnd
  | .textStart => .textStart
  | .textEnd => .textEnd
  | .boundary b => .boundary b !m.unicode

end Mode

def repeated (p : Pattern) (least : Nat) (most? : Option Nat) : Pattern :=
  if most? = some 0 then .empty
  else if least = 1 ∧ most? = some 1 then p
  else .times p least most?

def ofPhrase (m : Mode) : Phrase → Except Fault (Pattern × Mode)
  | .empty _ => .ok (.empty, m)
  | .flags _ items => .ok (.empty, m.apply items)
  | .letter l => do
    let c ← m.character l
    return (.one (← m.folded l.span (.ofChar c)), m)
  | .dot span => do return (.one (← m.dot span), m)
  | .anchor _ a => .ok (.place (m.place a), m)
  | .kind span negated k => do return (.one (← m.ofKind span negated k), m)
  | .property span p => .error ⟨m.propertyFlaw p, span⟩
  | .brackets span negated inner => do
    return (.one (← m.negatedIf span negated (← m.folded span (← m.set inner))), m)
  | .repeated _ body least most? => do
    let (p, m) ← ofPhrase m body
    return (repeated p least most?, m)
  | .group _ opening body => do
    match opening with
    | .numbered =>
      let (p, _) ← ofPhrase m body
      return (.group p, m)
    | .flagged items =>
      let (p, _) ← ofPhrase (m.apply items) body
      return (p, m)
  | .sequence _ items => ofItems m items
  | .choice _ branches => ofBranches m branches
where
  ofItems (m : Mode) : List Phrase → Except Fault (Pattern × Mode)
    | [] => .ok (.empty, m)
    | p :: rest => do
      let (p, m) ← ofPhrase m p
      let (q, m) ← ofItems m rest
      return (p.append q, m)
  ofBranches (m : Mode) : List Phrase → Except Fault (Pattern × Mode)
    | [] => .ok (.one .empty, m)
    | [p] => ofPhrase m p
    | p :: rest => do
      let (p, m) ← ofPhrase m p
      let (q, m) ← ofBranches m rest
      return (.either p q, m)

end Dispatch.Pattern
