import Dispatch.Pattern.Phrase
import Dispatch.Text.Letter

namespace Dispatch.Pattern

structure Session where
  cursor : Cursor
  loose : Bool := false
  names : List (String × Span) := []
  deriving Inhabited

abbrev Read := StateT Session (Except Fault)

namespace Read

def fail {α : Type} (flaw : Flaw) (span : Span) : Read α := throw ⟨flaw, span⟩

def cursor : Read Cursor := return (← get).cursor

def position : Read Position := return (← cursor).position

def moveTo (c : Cursor) : Read Unit := modify ({ · with cursor := c })

def head? : Read (Option Char) := return (← cursor).rest.head?

def isAt (c : Char) : Read Bool := return (← head?) == some c

def atEnd : Read Bool := return (← cursor).atEnd

def skip : Read Unit := modify fun s => { s with cursor := s.cursor.skip }

def skipSpace : Read Unit := modify fun s => { s with cursor := s.cursor.skipSpace s.loose }

def skipOn : Read Unit := modify fun s => { s with cursor := s.cursor.skip.skipSpace s.loose }

def skipText (text : String) : Read Bool := do
  match (← cursor).skipText? text.toList with
  | some c =>
    moveTo c
    return true
  | none => return false

def second? : Read (Option Char) := do
  let s ← get
  let rest := s.cursor.rest.drop 1
  if s.loose then
    let rest' := rest.dropWhile Text.isBlank
    let rest' := if rest'.head? = some '#' then (rest'.drop 1).dropWhile Text.isBlank else rest'
    return rest'.head?.or rest.head?
  else return rest.head?

def since (start : Position) : Read Span := return ⟨start, ← position⟩

def takeWhile (p : Char → Bool) : Nat → Read (List Char)
  | 0 => return []
  | n + 1 => do
    match ← head? with
    | some c =>
      if p c then
        skipOn
        return c :: (← takeWhile p n)
      else return []
    | none => return []

def budget : Read Nat := return (← cursor).rest.length

def skipBlanks : Read Unit := do
  let c ← cursor
  let blanks := c.rest.takeWhile Text.isBlank
  moveTo (blanks.foldl (fun c _ => c.skip) c)

def number : Read (Except Fault Nat) := do
  skipBlanks
  let start ← position
  let digits ← takeWhile Char.isDigit (← budget)
  let span ← since start
  let _ ← takeWhile Text.isBlank (← budget)
  if digits.isEmpty then return .error ⟨.noCount, span⟩
  let n := digits.foldl (fun n c => n * 10 + (c.toNat - '0'.toNat)) 0
  if n < UInt32.size then return .ok n
  else return .error ⟨.numberTooLarge, span⟩

def orFail {α : Type} : Except Fault α → Read α
  | .ok a => pure a
  | .error f => throw f

def bounds (start : Position) : Read (Nat × Option Nat) := do
  let unfinished {α : Type} : Read α := do fail .openCount (← since start)
  if ← atEnd then unfinished
  let least ← number
  match ← head? with
  | none => unfinished
  | some ',' =>
    skipOn
    match ← head? with
    | none => unfinished
    | some '\x7d' => return (← orFail least, none)
    | some _ =>
      let least ← orFail least
      let most ← orFail (← number)
      return (least, some most)
  | some _ =>
    let n ← orFail least
    return (n, some n)

def count (body : Phrase) : Read Phrase := do
  let start ← position
  skipOn
  let (least, most?) ← bounds start
  unless ← isAt '\x7d' do fail .openCount (← since start)
  skipOn
  if ← isAt '?' then skip
  let span ← since start
  if most?.any (· < least) then fail .reversedCount span
  return .repeated ⟨body.span.start, span.stop⟩ body least most?

def repetition (body : Phrase) (least : Nat) (most? : Option Nat) : Read Phrase := do
  skip
  if ← isAt '?' then skip
  return .repeated (← since body.span.start) body least most?

def charOfHex? (digits : List Char) : Option Char := do
  let n ← hexValue? digits
  if h : n.isValidChar then some (Char.ofNatAux n h) else none
where
  hexDigit? (c : Char) : Option Nat :=
    if c.isDigit then some (c.toNat - '0'.toNat)
    else if 'a' ≤ c ∧ c ≤ 'f' then some (c.toNat - 'a'.toNat + 10)
    else if 'A' ≤ c ∧ c ≤ 'F' then some (c.toNat - 'A'.toNat + 10)
    else none
  hexValue? (digits : List Char) : Option Nat :=
    digits.foldlM (fun n c => (hexDigit? c).map (n * 16 + ·)) 0

def isHexDigit (c : Char) : Bool := (charOfHex?.hexDigit? c).isSome

def hexDigits : Nat → Bool → Read (List Char)
  | 0, _ => return []
  | n + 1, isFirst => do
    unless isFirst do
      skipOn
      if ← atEnd then fail .openEscape (← cursor).here
    match ← head? with
    | some c =>
      if isHexDigit c then return c :: (← hexDigits n false)
      else fail .notHexDigit (← cursor).ahead
    | none => fail .openEscape (← cursor).here

def bracedHexDigits : Nat → Read (List Char)
  | 0 => return []
  | n + 1 => do
    match ← head? with
    | some c =>
      if c = '\x7d' then return []
      else if isHexDigit c then
        skipOn
        return c :: (← bracedHexDigits n)
      else fail .notHexDigit (← cursor).ahead
    | none => return []

def hexEscape (start : Position) (length : Nat) : Read Letter := do
  skipOn
  if ← atEnd then fail .openEscape (← cursor).here
  if ← isAt '\x7b' then
    let brace ← position
    let first := (← cursor).skip.position
    skipOn
    let digits ← bracedHexDigits (← budget)
    if ← atEnd then fail .openEscape (← since brace)
    let span ← since first
    skipOn
    if digits.isEmpty then fail .noHexDigits (← since brace)
    match charOfHex? digits with
    | some c => return { span := ⟨start, ← position⟩, char := c }
    | none => fail .noSuchCharacter span
  else
    let first ← position
    let digits ← hexDigits length true
    skipOn
    match charOfHex? digits with
    | some c => return { span := ⟨start, ← position⟩, char := c, asByte := length == 2 }
    | none => fail .noSuchCharacter (← since first)

def propertyOfName (name : List Char) : Property :=
  if name.contains ':' || name.contains '=' then .withValue else .named (String.ofList name)

def bracedName : Nat → Read (List Char)
  | 0 => return []
  | n + 1 => do
    match ← head? with
    | some c =>
      if c = '\x7d' then return []
      else
        skipOn
        return c :: (← bracedName n)
    | none => return []

def propertyEscape (start : Position) : Read Phrase := do
  skipOn
  match ← head? with
  | none => fail .openEscape (← cursor).here
  | some '\x7b' =>
    skipOn
    let name ← bracedName (← budget)
    if ← atEnd then fail .openEscape (← cursor).here
    skip
    return .property (← since start) (propertyOfName name)
  | some c =>
    if c = '\\' then fail .nameOfProperty (← cursor).ahead
    skipOn
    return .property (← since start) (.named (String.singleton c))

def boundaryOfName? : String → Option Boundary
  | "start" => some .start
  | "end" => some .stop
  | "start-half" => some .startHalf
  | "end-half" => some .stopHalf
  | _ => none

def namedBoundary? (start : Position) : Read (Option Boundary) := do
  let before ← cursor
  let isOfName (c : Char) := c.isAlpha || c == '-'
  skipOn
  match ← head? with
  | none => fail .openBrace (← since start)
  | some c =>
    if isOfName c then
      let first ← position
      let name ← takeWhile isOfName (← budget)
      unless ← isAt '\x7d' do fail .openBoundary (← since before.position)
      let span ← since first
      skip
      match boundaryOfName? (String.ofList name) with
      | some b => return some b
      | none => fail .unknownBoundary span
    else
      moveTo before
      return none

def isEscapable (c : Char) : Bool :=
  c.toNat < 128 && !c.isAlphanum && c != '<' && c != '>'

def controlOfLetter? : Char → Option Char
  | 'a' => some '\x07'
  | 'f' => some '\x0c'
  | 't' => some '\t'
  | 'n' => some '\n'
  | 'r' => some '\r'
  | 'v' => some '\x0b'
  | _ => none

def anchorOfLetter? : Char → Option Anchor
  | 'A' => some .textStart
  | 'z' => some .textEnd
  | 'B' => some (.boundary .noEdge)
  | '<' => some (.boundary .start)
  | '>' => some (.boundary .stop)
  | _ => none

def kindOfLetter? : Char → Option (Kind × Bool)
  | 'd' => some (.digit, false)
  | 'D' => some (.digit, true)
  | 's' => some (.blank, false)
  | 'S' => some (.blank, true)
  | 'w' => some (.word, false)
  | 'W' => some (.word, true)
  | _ => none

def hexLength? : Char → Option Nat
  | 'x' => some 2
  | 'u' => some 4
  | 'U' => some 8
  | _ => none

def escape : Read Phrase := do
  let start ← position
  skip
  match ← head? with
  | none => fail .openEscape (← since start)
  | some c =>
    if c.isDigit then fail .backReference ⟨start, (← cursor).skip.position⟩
    if let some length := hexLength? c then return .letter (← hexEscape start length)
    if c == 'p' || c == 'P' then return ← propertyEscape start
    skip
    let span ← since start
    if let some (kind, negated) := kindOfLetter? c then return .kind span negated kind
    if isEscapable c then return .letter { span := span, char := c }
    if let some control := controlOfLetter? c then return .letter { span := span, char := control }
    if let some a := anchorOfLetter? c then return .anchor span a
    if c = 'b' then
      if ← isAt '\x7b' then
        if let some b ← namedBoundary? start then return .anchor (← since start) (.boundary b)
      return .anchor span (.boundary .edge)
    fail .unknownEscape span

def single : Read Phrase := do
  let span := (← cursor).ahead
  match ← head? with
  | some '\\' => escape
  | some '.' =>
    skip
    return .dot span
  | some '^' =>
    skip
    return .anchor span .lineStart
  | some '$' =>
    skip
    return .anchor span .lineEnd
  | some c =>
    skip
    return .letter { span := span, char := c }
  | none => return .empty span

end Read

end Dispatch.Pattern
