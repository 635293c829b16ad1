import Dispatch.Pattern.Reading

namespace Dispatch.Pattern

structure SetPart where
  span : Span
  items : List SetPhrase := []

namespace SetPart

def push (p : SetPart) (i : SetPhrase) : SetPart where
  span := ⟨if p.items.isEmpty then i.span.start else p.span.start, i.span.stop⟩
  items := i :: p.items

def phrase (p : SetPart) : SetPhrase := .ofItems p.span p.items.reverse

end SetPart

def SetPhrase.joined (left? : Option (SetOperation × SetPhrase)) (right : SetPhrase) : SetPhrase :=
  match left? with
  | none => right
  | some (operation, left) => .combined ⟨left.span.start, right.span.stop⟩ operation left right

def AsciiKind.ofName? : String → Option AsciiKind
  | "alnum" => some .alnum
  | "alpha" => some .alpha
  | "ascii" => some .ascii
  | "blank" => some .blank
  | "cntrl" => some .cntrl
  | "digit" => some .digit
  | "graph" => some .graph
  | "lower" => some .lower
  | "print" => some .print
  | "punct" => some .punct
  | "space" => some .space
  | "upper" => some .upper
  | "word" => some .word
  | "xdigit" => some .xdigit
  | _ => none

namespace Read

def setSingle : Read Phrase := do
  let span := (← cursor).ahead
  match ← head? with
  | some '\\' => escape
  | some c =>
    skip
    return .letter { span := span, char := c }
  | none => return .empty span

def letterOf : Phrase → Read Letter
  | .letter l => return l
  | p => fail .boundOfRange p.span

def memberOf : Phrase → Read SetPhrase
  | .letter l => return .letter l
  | .kind span negated kind => return .kind span negated kind
  | .property span p => return .property span p
  | p => fail .escapeInClass p.span

def setRange (opened : Span) : Read SetPhrase := do
  let first ← setSingle
  skipSpace
  if ← atEnd then fail .openClass opened
  let next? ← second?
  if !(← isAt '-') || next? == some ']' || next? == some '-' then return ← memberOf first
  skipOn
  if ← atEnd then fail .openClass opened
  let last ← setSingle
  let span : Span := ⟨first.span.start, last.span.stop⟩
  let low ← letterOf first
  let high ← letterOf last
  if high.char < low.char then fail .reversedRange span
  return .range span low high

def asciiKind? : Read (Option SetPhrase) := do
  let before ← cursor
  let (negated, inner) := match before.rest with
    | '[' :: ':' :: '^' :: rest => (true, rest)
    | '[' :: ':' :: rest => (false, rest)
    | _ => (false, [])
  let name := inner.takeWhile (· != ':')
  match inner.drop name.length, AsciiKind.ofName? (String.ofList name) with
  | ':' :: ']' :: rest, some kind =>
    let length := before.rest.length - rest.length
    moveTo (length.repeat Cursor.skip before)
    return some (.ascii (← since before.position) negated kind)
  | _, _ => return none

def setOperation? : Read (Option SetOperation) := do
  if ← skipText "&&" then return some .intersection
  if ← skipText "--" then return some .difference
  if ← skipText "~~" then return some .symmetricDifference
  return none

def leadingMinus (start : Position) : Nat → SetPart → Read SetPart
  | 0, part => return part
  | n + 1, part => do
    if ← isAt '-' then
      let span := (← cursor).ahead
      skipOn
      if ← atEnd then fail .openClass ⟨start, start⟩
      leadingMinus start n (part.push (.letter { span := span, char := '-' }))
    else return part

def setOpening : Read (Span × Bool × SetPart) := do
  let start ← position
  let needMore : Read Unit := do
    if ← atEnd then fail .openClass (← since start)
  skipOn
  needMore
  let negated ← isAt '^'
  if negated then
    skipOn
    needMore
  let part ← leadingMinus start (← budget) { span := (← cursor).here }
  if part.items.isEmpty && (← isAt ']') then
    let span := (← cursor).ahead
    skipOn
    needMore
    return (← since start, negated, part.push (.letter { span := span, char := ']' }))
  return (← since start, negated, part)

mutual

def brackets : Nat → Read (Span × Bool × SetPhrase)
  | 0 => do fail .openClass (← cursor).here
  | n + 1 => do
    let (opened, negated, part) ← setOpening
    let inner ← setBody n opened none part
    return (← since opened.start, negated, inner)

def setBody : Nat → Span → Option (SetOperation × SetPhrase) → SetPart → Read SetPhrase
  | 0, opened, _, _ => fail .openClass opened
  | n + 1, opened, left?, part => do
    skipSpace
    match ← head? with
    | none => fail .openClass opened
    | some ']' =>
      skip
      return .joined left? part.phrase
    | some '[' =>
      match ← asciiKind? with
      | some i => setBody n opened left? (part.push i)
      | none =>
        let (span, negated, inner) ← brackets n
        setBody n opened left? (part.push (.brackets span negated inner))
    | some _ =>
      match ← setOperation? with
      | some operation =>
        setBody n opened (some (operation, .joined left? part.phrase)) { span := (← cursor).here }
      | none => setBody n opened left? (part.push (← setRange opened))

end

end Read

end Dispatch.Pattern
