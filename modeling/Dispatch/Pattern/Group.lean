import Dispatch.Pattern.Brackets

namespace Dispatch.Pattern

def depthLimit : Nat := 250

structure GroupPart where
  groupStart : Position
  branches : List Phrase := []
  start : Position
  items : List Phrase := []

namespace GroupPart

def ofPosition (p : Position) : GroupPart := { groupStart := p, start := p }

def push (g : GroupPart) (p : Phrase) : GroupPart := { g with items := p :: g.items }

def branch (g : GroupPart) (stop : Position) : Phrase :=
  .ofItems ⟨g.start, stop⟩ g.items.reverse

def split (g : GroupPart) (stop next : Position) : GroupPart :=
  { g with branches := g.branch stop :: g.branches, start := next, items := [] }

def phrase (g : GroupPart) (stop : Position) : Phrase :=
  .ofBranches ⟨g.groupStart, stop⟩ (g.branch stop :: g.branches).reverse

end GroupPart

def Flag.ofLetter? : Char → Option Flag
  | 'i' => some .anyCase
  | 'm' => some .manyLines
  | 's' => some .dotAll
  | 'U' => some .leastFirst
  | 'u' => some .unicode
  | 'R' => some .carriageReturn
  | 'x' => some .loose
  | _ => none

inductive Opened where
  | flags (span : Span) (items : List FlagItem)
  | group (bracket : Span) (opening : Opening)

namespace Read

def isOfGroupName (isFirst : Bool) (c : Char) : Bool :=
  c == '_' || (if isFirst then Text.isLetter c
    else c == '.' || c == '[' || c == ']' || Text.isLetterOrNumeral c)

def groupNameCharacters : Nat → Bool → Read (List Char)
  | 0, _ => return []
  | n + 1, isFirst => do
    match ← head? with
    | none => return []
    | some c =>
      if c = '>' then return []
      else if isOfGroupName isFirst c then
        skip
        return c :: (← groupNameCharacters n false)
      else fail .characterOfName (← cursor).ahead

def groupName : Read Unit := do
  let start ← position
  let name ← groupNameCharacters (← budget) true
  if ← atEnd then fail .openName (← cursor).here
  let span ← since start
  skip
  if name.isEmpty then fail .emptyName ⟨start, start⟩
  let s ← get
  let name := String.ofList name
  match s.names.lookup name with
  | some earlier => fail (.repeatedName earlier) span
  | none => set { s with names := (name, span) :: s.names }

def flagItems : Nat → List (FlagItem × Span) → Read (List (FlagItem × Span))
  | 0, items => return items
  | n + 1, items => do
    match ← head? with
    | none => fail .openFlags (← cursor).here
    | some c =>
      if c = ':' || c = ')' then return items
      let span := (← cursor).ahead
      let item ← if c = '-' then pure FlagItem.minus
        else match Flag.ofLetter? c with
          | some f => pure (.flag f)
          | none => fail .unknownFlag span
      match items.lookup item with
      | some earlier =>
        fail (if item = .minus then .repeatedMinus earlier else .repeatedFlag earlier) span
      | none =>
        skip
        flagItems n (items ++ [(item, span)])

def flags : Read (List FlagItem) := do
  let items ← flagItems ((← budget) + 1) []
  if let some (.minus, span) := items.getLast? then fail .danglingMinus span
  return items.map (·.1)

def lookAroundSigns : List String := ["?=", "?!", "?<=", "?<!"]

def opening : Read Opened := do
  let bracket := (← cursor).ahead
  skip
  skipSpace
  for sign in lookAroundSigns do
    if ← skipText sign then fail .lookAround (← since bracket.start)
  let inner := (← cursor).here
  if ← skipText "?P<" then
    groupName
    return .group bracket .numbered
  if ← skipText "?<" then
    groupName
    return .group bracket .numbered
  unless ← skipText "?" do return .group bracket .numbered
  if ← atEnd then fail .openGroup bracket
  let items ← flags
  let isWhole ← isAt ')'
  skip
  if isWhole then
    if items.isEmpty then fail .nothingToRepeat inner
    return .flags (← since bracket.start) items
  return .group bracket (.flagged items)

def setLoose (items : List FlagItem) : Read Unit :=
  modify fun s => { s with loose := (Flag.loose.state? items).getD s.loose }

def repeating (g : GroupPart) (read : Phrase → Read Phrase) : Read GroupPart := do
  match g.items with
  | body :: items =>
    if body.isRepeatable then return { g with items := (← read body) :: items }
    else fail .nothingToRepeat (← cursor).here
  | [] => fail .nothingToRepeat (← cursor).here

def phrases : Nat → GroupPart → Read Phrase
  | 0, g => return g.phrase (← position)
  | n + 1, g => do
    skipSpace
    match ← head? with
    | none => return g.phrase (← position)
    | some ')' => return g.phrase (← position)
    | some '(' =>
      match ← opening with
      | .flags span items =>
        setLoose items
        phrases n (g.push (.flags span items))
      | .group bracket o =>
        let outside := (← get).loose
        if let .flagged items := o then setLoose items
        let body ← phrases n (.ofPosition (← position))
        unless ← isAt ')' do fail .openGroup bracket
        modify ({ · with loose := outside })
        skip
        phrases n (g.push (.group (← since bracket.start) o body))
    | some '|' =>
      let stop ← position
      skip
      phrases n (g.split stop (← position))
    | some '[' =>
      let (span, negated, inner) ← brackets (2 * (← budget) + 2)
      phrases n (g.push (.brackets span negated inner))
    | some '?' => phrases n (← repeating g (repetition · 0 (some 1)))
    | some '*' => phrases n (← repeating g (repetition · 0 none))
    | some '+' => phrases n (← repeating g (repetition · 1 none))
    | some '\x7b' => phrases n (← repeating g count)
    | some _ => phrases n (g.push (← single))

def whole : Read Phrase := do
  let p ← phrases ((← budget) + 1) (.ofPosition {})
  unless ← atEnd do fail .strayBracket (← cursor).ahead
  match p.tooDeep? depthLimit with
  | some span => fail (.tooDeep depthLimit) span
  | none => return p

end Read

def Phrase.ofText (text : String) : Except Fault Phrase :=
  Read.whole.run' { cursor := .ofString text }

end Dispatch.Pattern
