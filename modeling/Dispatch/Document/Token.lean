import Dispatch.Document.Scalar

/-!
The tokens of a document. Collections that are marked by indentation alone, and keys that are known
as such only by the colon after them, get tokens too.
-/

namespace Dispatch.Document

inductive Token where
  | directive
  | documentStart
  | documentEnd
  | blockSequenceStart
  | blockMappingStart
  | blockEnd
  | flowSequenceStart
  | flowSequenceEnd
  | flowMappingStart
  | flowMappingEnd
  | blockEntry
  | flowEntry
  | key
  | value
  | anchor (name : String)
  | alias (name : String)
  | tag (handle suffix : String)
  | scalar (style : Style) (text : String)
  deriving DecidableEq, Inhabited

structure KeyCandidate where
  possible : Bool := false
  required : Bool := false
  token : Nat := 0
  cursor : Cursor := { rest := [] }
  deriving Inhabited

/-- The state of reading tokens. `keys` has a candidate for each flow collection that is open, the
innermost first, and one for the block around them; `indents` are the indentations of the open
blocks around the innermost one. -/
structure Lexer where
  cursor : Cursor
  tokens : Array Token := #[]
  keyAllowed : Bool := true
  key : KeyCandidate := {}
  keys : List KeyCandidate := []
  indent : Int := -1
  indents : List Int := []
  flowLevel : Nat := 0
  adjacentAt : Nat := 0

namespace Lexer

def push (s : Lexer) (t : Token) : Lexer := { s with tokens := s.tokens.push t }

def insertToken (s : Lexer) (place : Nat) (t : Token) : Lexer :=
  { s with tokens := s.tokens.insertIdxIfInBounds place t }

def inFlow (s : Lexer) : Bool := 0 < s.flowLevel

def moveTo (s : Lexer) (c : Cursor) : Lexer := { s with cursor := c }

def skipSpace : Nat → Lexer → Lexer
  | 0, s => s
  | n + 1, s =>
    let ch := s.cursor.head
    if ch = ' ' || (ch = '\t' && (s.inFlow || !s.keyAllowed)) then
      skipSpace n (s.moveTo s.cursor.skip)
    else if isBreak ch then
      skipSpace n { s with
        cursor := s.cursor.skipBreak
        keyAllowed := s.keyAllowed || !s.inFlow }
    else if ch = '#' then skipSpace n (s.moveTo s.cursor.skipComment)
    else s

def isStale (c : Cursor) (k : KeyCandidate) : Bool :=
  k.possible && (k.cursor.line < c.line || k.cursor.index + 1024 < c.index)

def dropStale (s : Lexer) : Option Lexer :=
  let drop (k : KeyCandidate) := if isStale s.cursor k then { k with possible := false } else k
  if (s.key :: s.keys).any fun k => isStale s.cursor k && k.required then none
  else some { s with key := drop s.key, keys := s.keys.map drop }

def removeKey (s : Lexer) : Option Lexer :=
  if s.key.possible && s.key.required then none
  else some { s with key := { s.key with possible := false } }

def saveKey (s : Lexer) : Option Lexer :=
  if s.keyAllowed then do
    let s ← s.removeKey
    return { s with key := {
      possible := true
      required := s.inFlow && s.indent == (s.cursor.column : Int)
      token := s.tokens.size
      cursor := s.cursor } }
  else some s

def openBlock (s : Lexer) (column : Nat) (place : Nat) (t : Token) : Lexer :=
  if !s.inFlow && s.indent < (column : Int) then
    { s.insertToken place t with indent := column, indents := s.indent :: s.indents }
  else s

def closeBlocksFrom (column : Int) : List Int → Lexer → Lexer
  | [], s => s
  | outer :: rest, s =>
    if column < s.indent then
      closeBlocksFrom column rest { s.push .blockEnd with indent := outer, indents := rest }
    else s

def closeBlocks (s : Lexer) (column : Int) : Lexer :=
  if s.inFlow then s else closeBlocksFrom column s.indents s

def endDirective (c : Cursor) : Option Cursor :=
  let c := (c.skipWhile isBlank).skipComment
  if isBreakOrEnd c.head then some c.skipBreak else none

def readNumber (c : Cursor) : Option Cursor :=
  let (digits, c) := c.takeWhile Char.isDigit
  if digits.isEmpty || 9 < digits.length then none else some c

def readEscapedOctets : Nat → Nat → Cursor → Option (Nat × Cursor)
  | 0, code, c => some (code, c)
  | n + 1, code, c => do
    if c.head != '%' then none
    else
      let octet := (← hexDigit? (c.ahead 1)) * 16 + (← hexDigit? (c.ahead 2))
      if octet / 64 = 2 then readEscapedOctets n (code * 256 + octet) (Cursor.skipMany 3 c)
      else none

def readUriEscape (c : Cursor) : Option (Char × Cursor) := do
  let octet := (← hexDigit? (c.ahead 1)) * 16 + (← hexDigit? (c.ahead 2))
  let more ← if octet < 0x80 then some 0
    else if octet / 32 = 6 then some 1
    else if octet / 16 = 14 then some 2
    else if octet / 8 = 30 then some 3
    else none
  let (code, c) ← readEscapedOctets more octet (Cursor.skipMany 3 c)
  return (← charOfCode? code, c)

def isUriChar (c : Char) : Bool := isNameChar c || ";/?:@&=+$,.!~*\x27()[]%".toList.contains c

def readUri : Nat → List Char → Cursor → Option (List Char × Cursor)
  | 0, text, c => some (text.reverse, c)
  | n + 1, text, c =>
    if !isUriChar c.head then some (text.reverse, c)
    else if c.head == '%' then do
      let (ch, c) ← readUriEscape c
      readUri n (ch :: text) c
    else readUri n (c.head :: text) c.skip

def readHandle (inDirective : Bool) (c : Cursor) : Option (List Char × Cursor) :=
  if c.head != '!' then none
  else
    let (name, c) := c.skip.takeWhile isNameChar
    if c.head == '!' then some ('!' :: name ++ ['!'], c.skip)
    else if inDirective && !name.isEmpty then none
    else some ('!' :: name, c)

def readNonemptyUri (c : Cursor) : Option (List Char × Cursor) := do
  let (text, c) ← readUri c.rest.length [] c
  if text.isEmpty then none else return (text, c)

def readTag (c : Cursor) : Option (String × String × Cursor) := do
  let (handle, suffix, c) ←
    if c.ahead 1 == '<' then do
      let (uri, c) ← readNonemptyUri c.skip.skip
      if c.head == '>' then some ("", String.ofList uri, c.skip) else none
    else do
      let (handle, c) ← readHandle false c
      if 2 ≤ handle.length && handle.getLast? == some '!' then do
        let (uri, c) ← readNonemptyUri c
        return (String.ofList handle, String.ofList uri, c)
      else do
        let (uri, c) ← readUri c.rest.length handle.tail.reverse c
        return if uri.isEmpty then ("", "!", c) else ("!", String.ofList uri, c)
  if isSpaceOrEnd c.head then return (handle, suffix, c) else none

def readDirective (c : Cursor) : Option Cursor := do
  let (name, c) := c.skip.takeWhile isNameChar
  if name.isEmpty || !isSpaceOrEnd c.head then none
  else if name == "YAML".toList then
    let c ← readNumber (c.skipWhile isBlank)
    if c.head == '.' then endDirective (← readNumber c.skip) else none
  else if name == "TAG".toList then
    let (_, c) ← readHandle true (c.skipWhile isBlank)
    let (_, c) ← readNonemptyUri (c.skipWhile isBlank)
    if isSpaceOrEnd c.head then endDirective c else none
  else endDirective (c.skipWhile (!isBreak ·))

def leaveDocument (s : Lexer) : Option Lexer := do
  let s ← (s.closeBlocks (-1)).removeKey
  return { s with keyAllowed := false }

def lexDirective (s : Lexer) : Option Lexer := do
  let s ← s.leaveDocument
  return (s.moveTo (← readDirective s.cursor)).push .directive

def lexDocumentMark (s : Lexer) (t : Token) : Option Lexer := do
  let s ← s.leaveDocument
  return (s.moveTo (Cursor.skipMany 3 s.cursor)).push t

def lexFlowStart (s : Lexer) (t : Token) : Option Lexer := do
  let s ← s.saveKey
  if 255 ≤ s.flowLevel then none
  else
    return { s.push t with
      cursor := s.cursor.skip
      keyAllowed := true
      key := {}
      keys := s.key :: s.keys
      flowLevel := s.flowLevel + 1 }

def lexFlowEnd (s : Lexer) (t : Token) : Option Lexer := do
  let s ← s.removeKey
  let s := { s.push t with cursor := s.cursor.skip, keyAllowed := false }
  match s.keys with
  | outer :: rest => return { s with key := outer, keys := rest, flowLevel := s.flowLevel - 1 }
  | [] => return s

def lexFlowEntry (s : Lexer) : Option Lexer := do
  let s ← s.removeKey
  return { s.push .flowEntry with cursor := s.cursor.skip, keyAllowed := true }

def lexBlockEntry (s : Lexer) : Option Lexer := do
  if s.inFlow || !s.keyAllowed then none
  else
    let s ← (s.openBlock s.cursor.column s.tokens.size .blockSequenceStart).removeKey
    return { s.push .blockEntry with cursor := s.cursor.skip, keyAllowed := true }

def lexKey (s : Lexer) : Option Lexer := do
  if !s.inFlow && !s.keyAllowed then none
  else
    let s ← (s.openBlock s.cursor.column s.tokens.size .blockMappingStart).removeKey
    return { s.push .key with cursor := s.cursor.skip, keyAllowed := !s.inFlow }

def lexValue (s : Lexer) : Option Lexer :=
  if s.key.possible then
    let s := (s.insertToken s.key.token .key).openBlock s.key.cursor.column s.key.token
      .blockMappingStart
    some { s.push .value with
      cursor := s.cursor.skip
      key := { s.key with possible := false }
      keyAllowed := false }
  else if !s.inFlow && !s.keyAllowed then none
  else
    let s := s.openBlock s.cursor.column s.tokens.size .blockMappingStart
    some { s.push .value with cursor := s.cursor.skip, keyAllowed := !s.inFlow }

def beginKey (s : Lexer) (keyAllowed : Bool) : Option Lexer := do
  return { (← s.saveKey) with keyAllowed := keyAllowed }

def lexAnchor (s : Lexer) (token : String → Token) : Option Lexer := do
  let s ← s.beginKey false
  let (name, c) := s.cursor.skip.takeWhile isNameChar
  if name.isEmpty || !(isSpaceOrEnd c.head || "?:,]\x7d%@\x60".toList.contains c.head) then none
  else return (s.moveTo c).push (token (String.ofList name))

def lexTag (s : Lexer) : Option Lexer := do
  let s ← s.beginKey false
  let (handle, suffix, c) ← readTag s.cursor
  return (s.moveTo c).push (.tag handle suffix)

def lexBlockScalar (s : Lexer) : Option Lexer := do
  let s ← s.beginKey true
  let (text, c) ← readBlock s.indent s.cursor
  return (s.moveTo c).push (.scalar .block (String.ofList text))

def lexQuoted (s : Lexer) : Option Lexer := do
  let s ← s.beginKey false
  let (text, c) ← readQuoted s.cursor
  return { s.push (.scalar .quoted (String.ofList text)) with cursor := c, adjacentAt := c.index }

def lexPlain (s : Lexer) : Option Lexer := do
  let s ← s.beginKey false
  let r ← readPlain (s.indent + 1) s.inFlow s.cursor
  return { s.push (.scalar .plain (String.ofList r.text)) with
    cursor := r.cursor
    keyAllowed := r.broken }

def lexToken (s : Lexer) : Option Lexer :=
  let c := s.cursor.head
  let next := s.cursor.ahead 1
  if s.cursor.column = 0 && c = '%' then s.lexDirective
  else if s.cursor.atMark '-' then s.lexDocumentMark .documentStart
  else if s.cursor.atMark '.' then s.lexDocumentMark .documentEnd
  else if c = '[' then s.lexFlowStart .flowSequenceStart
  else if c = '\x7b' then s.lexFlowStart .flowMappingStart
  else if c = ']' then s.lexFlowEnd .flowSequenceEnd
  else if c = '\x7d' then s.lexFlowEnd .flowMappingEnd
  else if c = ',' then s.lexFlowEntry
  else if c = '-' && isSpaceOrEnd next then s.lexBlockEntry
  else if c = '?' && isSpaceOrEnd next then s.lexKey
  else if c = ':' && (isSpaceOrEnd next ||
      (s.inFlow && (isFlowIndicator next || s.cursor.index = s.adjacentAt))) then s.lexValue
  else if c = '*' then s.lexAnchor .alias
  else if c = '&' then s.lexAnchor .anchor
  else if c = '!' then s.lexTag
  else if (c = '|' || c = '>') && !s.inFlow then s.lexBlockScalar
  else if c = '\x27' || c = '\x22' then s.lexQuoted
  else if c = '%' || c = '@' || c = '\x60' then none
  else s.lexPlain

def run : Nat → Lexer → Option (Array Token)
  | 0, _ => none
  | n + 1, s => do
    let s ← (skipSpace s.cursor.rest.length s).dropStale
    let s := s.closeBlocks s.cursor.column
    if s.cursor.atEnd then
      let s ← (s.closeBlocks (-1)).removeKey
      return s.tokens
    else run n (← s.lexToken)

end Lexer

def Token.ofText? (text : String) : Option (Array Token) :=
  let c := Cursor.ofText text
  Lexer.run (c.rest.length + 1) { cursor := c }

end Dispatch.Document
