namespace Dispatch.Document

/-- Lines and columns are counted from zero. A carriage return by itself does not begin a line. -/
structure Cursor where
  rest : List Char
  index : Nat := 0
  line : Nat := 0
  column : Nat := 0
  deriving DecidableEq, Inhabited

def endMark : Char := '\x00'

def isBlank (c : Char) : Bool := c == ' ' || c == '\t'

def isBreak (c : Char) : Bool := c == '\n' || c == '\r'

def isBreakOrEnd (c : Char) : Bool := isBreak c || c == endMark

def isSpaceOrEnd (c : Char) : Bool := isBlank c || isBreakOrEnd c

def isFlowIndicator (c : Char) : Bool :=
  c == ',' || c == '[' || c == ']' || c == '\x7b' || c == '\x7d'

def isNameChar (c : Char) : Bool := c.isAlphanum || c == '_' || c == '-'

def hexDigit? (c : Char) : Option Nat :=
  if '0' ≤ c && c ≤ '9' then some (c.toNat - '0'.toNat)
  else if 'a' ≤ c && c ≤ 'f' then some (c.toNat - 'a'.toNat + 10)
  else if 'A' ≤ c && c ≤ 'F' then some (c.toNat - 'A'.toNat + 10)
  else none

namespace Cursor

def ofText (s : String) : Cursor := { rest := s.toList.takeWhile (· != endMark) }

def head (c : Cursor) : Char := c.rest.headD endMark

def ahead (c : Cursor) (n : Nat) : Char := (c.rest.drop n).headD endMark

def atEnd (c : Cursor) : Bool := c.rest.isEmpty

def skip (c : Cursor) : Cursor :=
  match c.rest with
  | [] => c
  | ch :: rest =>
    if ch = '\n' then { rest := rest, index := c.index + 1, line := c.line + 1, column := 0 }
    else { rest := rest, index := c.index + 1, line := c.line, column := c.column + 1 }

def skipMany : Nat → Cursor → Cursor
  | 0, c => c
  | n + 1, c => skipMany n c.skip

def skipBreak (c : Cursor) : Cursor :=
  if c.head = '\r' ∧ c.ahead 1 = '\n' then c.skip.skip
  else if isBreak c.head then c.skip
  else c

def takeWhile (p : Char → Bool) (c : Cursor) : List Char × Cursor :=
  let taken := c.rest.takeWhile p
  (taken, skipMany taken.length c)

def skipWhile (p : Char → Bool) (c : Cursor) : Cursor := (c.takeWhile p).2

def skipComment (c : Cursor) : Cursor :=
  if c.head = '#' then c.skipWhile (!isBreak ·) else c

def atMark (mark : Char) (c : Cursor) : Bool :=
  c.column == 0 && c.head == mark && c.ahead 1 == mark && c.ahead 2 == mark &&
    isSpaceOrEnd (c.ahead 3)

def atDocumentMark (c : Cursor) : Bool := c.atMark '-' || c.atMark '.'

end Cursor

end Dispatch.Document
