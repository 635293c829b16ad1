import Dispatch.Text.Basic

/-!
Places in the text of a pattern, and a cursor that moves along it. A cursor that is loose passes
over white space and remarks, which begin with a hash and end with their line.
-/

namespace Dispatch.Pattern

structure Position where
  offset : Nat := 0
  line : Nat := 1
  column : Nat := 1
  deriving Inhabited

def Position.after (p : Position) (c : Char) : Position :=
  if c = '\n' then ⟨p.offset + 1, p.line + 1, 1⟩ else ⟨p.offset + 1, p.line, p.column + 1⟩

structure Span where
  start : Position
  stop : Position
  deriving Inhabited

def Span.isOnOneLine (s : Span) : Bool := s.start.line == s.stop.line

def Span.precedes (s t : Span) : Bool :=
  s.start.offset < t.start.offset ||
    (s.start.offset == t.start.offset && s.stop.offset ≤ t.stop.offset)

structure Cursor where
  rest : List Char
  position : Position := {}
  deriving Inhabited

namespace Cursor

def ofString (s : String) : Cursor := ⟨s.toList, {}⟩

def atEnd (c : Cursor) : Bool := c.rest.isEmpty

def skip (c : Cursor) : Cursor :=
  match c.rest with
  | [] => c
  | ch :: rest => ⟨rest, c.position.after ch⟩

def here (c : Cursor) : Span := ⟨c.position, c.position⟩

def ahead (c : Cursor) : Span := ⟨c.position, c.skip.position⟩

def skipText? (c : Cursor) (text : List Char) : Option Cursor :=
  if text.isPrefixOf c.rest then some (text.foldl (fun c _ => c.skip) c) else none

def skipRemarks (inRemark : Bool) : List Char → Position → Cursor
  | [], p => ⟨[], p⟩
  | c :: rest, p =>
    if inRemark then skipRemarks (c != '\n') rest (p.after c)
    else if Text.isBlank c then skipRemarks false rest (p.after c)
    else if c = '#' then skipRemarks true rest (p.after c)
    else ⟨c :: rest, p⟩

def skipSpace (loose : Bool) (c : Cursor) : Cursor :=
  if loose then skipRemarks false c.rest c.position else c

end Cursor

end Dispatch.Pattern
