import Dispatch.Document.Cursor

namespace Dispatch.Document

inductive Style where
  | plain
  | quoted
  | block
  deriving DecidableEq, Inhabited

structure Gap where
  escaped : Bool := false
  blanks : List Char := []
  breaks : Nat := 0
  deriving DecidableEq, Inhabited

namespace Gap

def broken (g : Gap) : Bool := g.escaped || 0 < g.breaks

def text (g : Gap) : List Char :=
  if g.escaped then List.replicate g.breaks '\n'
  else
    match g.breaks with
    | 0 => g.blanks.reverse
    | 1 => [' ']
    | n + 2 => List.replicate (n + 1) '\n'

def read (indent : Int) : Nat → Gap → Cursor → Option (Gap × Cursor)
  | 0, g, c => some (g, c)
  | n + 1, g, c =>
    if isBlank c.head then
      if g.broken then
        if c.head == '\t' && (c.column : Int) < indent then none else read indent n g c.skip
      else read indent n { g with blanks := c.head :: g.blanks } c.skip
    else if isBreak c.head then
      read indent n { g with blanks := [], breaks := g.breaks + 1 } c.skipBreak
    else some (g, c)

end Gap

def plainWord (inFlow : Bool) : List Char → List Char
  | [] => []
  | c :: rest =>
    let next := rest.headD endMark
    if isBlank c || isBreak c then []
    else if c == ':' && (isSpaceOrEnd next || (inFlow && isFlowIndicator next)) then []
    else if inFlow && isFlowIndicator c then []
    else c :: plainWord inFlow rest

structure Reading where
  text : List Char
  broken : Bool
  cursor : Cursor

def plainWords (indent : Int) (inFlow : Bool) :
    Nat → List Char → Gap → Cursor → Option Reading
  | 0, text, gap, c => some ⟨text, gap.broken, c⟩
  | n + 1, text, gap, c =>
    if c.atDocumentMark || c.head == '#' then some ⟨text, gap.broken, c⟩
    else
      let word := plainWord inFlow c.rest
      let (text, gap) := if word.isEmpty then (text, gap) else (text ++ gap.text ++ word, {})
      let c := Cursor.skipMany word.length c
      if isBlank c.head || isBreak c.head then do
        let (gap, c) ← Gap.read indent c.rest.length gap c
        if !inFlow && (c.column : Int) < indent then some ⟨text, gap.broken, c⟩
        else plainWords indent inFlow n text gap c
      else some ⟨text, gap.broken, c⟩

def readPlain (indent : Int) (inFlow : Bool) (c : Cursor) : Option Reading :=
  plainWords indent inFlow (c.rest.length + 1) [] {} c

def simpleEscape? : Char → Option Char
  | '0' => some '\x00'
  | 'a' => some '\x07'
  | 'b' => some '\x08'
  | 't' => some '\t'
  | '\t' => some '\t'
  | 'n' => some '\n'
  | 'v' => some '\x0b'
  | 'f' => some '\x0c'
  | 'r' => some '\r'
  | 'e' => some '\x1b'
  | ' ' => some ' '
  | '\x22' => some '\x22'
  | '\x27' => some '\x27'
  | '\\' => some '\\'
  | 'N' => some '\u0085'
  | '_' => some '\u00a0'
  | 'L' => some '\u2028'
  | 'P' => some '\u2029'
  | _ => none

def escapeLength? : Char → Option Nat
  | 'x' => some 2
  | 'u' => some 4
  | 'U' => some 8
  | _ => none

def charOfCode? (n : Nat) : Option Char :=
  if h : n.isValidChar then some (Char.ofNatAux n h) else none

def hexNumber? : Nat → Nat → List Char → Option Nat
  | 0, n, _ => some n
  | _ + 1, _, [] => none
  | k + 1, n, c :: rest => do hexNumber? k (n * 16 + (← hexDigit? c)) rest

def readEscape (c : Cursor) : Option (Char × Cursor) :=
  match simpleEscape? c.head with
  | some ch => some (ch, c.skip)
  | none => do
    let length ← escapeLength? c.head
    let ch ← charOfCode? (← hexNumber? length 0 c.skip.rest)
    return (ch, Cursor.skipMany (length + 1) c)

def quotedWord (quote : Char) : Nat → List Char → Cursor → Option (List Char × Bool × Cursor)
  | 0, text, c => some (text, false, c)
  | n + 1, text, c =>
    if isSpaceOrEnd c.head then some (text, false, c)
    else if quote == '\x27' && c.head == '\x27' && c.ahead 1 == '\x27' then
      quotedWord quote n ('\x27' :: text) c.skip.skip
    else if c.head == quote then some (text, false, c)
    else if quote == '\x22' && c.head == '\\' then
      if isBreak (c.ahead 1) then some (text, true, c.skip.skipBreak)
      else do
        let (ch, c) ← readEscape c.skip
        quotedWord quote n (ch :: text) c
    else quotedWord quote n (c.head :: text) c.skip

def quotedWords (quote : Char) : Nat → List Char → Cursor → Option (List Char × Cursor)
  | 0, _, _ => none
  | n + 1, text, c =>
    if c.atDocumentMark || c.atEnd then none
    else do
      let (text, escaped, c) ← quotedWord quote c.rest.length text c
      if c.head == quote then return (text.reverse, c.skip)
      let (gap, c) ← Gap.read 0 c.rest.length { escaped := escaped } c
      quotedWords quote n (gap.text.reverse ++ text) c

def readQuoted (c : Cursor) : Option (List Char × Cursor) :=
  quotedWords c.head (c.rest.length + 1) [] c.skip

inductive Chomping where
  | strip
  | clip
  | keep
  deriving DecidableEq, Inhabited

structure BlockHeader where
  chomping : Chomping := .clip
  charge : Nat := 0
  deriving DecidableEq, Inhabited

def chomping? : Char → Option Chomping
  | '+' => some .keep
  | '-' => some .strip
  | _ => none

def readBlockHeader (c : Cursor) : Option (BlockHeader × Cursor) :=
  let digit (c : Cursor) : Option (Nat × Cursor) :=
    if c.head.isDigit then
      if c.head = '0' then none else some (c.head.toNat - '0'.toNat, c.skip)
    else some (0, c)
  match chomping? c.head with
  | some chomping => do
    let (charge, c) ← digit c.skip
    return (⟨chomping, charge⟩, c)
  | none => do
    let (charge, c') ← digit c
    match if charge = 0 then none else chomping? c'.head with
    | some chomping => return (⟨chomping, charge⟩, c'.skip)
    | none => return (⟨.clip, charge⟩, c')

/-- Skips indentation and empty lines before a line of a block, at most `n` lines. While the
indentation is not known, all spaces belong to it; the deepest one is reported. -/
def skipIndentation (indent : Nat) : Nat → Nat → Nat → Cursor → Option (Nat × Nat × Cursor)
  | 0, deepest, breaks, c => some (deepest, breaks, c)
  | n + 1, deepest, breaks, c =>
    let spaces := (c.rest.takeWhile (· == ' ')).length
    let c := Cursor.skipMany (if indent = 0 then spaces else min spaces (indent - c.column)) c
    let deepest := max deepest c.column
    if (indent == 0 || c.column < indent) && c.head == '\t' then none
    else if isBreak c.head then skipIndentation indent n deepest (breaks + 1) c.skipBreak
    else some (deepest, breaks, c)

structure BlockText where
  text : List Char := []
  held : Bool := false
  afterBlank : Bool := false
  empty : Nat := 0

namespace BlockText

def addLine (literal : Bool) (b : BlockText) (line : List Char) : BlockText :=
  let blank := isBlank (line.headD endMark)
  let joint :=
    if !b.held then []
    else if !literal && !b.afterBlank && !blank then (if b.empty = 0 then [' '] else [])
    else ['\n']
  { text := b.text ++ joint ++ List.replicate b.empty '\n' ++ line, afterBlank := blank }

def finish (chomping : Chomping) (b : BlockText) : List Char :=
  match chomping with
  | .strip => b.text
  | .clip => b.text ++ (if b.held then ['\n'] else [])
  | .keep => b.text ++ (if b.held then ['\n'] else []) ++ List.replicate b.empty '\n'

end BlockText

def blockLines (literal : Bool) (indent : Nat) : Nat → BlockText → Cursor →
    Option (BlockText × Cursor)
  | 0, b, c => some (b, c)
  | n + 1, b, c =>
    if c.column == indent && !c.atEnd then
      let (line, c) := c.takeWhile (!isBreak ·)
      let b := b.addLine literal line
      if c.atEnd then some (b, c)
      else do
        let c := c.skipBreak
        let (_, breaks, c) ← skipIndentation indent (c.rest.length + 1) 0 0 c
        blockLines literal indent n { b with held := true, empty := breaks } c
    else some (b, c)

def readBlock (parent : Int) (c : Cursor) : Option (List Char × Cursor) := do
  let literal := c.head == '|'
  let (header, c) ← readBlockHeader c.skip
  let c := (c.skipWhile isBlank).skipComment
  if !isBreakOrEnd c.head then none
  else
    let c := c.skipBreak
    let fixed :=
      if header.charge = 0 then 0
      else if 0 ≤ parent then (parent + header.charge).toNat else header.charge
    let (deepest, breaks, c) ← skipIndentation fixed (c.rest.length + 1) 0 0 c
    let indent := if fixed = 0 then max (max deepest (parent + 1).toNat) 1 else fixed
    let (b, c) ← blockLines literal indent (c.rest.length + 1) { empty := breaks } c
    return (b.finish header.chomping, c)

end Dispatch.Document
