import Dispatch.Text.Basic

/-!
Rows of comma-separated cells. A cell in quotation marks may hold commas, line breaks and, written
twice, quotation marks; a quotation mark later in a cell stands for itself, and so does what follows
a closing one. A row ends with a line feed, a carriage return or both; empty lines are no rows.
-/

namespace Dispatch.Trace

structure Position where
  byte : Nat
  line : Nat
  deriving DecidableEq, Inhabited

structure Row where
  cells : List (List UInt8)
  position : Position
  deriving DecidableEq, Inhabited

inductive RowReader.Mode where
  | rowStart
  | returned
  | cellStart
  | plain
  | quoted
  | quoteSeen
  deriving DecidableEq, Inhabited

structure RowReader where
  mode : RowReader.Mode := .rowStart
  cell : List UInt8 := []
  cells : List (List UInt8) := []
  rows : Array Row := #[]
  position : Position
  rowPosition : Position
  deriving Inhabited

namespace RowReader

def lineFeed : UInt8 := 10
def carriageReturn : UInt8 := 13
def quotationMark : UInt8 := 34
def comma : UInt8 := 44

def isLineEnd (b : UInt8) : Bool := b == lineFeed || b == carriageReturn

def push (r : RowReader) (mode : Mode) (b : UInt8) : RowReader :=
  { r with mode := mode, cell := b :: r.cell }

def endCell (r : RowReader) : RowReader :=
  { r with mode := .cellStart, cell := [], cells := r.cell.reverse :: r.cells }

def endRow (r : RowReader) (mode : Mode) : RowReader :=
  { r with
    mode := mode
    cell := []
    cells := []
    rows := r.rows.push ⟨(r.cell.reverse :: r.cells).reverse, r.rowPosition⟩
    rowPosition := r.position }

def readPlain (r : RowReader) (b : UInt8) : RowReader :=
  if b == comma then r.endCell
  else if isLineEnd b then r.endRow (if b == carriageReturn then .returned else .rowStart)
  else r.push .plain b

def readCellStart (r : RowReader) (b : UInt8) : RowReader :=
  if b == quotationMark then { r with mode := .quoted } else r.readPlain b

def readRowStart (r : RowReader) (b : UInt8) : RowReader :=
  if isLineEnd b then { r with mode := .rowStart } else r.readCellStart b

def advance (p : Position) (b : UInt8) : Position :=
  ⟨p.byte + 1, if b == lineFeed then p.line + 1 else p.line⟩

def read (r : RowReader) (b : UInt8) : RowReader :=
  let r := { r with position := advance r.position b }
  match r.mode with
  | .rowStart => r.readRowStart b
  | .returned => r.readRowStart b
  | .cellStart => r.readCellStart b
  | .plain => r.readPlain b
  | .quoted => if b == quotationMark then { r with mode := .quoteSeen } else r.push .quoted b
  | .quoteSeen => if b == quotationMark then r.push .quoted b else r.readPlain b

def finish (r : RowReader) : Array Row :=
  match r.mode with
  | .rowStart | .returned => r.rows
  | _ => (r.endRow .rowStart).rows

end RowReader

def Row.ofBytes (bytes : List UInt8) : List Row :=
  let start (n : Nat) : RowReader := { position := ⟨n, 1⟩, rowPosition := ⟨0, 1⟩ }
  match bytes with
  | 0xef :: 0xbb :: 0xbf :: rest => (rest.foldl RowReader.read (start 3)).finish.toList
  | _ => (bytes.foldl RowReader.read (start 0)).finish.toList

structure CellFault where
  cell : Nat
  length : Nat
  deriving DecidableEq, Inhabited

def isAsciiBlank (b : UInt8) : Bool :=
  b == 9 || b == 10 || b == 12 || b == 13 || b == 32

def trimBytes (bytes : List UInt8) : List UInt8 :=
  ((bytes.dropWhile isAsciiBlank).reverse.dropWhile isAsciiBlank).reverse

def readCells (number : Nat) (out : Array String) : List (List UInt8) →
    Except CellFault (Array String)
  | [] => .ok out
  | bytes :: rest =>
    match Text.decodeUtf8 (trimBytes bytes) with
    | .ok s => readCells (number + 1) (out.push (Text.trimString s)) rest
    | .error n => .error ⟨number, n⟩

def Row.texts (r : Row) : Except CellFault (Array String) := readCells 0 #[] r.cells

end Dispatch.Trace
