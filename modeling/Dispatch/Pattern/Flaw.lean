import Dispatch.Pattern.Position

namespace Dispatch.Pattern

inductive Flaw where
  | escapeInClass
  | reversedRange
  | boundOfRange
  | openClass
  | numberTooLarge
  | noCount
  | noHexDigits
  | noSuchCharacter
  | notHexDigit
  | openEscape
  | unknownEscape
  | danglingMinus
  | repeatedFlag (earlier : Span)
  | repeatedMinus (earlier : Span)
  | openFlags
  | unknownFlag
  | repeatedName (earlier : Span)
  | emptyName
  | characterOfName
  | openName
  | openGroup
  | strayBracket
  | tooDeep (limit : Nat)
  | reversedCount
  | openCount
  | nothingToRepeat
  | openBoundary
  | unknownBoundary
  | openBrace
  | nameOfProperty
  | backReference
  | lookAround
  | beyondBytes
  | notText
  | unknownProperty
  | unknownPropertyValue
  | noTableOfKind
  | noTableOfCase

namespace Flaw

def message : Flaw → String
  | .escapeInClass => "invalid escape sequence found in character class"
  | .reversedRange => "invalid character class range, the start must be <= the end"
  | .boundOfRange => "invalid range boundary, must be a literal"
  | .openClass => "unclosed character class"
  | .numberTooLarge => "decimal literal invalid"
  | .noCount => "repetition quantifier expects a valid decimal"
  | .noHexDigits => "hexadecimal literal empty"
  | .noSuchCharacter => "hexadecimal literal is not a Unicode scalar value"
  | .notHexDigit => "invalid hexadecimal digit"
  | .openEscape => "incomplete escape sequence, reached end of pattern prematurely"
  | .unknownEscape => "unrecognized escape sequence"
  | .danglingMinus => "dangling flag negation operator"
  | .repeatedFlag _ => "duplicate flag"
  | .repeatedMinus _ => "flag negation operator repeated"
  | .openFlags => "expected flag but got end of regex"
  | .unknownFlag => "unrecognized flag"
  | .repeatedName _ => "duplicate capture group name"
  | .emptyName => "empty capture group name"
  | .characterOfName => "invalid capture group character"
  | .openName => "unclosed capture group name"
  | .openGroup => "unclosed group"
  | .strayBracket => "unopened group"
  | .tooDeep limit =>
    s!"exceed the maximum number of nested parentheses/brackets ({limit})"
  | .reversedCount => "invalid repetition count range, the start must be <= the end"
  | .openCount => "unclosed counted repetition"
  | .nothingToRepeat => "repetition operator missing expression"
  | .openBoundary =>
    "special word boundary assertion is either unclosed or contains an invalid character"
  | .unknownBoundary => "unrecognized special word boundary assertion, " ++
    "valid choices are: start, end, start-half or end-half"
  | .openBrace => "found either the beginning of a special word boundary or a bounded " ++
    "repetition on a \\b with an opening brace, but no closing brace"
  | .nameOfProperty => "invalid Unicode character class"
  | .backReference => "backreferences are not supported"
  | .lookAround => "look-around, including look-ahead and look-behind, is not supported"
  | .beyondBytes => "Unicode not allowed here"
  | .notText => "pattern can match invalid UTF-8"
  | .unknownProperty => "Unicode property not found"
  | .unknownPropertyValue => "Unicode property value not found"
  | .noTableOfKind =>
    "Unicode-aware Perl class not found (make sure the unicode-perl feature is enabled)"
  | .noTableOfCase => "Unicode-aware case insensitivity matching is not available " ++
    "(make sure the unicode-case feature is enabled)"

def earlier? : Flaw → Option Span
  | .repeatedFlag s => some s
  | .repeatedMinus s => some s
  | .repeatedName s => some s
  | _ => none

end Flaw

structure Fault where
  flaw : Flaw
  span : Span

namespace Fault

def lines (text : List Char) : List (List Char) :=
  let pieces := text.splitOn '\n'
  let ended := pieces.dropLast.map fun l => if l.getLast? = some '\r' then l.dropLast else l
  match pieces.getLast? with
  | some [] => ended
  | some last => ended ++ [last]
  | none => ended

def spans (f : Fault) : List Span :=
  match f.flaw.earlier? with
  | some s => if f.span.precedes s then [f.span, s] else [s, f.span]
  | none => [f.span]

def marks (column : Nat) : List Span → List Char
  | [] => []
  | s :: rest =>
    let gap := s.start.column - column
    let length := max 1 (s.stop.column - s.start.column)
    List.replicate gap ' ' ++ List.replicate length '^' ++ marks (column + gap + length) rest

def padded (width : Nat) (s : String) : String :=
  String.ofList (List.replicate (width - s.length) ' ') ++ s

def excerptLine (f : Fault) (width number : Nat) (line : List Char) : List String :=
  let margin := if width = 0 then "    " else padded width (toString number) ++ ": "
  let inLine := f.spans.filter fun s => s.isOnOneLine && s.start.line == number
  (margin ++ String.ofList line) ::
    (if inLine.isEmpty then []
     else [padded margin.length "" ++ String.ofList (marks 1 inLine)])

def acrossLines (f : Fault) : List String :=
  (f.spans.filter (!·.isOnOneLine)).map fun s =>
    s!"on line {s.start.line} (column {s.start.column}) through line {s.stop.line} " ++
      s!"(column {s.stop.column - 1})"

def report (f : Fault) (text : List Char) : List String :=
  let manyLines := text.contains '\n'
  let ls := lines text
  let count := ls.length + (if text.getLast? = some '\n' then 1 else 0)
  let width := if count ≤ 1 then 0 else (toString count).length
  let excerpt := (ls.zipIdx 1).flatMap fun (line, n) => f.excerptLine width n line
  let rule := String.ofList (List.replicate 79 '~')
  "regex parse error:" ::
    (if manyLines then rule :: excerpt ++ rule :: f.acrossLines else excerpt) ++
    ["error: " ++ f.flaw.message]

end Fault

end Dispatch.Pattern
