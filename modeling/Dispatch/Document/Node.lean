import Dispatch.Document.Token

/-!
The nodes of a document: scalars, sequences and mappings, and references to nodes that carry an
anchor. Where a node is left out, a scalar with a tilde stands in its place.
-/

namespace Dispatch.Document

inductive Node where
  | scalar (style : Style) (tag : Option (String × String)) (text : String)
  | sequence (items : List Node)
  | mapping (entries : List (Node × Node))
  | reference (anchor : Nat)
  deriving Inhabited

def Node.missing : Node := .scalar .plain none "~"

structure Tree where
  root : Node
  anchored : List (Nat × Node)

structure NodeReader where
  rest : List Token
  names : List (String × Nat) := []
  nextAnchor : Nat := 0
  anchored : List (Nat × Node) := []

namespace NodeReader

def skip (s : NodeReader) : NodeReader := { s with rest := s.rest.tail }

def next? (s : NodeReader) : Option Token := s.rest.head?

def nextIs (s : NodeReader) (ts : List Token) : Bool :=
  match s.next? with
  | some t => ts.contains t
  | none => false

structure Properties where
  anchor : Option Nat := none
  tag : Option (String × String) := none

def readAnchor (s : NodeReader) : Option Nat × NodeReader :=
  match s.next? with
  | some (.anchor name) =>
    (some s.nextAnchor, { s.skip with
      names := (name, s.nextAnchor) :: s.names
      nextAnchor := s.nextAnchor + 1 })
  | _ => (none, s)

def readTag (s : NodeReader) : Option (String × String) × NodeReader :=
  match s.next? with
  | some (.tag handle suffix) => (some (handle, suffix), s.skip)
  | _ => (none, s)

def readProperties (s : NodeReader) : Properties × NodeReader :=
  match s.readAnchor with
  | (some a, s) => let (tag, s) := s.readTag; (⟨some a, tag⟩, s)
  | (none, s) =>
    match s.readTag with
    | (some t, s) => let (anchor, s) := s.readAnchor; (⟨anchor, some t⟩, s)
    | (none, s) => ({}, s)

def finish (anchor : Option Nat) (node : Node) (s : NodeReader) : Node × NodeReader :=
  match anchor with
  | some a => (node, { s with anchored := (a, node) :: s.anchored })
  | none => (node, s)

inductive Goal where
  | node (block entries : Bool)
  | blockEntries
  | plainEntries
  | blockPairs
  | flowItems (first : Bool)
  | flowPairs (first : Bool)

abbrev Result := Option (List Node × NodeReader)

def pairs : List Node → List (Node × Node)
  | k :: v :: rest => (k, v) :: pairs rest
  | _ => []

def one (r : Node × NodeReader) : Result := some ([r.1], r.2)

def before (n : Node) (r : Result) : Result := r.map fun (ns, s) => (n :: ns, s)

def optional (read : Goal → NodeReader → Result) (goal : Goal) (ends : List Token)
    (s : NodeReader) : Option (Node × NodeReader) :=
  if s.nextIs ends then some (.missing, s)
  else
    match read goal s with
    | some ([n], s) => some (n, s)
    | _ => none

def blockValue (read : Goal → NodeReader → Result) (s : NodeReader) : Option (Node × NodeReader) :=
  if s.nextIs [.value] then
    optional read (.node true true) [.key, .value, .blockEnd] s.skip
  else some (.missing, s)

def flowValue (read : Goal → NodeReader → Result) (s : NodeReader) : Option (Node × NodeReader) :=
  if s.nextIs [.value] then
    optional read (.node false false) [.flowEntry, .flowMappingEnd] s.skip
  else some (.missing, s)

def flowPair (read : Goal → NodeReader → Result) (s : NodeReader) : Option (Node × NodeReader) := do
  let (key, s) ←
    if s.nextIs [.value, .flowEntry, .flowSequenceEnd] then some (Node.missing, s.skip)
    else optional read (.node false false) [] s
  let (value, s) ←
    if s.nextIs [.value] then
      optional read (.node false false) [.flowEntry, .flowSequenceEnd] s.skip
    else some (Node.missing, s)
  return (.mapping [(key, value)], s)

def readContent (read : Goal → NodeReader → Result) (block entries : Bool) (p : Properties)
    (s : NodeReader) : Result :=
  let collection (goal : Goal) (make : List Node → Node) (s : NodeReader) : Result := do
    let (ns, s) ← read goal s
    one (finish p.anchor (make ns) s)
  let mapping (ns : List Node) : Node := .mapping (pairs ns)
  let empty : Result :=
    if p.anchor.isSome || p.tag.isSome then one (finish p.anchor (.scalar .plain p.tag "") s)
    else none
  match s.next? with
  | some (.scalar style text) => one (finish p.anchor (.scalar style p.tag text) s.skip)
  | some .flowSequenceStart => collection (.flowItems true) .sequence s.skip
  | some .flowMappingStart => collection (.flowPairs true) mapping s.skip
  | some .blockSequenceStart => if block then collection .blockEntries .sequence s.skip else empty
  | some .blockMappingStart => if block then collection .blockPairs mapping s.skip else empty
  | some .blockEntry => if entries then collection .plainEntries .sequence s else empty
  | _ => empty

def readNode (read : Goal → NodeReader → Result) (block entries : Bool) (s : NodeReader) : Result :=
  match s.next? with
  | some (.alias name) => do
    let (_, a) ← s.names.find? (·.1 == name)
    one (.reference a, s.skip)
  | _ => let (p, s) := s.readProperties; readContent read block entries p s

def readGoal (read : Goal → NodeReader → Result) (goal : Goal) (s : NodeReader) : Result :=
  match goal with
  | .node block entries => readNode read block entries s
  | .blockEntries =>
    match s.next? with
    | some .blockEnd => some ([], s.skip)
    | some .blockEntry => do
      let (n, s) ← optional read (.node true false) [.blockEntry, .blockEnd] s.skip
      before n (read .blockEntries s)
    | _ => none
  | .plainEntries =>
    match s.next? with
    | some .blockEntry => do
      let (n, s) ← optional read (.node true false) [.blockEntry, .key, .value, .blockEnd] s.skip
      before n (read .plainEntries s)
    | _ => some ([], s)
  | .blockPairs =>
    match s.next? with
    | some .blockEnd => some ([], s.skip)
    | some .key => do
      let (k, s) ← optional read (.node true true) [.key, .value, .blockEnd] s.skip
      let (v, s) ← blockValue read s
      before k (before v (read .blockPairs s))
    | some .value => do
      let (v, s) ← blockValue read s
      before .missing (before v (read .blockPairs s))
    | _ => none
  | .flowItems first => do
    if s.nextIs [.flowSequenceEnd] then return ([], s.skip)
    let s ← if first then some s else if s.nextIs [.flowEntry] then some s.skip else none
    if s.nextIs [.flowSequenceEnd] then return ([], s.skip)
    let (n, s) ← if s.nextIs [.key] then flowPair read s.skip
      else optional read (.node false false) [] s
    before n (read (.flowItems false) s)
  | .flowPairs first => do
    if s.nextIs [.flowMappingEnd] then return ([], s.skip)
    let s ← if first then some s else if s.nextIs [.flowEntry] then some s.skip else none
    if s.nextIs [.flowMappingEnd] then return ([], s.skip)
    if s.nextIs [.key] then
      let (k, s) ← optional read (.node false false) [.value, .flowEntry, .flowMappingEnd] s.skip
      let (v, s) ← flowValue read s
      before k (before v (read (.flowPairs false) s))
    else if s.nextIs [.value] then
      let (v, s) ← flowValue read s
      before .missing (before v (read (.flowPairs false) s))
    else
      let (k, s) ← optional read (.node false false) [] s
      before k (before .missing (read (.flowPairs false) s))

def read : Nat → Goal → NodeReader → Result
  | 0, _, _ => none
  | n + 1, goal, s => readGoal (read n) goal s

end NodeReader

def Tree.ofTokens? (tokens : List Token) : Option Tree := do
  let directives := tokens.takeWhile (· == .directive)
  let body := tokens.drop directives.length
  let body ← match body with
    | .documentStart :: rest => some rest
    | _ => if directives.isEmpty && !body.isEmpty then some body else none
  let s : NodeReader := { rest := body }
  let explicit := body.length < tokens.length
  let (root, s) ←
    if explicit && (body.isEmpty || s.nextIs [.directive, .documentStart, .documentEnd]) then
      some (Node.missing, s)
    else NodeReader.optional (NodeReader.read (4 * body.length + 8)) (.node true false) [] s
  if (s.rest.dropWhile (· == .documentEnd)).isEmpty then return ⟨root, s.anchored⟩ else none

def Tree.ofText? (text : String) : Option Tree := do
  Tree.ofTokens? (← Token.ofText? text).toList

def Tree.resolve (t : Tree) : Node → Option Node
  | .reference a => (t.anchored.find? (·.1 == a)).map (·.2)
  | n => some n

end Dispatch.Document
