namespace Dispatch.Pattern

structure CharSet where
  ranges : List (Nat × Nat)
  deriving DecidableEq, Hashable, Inhabited

namespace CharSet

def lastCode : Nat := 0x10ffff

def empty : CharSet := ⟨[]⟩

def isEmpty (s : CharSet) : Bool := s.ranges.isEmpty

def contains (s : CharSet) (c : Char) : Bool :=
  s.ranges.any fun (first, last) => first ≤ c.toNat && c.toNat ≤ last

def insert (first last : Nat) : List (Nat × Nat) → List (Nat × Nat)
  | [] => [(first, last)]
  | (a, b) :: rest =>
    if last + 1 < a then (first, last) :: (a, b) :: rest
    else if b + 1 < first then (a, b) :: insert first last rest
    else insert (min first a) (max last b) rest

def ofRange (first last : Nat) : CharSet := ⟨[(first, last)]⟩

def ofChar (c : Char) : CharSet := ofRange c.toNat c.toNat

def union (s t : CharSet) : CharSet :=
  ⟨t.ranges.foldl (fun ranges (first, last) => insert first last ranges) s.ranges⟩

def ofRanges (ranges : List (Nat × Nat)) : CharSet := union empty ⟨ranges⟩

def gaps (start : Nat) : List (Nat × Nat) → List (Nat × Nat)
  | [] => if start ≤ lastCode then [(start, lastCode)] else []
  | (first, last) :: rest =>
    if start < first then (start, first - 1) :: gaps (last + 1) rest else gaps (last + 1) rest

def complement (s : CharSet) : CharSet := ⟨gaps 0 s.ranges⟩

def inter (s t : CharSet) : CharSet := (s.complement.union t.complement).complement

def difference (s t : CharSet) : CharSet := s.inter t.complement

def symmetricDifference (s t : CharSet) : CharSet := (s.difference t).union (t.difference s)

def withBothCases (s : CharSet) : CharSet :=
  let letters (first last : Char) := (s.inter (ofRange first.toNat last.toNat)).ranges
  let upper := (letters 'a' 'z').map fun (a, b) => (a - 32, b - 32)
  let lower := (letters 'A' 'Z').map fun (a, b) => (a + 32, b + 32)
  (s.union ⟨upper⟩).union ⟨lower⟩

def only? (s : CharSet) : Option Nat :=
  match s.ranges with
  | [(first, last)] => if first = last then some first else none
  | _ => none

end CharSet

end Dispatch.Pattern
