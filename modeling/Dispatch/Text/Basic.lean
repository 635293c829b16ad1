namespace Dispatch.Text

def isBlank (c : Char) : Bool :=
  let n := c.toNat
  (0x09 ≤ n && n ≤ 0x0d) || n == 0x20 || n == 0x85 || n == 0xa0 || n == 0x1680 ||
    (0x2000 ≤ n && n ≤ 0x200a) || n == 0x2028 || n == 0x2029 || n == 0x202f || n == 0x205f ||
    n == 0x3000

def trim (s : List Char) : List Char :=
  ((s.dropWhile isBlank).reverse.dropWhile isBlank).reverse

def trimString (s : String) : String := String.ofList (trim s.toList)

def isInPart (ranges : Array (Nat × Nat)) (code : Nat) : Nat → Nat → Nat → Bool
  | 0, _, _ => false
  | fuel + 1, low, high =>
    if high ≤ low then false
    else
      let middle := (low + high) / 2
      let (first, last) := ranges.getD middle (0, 0)
      if code < first then isInPart ranges code fuel low middle
      else if last < code then isInPart ranges code fuel (middle + 1) high
      else true

def isInRanges (ranges : Array (Nat × Nat)) (c : Char) : Bool :=
  isInPart ranges c.toNat ranges.size 0 ranges.size

def continuation : Nat → Nat → List UInt8 → Option Nat
  | 0, code, _ => some code
  | _ + 1, _, [] => none
  | n + 1, code, b :: rest =>
    if b.toNat / 64 = 2 then continuation n (code * 64 + b.toNat % 64) rest else none

def leading (b : Nat) : Option (Nat × Nat × Nat) :=
  if b < 0x80 then some (0, b, 0)
  else if b < 0xc0 then none
  else if b < 0xe0 then some (1, b % 32, 0x80)
  else if b < 0xf0 then some (2, b % 16, 0x800)
  else if b < 0xf8 then some (3, b % 8, 0x10000)
  else none

def decodeChar? : List UInt8 → Option (Char × Nat)
  | [] => none
  | b :: rest =>
    match leading b.toNat with
    | none => none
    | some (n, bits, least) =>
      match continuation n bits rest with
      | some code =>
        if h : code.isValidChar then
          if least ≤ code then some (Char.ofNatAux code h, n + 1) else none
        else none
      | none => none

/-- Reads characters onto those read so far, in reverse order, skipping the bytes that belong to the
last one. Fails with the position of the first byte that starts no character. -/
def decodeFrom (position skip : Nat) (out : List Char) : List UInt8 → Except Nat (List Char)
  | [] => .ok out.reverse
  | b :: rest =>
    if 0 < skip then decodeFrom (position + 1) (skip - 1) out rest
    else
      match decodeChar? (b :: rest) with
      | some (c, n) => decodeFrom (position + 1) (n - 1) (c :: out) rest
      | none => .error position

def decodeUtf8 (bytes : List UInt8) : Except Nat String :=
  (decodeFrom 0 0 [] bytes).map String.ofList

def encodeUtf8 (s : String) : List UInt8 := s.toUTF8.toList

end Dispatch.Text
