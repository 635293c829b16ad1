import Dispatch.Time

/-!
Double-precision numbers, held by their bits, so that equality and the total order are decided on
words. Arithmetic is that of the machine, apart from what it does to NaN, which is fixed here.
-/

namespace Dispatch

structure Binary64 where
  bits : UInt64
  deriving DecidableEq

namespace Binary64

instance : Inhabited Binary64 := ⟨⟨0⟩⟩

def ofFloat (x : Float) : Binary64 := ⟨x.toBits⟩

def toFloat (x : Binary64) : Float := .ofBits x.bits

def ofUInt64 (n : UInt64) : Binary64 := ofFloat n.toFloat

def zero : Binary64 := ⟨0⟩

def negativeZero : Binary64 := ⟨0x8000000000000000⟩

def infinity : Binary64 := ⟨0x7ff0000000000000⟩

def negativeInfinity : Binary64 := ⟨0xfff0000000000000⟩

def nan : Binary64 := ⟨0x7ff8000000000000⟩

def undefined : Binary64 := ⟨0xfff8000000000000⟩

def isNegative (x : Binary64) : Bool := x.bits >>> 63 != 0

def magnitude (x : Binary64) : UInt64 := x.bits &&& 0x7fffffffffffffff

def isNaN (x : Binary64) : Bool := 0x7ff0000000000000 < x.magnitude

def isInfinite (x : Binary64) : Bool := x.magnitude == 0x7ff0000000000000

def isFinite (x : Binary64) : Bool := x.magnitude < 0x7ff0000000000000

def lift (op : Float → Float → Float) (x y : Binary64) : Binary64 :=
  if x.isNaN then x
  else if y.isNaN then y
  else
    let r := ofFloat (op x.toFloat y.toFloat)
    if r.isNaN then undefined else r

def add : Binary64 → Binary64 → Binary64 := lift (· + ·)

def sub : Binary64 → Binary64 → Binary64 := lift (· - ·)

def div : Binary64 → Binary64 → Binary64 := lift (· / ·)

def mul : Binary64 → Binary64 → Binary64 := lift (· * ·)

def max (x y : Binary64) : Binary64 :=
  if x.isNaN then y
  else if y.isNaN then x
  else if x.toFloat < y.toFloat then y else x

def rank (x : Binary64) : UInt64 :=
  if x.isNegative then ~~~x.bits else x.bits ||| 0x8000000000000000

def totalCompare (x y : Binary64) : Ordering := Ord.compare x.rank y.rank

def field (x : Binary64) : Nat := (x.magnitude >>> 52).toNat

def leadingBit : Nat := 0x10000000000000

def significand (x : Binary64) : Nat :=
  let fraction := (x.bits &&& 0xfffffffffffff).toNat
  if x.field = 0 then fraction else fraction + leadingBit

def exponent (x : Binary64) : Nat := x.field - 1

instance : Time Binary64 where
  zero := zero
  add := add
  sub := sub
  max := max
  quotient length speed := div (ofUInt64 length) (ofUInt64 speed)
  compare := totalCompare
  exceeds x y := y.toFloat < x.toFloat

end Binary64

end Dispatch
