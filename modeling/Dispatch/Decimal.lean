import Dispatch.Time.Binary64

/-! Decimals of binary numbers: those with a fixed number of places, rounded from the exact value with halves to the
even one, and the one with the fewest digits that reads back as the number. Of several such decimals the nearest one is
taken, and the even one of two that are equally near. -/

namespace Dispatch

def roundDiv (num den : Nat) : Nat :=
  let q := num / den
  let twice := 2 * (num % den)
  if den < twice || (twice == den && q % 2 == 1) then q + 1 else q

def pointed (n places : Nat) : String :=
  let fraction := toString (n % Nat.pow 10 places)
  toString (n / Nat.pow 10 places) ++ "." ++
    String.ofList (List.replicate (places - fraction.length) '0') ++ fraction

namespace Binary64

def numerator (x : Binary64) : Nat := x.significand <<< (x.exponent - 1074)

def denominator (x : Binary64) : Nat := 1 <<< (1074 - x.exponent)

def toFixed (places : Nat) (x : Binary64) : String :=
  if x.isNaN then "NaN"
  else
    let magnitude :=
      if x.isInfinite then "inf"
      else pointed (roundDiv (x.numerator * Nat.pow 10 places) x.denominator) places
    if x.isNegative then "-" ++ magnitude else magnitude

end Binary64

structure Decimal where
  digits : Nat
  exponent : Int
  deriving DecidableEq

namespace Binary64

/-- The reals that round to a positive finite number, in units of a quarter of its last place. The
ends belong to them if the significand is even. -/
structure Neighbourhood where
  low : Nat
  middle : Nat
  high : Nat
  closed : Bool

def neighbourhood (x : Binary64) : Neighbourhood :=
  let m := x.significand
  { low := if m = leadingBit ∧ 0 < x.exponent then 4 * m - 1 else 4 * m - 2
    middle := 4 * m
    high := 4 * m + 2
    closed := m % 2 == 0 }

def Neighbourhood.contains (n : Neighbourhood) (num den : Nat) : Bool :=
  if n.closed then n.low * den ≤ num && num ≤ n.high * den
  else n.low * den < num && num < n.high * den

def Neighbourhood.candidates (n : Neighbourhood) (step unit : Nat) : List Nat :=
  let below := n.middle * unit / step
  let rest := n.middle * unit % step
  if 2 * rest < step || (2 * rest == step && below % 2 == 0) then [below, below + 1]
  else [below + 1, below]

def magnitudeOfDecimal (num den : Nat) : Int :=
  ((Nat.toDigits 10 (num * Nat.pow 10 400 / den)).length : Int) - 400

def searchShortest (n : Neighbourhood) (binaryExponent magnitude : Int) : Nat → Nat → Decimal
  | 0, _ => ⟨0, 0⟩
  | fuel + 1, count =>
    let exponent := magnitude - count
    let step := Nat.pow 10 exponent.toNat <<< (-binaryExponent).toNat
    let unit := Nat.pow 10 (-exponent).toNat <<< binaryExponent.toNat
    match (n.candidates step unit).find? fun c => n.contains (c * step) unit with
    | some c => ⟨c, exponent⟩
    | none => searchShortest n binaryExponent magnitude fuel (count + 1)

def stripZeros : Nat → Decimal → Decimal
  | 0, d => d
  | fuel + 1, d =>
    if d.digits % 10 = 0 then stripZeros fuel ⟨d.digits / 10, d.exponent + 1⟩ else d

/-- For a positive finite number; seventeen digits are always enough. -/
def shortest (x : Binary64) : Decimal :=
  let n := x.neighbourhood
  let binaryExponent : Int := x.exponent - 1076
  let magnitude := magnitudeOfDecimal (n.middle <<< binaryExponent.toNat)
    (1 <<< (-binaryExponent).toNat)
  stripZeros 17 (searchShortest n binaryExponent magnitude 17 1)

end Binary64

def Decimal.render (d : Decimal) : String :=
  let digits := toString d.digits
  let count : Int := digits.length
  let point := count + d.exponent
  if 0 ≤ d.exponent && point ≤ 16 then
    digits ++ String.ofList (List.replicate d.exponent.toNat '0') ++ ".0"
  else if 0 < point && point ≤ 16 then
    String.ofList (digits.toList.take point.toNat) ++ "." ++
      String.ofList (digits.toList.drop point.toNat)
  else if -5 < point && point ≤ 0 then
    "0." ++ String.ofList (List.replicate (-point).toNat '0') ++ digits
  else
    let fraction := digits.toList.drop 1
    let sign := if 0 < point then "+" else "-"
    String.ofList (digits.toList.take 1) ++ (if fraction.isEmpty then "" else ".") ++
      String.ofList fraction ++ "e" ++ sign ++ toString (point - 1).natAbs

def Binary64.toShortest (x : Binary64) : String :=
  if !x.isFinite then "null"
  else
    let magnitude := if x.magnitude = 0 then "0.0" else x.shortest.render
    if x.isNegative then "-" ++ magnitude else magnitude

end Dispatch
