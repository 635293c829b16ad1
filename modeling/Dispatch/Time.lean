/-!
What the scheduling core asks of a representation of time. The core is written once over this
class and runs on binary floating point; statements that need exact arithmetic read it over the
rational numbers.
-/

namespace Dispatch

class Time (τ : Type) where
  zero : τ
  add : τ → τ → τ
  sub : τ → τ → τ
  /-- The larger of two times, where an undefined time gives way to the other one. -/
  max : τ → τ → τ
  quotient : UInt64 → UInt64 → τ
  /-- A total order, in which undefined times have their place too. -/
  compare : τ → τ → Ordering
  /-- The strict numeric order, which relates no undefined time to any other. -/
  exceeds : τ → τ → Bool

instance : Time Rat where
  zero := 0
  add := (· + ·)
  sub := (· - ·)
  max x y := if x < y then y else x
  quotient length speed := (length.toNat : Rat) / (speed.toNat : Rat)
  compare x y := compareOfLessAndEq x y
  exceeds x y := y < x

end Dispatch
