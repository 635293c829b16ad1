import Dispatch.Time.Binary64

namespace Dispatch

structure Sample (τ : Type) where
  data : Array τ := #[]
  deriving DecidableEq, Inhabited

namespace Sample

variable {τ : Type}

def empty : Sample τ := {}

def add (s : Sample τ) (x : τ) : Sample τ := ⟨s.data.push x⟩

def size (s : Sample τ) : Nat := s.data.size

def isEmpty (s : Sample τ) : Bool := s.data.isEmpty

def min? [Time τ] (s : Sample τ) : Option τ :=
  s.data.foldl (fun best x =>
    match best with
    | none => some x
    | some b => if Time.compare x b == .lt then some x else some b) none

def max? [Time τ] (s : Sample τ) : Option τ :=
  s.data.foldl (fun best x =>
    match best with
    | none => some x
    | some b => if Time.compare x b == .lt then some b else some x) none

@[simp] theorem size_empty : (empty : Sample τ).size = 0 := rfl

@[simp] theorem size_add (s : Sample τ) (x : τ) : (s.add x).size = s.size + 1 := by
  simp [add, size]

/-- Elements are added from left to right to a negative zero, which no addend turns positive but a
positive one. -/
def sum (s : Sample Binary64) : Binary64 := s.data.foldl Binary64.add Binary64.negativeZero

def mean? (s : Sample Binary64) : Option Binary64 :=
  if s.isEmpty then none
  else some (s.sum.div (Binary64.ofUInt64 (UInt64.ofNat s.size)))

end Sample

structure Summary (τ : Type) where
  completed : Nat
  makespan : τ
  working : Sample τ
  waiting : Sample τ
  perUnit : Array Nat
  deriving DecidableEq

end Dispatch
