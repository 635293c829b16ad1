import Dispatch.Total

namespace Dispatch

abbrev UnitId := Nat

structure ComputeUnit where
  id : UnitId
  name : String
  speed : UInt64
  cores : UInt32
  memory : UInt64
  deriving DecidableEq, Inhabited

structure UnitGroup where
  name : String
  speed : UInt64
  cores : UInt32 := 1
  memory : UInt64 := 0
  count : UInt32 := 1
  deriving DecidableEq, Inhabited

namespace UnitGroup

def copyName (c : UnitGroup) (i : Nat) : String :=
  if c.count = 1 then c.name else c.name ++ "-" ++ toString i

def copy (c : UnitGroup) (i : Nat) (id : UnitId) : ComputeUnit where
  id := id
  name := c.copyName i
  speed := c.speed
  cores := c.cores
  memory := c.memory

def copies (cs : List UnitGroup) : List (UnitGroup × Nat) :=
  cs.flatMap fun c => (List.range c.count.toNat).map (c, ·)

end UnitGroup

def Pool.ofGroups (cs : List UnitGroup) : Array ComputeUnit :=
  ((UnitGroup.copies cs).mapIdx fun id (c, i) => c.copy i id).toArray

def UnitGroup.totalCount (cs : List UnitGroup) : Nat := total (fun c => c.count.toNat) cs

@[simp] theorem UnitGroup.length_copies (cs : List UnitGroup) :
    (UnitGroup.copies cs).length = UnitGroup.totalCount cs := by
  rw [UnitGroup.copies, length_flatMap_eq_total, UnitGroup.totalCount]
  simp only [List.length_map, List.length_range]

@[simp] theorem Pool.size_ofGroups (cs : List UnitGroup) :
    (Pool.ofGroups cs).size = UnitGroup.totalCount cs := by
  simp [Pool.ofGroups]

end Dispatch
