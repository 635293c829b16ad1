namespace Dispatch.Saturating

def largest : UInt64 := 0xffffffffffffffff

def ofNat (n : Nat) : UInt64 := if n < UInt64.size then UInt64.ofNat n else largest

def add (a b : UInt64) : UInt64 := ofNat (a.toNat + b.toNat)

def sub (a b : UInt64) : UInt64 := if b ≤ a then a - b else 0

def mul (a b : UInt64) : UInt64 := ofNat (a.toNat * b.toNat)

theorem toNat_ofNat (n : Nat) : (ofNat n).toNat = min n (UInt64.size - 1) := by
  have hs : UInt64.size = 2 ^ 64 := rfl
  unfold ofNat
  split
  · rw [UInt64.toNat_ofNat']
    omega
  · have : largest.toNat = 2 ^ 64 - 1 := rfl
    omega

theorem toNat_add (a b : UInt64) : (add a b).toNat = min (a.toNat + b.toNat) (UInt64.size - 1) :=
  toNat_ofNat _

theorem toNat_mul (a b : UInt64) : (mul a b).toNat = min (a.toNat * b.toNat) (UInt64.size - 1) :=
  toNat_ofNat _

theorem toNat_sub (a b : UInt64) : (sub a b).toNat = a.toNat - b.toNat := by
  unfold sub
  split <;> rename_i h
  · exact UInt64.toNat_sub_of_le a b h
  · rw [UInt64.le_iff_toNat_le] at h
    simp
    omega

end Dispatch.Saturating
