import Std.Data.TreeMap

/-!
Tables keyed by numbers that remember the order in which their keys first came. `get?` is what a
table holds under a key and `keys` is the order; every operation is described through these two.
-/

namespace Dispatch

structure Table (α : Type u) where
  keys : Array Nat
  entries : Std.TreeMap Nat α
  nodup : keys.toList.Nodup
  mem_keys : ∀ k, k ∈ keys ↔ k ∈ entries

namespace Table

variable {α : Type u} {β : Type v}

def empty : Table α where
  keys := #[]
  entries := ∅
  nodup := List.nodup_nil
  mem_keys := by simp

instance : Inhabited (Table α) := ⟨empty⟩

def get? (t : Table α) (k : Nat) : Option α := t.entries[k]?

def contains (t : Table α) (k : Nat) : Bool := t.entries.contains k

def size (t : Table α) : Nat := t.keys.size

def insert (t : Table α) (k : Nat) (a : α) : Table α where
  keys := if k ∈ t.entries then t.keys else t.keys.push k
  entries := t.entries.insert k a
  nodup := by
    split
    · exact t.nodup
    · rename_i h
      have hk : k ∉ t.keys.toList := by simpa [t.mem_keys] using h
      simpa [List.nodup_append, t.nodup] using fun a ha (h : a = k) => hk (h ▸ by simpa using ha)
  mem_keys j := by
    split <;> rename_i h
    · simp only [t.mem_keys, Std.TreeMap.mem_insert, Nat.compare_eq_eq]
      exact ⟨.inr, fun hj => hj.elim (fun e => e ▸ h) id⟩
    · simp only [Array.mem_push, t.mem_keys, Std.TreeMap.mem_insert, Nat.compare_eq_eq]
      exact ⟨fun hj => hj.elim .inr (fun e => .inl e.symm),
        fun hj => hj.elim (fun e => .inr e.symm) .inl⟩

def modify (t : Table α) (k : Nat) (f : α → α) : Table α where
  keys := t.keys
  entries := t.entries.modify k f
  nodup := t.nodup
  mem_keys j := by
    rw [t.mem_keys, ← Std.TreeMap.contains_iff_mem, ← Std.TreeMap.contains_iff_mem,
      Std.TreeMap.contains_modify]

def map (t : Table α) (f : Nat → α → β) : Table β where
  keys := t.keys
  entries := t.entries.map f
  nodup := t.nodup
  mem_keys j := by simp [t.mem_keys]

def toList (t : Table α) : List (Nat × α) :=
  t.keys.toList.filterMap fun k => (t.get? k).map (k, ·)

def values (t : Table α) : List α := t.keys.toList.filterMap t.get?

@[simp] theorem get?_empty (k : Nat) : (empty : Table α).get? k = none := by
  simp [get?, empty]

@[simp] theorem keys_empty : (empty : Table α).keys = #[] := rfl

theorem get?_insert (t : Table α) (k j : Nat) (a : α) :
    (t.insert k a).get? j = if k = j then some a else t.get? j := by
  simp [get?, insert, Std.TreeMap.getElem?_insert]

theorem get?_modify (t : Table α) (k j : Nat) (f : α → α) :
    (t.modify k f).get? j = if k = j then (t.get? k).map f else t.get? j := by
  simp [get?, modify, Std.TreeMap.getElem?_modify]

@[simp] theorem get?_map (t : Table α) (f : Nat → α → β) (k : Nat) :
    (t.map f).get? k = (t.get? k).map (f k) := by
  simp [get?, map]

@[simp] theorem keys_modify (t : Table α) (k : Nat) (f : α → α) :
    (t.modify k f).keys = t.keys := rfl

@[simp] theorem keys_map (t : Table α) (f : Nat → α → β) : (t.map f).keys = t.keys := rfl

theorem mem_keys_iff (t : Table α) (k : Nat) : k ∈ t.keys ↔ ∃ a, t.get? k = some a := by
  rw [t.mem_keys, Std.TreeMap.mem_iff_isSome_getElem?, Option.isSome_iff_exists]
  rfl

theorem contains_iff (t : Table α) (k : Nat) : t.contains k = true ↔ k ∈ t.keys := by
  rw [t.mem_keys]
  exact Std.TreeMap.contains_iff_mem

theorem contains_eq_isSome (t : Table α) (k : Nat) : t.contains k = (t.get? k).isSome :=
  Std.TreeMap.contains_eq_isSome_getElem?

theorem contains_insert (t : Table α) (k j : Nat) (a : α) :
    (t.insert k a).contains j = (k == j || t.contains j) := by
  rw [contains_eq_isSome, get?_insert, contains_eq_isSome]
  split <;> simp_all

@[simp] theorem contains_modify (t : Table α) (k j : Nat) (f : α → α) :
    (t.modify k f).contains j = t.contains j :=
  Std.TreeMap.contains_modify

theorem keys_insert (t : Table α) (k : Nat) (a : α) :
    (t.insert k a).keys = if k ∈ t.keys then t.keys else t.keys.push k := by
  simp [insert, t.mem_keys]

end Table

end Dispatch
