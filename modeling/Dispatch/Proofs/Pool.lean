import Dispatch.Pool
import Mathlib.Tactic

namespace Dispatch

namespace UnitGroup

variable {cs : List UnitGroup} {c : UnitGroup} {i k : ℕ}

def StandsAt (cs : List UnitGroup) (k : ℕ) (c : UnitGroup) (i : ℕ) : Prop :=
  ∃ before after, cs = before ++ c :: after ∧ i < c.count.toNat ∧ k = totalCount before + i

lemma copies_append (before after : List UnitGroup) : copies (before ++ after) = copies before ++ copies after :=
  List.flatMap_append

lemma copies_cons (c : UnitGroup) (cs : List UnitGroup) :
    copies (c :: cs) = (List.range c.count.toNat).map (c, ·) ++ copies cs := List.flatMap_cons

lemma totalCount_cons (c : UnitGroup) (cs : List UnitGroup) :
    totalCount (c :: cs) = c.count.toNat + totalCount cs := rfl

lemma standsAt_head (h : i < c.count.toNat) (cs : List UnitGroup) : StandsAt (c :: cs) i c i :=
  ⟨[], cs, rfl, h, (Nat.zero_add i).symm⟩

lemma StandsAt.cons (h : StandsAt cs k c i) (d : UnitGroup) : StandsAt (d :: cs) (d.count.toNat + k) c i := by
  obtain ⟨before, after, rfl, hi, rfl⟩ := h
  exact ⟨d :: before, after, rfl, hi, by rw [totalCount_cons, Nat.add_assoc]⟩

lemma StandsAt.mem (h : StandsAt cs k c i) : c ∈ cs := by
  obtain ⟨before, after, rfl, _⟩ := h
  exact List.mem_append_right _ List.mem_cons_self

lemma getElem?_copies_of_standsAt (h : StandsAt cs k c i) : (copies cs)[k]? = some (c, i) := by
  obtain ⟨before, after, rfl, hi, rfl⟩ := h
  have hb : (copies before).length ≤ totalCount before + i := (length_copies before).trans_le (Nat.le_add_right _ _)
  rw [copies_append, List.getElem?_append_right hb, length_copies, Nat.add_sub_cancel_left, copies_cons,
    List.getElem?_append_left (by simpa using hi)]
  simp [hi]

lemma standsAt_of_getElem?_copies (h : (copies cs)[k]? = some (c, i)) : StandsAt cs k c i := by
  induction cs generalizing k with
  | nil => cases h
  | cons d cs ih =>
    rw [copies_cons, List.getElem?_append, List.length_map, List.length_range] at h
    split_ifs at h with hk
    · obtain ⟨rfl, rfl⟩ : d = c ∧ k = i := by simpa [hk] using h
      exact standsAt_head hk cs
    · have hs := (ih h).cons d
      rwa [Nat.add_sub_of_le (not_lt.mp hk)] at hs

end UnitGroup

namespace Pool

open UnitGroup

variable {cs : List UnitGroup} {c : UnitGroup} {u : ComputeUnit} {k : ℕ}

lemma getElem?_ofGroups : (ofGroups cs)[k]? = some u ↔ ∃ c i, StandsAt cs k c i ∧ u = c.copy i k := by
  rw [ofGroups, List.getElem?_toArray, List.getElem?_mapIdx]
  constructor
  · intro h
    obtain ⟨⟨c, i⟩, hc, rfl⟩ := Option.map_eq_some_iff.mp h
    exact ⟨c, i, standsAt_of_getElem?_copies hc, rfl⟩
  · rintro ⟨c, i, hs, rfl⟩
    rw [getElem?_copies_of_standsAt hs]
    rfl

def add (pool : Array ComputeUnit) (c : UnitGroup) (i : ℕ) : Array ComputeUnit := pool.push (c.copy i pool.size)

def addAll (pool : Array ComputeUnit) (c : UnitGroup) : Array ComputeUnit :=
  (List.range c.count.toNat).foldl (add · c ·) pool

lemma toList_add (pool : Array ComputeUnit) (c : UnitGroup) (i : ℕ) :
    (add pool c i).toList = pool.toList ++ [c.copy i pool.size] := Array.toList_push

lemma size_add (pool : Array ComputeUnit) (c : UnitGroup) (i : ℕ) : (add pool c i).size = pool.size + 1 :=
  Array.size_push _

lemma toList_foldl_add (l : List (UnitGroup × ℕ)) (pool : Array ComputeUnit) :
    (l.foldl (fun pool (c, i) => add pool c i) pool).toList =
      pool.toList ++ l.mapIdx fun k (c, i) => c.copy i (pool.size + k) := by
  induction l generalizing pool with
  | nil => simp
  | cons a l ih =>
    rw [List.foldl_cons, ih, toList_add, size_add, List.mapIdx_cons, List.append_assoc]
    simp [Nat.add_assoc, Nat.add_comm 1]

lemma ofGroups_eq_foldl (cs : List UnitGroup) : ofGroups cs = cs.foldl addAll #[] := by
  have hl : cs.foldl addAll #[] = (copies cs).foldl (fun pool (c, i) => add pool c i) #[] := by
    rw [copies, List.foldl_flatMap]
    simp only [List.foldl_map]
    rfl
  rw [hl, ← Array.toList_inj, toList_foldl_add]
  simp [ofGroups]

end Pool

end Dispatch
