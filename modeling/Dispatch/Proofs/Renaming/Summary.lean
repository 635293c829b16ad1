import Dispatch.Proofs.Binary64
import Dispatch.Proofs.Cluster.Summary
import Dispatch.Proofs.Renaming.Cluster

namespace Dispatch

/-- The largest of several times does not depend on the order in which they are compared. -/
class LawfulMax (τ : Type) [Time τ] : Prop where
  foldl_max_perm : ∀ l l' : List τ, l.Perm l' → l.foldl Time.max Time.zero = l'.foldl Time.max Time.zero

instance : LawfulMax Rat where
  foldl_max_perm l l' h := by
    have hm : (Time.max : Rat → Rat → Rat) = max := by
      funext x y
      exact (max_def_lt x y).symm
    rw [hm]
    exact h.foldl_eq _

instance : LawfulMax Binary64 where
  foldl_max_perm _ _ := Binary64.foldl_max_perm

namespace Cluster

variable {τ : Type} {ρ : TaskId → TaskId}

lemma ends_rename (l : List (Record τ)) :
    ends (l.map (Record.rename ρ)) = (ends l).map fun x => (x.1.rename ρ, x.2) := by
  rw [ends, List.filterMap_map, ends, List.map_filterMap]
  apply List.filterMap_congr
  intro r _
  obtain ⟨id, u, cores, arrived, started, finished⟩ := r
  cases started <;> cases finished <;> rfl

section records

variable {m m' : Std.TreeMap ℕ (Record τ)}

lemma nodup_keys_toList (m : Std.TreeMap ℕ (Record τ)) : (m.toList.map Prod.fst).Nodup := by
  rw [Std.TreeMap.map_fst_toList_eq_keys]
  exact Std.TreeMap.nodup_keys

lemma Recorded.perm (h : Recorded ρ m m') (hρ : Function.Injective ρ) :
    (m'.toList.map Prod.snd).Perm ((m.toList.map Prod.snd).map (Record.rename ρ)) := by
  have hm : m'.toList.Perm (m.toList.map fun x => (ρ x.1, x.2.rename ρ)) := by
    refine (List.perm_ext_iff_of_nodup (nodup_keys_toList m').of_map ?_).mpr fun ⟨k, r⟩ => ?_
    · apply List.Nodup.of_map Prod.fst
      have hk := (nodup_keys_toList m).map hρ
      rw [List.map_map] at hk ⊢
      exact hk
    · rw [Std.TreeMap.mem_toList_iff_getElem?_eq_some, List.mem_map]
      constructor
      · intro hr
        obtain ⟨id, rfl⟩ := h.named k r hr
        rw [h.get?, Option.map_eq_some_iff] at hr
        obtain ⟨r, hr, rfl⟩ := hr
        exact ⟨(id, r), Std.TreeMap.mem_toList_iff_getElem?_eq_some.mpr hr, rfl⟩
      · rintro ⟨⟨id, r⟩, hr, he⟩
        cases he
        rw [h.get?, Std.TreeMap.mem_toList_iff_getElem?_eq_some.mp hr, Option.map_some]
  have hp := hm.map Prod.snd
  rw [List.map_map] at hp ⊢
  exact hp

end records

variable [Time τ]

instance : RightCommutative fun (counts : Array ℕ) (u : UnitId) => counts.modify u (· + 1) where
  right_comm counts u v := by
    apply Array.ext_getElem?
    intro k
    simp only [Array.getElem?_modify]
    split <;> split <;> rfl

structure Agrees (s s' : Summary τ) : Prop where
  completed : s'.completed = s.completed
  makespan : s'.makespan = s.makespan
  working : s'.working.data.toList.Perm s.working.data.toList
  waiting : s'.waiting.data.toList.Perm s.waiting.data.toList
  perUnit : s'.perUnit = s.perUnit

lemma Renamed.summary [LawfulMax τ] {e e' : Cluster τ} (h : Renamed ρ e e') (hρ : Function.Injective ρ) :
    Agrees e.summary e'.summary := by
  have hp : (ends (e'.records.toList.map Prod.snd)).Perm
      ((ends (e.records.toList.map Prod.snd)).map fun x => (x.1.rename ρ, x.2)) := by
    rw [← ends_rename]
    exact (h.records.perm hρ).filterMap _
  have hv {α : Type} (f : Record τ × τ × τ → α) (hf : ∀ r a, f (r.rename ρ, a) = f (r, a)) :
      ((ends (e'.records.toList.map Prod.snd)).map f).Perm
        ((ends (e.records.toList.map Prod.snd)).map f) := by
    have hm := hp.map f
    rw [List.map_map] at hm
    exact (congrArg (List.Perm _) (List.map_congr_left fun x _ => hf x.1 x.2)).mp hm
  obtain ⟨hc, hm, hw, hq, hu⟩ := foldl_countRecord (e.records.toList.map Prod.snd) (τ := τ)
    ⟨0, Time.zero, .empty, .empty, Array.replicate e.units.size 0⟩
  obtain ⟨hc', hm', hw', hq', hu'⟩ := foldl_countRecord (e'.records.toList.map Prod.snd) (τ := τ)
    ⟨0, Time.zero, .empty, .empty, Array.replicate e.units.size 0⟩
  rw [summary_eq, summary_eq, h.size]
  refine ⟨?_, ?_, ?_, ?_, ?_⟩
  · rw [hc, hc', hp.length_eq, List.length_map]
  · rw [hm, hm']
    exact LawfulMax.foldl_max_perm _ _ (hv _ fun _ _ => rfl)
  · rw [hw, hw']
    exact (hv _ fun _ _ => rfl).append_left _
  · rw [hq, hq']
    exact (hv _ fun _ _ => rfl).append_left _
  · rw [hu, hu']
    exact (hv _ fun _ _ => rfl).foldl_eq _

end Cluster

end Dispatch
