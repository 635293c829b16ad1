import Dispatch.Proofs.Cluster.Cores

namespace Dispatch.Cluster

variable {τ : Type} {e : Cluster τ} {id : TaskId} {u : UnitId} {ids : List TaskId}

def recorded (e : Cluster τ) : List (Record τ) := e.records.toList.map Prod.snd

lemma mem_recorded {r : Record τ} : r ∈ e.recorded ↔ ∃ id, e.record? id = some r := by
  rw [recorded, List.mem_map]
  constructor
  · rintro ⟨x, hx, rfl⟩
    exact ⟨x.1, Std.TreeMap.mem_toList_iff_getElem?_eq_some.mp hx⟩
  · rintro ⟨id, hr⟩
    exact ⟨(id, r), Std.TreeMap.mem_toList_iff_getElem?_eq_some.mpr hr, rfl⟩

def inUse (e : Cluster τ) (u : UnitId) : ℕ :=
  total (fun r => r.cores.toNat)
    (e.recorded.filter fun r => r.unit == u && r.started.isSome && r.finished.isNone)

lemma total_recorded (f : Record τ → ℕ) (hn : ids.Nodup)
    (hi : ∀ id r, e.record? id = some r → id ∈ ids) :
    total f e.recorded = total (fun id => ((e.record? id).map f).getD 0) ids := by
  have hk (x : TaskId × Record τ) (hx : x ∈ e.records.toList) : e.record? x.1 = some x.2 :=
    Std.TreeMap.mem_toList_iff_getElem?_eq_some.mp hx
  have ht : total f e.recorded =
      total (fun id => ((e.record? id).map f).getD 0) e.records.keys := by
    rw [← Std.TreeMap.map_fst_toList_eq_keys, recorded, total_eq_sum, total_eq_sum, List.map_map,
      List.map_map]
    congr 1
    apply List.map_congr_left
    intro x hx
    simp [hk x hx]
  rw [ht]
  refine total_subset Std.TreeMap.nodup_keys hn (fun id hm => ?_) fun id _ hm => ?_
  · have hs := Std.TreeMap.mem_iff_isSome_getElem?.mp (Std.TreeMap.mem_keys.mp hm)
    obtain ⟨r, hr⟩ := Option.isSome_iff_exists.mp hs
    exact hi id r hr
  · rw [Std.TreeMap.mem_keys] at hm
    have hr : e.record? id = none := Std.TreeMap.getElem?_eq_none hm
    rw [hr]
    rfl

lemma inUse_eq_total (hn : ids.Nodup) (hi : ∀ id r, e.record? id = some r → id ∈ ids) (u : UnitId) :
    e.inUse u = total (e.held u) ids := by
  rw [inUse, total_filter, total_recorded _ hn hi]
  apply total_congr
  intro id _
  rw [held, isRunning, coresOf]
  cases e.record? id with
  | none => rfl
  | some r => simp [and_comm (b := r.unit = u), and_assoc]

end Dispatch.Cluster
