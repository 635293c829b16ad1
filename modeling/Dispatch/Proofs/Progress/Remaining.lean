import Dispatch.Proofs.Progress.Release

namespace Dispatch.Progress

variable {τ : Type} {r r' : Progress τ} {id : TaskId}

lemma total_pending_setPhase (r : Progress τ) (id : TaskId) (s : Phase) :
    total Status.pending (r.setPhase id s).status.values = total Status.pending r.status.values := by
  rw [Table.total_values, Table.total_values, show (r.setPhase id s).status.keys = r.status.keys from rfl]
  apply total_congr
  intro k _
  rw [status_setPhase]
  split
  · cases r.status.get? k <;> rfl
  · rfl

lemma total_pending_releaseChild (t : Table Status) (rel : Array TaskId) (c : TaskId) :
    total Status.pending (releaseChild t rel c).1.values + (releaseChild t rel c).2.size ≤
      total Status.pending t.values + rel.size := by
  have hk := keys_releaseChild t rel c
  have ho (j : TaskId) (hj : j ≠ c) : (releaseChild t rel c).1.get? j = t.get? j := by
    rw [get?_releaseChild, if_neg (Ne.symm hj)]
  rw [releaseChild] at hk ho ⊢
  split
  · rename_i s h
    simp only [h] at hk ho
    have ht := Table.total_values_change Status.pending hk h
      (by rw [Table.get?_insert, if_pos rfl]) ho
    simp only [Array.size_push] at ht ⊢
    omega
  · rename_i s n h
    simp only [h] at hk ho
    have ht := Table.total_values_change Status.pending hk h
      (by rw [Table.get?_insert, if_pos rfl]) ho
    dsimp only at ht ⊢
    omega
  · exact le_rfl

lemma total_pending_foldl (cs : List TaskId) (t : Table Status) (rel : Array TaskId) :
    total Status.pending (cs.foldl (fun (t, rel) c => releaseChild t rel c) (t, rel)).1.values +
        (cs.foldl (fun (t, rel) c => releaseChild t rel c) (t, rel)).2.size ≤
      total Status.pending t.values + rel.size := by
  induction cs generalizing t rel with
  | nil => exact le_rfl
  | cons c cs ih => exact (ih _ _).trans (total_pending_releaseChild t rel c)

lemma remaining_eq (r : Progress τ) :
    r.remaining = r.ready.toList.length + total Status.pending r.status.values := by
  rw [remaining, Queue.length_toList]

lemma remaining_finish_le (r : Progress τ) (id : TaskId) : (r.finish id).1.remaining ≤ r.remaining := by
  have ht := total_pending_foldl (r.workflow.children id) (r.setPhase id .completed).status #[]
  rw [total_pending_setPhase] at ht
  have hr : (r.finish id).2.size = (r.freed id).length := by
    rw [← finish_released, Array.length_toList]
  have hs : total Status.pending (r.finish id).1.status.values + (r.finish id).2.size ≤
      total Status.pending r.status.values := ht
  rw [remaining_eq, remaining_eq, finish_ready, List.length_append]
  omega

lemma Taken.remaining (h : r.Taken id r') : r'.remaining + 1 = r.remaining := by
  rw [remaining_eq, remaining_eq, h.ready, h.status, total_pending_setPhase, List.length_cons]
  omega

lemma remaining_begun_le (g : Workflow τ) : (begun g).remaining ≤ g.size + g.linkCount := by
  have hp : total Status.pending (begun g).status.values = total id g.parentCounts.values := by
    rw [Table.total_values, Table.total_values]
    apply total_congr
    intro k _
    simp only [begun, Table.get?_map]
    cases g.parentCounts.get? k <;> rfl
  have hr : (begun g).ready.toList.length ≤ g.size := by
    rw [begun, Queue.toList_ofList]
    apply (List.length_filter_le _ _).trans
    rw [g.preorderAll_perm.length_eq, Workflow.ids, Array.length_toList, Workflow.size, Table.size]
  have hl := g.total_parentCounts_le
  rw [remaining_eq, hp]
  omega

end Dispatch.Progress
