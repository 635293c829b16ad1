import Dispatch.Proofs.Progress.Remaining
import Dispatch.Proofs.Run.Steps

/-! Every step of a run uses up some of its budget, so that the events run out before the budget does. -/

namespace Dispatch

namespace Cluster

variable {τ : Type} {e e' : Cluster τ} {u : UnitId} {s : Station τ} {d : Job τ}
  {rest : Queue (Job τ)} {event : Event τ} {id : TaskId}

def waiting (e : Cluster τ) : ℕ := total (fun u => (e.queueAt u).length) (List.range e.units.size)

lemma budget_eq (e : Cluster τ) : e.budget = (e.events.map weight).sum + e.waiting := by
  rw [budget, Heap.sumBy_eq_total, total_eq_sum, waiting, ← total_range, Array.length_toList]
  congr 1
  · rw [events, Multiset.map_coe, Multiset.sum_coe, List.map_map]
    rfl
  · apply total_congr
    intro u _
    rw [Array.getElem?_toList, queueAt]
    cases e.units[u]? <;> simp

lemma waiting_congr (hu : e'.units = e.units) : e'.waiting = e.waiting := by
  simp only [waiting, queueAt, hu]

lemma Drawn.budget (h : e.Drawn event e') : e.budget = weight event + e'.budget := by
  rw [budget_eq, budget_eq, h.events, Multiset.map_cons, Multiset.sum_cons, waiting_congr h.units]
  omega

lemma budget_enter_le (e : Cluster τ) (d : Job τ) (u : UnitId) :
    (e.enter d u).budget ≤ e.budget + 1 := by
  have hs : (e.enter d u).units.size = e.units.size := Array.size_modify
  have hw : (e.enter d u).waiting ≤ e.waiting + 1 := by
    rw [waiting, hs, waiting]
    by_cases hu : u < e.units.size
    · have ht := total_update (f := fun v => ((e.enter d u).queueAt v).length)
        (g := fun v => (e.queueAt v).length) List.nodup_range (List.mem_range.mpr hu)
        fun v _ hv => by rw [queueAt_enter hu, if_neg (Ne.symm hv)]
      rw [queueAt_enter hu, if_pos rfl, List.length_append, List.length_singleton] at ht
      omega
    · refine Nat.le_succ_of_le (total_congr fun v hv => ?_).le
      have hv : u ≠ v := fun huv => hu (huv ▸ List.mem_range.mp hv)
      rw [queueAt, units_enter, if_neg hv, queueAt]
  rw [budget_eq, budget_eq]
  exact Nat.add_le_add_left hw _

lemma budget_leave (e : Cluster τ) (id : TaskId) (u : UnitId) : (e.leave id u).budget = e.budget := by
  have hs : (e.leave id u).units.size = e.units.size := Array.size_modify
  rw [budget_eq, budget_eq, waiting, waiting, hs]
  congr 1
  exact total_congr fun v _ => by rw [queueAt_leave]

variable [Time τ]

lemma budget_schedule (e : Cluster τ) (event : Event τ) (delay : τ) :
    (e.schedule event delay).budget = weight event + e.budget := by
  rw [budget_eq, budget_eq, events_schedule, Multiset.map_cons, Multiset.sum_cons, Nat.add_assoc]
  rfl

lemma budget_startTask (hs : e.units[u]? = some s) (hd : s.queue.dequeue? = some (d, rest)) :
    (e.startTask u s d rest).budget = e.budget := by
  have hu : u < e.units.size := (Array.getElem?_eq_some_iff.mp hs).1
  have hw : (e.startTask u s d rest).waiting + 1 = e.waiting := by
    have ht := total_update (f := fun v => ((e.startTask u s d rest).queueAt v).length)
      (g := fun v => (e.queueAt v).length) List.nodup_range (List.mem_range.mpr hu)
      fun v _ hv => by rw [queueAt_startTask d rest hs, if_neg (Ne.symm hv)]
    rw [queueAt_startTask d rest hs, if_pos rfl, queueAt_of_get? hs, Queue.toList_of_dequeue? hd,
      List.length_cons] at ht
    rw [waiting, size_startTask, waiting]
    omega
  rw [budget_eq, budget_eq, events_startTask, Multiset.map_cons, Multiset.sum_cons, weight]
  omega

lemma budget_startWaiting (e : Cluster τ) (u : UnitId) : (e.startWaiting u).1.budget = e.budget :=
  startWaiting_induction (P := fun e' => e'.budget = e.budget)
    (fun _ _ _ _ hs hd _ h => (budget_startTask hs hd).trans h) rfl

lemma budget_handle_lt (hd : e.Drawn event e') : (e'.handle event).1.budget < e.budget := by
  rw [hd.budget]
  cases event with
  | provisioned u =>
    have hc : Cluster.budget { e' with readyUnits := e'.readyUnits + 1 } = e'.budget := rfl
    simp only [handle, countUnit]
    split
    · rw [budget_schedule, hc, weight, weight]
      omega
    · rw [hc, weight]
      omega
  | ready =>
    exact Nat.lt_add_of_pos_left Nat.one_pos
  | arrived d u =>
    have h := budget_enter_le e' d u
    rw [handle, receive, budget_startWaiting, weight]
    omega
  | completed id u =>
    rw [handle, complete, weight]
    split
    · rw [budget_startWaiting, budget_leave]
      omega
    · exact Nat.lt_add_of_pos_left Nat.one_pos

lemma budget_submit_le (e : Cluster τ) (d : Job τ) (u : UnitId) :
    (e.submit d u).1.budget ≤ e.budget + 2 := by
  rw [submit]
  split
  · rw [budget_schedule, weight]
    omega
  · exact Nat.le_add_right _ _

end Cluster

namespace Scheduler

variable {σ τ : Type} [Policy σ τ] {c : Scheduler σ τ} {time : τ} {event : Event τ}
  {s s' : Scheduler σ τ × Array (Action τ)}

lemma Opening.remaining_le (h : Opening c time event s) : s.1.remaining ≤ c.remaining := by
  cases h with
  | quiet => exact le_rfl
  | ignored => exact le_rfl
  | malformed => exact Nat.add_le_add_left (Nat.zero_le _) _
  | @start g progress he hw hs =>
    obtain ⟨_, _, rfl⟩ := Progress.start_eq_ok hs
    have hb := Progress.remaining_begun_le g
    simp only [remaining, hw]
    omega
  | refuse => exact le_rfl
  | @finish id =>
    exact Nat.add_le_add_right (c.progress.remaining_finish_le id) _

end Scheduler

namespace Run

open Scheduler

variable {σ τ : Type} [Time τ] [Policy σ τ] {s s' : Run σ τ} {notices : Array (Notice τ)}

lemma budget_step_lt (h : s.step? = some (s', notices)) : s'.budget < s.budget := by
  refine step_induction (P := fun c e => e.budget + 2 * c.remaining < s.budget) h
    (fun event e c hd hc => ?_) fun time e out c c' hm hb => ?_
  · have he := Cluster.budget_handle_lt hd
    have hr := hc.remaining_le
    rw [budget]
    omega
  · cases hm with
    | finish =>
      rw [Cluster.performed_note]
      exact hb
    | fail =>
      rw [Cluster.performed_note]
      exact hb
    | @submit c acts t u policy id progress he ht hp hn =>
      have hk := (Progress.taken_of_next? hn).remaining
      have hs := Cluster.budget_submit_le (e.performed out acts) t.job u
      have ha : (progress.assign id ⟨u, time⟩).remaining = progress.remaining := rfl
      rw [Cluster.performed_submit, Cluster.performed_note]
      simp only [remaining, ha] at hb ⊢
      omega

lemma stop_of_runUntil (stop : τ → Bool) {t : τ} (n : ℕ) (out : Array (Notice τ)) (hn : s.budget ≤ n)
    (h : (s.runUntil stop n out).1.cluster.nextTime? = some t) : stop t = true := by
  induction n generalizing s out with
  | zero =>
    -- without budget there is no step, and so no event
    rw [runUntil] at h
    cases hs : s.step? with
    | none =>
      rw [step?_eq_none_iff_nextTime?.mp hs] at h
      cases h
    | some a => exact absurd (budget_step_lt hs) (by omega)
  | succ n ih =>
    rw [runUntil] at h
    split at h
    · rename_i ht
      rw [ht] at h
      cases h
    · rename_i t' ht
      split at h
      · rename_i hl
        rw [ht] at h
        exact Option.some.inj h ▸ hl
      · split at h
        · rename_i hs
          rw [step?_eq_none_iff_nextTime?.mp hs] at ht
          cases ht
        · rename_i s' notices hs
          have hb := budget_step_lt hs
          exact ih _ (by omega) h

lemma runUntil_ends (n : ℕ) (out : Array (Notice τ)) (h : s.budget ≤ n) :
    (s.runUntil (fun _ => false) n out).1.step? = none := by
  rw [step?_eq_none_iff_nextTime?, Option.eq_none_iff_forall_ne_some]
  intro t ht
  cases stop_of_runUntil _ n out h ht

lemma toEnd_ends (s : Run σ τ) : s.toEnd.1.step? = none := runUntil_ends _ _ le_rfl

end Run

end Dispatch
