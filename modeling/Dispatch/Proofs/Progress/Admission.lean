import Dispatch.Proofs.Totals
import Dispatch.Proofs.Progress.History

namespace Dispatch.Progress

variable {τ : Type} {r : Progress τ} {g : Workflow τ} {id k : TaskId} {entered taken : List TaskId}

def takes (r : Progress τ) : Call → List TaskId
  | .next => (r.next?.map Prod.fst).toList
  | .complete _ => []

def releases (r : Progress τ) : Call → List TaskId
  | .next => []
  | .complete id => (r.complete id).2.released.toList

lemma releases_of_submitted (hs : r.phase? id = some .submitted) :
    r.releases (.complete id) = r.freed id := by
  simp [releases, complete_of_submitted hs, Completion.released, finish_released]

lemma takes_append_ready (r : Progress τ) (c : Call) :
    r.takes c ++ (r.call c).ready.toList = r.ready.toList ++ r.releases c := by
  cases c with
  | next =>
    cases hn : r.next? with
    | none => simp [takes, releases, call, hn]
    | some x => simp [takes, releases, call, hn, (taken_of_next? hn).ready]
  | complete id =>
    by_cases hs : r.phase? id = some .submitted
    · rw [releases_of_submitted hs, ← finish_ready, call, complete_of_submitted hs]
      rfl
    · obtain ⟨reason, hc⟩ := complete_of_ne hs
      simp [takes, releases, call, hc, Completion.released]

lemma nodup_releases (r : Progress τ) (c : Call) : (r.releases c).Nodup := by
  cases c with
  | next => exact List.nodup_nil
  | complete id =>
    by_cases hs : r.phase? id = some .submitted
    · rw [releases_of_submitted hs]
      exact (r.workflow.nodup_children id).filter _
    · obtain ⟨reason, hc⟩ := complete_of_ne hs
      simp [releases, hc, Completion.released]

namespace Sound

variable (h : r.Sound)

include h

lemma phase?_of_mem_releases {c : Call} (hk : k ∈ r.releases c) :
    r.phase? k = some .blocked ∧ (r.call c).phase? k = some .ready := by
  cases c with
  | next => cases hk
  | complete id =>
    by_cases hs : r.phase? id = some .submitted
    · rw [releases_of_submitted hs] at hk
      have hb : r.phase? k = some .blocked := phase?_eq_some.mpr ⟨1, ((h.mem_freed hs).mp hk).2⟩
      have hi : id ≠ k := by
        rintro rfl
        rw [hs] at hb
        cases hb
      refine ⟨hb, ?_⟩
      rw [call, complete_of_submitted hs, h.phase?_finish hs, if_neg hi, if_pos hk]
    · obtain ⟨reason, hc⟩ := complete_of_ne hs
      simp [releases, hc, Completion.released] at hk

lemma freed_eq (hs : r.phase? id = some .submitted) : r.freed id =
    (r.workflow.children id).filter fun c =>
      ∀ p ∈ r.workflow.parents c, p ≠ id → r.phase? p = some .completed := by
  rw [freed]
  apply List.filter_congr
  intro c hc
  obtain ⟨n, hn⟩ := h.status_of_mem_children hs hc
  have ho := h.openParents_finish hs c
  rw [if_pos hc, ← h.pending c _ hn, Nat.add_sub_cancel] at ho
  rw [hn, Bool.eq_iff_iff, decide_eq_true_eq]
  have hz : n = 0 ↔ ∀ p ∈ r.workflow.parents c, (r.finish id).1.phase? p = some .completed := by
    rw [← ho, openParents, List.countP_eq_zero]
    simp only [bne_iff_ne, ne_eq, not_not]
    rfl
  simp only [h.completed_finish hs, or_iff_not_imp_left] at hz
  simpa using hz

end Sound

structure Admitted (entered taken : List TaskId) (r : Progress τ) : Prop where
  order : entered = taken ++ r.ready.toList
  nodup : entered.Nodup
  beyond : ∀ k ∈ entered, ∃ p, r.phase? k = some p ∧ p ≠ .blocked

lemma Admitted.call (ha : Admitted entered taken r) (h : r.Sound) (c : Call) :
    Admitted (entered ++ r.releases c) (taken ++ r.takes c) (r.call c) where
  order := by rw [ha.order, List.append_assoc, List.append_assoc, takes_append_ready]
  nodup := by
    rw [List.nodup_append]
    refine ⟨ha.nodup, r.nodup_releases c, ?_⟩
    rintro a hm b hb rfl
    obtain ⟨p, hp, hn⟩ := ha.beyond a hm
    rw [(h.phase?_of_mem_releases hb).1, Option.some_inj] at hp
    exact hn hp.symm
  beyond k hk := by
    rcases List.mem_append.mp hk with hk | hk
    · obtain ⟨p, hp, hn⟩ := ha.beyond k hk
      obtain ⟨q, hq, hc⟩ := h.phase?_call c hp
      refine ⟨q, hq, ?_⟩
      rcases hc with rfl | hc
      · exact hn
      · rintro rfl
        cases hc
    · exact ⟨.ready, (h.phase?_of_mem_releases hk).2, by simp⟩

lemma admitted_callAll (h : Follows g r) (calls : List Call) :
    Admitted (r.ready.toList ++ gathered call releases r calls) (gathered call takes r calls)
      (r.callAll calls) := by
  induction calls using List.reverseRecOn with
  | nil =>
    refine ⟨by simp [gathered, callAll], by simpa [gathered] using h.sound.nodup_ready, fun k hk => ?_⟩
    rw [gathered, List.append_nil, h.sound.mem_ready] at hk
    exact ⟨.ready, hk, by simp⟩
  | append_singleton calls c ih =>
    rw [gathered_concat, gathered_concat, ← List.append_assoc, callAll_append]
    exact ih.call (h.callAll calls).sound c

/-- Whatever is called after the start of a workflow, no task enters the queue twice, tasks leave it in the order
in which they entered, and a completion that takes effect lets those children enter, in the order of its links,
that waited for nothing else. -/
theorem released_once_in_order (g : Workflow τ) (r₀ r : Progress τ) (hr : r₀.start g = .ok r)
    (calls : List Call) :
    let s := r.callAll calls
    let entered := r.ready.toList ++ gathered call releases r calls
    entered.Nodup ∧
    entered = gathered call takes r calls ++ s.ready.toList ∧
    ∀ id, (s.phase? id = some .submitted → ∃ released, (s.complete id).2 = .effective released ∧
        released.toList = (g.children id).filter fun c =>
          ∀ p ∈ g.parents c, p ≠ id → s.phase? p = some .completed) ∧
      (s.phase? id ≠ some .submitted → ∃ reason, s.complete id = (s, .refused reason)) := by
  obtain ⟨_, hg, rfl⟩ := start_eq_ok hr
  intro s entered
  have ha := admitted_callAll (follows_begun hg) calls
  have hf : Follows g s := (follows_begun hg).callAll calls
  refine ⟨ha.nodup, ha.order, fun id => ⟨fun hs => ?_, complete_of_ne⟩⟩
  refine ⟨(s.finish id).2, by rw [complete_of_submitted hs], ?_⟩
  rw [finish_released, hf.sound.freed_eq hs, hf.alike.children]
  apply List.filter_congr
  intro c _
  rw [decide_eq_decide]
  simp only [Workflow.mem_parents, hf.alike.children]

theorem released_once_in_order_knot :
    let calls := [.complete 0, .next, .complete 0, .complete 0, .complete 7]
    let r := begun Workflow.knot
    empty.start Workflow.knot = .ok r ∧ gathered call takes r calls = [0] ∧
      gathered call releases r calls = [1] ∧
      (r.ready.toList ++ gathered call releases r calls).Nodup := by
  have hr : empty.start Workflow.knot = .ok (begun Workflow.knot) :=
    start_of_closed rfl (Workflow.knot.danglingLink?_eq_none_iff.mp (by decide +kernel))
  exact ⟨hr, by decide +kernel, by decide +kernel,
    (released_once_in_order Workflow.knot empty _ hr _).1⟩

end Dispatch.Progress
