import Dispatch.Proofs.Progress.History
import Dispatch.Proofs.Workflow.Cycles

/-! A progress that stands still: when no task is ready and none submitted, only those are left that a cycle
keeps waiting. -/

namespace Dispatch.Progress

variable {τ : Type} {r r' : Progress τ} {g : Workflow τ} {id k : TaskId}

def Grounded (g : Workflow τ) (r : Progress τ) : Prop :=
  ∀ id p, r.phase? id = some p → p ≠ .blocked → Acc g.Precedes id

structure AtStandstill (r : Progress τ) : Prop where
  ready : ∀ id, r.phase? id ≠ some .ready
  submitted : ∀ id, r.phase? id ≠ some .submitted

namespace Sound

variable (h : r.Sound) (ha : g.Alike r.workflow)

include h ha

lemma closed_of_alike : g.Closed := by
  intro p c hc
  rw [← ha.contains, ← ha.contains]
  exact h.closed p c (ha.children p ▸ hc)

lemma grounded (hc : ∀ k, r.phase? k = some .completed → Acc g.Precedes k) : Grounded g r := by
  intro k p hk hb
  apply Acc.intro
  intro q hq
  apply hc
  apply h.completed_of_mem_parents hk hb
  rw [ha.children]
  exact hq

lemma completed_of_acc (hs : r.AtStandstill) (hx : Acc g.Precedes id) (hi : g.contains id = true) :
    r.phase? id = some .completed := by
  induction hx with
  | intro id _ ih =>
    obtain ⟨⟨p, n⟩, hp⟩ := h.exists_status (ha.contains id ▸ hi)
    have hp : r.phase? id = some p := phase?_eq_some.mpr ⟨n, hp⟩
    cases p with
    | blocked =>
      obtain ⟨q, hq, hn⟩ := h.exists_parent_of_blocked hp
      rw [ha.children] at hq
      exact (hn (ih q hq (h.closed_of_alike ha q id hq).1)).elim
    | ready => exact (hs.ready id hp).elim
    | submitted => exact (hs.submitted id hp).elim
    | completed => exact hp

lemma completed_iff (hs : r.AtStandstill) (hg : Grounded g r) :
    r.phase? id = some .completed ↔ g.contains id = true ∧ g.Clear id := by
  constructor
  · intro hi
    exact ⟨ha.contains id ▸ h.contains_of_phase hi, Workflow.clear_of_acc (hg id _ hi (by simp))⟩
  · rintro ⟨hi, hx⟩
    exact h.completed_of_acc ha hs (Workflow.acc_of_clear (h.closed_of_alike ha) hx) hi

lemma blocked_iff (hs : r.AtStandstill) (hg : Grounded g r) :
    r.phase? id = some .blocked ↔ g.contains id = true ∧ ¬ g.Clear id := by
  constructor
  · intro hi
    refine ⟨ha.contains id ▸ h.contains_of_phase hi, fun hx => ?_⟩
    have hc := (h.completed_iff ha hs hg).mpr ⟨ha.contains id ▸ h.contains_of_phase hi, hx⟩
    simp [hi] at hc
  · rintro ⟨hi, hx⟩
    obtain ⟨⟨p, n⟩, hp⟩ := h.exists_status (ha.contains id ▸ hi)
    have hp : r.phase? id = some p := phase?_eq_some.mpr ⟨n, hp⟩
    by_cases hb : p = .blocked
    · rw [hp, hb]
    · exact (hx (Workflow.clear_of_acc (hg id p hp hb))).elim

lemma isFinished_iff_acyclic (hs : r.AtStandstill) (hg : Grounded g r) (hr : r.started = true) :
    r.isFinished = true ↔ g.Acyclic := by
  rw [h.isFinished_iff, and_iff_right hr, Workflow.acyclic_iff_clear (h.closed_of_alike ha)]
  apply forall_congr'
  intro id
  rw [ha.contains]
  exact forall_congr' fun hi => (h.completed_iff ha hs hg).trans (and_iff_right hi)

end Sound

lemma grounded_begun (hg : g.Closed) : Grounded g (begun g) :=
  (sound_begun hg).grounded (.refl g) fun k hk => ((phase?_begun_ne g k).2 hk).elim

namespace Grounded

lemma taken (hg : Grounded g r) (h : r.Sound) (ha : g.Alike r.workflow) (hn : r.Taken id r') :
    Grounded g r' := by
  apply (h.taken hn).grounded (hn.workflow.symm ▸ ha)
  intro k hk
  rw [h.phase?_taken hn] at hk
  split at hk
  · simp at hk
  · exact hg k _ hk (by simp)

lemma finish (hg : Grounded g r) (h : r.Sound) (ha : g.Alike r.workflow)
    (hs : r.phase? id = some .submitted) : Grounded g (r.finish id).1 := by
  apply (h.finish hs).grounded (ha.modifyTask id ({ · with done := true }) (fun _ => rfl) fun _ => rfl)
  intro k hk
  rcases (h.completed_finish hs k).mp hk with rfl | hk
  · exact hg k _ hs (by simp)
  · exact hg k _ hk (by simp)

lemma call (hg : Grounded g r) (h : Follows g r) (c : Call) : Grounded g (r.call c) := by
  rcases r.call_cases c with hc | ⟨id, hn⟩ | ⟨id, hs, hc⟩
  · rw [hc]
    exact hg
  · exact hg.taken h.sound h.alike hn
  · rw [hc]
    exact hg.finish h.sound h.alike hs

lemma callAll (hg : Grounded g r) (h : Follows g r) (calls : List Call) : Grounded g (r.callAll calls) := by
  induction calls using List.reverseRecOn with
  | nil => exact hg
  | append_singleton calls c ih =>
    rw [callAll_append]
    exact ih.call (h.callAll calls) c

end Grounded

lemma started_call (r : Progress τ) (c : Call) : (r.call c).started = r.started := by
  rcases r.call_cases c with hc | ⟨id, hn⟩ | ⟨id, _, hc⟩
  · rw [hc]
  · exact hn.started
  · rw [hc]
    rfl

lemma started_callAll (r : Progress τ) (calls : List Call) : (r.callAll calls).started = r.started := by
  induction calls using List.reverseRecOn with
  | nil => rfl
  | append_singleton calls c ih =>
    rw [callAll_append]
    exact (started_call _ c).trans ih

lemma Sound.atStandstill (h : r.Sound) (hr : r.readySize = 0) (hs : r.submitted = 0) :
    r.AtStandstill where
  ready id hi := by
    have hp := countIn_pos hi
    rw [← h.readySize_eq, hr] at hp
    exact hp.false
  submitted id hi := by
    have hp := countIn_pos hi
    rw [← h.submitted, hs] at hp
    exact hp.false

/-- In whatever order completions are told, a progress that stands still has completed every task but those on
a cycle or below one. -/
theorem standstill_outcome (g : Workflow τ) (r₀ r : Progress τ) (hr : r₀.start g = .ok r)
    (calls : List Call) :
    let s := r.callAll calls
    (s.readySize = 0 → s.submitted = 0 → ∀ id,
      (s.phase? id = some .completed ↔ g.contains id = true ∧ g.Clear id) ∧
      (s.phase? id = some .blocked ↔ g.contains id = true ∧ ¬ g.Clear id)) ∧
    (g.Acyclic → (s.isFinished = true ↔
      ∀ id, s.phase? id ≠ some .ready ∧ s.phase? id ≠ some .submitted)) := by
  obtain ⟨_, hg, rfl⟩ := start_eq_ok hr
  intro s
  have h : Follows g s := (follows_begun hg).callAll calls
  have hgr : Grounded g s := (grounded_begun hg).callAll (follows_begun hg) calls
  refine ⟨fun hr hs id => ?_, fun hx => ⟨fun hf id => ?_, fun hs => ?_⟩⟩
  · have ht := h.sound.atStandstill hr hs
    exact ⟨h.sound.completed_iff h.alike ht hgr, h.sound.blocked_iff h.alike ht hgr⟩
  · constructor
    · intro hi
      cases h.sound.phase?_of_isFinished hf hi
    · intro hi
      cases h.sound.phase?_of_isFinished hf hi
  · have ht : s.AtStandstill := ⟨fun id => (hs id).1, fun id => (hs id).2⟩
    exact (h.sound.isFinished_iff_acyclic h.alike ht hgr (started_callAll _ calls)).mpr hx

theorem standstill_outcome_knot :
    let task (id : TaskId) : Task Rat := .ofCost id "" 0 (.sequential 1 1 1)
    let pair := ((Workflow.empty.insertTask (task 0)).insertTask (task 1)).link 0 1
    let calls := [.complete 1, .next, .complete 0, .next, .complete 2, .complete 1]
    let s := (begun Workflow.knot).callAll calls
    empty.start Workflow.knot = .ok (begun Workflow.knot) ∧ s.readySize = 0 ∧ s.submitted = 0 ∧
      Workflow.knot.Clear 1 ∧ ¬ Workflow.knot.Clear 2 ∧
      empty.start pair = .ok (begun pair) ∧ pair.Acyclic ∧ ((begun pair).callAll calls).isFinished = true ∧
      ∀ id, ((begun pair).callAll calls).phase? id ≠ some .ready := by
  intro task pair calls s
  have hk : empty.start Workflow.knot = .ok (begun Workflow.knot) :=
    start_of_closed rfl (Workflow.knot.danglingLink?_eq_none_iff.mp (by decide +kernel))
  have hp : empty.start pair = .ok (begun pair) :=
    start_of_closed rfl (pair.danglingLink?_eq_none_iff.mp (by decide +kernel))
  have ha : pair.Acyclic := Workflow.acyclic_of_increasing (by decide +kernel)
  have hf : ((begun pair).callAll calls).isFinished = true := by decide +kernel
  have hs := (standstill_outcome Workflow.knot empty _ hk calls).1 (by decide +kernel) (by decide +kernel)
  have hr := ((standstill_outcome pair empty _ hp calls).2 ha).mp hf
  exact ⟨hk, by decide +kernel, by decide +kernel, ((hs 1).1.mp (by decide +kernel)).2,
    ((hs 2).2.mp (by decide +kernel)).2, hp, ha, hf, fun id => (hr id).1⟩

end Dispatch.Progress
