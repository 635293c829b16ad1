import Dispatch.Proofs.Progress.Release

/-! The counters of a progress are what they count: after every operation the pending number of a task
is the number of its parents that are not completed, and the queue holds the ready tasks. -/

namespace Dispatch.Progress

variable {τ : Type} {r r' : Progress τ} {g : Workflow τ} {id k : TaskId}

def openParents (r : Progress τ) (id : TaskId) : ℕ :=
  (r.workflow.parents id).countP fun p => r.phase? p != some .completed

structure Sound (r : Progress τ) : Prop where
  keys : r.status.keys = r.workflow.tasks.keys
  closed : r.workflow.Closed
  pending : ∀ k s, r.status.get? k = some s → s.pending = r.openParents k
  blocked : ∀ k s, r.status.get? k = some s → (s.phase = .blocked ↔ 0 < s.pending)
  nodup_ready : r.ready.toList.Nodup
  mem_ready : ∀ k, k ∈ r.ready.toList ↔ r.phase? k = some .ready
  submitted : r.submitted = r.countIn .submitted
  completed : r.completed = r.countIn .completed

lemma sound_empty : (empty : Progress τ).Sound where
  keys := rfl
  closed p c h := by simp [empty, Workflow.empty, Workflow.children] at h
  pending k s h := by simp [empty] at h
  blocked k s h := by simp [empty] at h
  nodup_ready := List.nodup_nil
  mem_ready k := by simp [empty, phase?]
  submitted := rfl
  completed := rfl

lemma mem_keys_of_phase {s : Phase} (hs : r.phase? k = some s) : k ∈ r.status.keys.toList := by
  obtain ⟨n, hn⟩ := phase?_eq_some.mp hs
  exact Array.mem_toList_iff.mpr ((Table.mem_keys_iff _ _).mpr ⟨_, hn⟩)

lemma nodup_status (r : Progress τ) : r.status.keys.toList.Nodup := r.status.nodup

namespace Sound

variable (h : r.Sound)

include h

lemma exists_status (hk : r.workflow.contains k = true) : ∃ s, r.status.get? k = some s := by
  rw [← Table.mem_keys_iff, h.keys]
  exact (Table.contains_iff _ _).mp hk

lemma contains_of_status {s : Status} (hs : r.status.get? k = some s) :
    r.workflow.contains k = true := by
  rw [Workflow.contains, Table.contains_iff, ← h.keys]
  exact (Table.mem_keys_iff _ _).mpr ⟨s, hs⟩

lemma contains_of_phase {s : Phase} (hs : r.phase? k = some s) : r.workflow.contains k = true := by
  obtain ⟨n, hn⟩ := phase?_eq_some.mp hs
  exact h.contains_of_status hn

lemma size_eq : r.workflow.size = r.status.keys.toList.length := by
  rw [Workflow.size, Table.size, ← h.keys, Array.length_toList]

lemma completed_of_mem_parents {s : Phase} (hs : r.phase? k = some s) (hb : s ≠ .blocked) {p : TaskId}
    (hp : k ∈ r.workflow.children p) : r.phase? p = some .completed := by
  obtain ⟨n, hn⟩ := phase?_eq_some.mp hs
  have hz : ¬ 0 < n := fun hz => hb ((h.blocked k _ hn).mpr hz)
  have ho : r.openParents k = 0 := by
    rw [← h.pending k _ hn]
    exact Nat.eq_zero_of_not_pos hz
  have hc := List.countP_eq_zero.mp ho p ((r.workflow.mem_parents).mpr hp)
  simpa using hc

lemma blocked_of_mem_children {p : TaskId} (hc : k ∈ r.workflow.children p)
    (hp : r.phase? p ≠ some .completed) : r.phase? k = some .blocked := by
  obtain ⟨⟨s, n⟩, hs⟩ := h.exists_status (h.closed p k hc).2
  have hk : r.phase? k = some s := phase?_eq_some.mpr ⟨n, hs⟩
  by_cases hb : s = .blocked
  · rw [hk, hb]
  · exact (hp (h.completed_of_mem_parents hk hb hc)).elim

lemma exists_parent_of_blocked (hk : r.phase? k = some .blocked) :
    ∃ p, k ∈ r.workflow.children p ∧ r.phase? p ≠ some .completed := by
  obtain ⟨n, hn⟩ := phase?_eq_some.mp hk
  have hz := (h.blocked k _ hn).mp rfl
  rw [h.pending k _ hn] at hz
  obtain ⟨p, hp, hc⟩ := List.countP_pos_iff.mp hz
  exact ⟨p, r.workflow.mem_parents.mp hp, bne_iff_ne.mp hc⟩

end Sound

lemma sound_begun (hg : g.Closed) : (begun g).Sound where
  keys := g.keys_parentCounts
  closed := hg
  pending k s hs := by
    rw [status_begun] at hs
    obtain ⟨t, ht, rfl⟩ := Option.map_eq_some_iff.mp hs
    refine (List.countP_eq_length.mpr fun p _ => ?_).symm
    rw [phase?_begun]
    cases g.task? p with
    | none => rfl
    | some t =>
      simp only [Option.map_some]
      split <;> rfl
  blocked k s hs := by
    rw [status_begun] at hs
    obtain ⟨t, ht, rfl⟩ := Option.map_eq_some_iff.mp hs
    by_cases hz : (g.parents k).length = 0
    · simp [hz]
    · simp [hz, Nat.pos_of_ne_zero hz]
  nodup_ready := by
    rw [begun, Queue.toList_ofList]
    exact (g.preorderAll_perm.nodup_iff.mpr g.nodup_ids).filter _
  mem_ready k := by
    rw [phase?_begun, begun, Queue.toList_ofList, List.mem_filter, g.preorderAll_perm.mem_iff,
      g.mem_ids, g.get?_parentCounts, Workflow.contains, Table.contains_eq_isSome, Workflow.task?]
    cases g.tasks.get? k with
    | none => simp
    | some t => by_cases hz : (g.parents k).length = 0 <;> simp [hz]
  submitted := by
    refine (countIn_eq _ _).trans (List.countP_eq_zero.mpr fun k _ => ?_) |>.symm
    simpa using (phase?_begun_ne g k).1
  completed := by
    refine (countIn_eq _ _).trans (List.countP_eq_zero.mpr fun k _ => ?_) |>.symm
    simpa using (phase?_begun_ne g k).2

lemma countIn_change (r r' : Progress τ) (hk : r'.status.keys = r.status.keys)
    (hm : id ∈ r.status.keys.toList) (s : Phase)
    (ho : ∀ j, j ≠ id → (r'.phase? j = some s ↔ r.phase? j = some s)) :
    r'.countIn s + (r.phase? id == some s).toNat = r.countIn s + (r'.phase? id == some s).toNat := by
  rw [countIn_eq, countIn_eq, hk]
  refine countP_update (p := fun j => r'.phase? j == some s) (q := fun j => r.phase? j == some s)
    r.nodup_status hm fun j _ hj => ?_
  rw [Bool.eq_iff_iff, beq_iff_eq, beq_iff_eq, ho j hj]

lemma openParents_congr (hw : r'.workflow.parents k = r.workflow.parents k)
    (hp : ∀ p, k ∈ r.workflow.children p →
      (r'.phase? p = some .completed ↔ r.phase? p = some .completed)) :
    r'.openParents k = r.openParents k := by
  rw [openParents, openParents, hw]
  apply List.countP_congr
  intro p hk
  rw [bne_iff_ne, bne_iff_ne, ne_eq, ne_eq, hp p (r.workflow.mem_parents.mp hk)]

lemma phase?_setPhase (r : Progress τ) (id : TaskId) (s : Phase) (k : TaskId) :
    (r.setPhase id s).phase? k = if id = k then (r.phase? k).map fun _ => s else r.phase? k := by
  rw [phase?, status_setPhase, phase?]
  split
  · rw [Option.map_map, Option.map_map]
    rfl
  · rfl

namespace Sound

lemma phase?_of_taken (h : r.Sound) (hn : r.Taken id r') : r.phase? id = some .ready := by
  rw [← h.mem_ready, hn.ready]
  exact List.mem_cons_self

lemma phase?_taken (h : r.Sound) (hn : r.Taken id r') (k : TaskId) :
    r'.phase? k = if id = k then some .submitted else r.phase? k := by
  rw [phase?, hn.status, ← phase?, phase?_setPhase]
  split
  · rename_i hk
    rw [← hk, h.phase?_of_taken hn]
    rfl
  · rfl

lemma openParents_taken (h : r.Sound) (hn : r.Taken id r') (k : TaskId) :
    r'.openParents k = r.openParents k := by
  apply openParents_congr (by rw [hn.workflow])
  intro p _
  rw [h.phase?_taken hn]
  split
  · rename_i hk
    simp [← hk, h.phase?_of_taken hn]
  · rfl

lemma status_taken (hn : r.Taken id r') (k : TaskId) : r'.status.get? k =
    if id = k then (r.status.get? k).map fun s => ⟨.submitted, s.pending⟩ else r.status.get? k := by
  rw [hn.status, status_setPhase]

lemma countIn_taken (h : r.Sound) (hn : r.Taken id r') (s : Phase) :
    r'.countIn s + (some Phase.ready == some s).toNat =
      r.countIn s + (some Phase.submitted == some s).toNat := by
  have hi := h.phase?_of_taken hn
  have hc := countIn_change r r' (by rw [hn.status]; rfl) (mem_keys_of_phase hi) s fun j hj => by
    rw [h.phase?_taken hn, if_neg (Ne.symm hj)]
  rwa [h.phase?_taken hn, hi, if_pos rfl] at hc

lemma taken (h : r.Sound) (hn : r.Taken id r') : r'.Sound where
  keys := by
    rw [hn.status, hn.workflow]
    exact h.keys
  closed := by
    rw [hn.workflow]
    exact h.closed
  pending k s hs := by
    rw [h.openParents_taken hn]
    rw [status_taken hn] at hs
    split at hs
    · obtain ⟨t, ht, rfl⟩ := Option.map_eq_some_iff.mp hs
      exact h.pending k t ht
    · exact h.pending k s hs
  blocked k s hs := by
    rw [status_taken hn] at hs
    split at hs
    · rename_i hk
      subst hk
      obtain ⟨n, hr⟩ := phase?_eq_some.mp (h.phase?_of_taken hn)
      rw [hr] at hs
      cases hs
      simpa using h.blocked id _ hr
    · exact h.blocked k s hs
  nodup_ready := (List.nodup_cons.mp (hn.ready ▸ h.nodup_ready)).2
  mem_ready k := by
    have hk := h.mem_ready k
    rw [hn.ready, List.mem_cons] at hk
    rw [h.phase?_taken hn]
    split
    · rename_i he
      subst he
      simpa using (List.nodup_cons.mp (hn.ready ▸ h.nodup_ready)).1
    · rename_i he
      rw [← hk, or_iff_right (Ne.symm he)]
  submitted := by
    rw [hn.submitted, h.submitted]
    exact (h.countIn_taken hn .submitted).symm
  completed := by
    rw [hn.completed, h.completed]
    exact (h.countIn_taken hn .completed).symm

lemma assign (h : r.Sound) (id : TaskId) (a : Assignment τ) : (r.assign id a).Sound where
  keys := h.keys
  closed := h.closed.modifyTask id ({ · with assignment := some a }) fun _ => rfl
  pending := h.pending
  blocked := h.blocked
  nodup_ready := h.nodup_ready
  mem_ready := h.mem_ready
  submitted := h.submitted
  completed := h.completed

section finish

variable (h : r.Sound) (hs : r.phase? id = some .submitted)

include h hs

lemma not_mem_children_self : id ∉ r.workflow.children id := by
  intro hc
  have hb := h.blocked_of_mem_children hc (by simp [hs])
  simp [hs] at hb

lemma status_of_mem_children (hk : k ∈ r.workflow.children id) :
    ∃ n, r.status.get? k = some ⟨.blocked, n + 1⟩ := by
  have hb := h.blocked_of_mem_children hk (by simp [hs])
  obtain ⟨n, hn⟩ := phase?_eq_some.mp hb
  have hz := (h.blocked k _ hn).mp rfl
  exact ⟨n - 1, by rw [hn, Nat.sub_add_cancel hz]⟩

lemma status_finish (k : TaskId) : (r.finish id).1.status.get? k =
    if id = k then (r.status.get? k).map fun s => ⟨.completed, s.pending⟩
    else if k ∈ r.workflow.children id then (r.status.get? k).map Status.lower
    else r.status.get? k := by
  rw [finish_status, status_setPhase]
  by_cases hk : id = k
  · subst hk
    rw [if_neg (h.not_mem_children_self hs)]
    simp
  · simp [hk]

lemma mem_freed : k ∈ r.freed id ↔
    k ∈ r.workflow.children id ∧ r.status.get? k = some ⟨.blocked, 1⟩ := by
  rw [freed, List.mem_filter]
  apply and_congr_right
  intro hk
  obtain ⟨n, hn⟩ := h.status_of_mem_children hs hk
  simp [hn]

lemma phase?_finish (k : TaskId) : (r.finish id).1.phase? k =
    if id = k then some .completed else if k ∈ r.freed id then some .ready else r.phase? k := by
  rw [phase?, h.status_finish hs]
  by_cases hk : id = k
  · obtain ⟨n, hn⟩ := phase?_eq_some.mp hs
    rw [if_pos hk, if_pos hk, ← hk, hn]
    rfl
  · rw [if_neg hk, if_neg hk]
    by_cases hc : k ∈ r.workflow.children id
    · obtain ⟨n, hn⟩ := h.status_of_mem_children hs hc
      rw [if_pos hc, phase?, hn]
      simp only [h.mem_freed hs, hc, hn, true_and]
      cases n <;> simp [Status.lower]
    · rw [if_neg hc, if_neg fun hf => hc ((h.mem_freed hs).mp hf).1]
      rfl

lemma completed_finish (p : TaskId) : (r.finish id).1.phase? p = some .completed ↔
    p = id ∨ r.phase? p = some .completed := by
  rw [h.phase?_finish hs]
  by_cases hp : id = p
  · simp [hp]
  · rw [if_neg hp, or_iff_right (Ne.symm hp)]
    split
    · rename_i hf
      obtain ⟨_, hb⟩ := (h.mem_freed hs).mp hf
      simp [phase?, hb]
    · rfl

lemma submitted_finish (k : TaskId) : (r.finish id).1.phase? k = some .submitted ↔
    k ≠ id ∧ r.phase? k = some .submitted := by
  rw [h.phase?_finish hs]
  by_cases hk : id = k
  · simp [hk]
  · rw [if_neg hk, and_iff_right (Ne.symm hk)]
    split
    · rename_i hf
      obtain ⟨_, hb⟩ := (h.mem_freed hs).mp hf
      simp [phase?, hb]
    · rfl

lemma openParents_finish (k : TaskId) : (r.finish id).1.openParents k =
    if k ∈ r.workflow.children id then r.openParents k - 1 else r.openParents k := by
  split
  · rename_i hk
    have hm := (r.workflow.mem_parents).mpr hk
    have hu := countP_update (p := fun p => (r.finish id).1.phase? p != some .completed)
      (q := fun p => r.phase? p != some .completed) (r.workflow.nodup_parents k) hm
      fun p _ hp => by
        rw [Bool.eq_iff_iff, bne_iff_ne, bne_iff_ne, ne_eq, ne_eq, h.completed_finish hs,
          or_iff_right hp]
    have hc : (r.finish id).1.phase? id = some .completed := (h.completed_finish hs id).mpr (.inl rfl)
    simp only [hc, hs] at hu
    exact (Nat.sub_eq_of_eq_add hu.symm).symm
  · rename_i hk
    refine openParents_congr rfl fun p hp => ?_
    rw [h.completed_finish hs, or_iff_right]
    rintro rfl
    exact hk hp

lemma pending_finish {t : Status} (hk : (r.finish id).1.status.get? k = some t) :
    t.pending = (r.finish id).1.openParents k := by
  rw [h.openParents_finish hs]
  rw [h.status_finish hs] at hk
  split at hk
  · rename_i he
    subst he
    obtain ⟨t, ht, rfl⟩ := Option.map_eq_some_iff.mp hk
    rw [if_neg (h.not_mem_children_self hs)]
    exact h.pending id t ht
  · split at hk
    · rename_i hc
      obtain ⟨t, ht, rfl⟩ := Option.map_eq_some_iff.mp hk
      have hn := h.pending k t ht
      rw [if_pos hc]
      rw [Status.lower]
      split <;> dsimp only <;> omega
    · rename_i hc
      rw [if_neg hc]
      exact h.pending k t hk

lemma blocked_finish {t : Status} (hk : (r.finish id).1.status.get? k = some t) :
    t.phase = .blocked ↔ 0 < t.pending := by
  rw [h.status_finish hs] at hk
  split at hk
  · rename_i he
    subst he
    obtain ⟨n, hn⟩ := phase?_eq_some.mp hs
    rw [hn] at hk
    cases hk
    simpa using h.blocked id _ hn
  · split at hk
    · rename_i hc
      obtain ⟨n, hn⟩ := h.status_of_mem_children hs hc
      rw [hn] at hk
      cases hk
      cases n <;> simp [Status.lower]
    · exact h.blocked k t hk

lemma nodup_ready_finish : (r.finish id).1.ready.toList.Nodup := by
  rw [finish_ready, List.nodup_append]
  refine ⟨h.nodup_ready, (r.workflow.nodup_children id).filter _, ?_⟩
  rintro a ha b hb rfl
  have hr := (h.mem_ready a).mp ha
  obtain ⟨_, hf⟩ := (h.mem_freed hs).mp hb
  simp [phase?, hf] at hr

lemma mem_ready_finish (k : TaskId) :
    k ∈ (r.finish id).1.ready.toList ↔ (r.finish id).1.phase? k = some .ready := by
  rw [finish_ready, List.mem_append, h.mem_ready, h.phase?_finish hs]
  by_cases hk : id = k
  · subst hk
    simp only [hs, if_true, h.mem_freed hs, h.not_mem_children_self hs]
    simp
  · by_cases hf : k ∈ r.freed id <;> simp [hk, hf]

lemma finish : (r.finish id).1.Sound where
  keys := (r.finish_keys id).trans h.keys
  closed := h.closed.modifyTask id ({ · with done := true }) fun _ => rfl
  pending _ _ := h.pending_finish hs
  blocked _ _ := h.blocked_finish hs
  nodup_ready := h.nodup_ready_finish hs
  mem_ready := h.mem_ready_finish hs
  submitted := by
    have hc := countIn_change r (r.finish id).1 (r.finish_keys id) (mem_keys_of_phase hs) .submitted
      fun j hj => by rw [h.submitted_finish hs, and_iff_right hj]
    rw [h.phase?_finish hs, hs, if_pos rfl] at hc
    have ht : (r.finish id).1.submitted = r.submitted - 1 := rfl
    rw [ht, h.submitted]
    exact Nat.sub_eq_of_eq_add hc.symm
  completed := by
    have hc := countIn_change r (r.finish id).1 (r.finish_keys id) (mem_keys_of_phase hs) .completed
      fun j hj => by rw [h.completed_finish hs, or_iff_right hj]
    rw [h.phase?_finish hs, hs, if_pos rfl] at hc
    have ht : (r.finish id).1.completed = r.completed + 1 := rfl
    rw [ht, h.completed]
    exact hc.symm

end finish

lemma complete (h : r.Sound) (id : TaskId) : (r.complete id).1.Sound := by
  by_cases hs : r.phase? id = some .submitted
  · rw [complete_of_submitted hs]
    exact h.finish hs
  · obtain ⟨_, hc⟩ := complete_of_ne hs
    rw [hc]
    exact h

lemma isFinished_iff (h : r.Sound) : r.isFinished = true ↔
    r.started = true ∧ ∀ id, r.workflow.contains id = true → r.phase? id = some .completed := by
  rw [isFinished, Bool.and_eq_true, beq_iff_eq, h.completed, countIn_eq, h.size_eq,
    List.countP_eq_length]
  apply and_congr_right
  intro _
  simp only [beq_iff_eq, Array.mem_toList_iff, h.keys, ← Table.contains_iff]
  rfl

lemma phase?_of_isFinished (h : r.Sound) (hf : r.isFinished = true) {s : Phase}
    (hs : r.phase? id = some s) : s = .completed := by
  have hc := (h.isFinished_iff.mp hf).2 id (h.contains_of_phase hs)
  rw [hs] at hc
  exact Option.some.inj hc

end Sound

end Dispatch.Progress
