import Dispatch.Proofs.Progress.Counters
import Mathlib.Data.Set.Card

/-! A progress that is asked for ready tasks and told completions, whatever is told and in whatever order:
its counters stay those of its workflow, and every task goes through its phases in order. -/

namespace Dispatch

def Phase.rank : Phase → ℕ
  | .blocked => 0
  | .ready => 1
  | .submitted => 2
  | .completed => 3

namespace Progress

inductive Call where
  | next
  | complete (id : TaskId)

variable {τ : Type} {r r' : Progress τ} {g : Workflow τ} {id k : TaskId} {p : Phase}

def call (r : Progress τ) : Call → Progress τ
  | .next => (r.next?.map Prod.snd).getD r
  | .complete id => (r.complete id).1

def callAll (r : Progress τ) (calls : List Call) : Progress τ := calls.foldl call r

def releasing (r : Progress τ) (id : TaskId) (cs : List TaskId) : Table Status :=
  (cs.foldl (fun (t, rel) c => releaseChild t rel c) ((r.setPhase id .completed).status, #[])).1

/-- The counters, the queue and the marks of a progress say the same as the phases of its tasks, and the
completion of a submitted task has something to subtract from. A task that comes marked stays marked. -/
structure Exact (g : Workflow τ) (r : Progress τ) : Prop where
  pending : ∀ id, g.contains id = true →
    r.pending? id = some {p | id ∈ g.children p ∧ r.phase? p ≠ some .completed}.ncard
  blocked : ∀ id n, r.pending? id = some n → (r.phase? id = some .blocked ↔ 0 < n)
  queue : ∀ id, r.ready.toList.count id = if r.phase? id = some .ready then 1 else 0
  marked : ∀ id t, g.task? id = some t → ∃ t', r.task? id = some t' ∧ t'.job = t.job ∧
    (t'.done = true ↔ t.done = true ∨ r.phase? id = some .completed)
  ready : r.readySize = r.countIn .ready
  submitted : r.submitted = r.countIn .submitted
  completed : r.completed = r.countIn .completed
  whole : r.countIn .blocked + r.countIn .ready + r.countIn .submitted + r.countIn .completed = g.size
  submitted_pos : ∀ id, r.phase? id = some .submitted → 0 < r.submitted
  pending_pos : ∀ id before c after, r.phase? id = some .submitted →
    r.workflow.children id = before ++ c :: after →
      ∃ s, (r.releasing id before).get? c = some s ∧ 0 < s.pending

lemma callAll_append (r : Progress τ) (calls more : List Call) :
    r.callAll (calls ++ more) = (r.callAll calls).callAll more := List.foldl_append

lemma call_cases (r : Progress τ) (c : Call) : r.call c = r ∨ (∃ id, r.Taken id (r.call c)) ∨
    ∃ id, r.phase? id = some .submitted ∧ r.call c = (r.finish id).1 := by
  cases c with
  | next =>
    cases hn : r.next? with
    | none => exact Or.inl (by rw [call, hn]; rfl)
    | some x =>
      have hc : r.call .next = x.2 := by rw [call, hn]; rfl
      exact Or.inr (Or.inl ⟨x.1, hc ▸ taken_of_next? hn⟩)
  | complete id =>
    by_cases hs : r.phase? id = some .submitted
    · exact Or.inr (Or.inr ⟨id, hs, congrArg Prod.fst (complete_of_submitted hs)⟩)
    · obtain ⟨reason, hc⟩ := complete_of_ne hs
      exact Or.inl (congrArg Prod.fst hc)

structure Follows (g : Workflow τ) (r : Progress τ) : Prop where
  sound : r.Sound
  alike : g.Alike r.workflow
  marked : ∀ id, (r.task? id).map Task.done =
    (g.task? id).map fun t => t.done || r.phase? id == some .completed

lemma follows_begun (hg : g.Closed) : Follows g (begun g) where
  sound := sound_begun hg
  alike := .refl g
  marked id := by
    have hn : ((begun g).phase? id == some .completed) = false := by
      simpa using (phase?_begun_ne g id).2
    simp only [hn, Bool.or_false]
    rfl

namespace Follows

variable (h : Follows g r)

include h

lemma taken (hn : r.Taken id r') : Follows g r' where
  sound := h.sound.taken hn
  alike := by
    rw [hn.workflow]
    exact h.alike
  marked k := by
    rw [hn.task?, h.marked, h.sound.phase?_taken hn]
    split
    · rename_i hk
      rw [← hk, h.sound.phase?_of_taken hn]
      rfl
    · rfl

lemma finish (hs : r.phase? id = some .submitted) : Follows g (r.finish id).1 where
  sound := h.sound.finish hs
  alike := h.alike.modifyTask id ({ · with done := true }) (fun _ => rfl) fun _ => rfl
  marked k := by
    have hm := h.marked k
    rw [task?_finish]
    by_cases hk : id = k
    · subst hk
      have hc := (h.sound.completed_finish hs id).mpr (Or.inl rfl)
      rw [if_pos rfl, Option.map_map, hc]
      cases ht : g.task? id <;> cases ht' : r.task? id <;> simp [ht, ht'] at hm ⊢
    · have hc : ((r.finish id).1.phase? k == some .completed) = (r.phase? k == some .completed) := by
        rw [Bool.eq_iff_iff, beq_iff_eq, beq_iff_eq, h.sound.completed_finish hs,
          or_iff_right (Ne.symm hk)]
      rw [if_neg hk, hm, hc]

lemma call (c : Call) : Follows g (r.call c) := by
  rcases r.call_cases c with hc | ⟨id, hn⟩ | ⟨id, hs, hc⟩
  · rw [hc]
    exact h
  · exact h.taken hn
  · rw [hc]
    exact h.finish hs

lemma callAll (calls : List Call) : Follows g (r.callAll calls) := by
  induction calls using List.reverseRecOn with
  | nil => exact h
  | append_singleton calls c ih =>
    rw [callAll_append]
    exact ih.call c

end Follows

lemma openParents_eq_ncard (r : Progress τ) (k : TaskId) :
    r.openParents k = {p | k ∈ r.workflow.children p ∧ r.phase? p ≠ some .completed}.ncard := by
  have hs : {p | k ∈ r.workflow.children p ∧ r.phase? p ≠ some .completed} =
      (((r.workflow.parents k).filter fun p => r.phase? p != some .completed).toFinset : Set TaskId) := by
    ext p
    simp [Workflow.mem_parents]
  rw [hs, Set.ncard_coe_finset, List.toFinset_card_of_nodup ((r.workflow.nodup_parents k).filter _),
    openParents, List.countP_eq_length_filter]

lemma countIn_pos (hk : r.phase? k = some p) : 0 < r.countIn p := by
  rw [countIn_eq]
  exact List.countP_pos_iff.mpr ⟨k, mem_keys_of_phase hk, beq_iff_eq.mpr hk⟩

namespace Sound

variable (h : r.Sound)

include h

lemma phase?_call (c : Call) (hp : r.phase? k = some p) :
    ∃ q, (r.call c).phase? k = some q ∧ (q = p ∨ q.rank = p.rank + 1) := by
  rcases r.call_cases c with hc | ⟨id, hn⟩ | ⟨id, hs, hc⟩
  · exact ⟨p, by rw [hc, hp], Or.inl rfl⟩
  · rw [h.phase?_taken hn]
    split
    · rename_i hk
      rw [← hk, h.phase?_of_taken hn] at hp
      cases hp
      exact ⟨.submitted, rfl, Or.inr rfl⟩
    · exact ⟨p, hp, Or.inl rfl⟩
  · rw [hc, h.phase?_finish hs]
    split
    · rename_i hk
      rw [← hk, hs] at hp
      cases hp
      exact ⟨.completed, rfl, Or.inr rfl⟩
    · split
      · rename_i hf
        obtain ⟨_, hb⟩ := (h.mem_freed hs).mp hf
        rw [phase?, hb] at hp
        cases hp
        exact ⟨.ready, rfl, Or.inr rfl⟩
      · exact ⟨p, hp, Or.inl rfl⟩

lemma count_ready (k : TaskId) :
    r.ready.toList.count k = if r.phase? k = some .ready then 1 else 0 := by
  rw [h.nodup_ready.count]
  exact if_congr (h.mem_ready k) rfl rfl

lemma readySize_eq : r.readySize = r.countIn .ready := by
  have hp : r.ready.toList.Perm (r.status.keys.toList.filter fun k => r.phase? k == some .ready) := by
    refine (List.perm_ext_iff_of_nodup h.nodup_ready (r.nodup_status.filter _)).mpr fun k => ?_
    rw [List.mem_filter, beq_iff_eq, h.mem_ready]
    exact ⟨fun hk => ⟨mem_keys_of_phase hk, hk⟩, And.right⟩
  rw [readySize, ← Queue.length_toList, hp.length_eq, countIn_eq, List.countP_eq_length_filter]

lemma countIn_whole :
    r.countIn .blocked + r.countIn .ready + r.countIn .submitted + r.countIn .completed =
      r.workflow.size := by
  have hk (l : List TaskId) (hl : ∀ k ∈ l, ∃ p, r.phase? k = some p) :
      l.countP (r.phase? · == some .blocked) + l.countP (r.phase? · == some .ready) +
        l.countP (r.phase? · == some .submitted) + l.countP (r.phase? · == some .completed) =
          l.length := by
    induction l with
    | nil => rfl
    | cons k l ih =>
      obtain ⟨p, hp⟩ := hl k List.mem_cons_self
      have hi := ih fun j hj => hl j (List.mem_cons_of_mem k hj)
      cases p <;> simp [hp] <;> omega
  rw [countIn_eq, countIn_eq, countIn_eq, countIn_eq, h.size_eq]
  refine hk _ fun k hk => ?_
  obtain ⟨s, hs⟩ := (Table.mem_keys_iff _ k).mp (Array.mem_toList_iff.mp hk)
  exact ⟨s.phase, by rw [phase?, hs]; rfl⟩

lemma pending_pos (hs : r.phase? id = some .submitted) {before after : List TaskId} {c : TaskId}
    (hc : r.workflow.children id = before ++ c :: after) :
    ∃ s, (r.releasing id before).get? c = some s ∧ 0 < s.pending := by
  have hm : c ∈ r.workflow.children id := by simp [hc]
  -- no child is listed twice: its number is still that of the outset, in which this parent counts
  have hn := r.workflow.nodup_children id
  rw [hc, List.nodup_append] at hn
  have hb : c ∉ before := fun hb => hn.2.2 c hb c List.mem_cons_self rfl
  obtain ⟨n, hk⟩ := h.status_of_mem_children hs hm
  have hi : id ≠ c := by
    rintro rfl
    exact h.not_mem_children_self hs hm
  refine ⟨⟨.blocked, n + 1⟩, ?_, Nat.succ_pos n⟩
  have hf := (foldl_releaseChild before hn.1 (r.setPhase id .completed).status #[]).2.1 c
  rw [releasing, hf, if_neg hb, status_setPhase, if_neg hi, hk]

end Sound

lemma Follows.rank_le_callAll (h : Follows g r) (calls : List Call) (hp : r.phase? k = some p) :
    ∃ q, (r.callAll calls).phase? k = some q ∧ p.rank ≤ q.rank := by
  induction calls using List.reverseRecOn with
  | nil => exact ⟨p, hp, le_rfl⟩
  | append_singleton calls c ih =>
    obtain ⟨q, hq, hle⟩ := ih
    obtain ⟨s, hs, hc⟩ := (h.callAll calls).sound.phase?_call c hq
    rw [callAll_append]
    refine ⟨s, hs, hle.trans ?_⟩
    rcases hc with rfl | hc
    · exact le_rfl
    · omega

lemma Follows.exact (h : Follows g r) : Exact g r where
  pending id hi := by
    obtain ⟨s, hs⟩ := h.sound.exists_status ((h.alike.contains id).trans hi)
    have hc := openParents_eq_ncard r id
    simp only [h.alike.children] at hc
    rw [pending?, hs, Option.map_some, h.sound.pending id s hs, hc]
  blocked id n hn := by
    obtain ⟨⟨p, m⟩, hs, rfl⟩ := Option.map_eq_some_iff.mp hn
    rw [phase?, hs, Option.map_some, Option.some_inj]
    exact h.sound.blocked id _ hs
  queue := h.sound.count_ready
  marked id t ht := by
    have hj := h.alike.job id
    have hd := h.marked id
    rw [ht, Option.map_some] at hj hd
    obtain ⟨t', ht', hj⟩ := Option.map_eq_some_iff.mp hj
    rw [task?, ht', Option.map_some, Option.some_inj] at hd
    refine ⟨t', ht', hj, ?_⟩
    rw [hd, Bool.or_eq_true, beq_iff_eq]
  ready := h.sound.readySize_eq
  submitted := h.sound.submitted
  completed := h.sound.completed
  whole := by
    rw [h.sound.countIn_whole, Workflow.size, Table.size, h.alike.keys]
    rfl
  submitted_pos id hs := by
    rw [h.sound.submitted]
    exact countIn_pos hs
  pending_pos id before c after hs hc := h.sound.pending_pos hs hc

/-- Whatever is called after the start of a workflow, the counters are exact and every task moves forward, one
phase at a time. -/
theorem calls_exact (g : Workflow τ) (r₀ r : Progress τ) (hr : r₀.start g = .ok r) (calls : List Call) :
    let s := r.callAll calls
    Exact g s ∧
      (∀ c id p, s.phase? id = some p →
        ∃ q, (s.call c).phase? id = some q ∧ (q = p ∨ q.rank = p.rank + 1)) ∧
      ∀ more id p, s.phase? id = some p →
        ∃ q, (s.callAll more).phase? id = some q ∧ p.rank ≤ q.rank := by
  obtain ⟨_, hg, rfl⟩ := start_eq_ok hr
  have h := (follows_begun hg).callAll calls
  exact ⟨h.exact, fun c id p hp => h.sound.phase?_call c hp,
    fun more id p hp => h.rank_le_callAll more hp⟩

theorem calls_exact_knot :
    let calls := [.complete 0, .next, .complete 0, .complete 0, .complete 7]
    let s := (begun Workflow.knot).callAll calls
    empty.start Workflow.knot = .ok (begun Workflow.knot) ∧ s.phase? 1 = some .ready ∧
      s.pending? 2 = some 1 ∧ Exact Workflow.knot s := by
  have hr : empty.start Workflow.knot = .ok (begun Workflow.knot) :=
    start_of_closed rfl (Workflow.knot.danglingLink?_eq_none_iff.mp (by decide +kernel))
  exact ⟨hr, by decide +kernel, by decide +kernel, (calls_exact Workflow.knot empty _ hr _).1⟩

/-- A workflow that was played before brings its marks with it, so that a mark alone does not say that a task is
completed. -/
theorem mark_of_used_workflow :
    let g : Workflow Rat := Workflow.empty.insertTask (.ofCost 0 "" 0 (.sequential 1 1 1))
    let used := ((begun g).callAll [.next, .complete 0]).workflow
    empty.start g = .ok (begun g) ∧ empty.start used = .ok (begun used) ∧
      (begun used).phase? 0 = some .ready ∧ ((begun used).task? 0).map Task.done = some true ∧
      ¬ ∀ t, (begun used).task? 0 = some t → (t.done = true ↔ (begun used).phase? 0 = some .completed) := by
  intro g used
  have hg : empty.start g = .ok (begun g) :=
    start_of_closed rfl (g.danglingLink?_eq_none_iff.mp (by decide +kernel))
  have hu : empty.start used = .ok (begun used) :=
    start_of_closed rfl (used.danglingLink?_eq_none_iff.mp (by decide +kernel))
  have hp : (begun used).phase? 0 = some .ready := by decide +kernel
  have hd : ((begun used).task? 0).map Task.done = some true := by decide +kernel
  refine ⟨hg, hu, hp, hd, fun h => ?_⟩
  obtain ⟨t, ht, hd⟩ := Option.map_eq_some_iff.mp hd
  cases hp.symm.trans ((h t ht).mp hd)

end Progress

end Dispatch
