import Dispatch.Proofs.Scheduler.Hearing

namespace Dispatch.Scheduler

variable {σ τ : Type} {g : Workflow τ} {c : Scheduler σ τ} {time : τ}
  {events : List (τ × Event τ)} {log : List (List (Job τ × UnitId))} {b : List (Job τ × UnitId)}
  {k n : ℕ} {id p : TaskId}

def SubmittedAt (log : List (List (Job τ × UnitId))) (k : ℕ) (id : TaskId) : Prop :=
  id ∈ (log.getD k []).map fun x => x.1.taskId

def ReportedAt (events : List (τ × Event τ)) (k : ℕ) (id : TaskId) : Prop :=
  ∃ time u, events[k]? = some (time, .completed id u)

def EndedBefore (events : List (τ × Event τ)) (log : List (List (Job τ × UnitId))) (n : ℕ)
    (id : TaskId) : Prop :=
  ∃ i j, i < j ∧ j < n ∧ SubmittedAt log i id ∧ ReportedAt events j id

def submittedIds (log : List (List (Job τ × UnitId))) : List TaskId :=
  log.flatten.map fun x => x.1.taskId

lemma submittedAt_append : SubmittedAt (log ++ [b]) k id ↔
    SubmittedAt log k id ∨ k = log.length ∧ id ∈ b.map fun x => x.1.taskId := by
  simp only [SubmittedAt]
  rcases Nat.lt_trichotomy k log.length with h | h | h
  · simp [List.getElem?_append_left h, h.ne]
  · simp [h]
  · simp [List.getElem?_eq_none h.le, List.getElem?_append_right h.le, h.ne',
      Nat.sub_ne_zero_of_lt h]

lemma submittedIds_append : submittedIds (log ++ [b]) =
    submittedIds log ++ b.map fun x => x.1.taskId := by
  simp [submittedIds]

lemma exists_submittedAt (h : id ∈ submittedIds log) : ∃ k < log.length, SubmittedAt log k id := by
  obtain ⟨x, hx, rfl⟩ := List.mem_map.mp h
  obtain ⟨b, hb, hx⟩ := List.mem_flatten.mp hx
  obtain ⟨k, hk, rfl⟩ := List.getElem_of_mem hb
  refine ⟨k, hk, List.mem_map.mpr ⟨x, ?_, rfl⟩⟩
  rwa [List.getD_eq_getElem?_getD, List.getElem?_eq_getElem hk]

lemma ReportedAt.append (h : ReportedAt events k id) (x : τ × Event τ) :
    ReportedAt (events ++ [x]) k id := by
  obtain ⟨time, u, hk⟩ := h
  have hl := (List.getElem?_eq_some_iff.mp hk).1
  exact ⟨time, u, by rw [List.getElem?_append_left hl, hk]⟩

structure Chronicle (g : Workflow τ) (events : List (τ × Event τ))
    (log : List (List (Job τ × UnitId))) (c : Scheduler σ τ) : Prop where
  length : log.length = events.length
  submitted : ∀ id, id ∈ submittedIds log ↔
    c.progress.phase? id = some .submitted ∨ c.progress.phase? id = some .completed
  nodup : (submittedIds log).Nodup
  job : ∀ x ∈ log.flatten, ∃ t, g.task? x.1.taskId = some t ∧ x.1 = t.job
  completed : ∀ id, c.progress.phase? id = some .completed → EndedBefore events log events.length id
  ordered : ∀ k id p, SubmittedAt log k id → id ∈ g.children p → EndedBefore events log (k + 1) p

lemma Chronicle.append (h : Chronicle g events log c) (x : τ × Event τ) {c' : Scheduler σ τ}
    (hs : ∀ id, c'.progress.phase? id = some .submitted ∨ c'.progress.phase? id = some .completed ↔
      c.progress.phase? id = some .submitted ∨ c.progress.phase? id = some .completed)
    (hc : ∀ id, c'.progress.phase? id = some .completed → c.progress.phase? id = some .completed ∨
      c.progress.phase? id = some .submitted ∧ ReportedAt (events ++ [x]) events.length id) :
    Chronicle g (events ++ [x]) (log ++ [[]]) c' := by
  have hl (k : ℕ) (id : TaskId) : SubmittedAt (log ++ [[]]) k id ↔ SubmittedAt log k id := by
    simp [submittedAt_append]
  have he {n : ℕ} {id : TaskId} (hd : EndedBefore events log n id) :
      EndedBefore (events ++ [x]) (log ++ [[]]) n id := by
    obtain ⟨i, j, hij, hj, hi, hr⟩ := hd
    exact ⟨i, j, hij, hj, (hl i id).mpr hi, hr.append x⟩
  have hi : submittedIds (log ++ [[]]) = submittedIds log := by simp [submittedIds_append]
  refine ⟨by simp [h.length], fun id => ?_, by rw [hi]; exact h.nodup, by simpa using h.job,
    fun id hd => ?_, fun k id p hk hp => he (h.ordered k id p ((hl k id).mp hk) hp)⟩
  · rw [hi, h.submitted, hs]
  · rw [List.length_append, List.length_singleton]
    rcases hc id hd with hd | ⟨hd, hr⟩
    · obtain ⟨i, j, hij, hj, hi, hr⟩ := he (h.completed id hd)
      exact ⟨i, j, hij, hj.trans (Nat.lt_succ_self _), hi, hr⟩
    · obtain ⟨i, hi, hs⟩ := exists_submittedAt ((h.submitted id).mpr (Or.inl hd))
      exact ⟨i, events.length, h.length ▸ hi, Nat.lt_succ_self _, (hl i id).mpr hs, hr⟩

lemma Chronicle.submit (h : Chronicle g events (log ++ [b]) c) {c' : Scheduler σ τ} {t t₀ : Task τ}
    (u : UnitId) (hp : ∀ k, c'.progress.phase? k =
      if t.id = k then some .submitted else c.progress.phase? k)
    (hr : c.progress.phase? t.id = some .ready) (ht : g.task? t.id = some t₀) (hj : t₀.job = t.job)
    (hd : ∀ p, t.id ∈ g.children p → c.progress.phase? p = some .completed) :
    Chronicle g events (log ++ [b ++ [(t.job, u)]]) c' := by
  have hl : log.length + 1 = events.length := by simpa using h.length
  have hm (k : ℕ) (id : TaskId) : SubmittedAt (log ++ [b ++ [(t.job, u)]]) k id ↔
      SubmittedAt (log ++ [b]) k id ∨ k = log.length ∧ id = t.id := by
    simp only [submittedAt_append, List.map_append, List.mem_append, List.map_cons, List.map_nil,
      List.mem_singleton, and_or_left, or_assoc]
    rfl
  have he {n : ℕ} {id : TaskId} (hd : EndedBefore events (log ++ [b]) n id) :
      EndedBefore events (log ++ [b ++ [(t.job, u)]]) n id := by
    obtain ⟨i, j, hij, hj, hi, hr⟩ := hd
    exact ⟨i, j, hij, hj, (hm i id).mpr (Or.inl hi), hr⟩
  have hi : submittedIds (log ++ [b ++ [(t.job, u)]]) = submittedIds (log ++ [b]) ++ [t.id] := by
    simp [submittedIds_append, Task.job]
  refine ⟨by simpa using h.length, fun id => ?_, ?_, fun x hx => ?_, fun id hc => ?_,
    fun k id p hk hc => ?_⟩
  · rw [hi, List.mem_append, List.mem_singleton, h.submitted, hp]
    by_cases hk : t.id = id
    · simp [hk]
    · simp [hk, Ne.symm hk]
  · rw [hi, List.nodup_append]
    refine ⟨h.nodup, List.nodup_singleton _, ?_⟩
    rintro a ha b hb rfl
    rw [List.mem_singleton.mp hb, h.submitted, hr] at ha
    simp at ha
  · have hx' : x ∈ (log ++ [b]).flatten ∨ x = (t.job, u) := by
      simpa [or_assoc] using hx
    rcases hx' with hx | rfl
    · exact h.job x hx
    · exact ⟨t₀, ht, hj.symm⟩
  · rw [hp] at hc
    split at hc
    · cases hc
    · exact he (h.completed id hc)
  · rcases (hm k id).mp hk with hk | ⟨rfl, rfl⟩
    · exact he (h.ordered k id p hk hc)
    · rw [hl]
      exact he (h.completed p (hd p hc))

variable [Policy σ τ] {event : Event τ} {s s' : Scheduler σ τ × Array (Action τ)}

lemma Opening.chronicle (h : Opening c time event s) (hf : Faithful g c)
    (hc : Chronicle g events log c) :
    Chronicle g (events ++ [(time, event)]) (log ++ [submissions s.2]) s.1 := by
  cases h with
  | quiet => exact hc.append _ (fun _ => Iff.rfl) fun _ => Or.inl
  | ignored => exact hc.append _ (fun _ => Iff.rfl) fun _ => Or.inl
  | malformed => exact hc.append _ (fun _ => Iff.rfl) fun _ => Or.inl
  | start he hw hs =>
    obtain ⟨_, _, rfl⟩ := Progress.start_eq_ok hs
    have he := hf.unstarted (hf.waiting _ hw).2
    refine hc.append _ (fun id => ?_) fun id hd => absurd hd (Progress.phase?_begun_ne _ id).2
    simp only [Progress.phase?_begun_ne, he, Progress.phase?_empty, reduceCtorEq, or_self]
  | refuse => exact hc.append _ (fun _ => Iff.rfl) fun _ => Or.inl
  | @finish id u policy fault he hs hp hr =>
    have hq : submissions ((#[Action.forward (.completed id u)] ++
        (fault.map fun f => Action.note (.policy f)).toArray).push (.note (.scheduler time
          (.completedTask id (c.progress.finish id).2.size)))) = [] := by
      rw [submissions_note]
      cases fault <;> rfl
    rw [hq]
    refine hc.append _ (fun k => ?_) fun k hk => ?_
    · rw [hf.sound.submitted_finish hp, hf.sound.completed_finish hp]
      by_cases hk : k = id
      · simp [hk, hp]
      · simp [hk]
    · rcases (hf.sound.completed_finish hp k).mp hk with rfl | hk
      · exact Or.inr ⟨hp, time, u, by simp⟩
      · exact Or.inl hk

lemma Move.chronicle (h : Move time s s') (hf : Faithful g s.1)
    (hc : Chronicle g events (log ++ [submissions s.2]) s.1) :
    Chronicle g events (log ++ [submissions s'.2]) s'.1 := by
  cases h with
  | finish =>
    rw [submissions_note]
    exact ⟨hc.length, hc.submitted, hc.nodup, hc.job, hc.completed, hc.ordered⟩
  | fail =>
    rw [submissions_note]
    exact ⟨hc.length, hc.submitted, hc.nodup, hc.job, hc.completed, hc.ordered⟩
  | @submit c acts t u policy id progress he ht hp hn =>
    have hk := Progress.taken_of_next? hn
    obtain ⟨hi, rfl⟩ := Progress.task?_of_peek? ht hk
    have hr := hf.sound.phase?_of_taken hk
    have ha := hf.alike (hf.started hr)
    have hj : (g.task? t.id).map Task.job = some t.job := by
      rw [← ha.job, show c.progress.workflow.task? t.id = some t from hi, Option.map_some]
    obtain ⟨t₀, ht₀, hj⟩ := Option.map_eq_some_iff.mp hj
    rw [submissions_submit, submissions_note]
    exact hc.submit u (fun k => hf.sound.phase?_taken hk k) hr ht₀ hj fun p hp =>
      hf.completed_of_parent hr (by simp) hp

lemma chronicle_handle (hf : Faithful g c) (hc : Chronicle g events log c) :
    Chronicle g (events ++ [(time, event)]) (log ++ [submissions (c.handle time event).2])
      (c.handle time event).1 := by
  refine (handle_induction (P := fun s => Faithful g s.1 ∧
    Chronicle g (events ++ [(time, event)]) (log ++ [submissions s.2]) s.1) (fun s h => ?_)
    fun s s' h hs => ?_).2
  · exact ⟨h.faithful hf, h.chronicle hf hc⟩
  · exact ⟨h.faithful hs.1, h.chronicle hs.1 hs.2⟩

/-- No task is submitted twice, each as its workflow has it, and between the submissions of a parent and its
child the parent was reported as completed. -/
theorem submissions_in_order (g : Workflow τ) (policy : σ) (events : List (τ × Event τ)) :
    let log := ((ofWorkflow g policy).hearAll events).2.map submissions
    log.length = events.length ∧ (submittedIds log).Nodup ∧
      (∀ x ∈ log.flatten, ∃ t, g.task? x.1.taskId = some t ∧ x.1 = t.job) ∧
      ∀ k id p, SubmittedAt log k id → id ∈ g.children p →
        ∃ i j, i < j ∧ j ≤ k ∧ SubmittedAt log i p ∧ ReportedAt events j p := by
  have hi : Chronicle g [] [] (ofWorkflow g policy) :=
    ⟨rfl, fun id => by simp [ofWorkflow, submittedIds], List.nodup_nil, by simp,
      fun id h => (by simp [ofWorkflow] at h),
      fun k id p h => (by simp [SubmittedAt] at h)⟩
  have h := hearAll_induction
    (P := fun events c answers => Faithful g c ∧ Chronicle g events (answers.map submissions) c)
    (c := ofWorkflow g policy) ⟨faithful_ofWorkflow g policy, hi⟩
    (fun events c answers time event h => ⟨faithful_handle h.1, by
      rw [List.map_append]
      exact chronicle_handle h.1 h.2⟩) events
  obtain ⟨_, h⟩ := h
  refine ⟨h.length, h.nodup, h.job, fun k id p hk hp => ?_⟩
  obtain ⟨i, j, hij, hj, hi, hr⟩ := h.ordered k id p hk hp
  exact ⟨i, j, hij, Nat.le_of_lt_succ hj, hi, hr⟩

end Dispatch.Scheduler
