import Dispatch.Proofs.Cluster.Summary
import Dispatch.Proofs.Cluster.Waiting

namespace Dispatch.Cluster

variable {e e' f : Cluster ℚ} {a : Appointment ℚ} {l : List TaskId} {id k : TaskId} {s t x : ℚ}

def RunsAt (e : Cluster ℚ) (id : TaskId) (x : ℚ) : Prop :=
  ∃ s, e.started? id = some s ∧ s ≤ x ∧ ∀ y, e.finished? id = some y → x < y

def Chained (e : Cluster ℚ) : ℚ → List TaskId → ℚ → Prop
  | s, [], t => s = t
  | s, id :: l, t => ∃ x, e.started? id = some s ∧ e.finished? id = some x ∧ s ≤ x ∧ e.Chained x l t

namespace Chained

lemma le (h : e.Chained s l t) : s ≤ t := by
  induction l generalizing s with
  | nil => exact h.le
  | cons id l ih =>
    obtain ⟨x, _, _, hx, h⟩ := h
    exact hx.trans (ih h)

lemma concat (h : e.Chained s l x) (hs : e.started? id = some x) (hf : e.finished? id = some t) (ht : x ≤ t) :
    e.Chained s (l ++ [id]) t := by
  induction l generalizing s with
  | nil =>
    obtain rfl : s = x := h
    exact ⟨t, hs, hf, ht, rfl⟩
  | cons k l ih =>
    obtain ⟨y, hk, hk', hy, h⟩ := h
    exact ⟨y, hk, hk', hy, ih h⟩

lemma mono (h : e.Chained s l t) (hr : e.Retains f)
    (hf : ∀ id x, e.finished? id = some x → f.finished? id = some x) : f.Chained s l t := by
  induction l generalizing s with
  | nil => exact h
  | cons id l ih =>
    obtain ⟨x, hs, hx, hl, h⟩ := h
    exact ⟨x, hr id s hs, hf id x hx, hl, ih h⟩

lemma exists_of_mem (h : e.Chained s l t) (hm : id ∈ l) :
    ∃ a b, e.started? id = some a ∧ e.finished? id = some b ∧ s ≤ a ∧ b ≤ t := by
  induction l generalizing s with
  | nil => cases hm
  | cons k l ih =>
    obtain ⟨x, hs, hx, hl, h⟩ := h
    rcases List.mem_cons.mp hm with rfl | hm
    · exact ⟨s, x, hs, hx, le_rfl, h.le⟩
    · obtain ⟨a, b, ha, hb, hxa, hbt⟩ := ih h hm
      exact ⟨a, b, ha, hb, hl.trans hxa, hbt⟩

lemma eq_or_finished (h : e.Chained s l t) : t = s ∨ ∃ id, e.finished? id = some t := by
  induction l generalizing s with
  | nil => exact .inl h.symm
  | cons id l ih =>
    obtain ⟨x, _, hx, _, h⟩ := h
    rcases ih h with rfl | hid
    · exact .inr ⟨id, hx⟩
    · exact .inr hid

lemma exists_runsAt (h : e.Chained s l t) (hs : s ≤ x) (ht : x < t) : ∃ id, e.RunsAt id x := by
  induction l generalizing s with
  | nil =>
    obtain rfl : s = t := h
    exact (ht.not_ge hs).elim
  | cons id l ih =>
    obtain ⟨y, ha, hb, _, h⟩ := h
    rcases lt_or_ge x y with hxy | hxy
    · refine ⟨id, s, ha, hs, fun b hb' => ?_⟩
      cases hb.symm.trans hb'
      exact hxy
    · exact ih h hxy

lemma within (h : e.Chained s l t) (hm : id ∈ l) (hr : e.RunsAt id x) : s ≤ x ∧ x < t := by
  obtain ⟨a, b, ha, hb, hsa, hbt⟩ := h.exists_of_mem hm
  obtain ⟨a', ha', hax, hx⟩ := hr
  cases ha.symm.trans ha'
  exact ⟨hsa.trans hax, (hx b hb).trans_le hbt⟩

lemma eq_of_runsAt (h : e.Chained s l t) (hi : id ∈ l) (hk : k ∈ l) (hr : e.RunsAt id x)
    (hr' : e.RunsAt k x) : id = k := by
  induction l generalizing s with
  | nil => cases hi
  | cons j l ih =>
    obtain ⟨y, _, hb, _, h⟩ := h
    -- whoever comes later does not run before the first one finishes
    have later {m : TaskId} (hm : m ∈ l) (hr : e.RunsAt m x) (hj : e.RunsAt j x) : False := by
      obtain ⟨_, _, _, hx⟩ := hj
      exact (hx y hb).not_ge (h.within hm hr).1
    rcases List.mem_cons.mp hi with rfl | hil <;> rcases List.mem_cons.mp hk with rfl | hkl
    · rfl
    · exact (later hkl hr' hr).elim
    · exact (later hil hr hr').elim
    · exact ih h hil hkl

lemma eq_add_sum {length : TaskId → ℚ} (h : e.Chained s l t)
    (hl : ∀ id a b, e.started? id = some a → e.finished? id = some b → b = a + length id) :
    t = s + (l.map length).sum := by
  induction l generalizing s with
  | nil =>
    obtain rfl : s = t := h
    exact (add_zero s).symm
  | cons id l ih =>
    obtain ⟨x, hs, hx, _, h⟩ := h
    rw [ih h, hl id s x hs hx, List.map_cons, List.sum_cons, add_assoc]

end Chained

def Single (e : Cluster ℚ) : Prop := ∀ id k, e.isRunning id = true → e.isRunning k = true → id = k

structure Seamless (e : Cluster ℚ) (l : List TaskId) (t : ℚ) : Prop where
  chain : e.Chained 0 l t
  nodup : l.Nodup
  finished : ∀ id, id ∈ l ↔ (e.finished? id).isSome = true
  running : ∀ id, e.isRunning id = true → e.started? id = some t
  idle : (∀ id, e.isRunning id = false) → t = e.clock
  le : t ≤ e.clock

namespace Seamless

variable (h : e.Seamless l t)

include h

lemma of_eq (hr : f.records = e.records) (hc : f.clock = e.clock) : f.Seamless l t where
  chain := h.chain.mono (retains_of_eq hr) fun id x hx => (finished?_congr hr).trans hx
  nodup := h.nodup
  finished id := by rw [finished?_congr hr, h.finished]
  running id hi := by
    rw [started?_congr hr]
    exact h.running id (isRunning_congr hr ▸ hi)
  idle hi := by
    rw [hc]
    exact h.idle fun id => isRunning_congr hr ▸ hi id
  le := hc ▸ h.le

section handle

variable (hl : ∀ k, ∃ p, e.At k p) (hn : e.Next a e') (hu : ∀ d u, a.event = .arrived d u → u < e.units.size)
  (hc : e.clock ≤ e'.clock)

include hl hn hu hc

omit hc in
lemma handle_quiet (ht : a.event.completes? = none) (hc : e'.clock = e.clock)
    (hs : (e'.handle a.event).1.Single) : (e'.handle a.event).1.Seamless l t := by
  have hr := retains_handle hl hn.drawn hu
  have hk : (e'.handle a.event).1.clock = e.clock := (clock_handle _ _).trans hc
  have hf (id : TaskId) : (e'.handle a.event).1.finished? id = e.finished? id := by
    rw [finished?_handle hl hn.drawn, ht, if_neg (by simp)]
  have stays (id : TaskId) (hi : e.isRunning id = true) : (e'.handle a.event).1.isRunning id = true := by
    obtain ⟨⟨x, hx⟩, hi⟩ := isRunning_iff.mp hi
    exact isRunning_iff.mpr ⟨⟨x, hr id x hx⟩, (hf id).trans hi⟩
  refine ⟨h.chain.mono hr fun id x hx => (hf id).trans hx, h.nodup, fun id => ?_, fun id hi => ?_, fun hi => ?_, ?_⟩
  · rw [hf, h.finished]
  · by_cases hj : ∃ j, e.isRunning j = true
    · obtain ⟨j, hj⟩ := hj
      obtain rfl := hs j id (stays j hj) hi
      exact hr j t (h.running j hj)
    · -- nothing ran, so that the clock shows when the last task finished
      simp only [not_exists, Bool.not_eq_true] at hj
      obtain ⟨⟨x, hx⟩, hi⟩ := isRunning_iff.mp hi
      rcases of_started?_handle hx with ho | rfl
      · rw [started?_congr hn.drawn.records] at ho
        have hb := isRunning_iff.mpr ⟨⟨x, ho⟩, (hf id).symm.trans hi⟩
        rw [hj id] at hb
        cases hb
      · rw [hx, hc, h.idle hj]
  · rw [hk]
    refine h.idle fun id => Bool.eq_false_of_not_eq_true fun hb => ?_
    have hb' := stays id hb
    rw [hi id] at hb'
    cases hb'
  · exact hk ▸ h.le

lemma handle_completed (ht : a.event.completes? = some id) (hs : e.Single) :
    (e'.handle a.event).1.Seamless (l ++ [id]) e'.clock := by
  have hr := retains_handle hl hn.drawn hu
  have hk : (e'.handle a.event).1.clock = e'.clock := clock_handle _ _
  have hf (k : TaskId) : (e'.handle a.event).1.finished? k = if id = k then some e'.clock else e.finished? k := by
    rw [finished?_handle hl hn.drawn, ht]
    simp only [Option.some_inj]
  have hid : e.isRunning id = true := by
    obtain ⟨u, he⟩ := Event.completes?_eq_some_iff.mp ht
    obtain ⟨p, hp⟩ := hl id
    obtain rfl := Place.eq_running (hp.mem_events (he ▸ hn.drawn.mem) rfl)
    exact hp.isRunning
  have hnone : e.finished? id = none := (isRunning_iff.mp hid).2
  have keeps (k : TaskId) (x : ℚ) (hx : e.finished? k = some x) :
      (e'.handle a.event).1.finished? k = some x := by
    rw [hf, if_neg, hx]
    rintro rfl
    rw [hnone] at hx
    cases hx
  refine ⟨(h.chain.mono hr keeps).concat (hr id t (h.running id hid)) ((hf id).trans (if_pos rfl)) (h.le.trans hc),
    ?_, fun k => ?_, fun k hi => ?_, fun _ => hk.symm, hk.ge⟩
  · rw [← List.concat_eq_append]
    refine h.nodup.concat ?_
    rw [h.finished, hnone]
    exact Bool.false_ne_true
  · rw [List.mem_append, List.mem_singleton, h.finished, hf]
    by_cases hik : id = k
    · simp [hik]
    · simp [hik, Ne.symm hik]
  · -- what was running before has completed
    obtain ⟨⟨x, hx⟩, hi⟩ := isRunning_iff.mp hi
    rcases of_started?_handle hx with ho | rfl
    · rw [started?_congr hn.drawn.records] at ho
      rw [hf] at hi
      split at hi
      · cases hi
      · rename_i hik
        exact (hik (hs id k hid (isRunning_iff.mpr ⟨⟨x, ho⟩, hi⟩))).elim
    · exact hx

end handle

lemma runsAt_cases (hr : e.RunsAt id x) : id ∈ l ∨ e.isRunning id = true ∧ t ≤ x := by
  obtain ⟨s, hs, hx, _⟩ := hr
  cases hf : e.finished? id with
  | some y => exact .inl ((h.finished id).mpr (by rw [hf]; rfl))
  | none =>
    have hi : e.isRunning id = true := isRunning_iff.mpr ⟨⟨s, hs⟩, hf⟩
    cases hs.symm.trans (h.running id hi)
    exact .inr ⟨hi, hx⟩

lemma eq_of_runsAt (hs : e.Single) (hr : e.RunsAt id x) (hr' : e.RunsAt k x) : id = k := by
  rcases h.runsAt_cases hr with hi | ⟨hi, ht⟩ <;> rcases h.runsAt_cases hr' with hk | ⟨hk, ht'⟩
  · exact h.chain.eq_of_runsAt hi hk hr hr'
  · exact ((h.chain.within hi hr).2.not_ge ht').elim
  · exact ((h.chain.within hk hr').2.not_ge ht).elim
  · exact hs id k hi hk

lemma exists_runsAt (hx : 0 ≤ x) (hc : x < e.clock) : ∃ id, e.RunsAt id x := by
  rcases lt_or_ge x t with ht | ht
  · exact h.chain.exists_runsAt hx ht
  · by_contra hn
    refine (ht.trans_lt hc).ne (h.idle fun id => Bool.eq_false_of_not_eq_true fun hi => hn ⟨id, t, ?_⟩)
    refine ⟨h.running id hi, ht, fun y hy => ?_⟩
    rw [(isRunning_iff.mp hi).2] at hy
    cases hy

lemma makespan_eq : e.summary.makespan = t := by
  obtain ⟨_, _, _, hm, _⟩ := summary_counts e
  have hfin (y : ℚ) : y ∈ (ends e.recorded).map (·.2.2) ↔ ∃ id, e.finished? id = some y := by
    refine mem_finishes fun id r hr hf => ?_
    have hi : id ∈ l := by rwa [h.finished, finished?, hr, Option.bind_some]
    obtain ⟨b, _, hb, _⟩ := h.chain.exists_of_mem hi
    rw [started?, hr, Option.bind_some] at hb
    rw [hb]
    rfl
  rw [hm]
  refine foldl_max_eq (S := fun _ => True) (fun _ _ => max_of_le_rat) trivial (le_rat_iff.mpr h.chain.le)
    (fun y hy => ⟨trivial, le_rat_iff.mpr ?_⟩) ?_
  · obtain ⟨id, hid⟩ := (hfin y).mp hy
    obtain ⟨_, b, _, hb, _, hbt⟩ := h.chain.exists_of_mem ((h.finished id).mpr (by rw [hid]; rfl))
    cases hid.symm.trans hb
    exact hbt
  · rcases h.chain.eq_or_finished with rfl | hid
    · exact List.mem_cons_self
    · exact List.mem_cons_of_mem _ ((hfin t).mpr hid)

end Seamless

def Undelayed (e : Cluster ℚ) : Prop := ∀ a ∈ e.calendar.toList, a.event.taskId? = none → a.time = e.clock

lemma temporal_undelayed : Temporal Undelayed where
  of_eq hc hq h := by
    rw [Undelayed, hc, hq]
    exact h
  schedule {e} event delay _ hz h := by
    intro a ha hi
    rcases List.mem_cons.mp ((appointments_schedule e event delay).mem_iff.mp ha) with rfl | ha
    · rw [hz hi]
      exact add_zero e.clock
    · exact h a ha hi

lemma Undelayed.next (h : e.Undelayed) (hn : e.Next a e') (hc : e.clock ≤ a.time)
    (hf : ∀ b ∈ e'.calendar.toList, b.before a = false) : e'.Undelayed := by
  intro b hb hi
  have hbe := h b (hn.calendar.mem_iff.mpr (List.mem_cons_of_mem a hb)) hi
  rw [hn.clock]
  exact le_antisymm (hbe ▸ hc) (time_le_of_before (hf b hb))

lemma Timely.clock_eq_of_next {g : Workflow ℚ} {pool : Array ComputeUnit} (h : Timely g pool e) (hs : e.Undelayed)
    (hg : ∀ id t, g.task? id = some t → t.notBefore ≤ 0) (hn : e.Next a e') (ha : a.event.completes? = none) :
    e'.clock = e.clock := by
  have hm := hn.calendar.mem_iff.mpr List.mem_cons_self
  obtain ⟨hle, hmeets⟩ := h.meets a hm
  rw [hn.clock]
  cases he : a.event with
  | provisioned | ready => exact hs a hm (by rw [he]; rfl)
  | completed => simp [he, Event.completes?] at ha
  | arrived d u =>
    rw [he] at hmeets
    obtain ⟨_, t, ht, hgreatest, _⟩ := hmeets
    refine le_antisymm ?_ hle
    rcases hgreatest with hz | hz | ⟨p, _, hp⟩
    · exact hz.trans_le h.nonneg
    · exact hz.trans_le ((hg _ t ht).trans h.nonneg)
    · exact h.finished_le hp

end Dispatch.Cluster
