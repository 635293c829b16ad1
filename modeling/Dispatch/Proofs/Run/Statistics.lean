import Dispatch.Proofs.Cluster.Summary
import Dispatch.Proofs.Run.Accounting
import Dispatch.Proofs.Run.Onward

namespace Dispatch

open Scheduler Cluster

section completionTimes

variable {τ : Type}

def completionTimes (out : Array (Notice τ)) : List τ :=
  ((deliveredAt out).filter fun x => x.2.completes?.isSome).map Prod.fst

lemma completionTimes_append (out out' : Array (Notice τ)) :
    completionTimes (out ++ out') = completionTimes out ++ completionTimes out' := by
  rw [completionTimes, deliveredAt_append, List.filter_append, List.map_append]
  rfl

lemma completionTimes_sublist (out : Array (Notice τ)) :
    (completionTimes out).Sublist ((deliveredAt out).map Prod.fst) := List.filter_sublist.map Prod.fst

end completionTimes

namespace Run

variable {τ : Type} [Time τ] {g : Workflow τ} {pool : Array ComputeUnit} {h : List (Event τ)}
  {c : Scheduler NamedPolicy τ} {e : Cluster τ} {r r' : Run NamedPolicy τ} {out notices : Array (Notice τ)}

omit [Time τ] in
lemma Traced.ended_cases (ht : Traced g pool h c e) (id : TaskId) :
    (∃ r, e.record? id = some r ∧ r.ended = true ∧ c.progress.phase? id = some .completed ∧
      c.unitFor? id = some r.unit) ∨
    (∀ r, e.record? id = some r → r.ended = false) ∧ c.progress.phase? id ≠ some .completed := by
  refine (ht.working.joined.finished_cases id).imp ?_ (And.imp_left fun hn r hr => ?_)
  · rintro ⟨r, hr, hf, hc⟩
    exact ⟨r, hr, by rw [Record.ended, hf, ht.begun id r hr hf]; rfl, hc⟩
  · rw [Record.ended, hn r hr]
    exact Bool.and_false _

omit [Time τ] in
lemma Traced.countP_ended (ht : Traced g pool h c e) (q : UnitId → Bool) :
    e.recorded.countP (fun r => r.ended && q r.unit) =
      g.ids.countP fun id => c.progress.phase? id == some .completed && (c.unitFor? id).any q := by
  rw [countP_eq_total, countP_eq_total,
    total_recorded _ g.nodup_ids ht.working.joined.mem_ids_of_record]
  refine total_congr fun id _ => ?_
  rcases ht.ended_cases id with ⟨r, hr, he, hp, hu⟩ | ⟨hn, hp⟩
  · simp [hr, he, hp, hu]
  · cases hr : e.record? id with
    | none => simp [beq_eq_false_iff_ne.mpr hp]
    | some r => simp [hn r hr, beq_eq_false_iff_ne.mpr hp]

omit [Time τ] in
lemma Traced.completed_of_last (ht : Traced g pool h c e) (he : e.events = 0)
    (hs : ∀ id, c.progress.phase? id ≠ some .submitted) {l : List (Event τ)} {event : Event τ} {id : TaskId}
    (hh : h = l ++ [event]) (hi : event.taskId? = some id) : ∃ u, event = .completed id u := by
  have ha : about h id = about l id ++ [event] := hh ▸ about_append_self hi
  obtain ⟨p, _, hc, hl, rfl | ⟨d, u, rfl⟩ | ⟨u, rfl⟩⟩ := ht.place_of_ended he id
  · rw [show about h id = [] from hl] at ha
    simp at ha
  · exact (hs id hc.2.1).elim
  · obtain ⟨d, hl⟩ := hl
    refine ⟨u, ?_⟩
    have hlast := congrArg List.getLast? (ha.symm.trans hl)
    simpa using hlast

lemma Course.exists_last {n : ℕ} (hc : Course n h e) {event : Event τ} (hm : event ∈ h)
    (hi : event.taskId? ≠ none) : ∃ l x, h = l ++ [x] ∧ x.taskId? ≠ none := by
  have hp (event : Event τ) (hm : event ∈ (List.range n).map .provisioned ++ [.ready]) :
      event.taskId? = none := by
    simp only [List.mem_append, List.mem_map, List.mem_singleton] at hm
    obtain ⟨k, _, rfl⟩ | rfl := hm <;> rfl
  rcases hc with ⟨k, hk, rfl, _⟩ | ⟨rest, rfl, hr, _⟩
  · obtain ⟨v, _, rfl⟩ := List.mem_map.mp hm
    exact (hi rfl).elim
  · rcases List.eq_nil_or_concat rest with rfl | ⟨rest, x, rfl⟩
    · exact (hi (hp event hm)).elim
    · rw [List.concat_eq_append] at hr ⊢
      refine ⟨(List.range n).map .provisioned ++ .ready :: rest, x, ?_, ?_⟩
      · rw [List.append_assoc, List.cons_append]
      · exact hr x (List.mem_append_right rest List.mem_cons_self)

structure Dated (r : Run NamedPolicy τ) (out : Array (Notice τ)) : Prop where
  clocked : r.cluster.Clocked
  shown : ∀ x ∈ (deliveredAt out).map Prod.fst, Shown x
  time : r.time = ((deliveredAt out).map Prod.fst).getLast?.getD Time.zero
  finished : ∀ x, x ∈ completionTimes out ↔ ∃ id, r.cluster.finished? id = some x

lemma dated_ofPool (g : Workflow τ) (policy : NamedPolicy) : Dated (ofPool pool g policy) #[] where
  clocked := temporal_clocked.startUnits (clocked_ofPool pool)
  shown x hx := (List.not_mem_nil hx).elim
  time := clock_startUnits _
  finished x := by
    refine ⟨fun hx => (List.not_mem_nil hx).elim, fun ⟨id, hx⟩ => ?_⟩
    have hr : (ofPool pool g policy).cluster.record? id = none := (At.ofPool pool id).startUnits.record
    rw [finished?, hr] at hx
    cases hx

lemma Dated.step (h : Dated r out) (hl : ∀ k, ∃ q, r.cluster.At k q) (hs : r.step? = some (r', notices)) :
    Dated r' (out ++ notices) := by
  obtain ⟨event, e, out', hn, hd, he⟩ := deliveredAt_of_step? hs
  obtain ⟨a, rfl, hn, _⟩ := exists_deleteMin?_of_next? hn
  have hk := h.clocked.next hn
  have ht : r'.time = e.clock := by rw [Run.time, he, clock_performed]
  refine ⟨?_, fun x hx => ?_, ?_, fun x => ?_⟩
  · rw [he]
    exact temporal_clocked.performed hk _
  · rw [deliveredAt_append, List.map_append, List.mem_append, hd] at hx
    rcases hx with hx | hx
    · exact h.shown x hx
    · rw [List.mem_singleton.mp hx]
      exact hk.now
  · rw [ht, deliveredAt_append, hd, List.map_append]
    simp
  · have hc : x ∈ completionTimes notices ↔ x = e.clock ∧ ∃ id, a.event.completes? = some id := by
      rw [completionTimes, hd, ← Option.isSome_iff_exists]
      simp
    rw [completionTimes_append, List.mem_append, h.finished, hc]
    simp only [he, finished?_congr (records_performed _ _ _ _), finished?_handle hl hn.drawn]
    constructor
    · rintro (⟨id, hid⟩ | ⟨rfl, id, hid⟩)
      · -- whoever completes now has not finished before
        refine ⟨id, ?_⟩
        rw [if_neg, hid]
        intro hc
        obtain ⟨u, hev⟩ := Event.completes?_eq_some_iff.mp hc
        obtain ⟨q, hq⟩ := hl id
        obtain rfl := Place.eq_running (hq.mem_events (hev ▸ hn.drawn.mem) rfl)
        rw [hq.finished?_running] at hid
        cases hid
      · exact ⟨id, if_pos hid⟩
    · rintro ⟨id, hid⟩
      split at hid
      · rename_i hc
        exact .inr ⟨(Option.some.inj hid).symm, id, hc⟩
      · exact .inl ⟨id, hid⟩

section agreement

variable (ht : Traced g pool (deliveries out) r.scheduler r.cluster)

include ht

omit [Time τ] in
lemma Traced.completed_eq : r.cluster.recorded.countP Record.ended = r.scheduler.progress.completed := by
  have hf := ht.working.joined.faithful
  have hc := ht.countP_ended fun _ => true
  rw [hf.sound.completed, hf.countIn_eq_total, ← countP_eq_total]
  simp only [Bool.and_true] at hc
  rw [hc]
  refine List.countP_congr fun id _ => ?_
  rcases ht.ended_cases id with ⟨_, _, _, hp, hu⟩ | ⟨_, hp⟩
  · simp [hp, hu]
  · simp [hp]

omit [Time τ] in
lemma Traced.perUnit_eq (u : UnitId) : r.cluster.recorded.countP (fun r => r.ended && r.unit == u) =
    g.ids.countP fun id =>
      r.scheduler.progress.phase? id = some .completed ∧ r.scheduler.unitFor? id = some u := by
  rw [ht.countP_ended fun v => v == u]
  refine List.countP_congr fun id _ => ?_
  rcases ht.ended_cases id with ⟨_, _, _, hp, hu⟩ | ⟨_, hp⟩
  · simp [hp, hu]
  · simp [hp]

lemma Traced.time_of_ended (hd : Dated r out) (hc : Course pool.size (deliveries out) r.cluster)
    (hu : ∀ u ∈ pool, 0 < u.cores) (hs : r.step? = none) (hn : completionTimes out ≠ []) :
    (completionTimes out).getLast?.getD Time.zero = r.time := by
  have he : r.cluster.events = 0 := step?_eq_none_iff.mp hs
  have hw := ht.working.phase?_ne_submitted he fun u h => UInt32.lt_iff_toNat_lt.mp (hu u h)
  obtain ⟨x, hx⟩ := List.exists_mem_of_ne_nil _ hn
  obtain ⟨⟨time, event⟩, hm, -⟩ := List.mem_map.mp hx
  obtain ⟨hm, hi⟩ := List.mem_filter.mp hm
  obtain ⟨id, hi⟩ := Option.isSome_iff_exists.mp hi
  obtain ⟨u, rfl⟩ := Event.completes?_eq_some_iff.mp hi
  have hmem : .completed id u ∈ deliveries out := map_deliveredAt out ▸ List.mem_map_of_mem hm
  -- the last event is about a task, and where no task is left over it is a completion
  obtain ⟨l, y, hl, hy⟩ := hc.exists_last hmem (by simp [Event.taskId?])
  obtain ⟨k, hk⟩ := Option.ne_none_iff_exists'.mp hy
  obtain ⟨v, rfl⟩ := ht.completed_of_last he hw hl hk
  rw [← map_deliveredAt, List.map_eq_append_iff] at hl
  obtain ⟨before, last, hb, -, hlast⟩ := hl
  obtain ⟨⟨time, _⟩, rfl, rfl⟩ := List.map_eq_singleton_iff.mp hlast
  rw [hd.time, completionTimes, hb]
  simp [Event.completes?]

variable [Chronological τ] (hd : Dated r out) (ho : r.Onward out)

include hd ho

lemma Dated.makespan_eq : r.summary.makespan = (completionTimes out).getLast?.getD Time.zero := by
  obtain ⟨_, _, _, hm, _⟩ := summary_counts r.cluster
  have hs := List.Pairwise.sublist (completionTimes_sublist out) (List.pairwise_append.mp ho.sorted).1
  have hshown (x : τ) (hx : x ∈ completionTimes out) : Shown x :=
    hd.shown x ((completionTimes_sublist out).subset hx)
  have hfin (x : τ) : x ∈ (ends r.cluster.recorded).map (·.2.2) ↔ x ∈ completionTimes out :=
    (mem_finishes ht.begun).trans (hd.finished x).symm
  rw [summary, hm]
  cases hl : (completionTimes out).getLast? with
  | none =>
    have hn := List.getLast?_eq_none_iff.mp hl
    refine foldl_max_eq Chronological.max_of_le .zero (.refl _) (fun y hy => ?_) List.mem_cons_self
    rw [hfin, hn] at hy
    cases hy
  | some x =>
    -- the completions were delivered in the order of their times, so that the last one is the latest
    obtain ⟨l, hl⟩ := List.getLast?_eq_some_iff.mp hl
    have hx : x ∈ completionTimes out := by
      rw [hl]
      exact List.mem_append_right l List.mem_cons_self
    refine foldl_max_eq Chronological.max_of_le .zero (hshown x hx).nonneg (fun y hy => ?_)
      (List.mem_cons_of_mem _ ((hfin x).mpr hx))
    rw [hfin] at hy
    refine ⟨hshown y hy, ?_⟩
    rw [hl] at hs hy
    rcases List.mem_append.mp hy with hy | hy
    · exact (List.pairwise_append.mp hs).2.2 y hy x List.mem_cons_self
    · rw [List.mem_singleton.mp hy]
      exact .refl x

lemma Dated.makespan_le_time : Time.Le r.summary.makespan r.time := by
  rw [hd.makespan_eq ht ho]
  cases hl : (completionTimes out).getLast? with
  | none => exact ho.ahead.nonneg
  | some x =>
    have hx := (completionTimes_sublist out).subset (List.mem_of_getLast? hl)
    exact (List.pairwise_append.mp ho.sorted).2.2 x hx _ List.mem_cons_self

end agreement

section advance

variable (g : Workflow τ) {name : String} {policy : NamedPolicy}
  (hp : NamedPolicy.ofName? name pool.size = some policy) (n : ℕ)

include hp

lemma dated_advance :
    let r := (ofPool pool g policy).advance n #[]
    Traced g pool (deliveries r.2.2) r.2.1.scheduler r.2.1.cluster ∧ Dated r.2.1 r.2.2 :=
  advance_notices
    (P := fun r out => Traced g pool (deliveries out) r.scheduler r.cluster ∧ Dated r out)
    (fun _ _ _ _ hs h => ⟨h.1.step hs, h.2.step (fun k => (h.1.remembers k).imp fun _ => And.left) hs⟩)
    n #[] ⟨traced_ofPool g hp, dated_ofPool g policy⟩

lemma course_advance [Std.TransCmp (Time.compare (τ := τ))] :
    let r := (ofPool pool g policy).advance n #[]
    Course pool.size (deliveries r.2.2) r.2.1.cluster :=
  (advance_notices
    (P := fun r out => Traced g pool (deliveries out) r.scheduler r.cluster ∧
      Course pool.size (deliveries out) r.cluster)
    (fun _ _ _ _ hs h => ⟨h.1.step hs, h.1.course_step h.2 hs⟩)
    n #[] ⟨traced_ofPool g hp, course_ofPool g policy⟩).2

end advance

/-- In every state of a run the summary counts the tasks that the scheduler holds to be completed, each on the unit
to which it was assigned. The makespan is the time at which the last completion was delivered, and when a run in which
something was completed has ended, the clock shows it. -/
theorem summary_agrees (g : Workflow τ) (pool : Array ComputeUnit) (name : String) (policy : NamedPolicy)
    (hp : NamedPolicy.ofName? name pool.size = some policy) (n : ℕ) :
    let r := (ofPool pool g policy).advance n #[]
    let s := r.2.1
    let times := completionTimes r.2.2
    s.summary.completed = s.scheduler.progress.completed ∧
    s.summary.working.size = s.scheduler.progress.completed ∧
    s.summary.waiting.size = s.scheduler.progress.completed ∧
    (∀ u, s.summary.perUnit[u]? = if u < pool.size then some (g.ids.countP fun id =>
      s.scheduler.progress.phase? id = some .completed ∧ s.scheduler.unitFor? id = some u) else none) ∧
    ∀ [Chronological τ], s.summary.makespan = times.getLast?.getD Time.zero ∧
      Time.Le s.summary.makespan s.time ∧
      ((∀ u ∈ pool, 0 < u.cores) → s.step? = none → times ≠ [] → s.summary.makespan = s.time) := by
  intro r s times
  obtain ⟨ht, hd⟩ := dated_advance g hp n
  obtain ⟨hc, hw, hq, _, hu⟩ := summary_counts s.cluster
  rw [ht.completed_eq] at hc hw hq
  refine ⟨hc, hw, hq, fun u => ?_, ?_⟩
  · rw [← ht.perUnit_eq, ← ht.working.joined.houses.size]
    exact hu u
  · intro _
    have ho : s.Onward r.2.2 := advance_notices (P := Onward) (fun _ _ _ _ hs h => h.step hs) n #[]
      (onward_ofPool pool g policy)
    have hm := hd.makespan_eq ht ho
    refine ⟨hm, hd.makespan_le_time ht ho, fun hcores hs hn => ?_⟩
    exact hm.trans (ht.time_of_ended hd (course_advance g hp n) hcores hs hn)

theorem summary_agrees_pair :
    let task (id : TaskId) : Task Binary64 := .ofCost id "" 0 (.sequential 1 1 1)
    let g : Workflow Binary64 :=
      (((Workflow.empty.insertTask (task 0)).insertTask (task 1)).insertTask (task 2)).link 2 2
    let pool : Array ComputeUnit := #[⟨0, "", 1, 1, 1⟩, ⟨1, "", 2, 1, 1⟩]
    let r := (ofPool pool g (.leastLoaded ⟨.ofSize 2⟩ : NamedPolicy)).advance 20 #[]
    let s := r.2.1
    s.scheduler.progress.completed = 2 ∧ s.summary.completed = 2 ∧ (completionTimes r.2.2).length = 2 ∧
      s.summary.perUnit[0]? = some 1 ∧ s.summary.makespan = s.time := by
  intro task g pool r s
  obtain ⟨hc, _, _, hu, hm⟩ := summary_agrees g pool "LeastLoaded" (.leastLoaded ⟨.ofSize 2⟩) rfl 20
  have hn : s.scheduler.progress.completed = 2 := by decide +kernel
  have ht : (completionTimes r.2.2).length = 2 := by decide +kernel
  refine ⟨hn, hc.trans hn, ht, (hu 0).trans (by decide +kernel), hm.2.2 (by decide) ?_ ?_⟩
  · exact step?_eq_none_iff.mpr (by decide +kernel)
  · exact List.ne_nil_of_length_eq_add_one ht

end Run

end Dispatch
