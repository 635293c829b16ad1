import Dispatch.Proofs.Placement
import Dispatch.Proofs.Scheduler.Hearing

/-! The load of a unit is the number of submitted tasks that were assigned to it, whatever events the
scheduler is told, and no release is ever refused. -/

namespace Dispatch.Scheduler

section counting

variable {σ τ : Type} {c : Scheduler σ τ} {id : TaskId} {u : UnitId}

def flies (c : Scheduler σ τ) (u : UnitId) (id : TaskId) : Bool :=
  c.progress.phase? id == some .submitted && c.unitFor? id == some u

def inFlight (c : Scheduler σ τ) (u : UnitId) : ℕ := c.progress.workflow.ids.countP (c.flies u)

lemma flies_iff :
    c.flies u id = true ↔ c.progress.phase? id = some .submitted ∧ c.unitFor? id = some u := by
  rw [flies, Bool.and_eq_true, beq_iff_eq, beq_iff_eq]

lemma inFlight_change (c c' : Scheduler σ τ) (v : UnitId)
    (hk : c'.progress.workflow.tasks.keys = c.progress.workflow.tasks.keys)
    (hm : c.progress.workflow.contains id = true)
    (ho : ∀ k, k ≠ id → (c'.flies v k = true ↔ c.flies v k = true)) :
    c'.inFlight v + (c.flies v id).toNat = c.inFlight v + (c'.flies v id).toNat := by
  have hi : c'.progress.workflow.ids = c.progress.workflow.ids := by
    rw [Workflow.ids, hk, Workflow.ids]
  rw [inFlight, inFlight, hi]
  exact countP_update c.progress.workflow.nodup_ids ((Workflow.mem_ids _).mpr hm)
    fun k _ hk => Bool.eq_iff_iff.mpr (ho k hk)

lemma inFlight_eq_zero (h : ∀ id, c.progress.phase? id ≠ some .submitted) (u : UnitId) :
    c.inFlight u = 0 := by
  apply List.countP_eq_zero.mpr
  intro id _
  rw [flies_iff]
  exact fun hf => h id hf.1

lemma unitFor?_finish (c : Scheduler σ τ) (policy : σ) (id k : TaskId) :
    unitFor? { c with policy := policy, progress := (c.progress.finish id).1 } k = c.unitFor? k := by
  rw [unitFor?, Progress.task?_finish, unitFor?]
  split
  · rename_i hk
    rw [← hk]
    cases c.progress.task? id <;> rfl
  · rfl

lemma unitFor?_submit {r : Progress τ} (hk : c.progress.Taken id r) (hs : c.progress.Sound)
    (policy : σ) (a : Assignment τ) (k : TaskId) :
    unitFor? { c with policy := policy, progress := r.assign id a } k =
      if id = k then some a.unit else c.unitFor? k := by
  rw [unitFor?, Progress.task?_assign, hk.task?, hk.task?, unitFor?]
  split
  · obtain ⟨t, ht⟩ := c.progress.workflow.contains_iff_task?.mp
      (hs.contains_of_phase (hs.phase?_of_taken hk))
    simp [Progress.task?, ht]
  · rfl

end counting

variable {τ : Type} {g : Workflow τ} {c : Scheduler NamedPolicy τ} {time : τ} {event : Event τ}
  {s s' : Scheduler NamedPolicy τ × Array (Action τ)} {n : ℕ} {id : TaskId} {u : UnitId}

structure Balanced (n : ℕ) (c : Scheduler NamedPolicy τ) : Prop where
  size : c.policy.table.size = n
  inTurn : c.policy.InTurn
  load : ∀ u < n, c.policy.table.get? u = some (c.inFlight u)
  placed : ∀ id, c.progress.phase? id = some .submitted → ∃ u < n, c.unitFor? id = some u
  idle : c.halted = true → ∀ id, c.progress.phase? id ≠ some .submitted

def Clean (answer : Array (Action τ)) : Prop := ∀ fault, Action.note (.policy fault) ∉ answer

lemma balanced_ofWorkflow {name : String} {policy : NamedPolicy} (g : Workflow τ)
    (h : NamedPolicy.ofName? name n = some policy) : Balanced n (ofWorkflow g policy) := by
  obtain ⟨ht, hi⟩ := NamedPolicy.ofName?_eq_some h
  refine ⟨?_, hi, fun u hu => ?_, fun id hs => (by simp [ofWorkflow] at hs), fun h => (by cases h)⟩
  · simp [ofWorkflow, ht]
  · rw [inFlight_eq_zero fun id => by simp [ofWorkflow]]
    simp [ofWorkflow, ht, hu]

lemma Balanced.load_pos (h : Balanced n c) (hf : Faithful g c) (hu : c.unitToFree? id = some u) :
    ∃ m, c.policy.table.get? u = some (m + 1) := by
  by_cases hs : c.progress.phase? id = some .submitted
  · obtain ⟨v, hv, hn⟩ := h.placed id hs
    rw [unitToFree?_of_submitted hs, hn] at hu
    cases hu
    have hp : 0 < c.inFlight u := List.countP_pos_iff.mpr
      ⟨id, (Workflow.mem_ids _).mpr (hf.sound.contains_of_phase hs), flies_iff.mpr ⟨hs, hn⟩⟩
    exact ⟨c.inFlight u - 1, by rw [h.load u hv, Nat.sub_add_cancel hp]⟩
  · rw [unitToFree?_of_ne hs] at hu
    cases hu

lemma Balanced.finish (h : Balanced n c) (hf : Faithful g c)
    (hs : c.progress.phase? id = some .submitted) (hu : c.unitFor? id = some u) {q : NamedPolicy}
    (ht : q.table = ⟨c.policy.table.counts.modify u (· - 1)⟩) (hq : q.InTurn) :
    Balanced n { c with policy := q, progress := (c.progress.finish id).1 } := by
  have hh : c.halted = false := Bool.eq_false_iff.mpr fun hh => h.idle hh id hs
  have hp := hf.sound.submitted_finish hs
  have hw := unitFor?_finish c q id
  refine ⟨?_, hq, fun v hv => ?_, fun k hk => ?_, fun hk => absurd hk (by simpa [halted] using hh)⟩
  · simpa [ht, Loads.size] using h.size
  · have hc := inFlight_change c { c with policy := q, progress := (c.progress.finish id).1 } v rfl
      (hf.sound.contains_of_phase hs) fun k hk => by
        rw [flies_iff, flies_iff, hp, hw, and_iff_right hk]
    have hn : flies { c with policy := q, progress := (c.progress.finish id).1 } v id = false := by
      rw [Bool.eq_false_iff, ne_eq, flies_iff, hp]
      exact fun hk => hk.1.1 rfl
    have ho : c.flies v id = decide (u = v) := by
      rw [Bool.eq_iff_iff, flies_iff, hs, hu]
      simp
    rw [hn, ho, Bool.toNat_false, Nat.add_zero] at hc
    have hl : q.table.get? v = if u = v then (c.policy.table.get? v).map (· - 1)
        else c.policy.table.get? v := by
      rw [ht, Loads.get?, Loads.get?, Array.getElem?_modify]
    rw [hl, h.load v hv]
    by_cases huv : u = v
    · rw [decide_eq_true huv, Bool.toNat_true] at hc
      rw [if_pos huv, ← hc, Option.map_some, Nat.add_sub_cancel]
    · rw [decide_eq_false huv, Bool.toNat_false, Nat.add_zero] at hc
      rw [if_neg huv, hc]
  · rw [hw]
    exact h.placed k ((hp k).mp hk).2

lemma Balanced.submit (h : Balanced n c) (hf : Faithful g c) (he : c.error? = none) {r : Progress τ}
    (hk : c.progress.Taken id r) (hu : u < n) {q : NamedPolicy}
    (ht : q.table = c.policy.table.charge u) (hq : q.InTurn) (time : τ) :
    Balanced n { c with policy := q, progress := r.assign id ⟨u, time⟩ } := by
  have hp (k : TaskId) : (r.assign id ⟨u, time⟩).phase? k =
      if id = k then some .submitted else c.progress.phase? k := hf.sound.phase?_taken hk k
  have hr := hf.sound.phase?_of_taken hk
  have hw := unitFor?_submit hk hf.sound q ⟨u, time⟩
  refine ⟨?_, hq, fun v hv => ?_, fun k hs => ?_, fun hh => (by simp [halted, he] at hh)⟩
  · simpa [ht] using h.size
  · have hc := inFlight_change c { c with policy := q, progress := r.assign id ⟨u, time⟩ } v
      (congrArg (fun g => g.tasks.keys) hk.workflow) (hf.sound.contains_of_phase hr) fun k hk => by
        rw [flies_iff, flies_iff, hp, hw, if_neg (Ne.symm hk), if_neg (Ne.symm hk)]
    have hn : flies { c with policy := q, progress := r.assign id ⟨u, time⟩ } v id =
        decide (u = v) := by
      rw [Bool.eq_iff_iff, flies_iff, hp, hw, if_pos rfl, if_pos rfl]
      simp
    have ho : c.flies v id = false := by
      rw [Bool.eq_false_iff, ne_eq, flies_iff, hr]
      simp
    rw [hn, ho, Bool.toNat_false, Nat.add_zero] at hc
    rw [ht, Loads.get?_charge, h.load v hv, hc]
    by_cases huv : u = v <;> simp [huv]
  · rw [hw]
    by_cases hk : id = k
    · exact ⟨u, hu, if_pos hk⟩
    · rw [if_neg hk]
      rw [hp, if_neg hk] at hs
      exact h.placed k hs

lemma Opening.balanced (h : Opening c time event s) (hf : Faithful g c) (hb : Balanced n c) :
    Balanced n s.1 ∧ Clean s.2 := by
  cases h with
  | quiet => exact ⟨hb, fun f => by simp⟩
  | ignored => exact ⟨hb, fun f => by simp⟩
  | malformed he hw hs =>
    have hn := hf.unstarted (hf.waiting _ hw).2
    exact ⟨⟨hb.size, hb.inTurn, hb.load, hb.placed, fun _ id => by simp [hn]⟩, fun f => by simp⟩
  | start he hw hs =>
    obtain ⟨_, _, rfl⟩ := Progress.start_eq_ok hs
    have he := hf.unstarted (hf.waiting _ hw).2
    refine ⟨⟨hb.size, hb.inTurn, fun u hu => ?_, fun id hd => ?_,
      fun _ id => (Progress.phase?_begun_ne _ id).1⟩, fun f => by simp⟩
    · refine (hb.load u hu).trans (congrArg some ?_)
      rw [inFlight_eq_zero fun id => by simp [he],
        inFlight_eq_zero fun id => (Progress.phase?_begun_ne _ id).1]
    · exact absurd hd (Progress.phase?_begun_ne _ id).1
  | refuse => exact ⟨hb, fun f => by simp⟩
  | @finish id u policy fault he hs hp hr =>
    obtain ⟨v, hv, hu⟩ := hb.placed id hp
    obtain ⟨m, hm⟩ := hb.load_pos hf ((unitToFree?_of_submitted hp).trans hu)
    obtain ⟨q, hq, ht, hi⟩ := NamedPolicy.release_of_get? (τ := τ) hb.inTurn hm
    rw [hu, freeUnit, hq] at hr
    cases hr
    exact ⟨hb.finish hf hp hu ht hi, fun f => by simp⟩

lemma Move.balanced (h : Move time s s') (hf : Faithful g s.1) (hb : Balanced n s.1) :
    Balanced n s'.1 := by
  cases h with
  | finish => exact ⟨hb.size, hb.inTurn, hb.load, hb.placed, hb.idle⟩
  | @fail c acts t e policy he ht hp =>
    obtain ⟨hz, rfl⟩ := NamedPolicy.of_choose_error hb.inTurn hp
    refine ⟨hb.size, hb.inTurn, hb.load, hb.placed, fun _ id hs => ?_⟩
    obtain ⟨v, hv, _⟩ := hb.placed id hs
    rw [← hb.size, hz] at hv
    exact Nat.not_lt_zero v hv
  | @submit c acts t u policy id progress he ht hp hn =>
    obtain ⟨hu, ht, hi⟩ := NamedPolicy.of_choose_ok hb.inTurn hp
    exact hb.submit hf he (Progress.taken_of_next? hn) (hb.size ▸ hu) ht hi time

lemma Move.clean (h : Move time s s') (hc : Clean s.2) : Clean s'.2 := by
  cases h <;> exact fun f => by simpa using hc f

lemma balanced_handle (time : τ) (event : Event τ) (hf : Faithful g c) (hb : Balanced n c) :
    Balanced n (c.handle time event).1 ∧ Clean (c.handle time event).2 := by
  refine (handle_induction (P := fun s => Faithful g s.1 ∧ Balanced n s.1 ∧ Clean s.2)
    (fun s h => ?_) fun s s' h hs => ?_).2
  · exact ⟨h.faithful hf, h.balanced hf hb⟩
  · exact ⟨h.faithful hs.1, h.balanced hs.1 hs.2.1, h.clean hs.2.2⟩

lemma Balanced.inFlight_of_le (h : Balanced n c) (hu : n ≤ u) : c.inFlight u = 0 := by
  apply List.countP_eq_zero.mpr
  intro id _ hi
  obtain ⟨hs, hu'⟩ := flies_iff.mp hi
  obtain ⟨v, hv, hv'⟩ := h.placed id hs
  rw [hu'] at hv'
  exact absurd (Option.some.inj hv' ▸ hv) (Nat.not_lt.mpr hu)

lemma Balanced.toList_loads (h : Balanced n c) : c.loads.toList = (List.range n).map c.inFlight := by
  apply List.ext_getElem?
  intro u
  rw [loads, NamedPolicy.policy_loads, Array.getElem?_toList, List.getElem?_map]
  by_cases hu : u < n
  · rw [List.getElem?_range hu]
    exact h.load u hu
  · rw [List.getElem?_eq_none (by simpa using hu)]
    exact Loads.get?_eq_none_iff.mpr (h.size.trans_le (Nat.not_lt.mp hu))

lemma Balanced.sum_loads (h : Balanced n c) (hf : Faithful g c) :
    c.loads.toList.sum = c.progress.submitted := by
  rw [h.toList_loads, ← total_eq_sum, hf.sound.submitted, Progress.countIn_eq, hf.sound.keys]
  refine total_fibres (fun id => c.progress.phase? id == some .submitted) c.unitFor? List.nodup_range
    fun id _ hs => ?_
  obtain ⟨u, hu, hi⟩ := h.placed id (beq_iff_eq.mp hs)
  exact ⟨u, List.mem_range.mpr hu, hi⟩

lemma Balanced.loads_eq_replicate (h : Balanced n c)
    (hs : ∀ id, c.progress.phase? id ≠ some .submitted) : c.loads = Array.replicate n 0 := by
  apply Array.ext'
  rw [h.toList_loads, Array.toList_replicate, List.eq_replicate_iff]
  refine ⟨by simp, fun a ha => ?_⟩
  obtain ⟨u, _, rfl⟩ := List.mem_map.mp ha
  exact inFlight_eq_zero hs u

/-- Every load is the number of submitted tasks on the unit, so that no release is ever refused. -/
theorem loads_conserved (g : Workflow τ) (name : String) (n : ℕ) (policy : NamedPolicy)
    (hp : NamedPolicy.ofName? name n = some policy) (events : List (τ × Event τ)) :
    let c := ((ofWorkflow g policy).hearAll events).1
    let answers := ((ofWorkflow g policy).hearAll events).2
    c.loads.size = n ∧ (∀ u < n, c.loads[u]? = some (c.inFlight u)) ∧
      (∀ u, n ≤ u → c.inFlight u = 0) ∧ c.loads.toList.sum = c.progress.submitted ∧
      (∀ id u, c.unitToFree? id = some u → ∃ m, c.loads[u]? = some (m + 1)) ∧
      ∀ answer ∈ answers, Clean answer := by
  obtain ⟨hf, hb, hc⟩ := hearAll_induction
    (P := fun _ c answers => Faithful g c ∧ Balanced n c ∧ ∀ answer ∈ answers, Clean answer)
    (c := ofWorkflow g policy) ⟨faithful_ofWorkflow g policy, balanced_ofWorkflow g hp, by simp⟩
    (fun events c answers time event ⟨hf, hb, hc⟩ => by
      obtain ⟨hb', hc'⟩ := balanced_handle time event hf hb
      refine ⟨faithful_handle hf, hb', fun answer ha => ?_⟩
      rcases List.mem_append.mp ha with ha | ha
      · exact hc answer ha
      · rwa [List.mem_singleton.mp ha]) events
  have hl := NamedPolicy.policy_loads (τ := τ) ((ofWorkflow g policy).hearAll events).1.policy
  refine ⟨?_, fun u hu => ?_, fun u hu => hb.inFlight_of_le hu, hb.sum_loads hf, fun id u hu => ?_, hc⟩
  · rw [loads, hl]
    exact hb.size
  · rw [loads, hl]
    exact hb.load u hu
  · rw [loads, hl]
    exact hb.load_pos hf hu

theorem loads_conserved_knot :
    let policy : NamedPolicy := .roundRobin ⟨.ofSize 2, 0⟩
    let c := ((ofWorkflow Workflow.knot policy).hearAll [(0, .ready), (0, .completed 0 5)]).1
    NamedPolicy.ofName? "RoundRobin" 2 = some policy ∧ c.loads = #[0, 1] ∧ c.inFlight 1 = 1 := by
  have hl : ((ofWorkflow Workflow.knot (NamedPolicy.roundRobin ⟨.ofSize 2, 0⟩)).hearAll
      [(0, .ready), (0, .completed 0 5)]).1.loads = #[0, 1] := by decide +kernel
  obtain ⟨_, hu, _⟩ := loads_conserved Workflow.knot "RoundRobin" 2 (.roundRobin ⟨.ofSize 2, 0⟩) rfl
    [(0, .ready), (0, .completed 0 5)]
  refine ⟨rfl, hl, ?_⟩
  have hi := hu 1 (by decide)
  rw [hl] at hi
  exact (Option.some.inj hi).symm

end Dispatch.Scheduler
