import Dispatch.Proofs.Cluster.Place
import Dispatch.Proofs.Run.Steps
import Dispatch.Proofs.Scheduler.Conservation

/-! The scheduler and the cluster agree on every task after any number of steps: where the scheduler holds a
task to be submitted to a unit, the cluster has it in one place on that unit, and in no other place. -/

namespace Dispatch

namespace Scheduler

variable {σ τ : Type} {g : Workflow τ} {c c' : Scheduler σ τ} {time : τ} {event : Event τ}
  {s s' : Scheduler σ τ × Array (Action τ)} {id k : TaskId} {d : Job τ} {u : UnitId} {p : Place τ}

def Expects (c : Scheduler σ τ) (id : TaskId) : Place τ → Prop
  | .absent => c.progress.phase? id ≠ some .submitted ∧ c.progress.phase? id ≠ some .completed
  | .travelling d u | .queued d u =>
    (c.progress.task? id).map Task.job = some d ∧ c.progress.phase? id = some .submitted ∧
      c.unitFor? id = some u
  | .running u => c.progress.phase? id = some .submitted ∧ c.unitFor? id = some u
  | .finished u => c.progress.phase? id = some .completed ∧ c.unitFor? id = some u

lemma Expects.running (d : Job τ) (u : UnitId) (h : c.Expects id (.queued d u)) :
    c.Expects id (.running u) := h.2

lemma Expects.of_eq (h : c.Expects id p)
    (hs : c'.progress.phase? id = some .submitted ↔ c.progress.phase? id = some .submitted)
    (hc : c'.progress.phase? id = some .completed ↔ c.progress.phase? id = some .completed)
    (hu : c'.unitFor? id = c.unitFor? id)
    (hj : (c'.progress.task? id).map Task.job = (c.progress.task? id).map Task.job) :
    c'.Expects id p := by
  cases p <;> simpa only [Expects, ne_eq, hs, hc, hu, hj] using h

lemma Expects.eq_absent (h : c.Expects id p) (hs : c.progress.phase? id ≠ some .submitted)
    (hc : c.progress.phase? id ≠ some .completed) : p = .absent := by
  cases p with
  | absent => rfl
  | travelling | queued => exact (hs h.2.1).elim
  | running => exact (hs h.1).elim
  | finished => exact (hc h.1).elim

def Agrees (c : Scheduler σ τ) (e : Cluster τ) : Prop := ∀ id, ∃ p, e.At id p ∧ c.Expects id p

section submit

variable {r : Progress τ} {t : Task τ} (hf : Faithful g c) (hk : c.progress.Taken t.id r)
  (policy : σ) (a : Assignment τ)

include hf hk

lemma expects_submitted (hi : c.progress.task? t.id = some t) :
    Expects { c with policy := policy, progress := r.assign t.id a } t.id (.travelling t.job a.unit) := by
  have hp : (r.assign t.id a).phase? t.id = if t.id = t.id then some .submitted else _ :=
    hf.sound.phase?_taken hk t.id
  refine ⟨?_, hp.trans (if_pos rfl), (unitFor?_submit hk hf.sound policy a t.id).trans (if_pos rfl)⟩
  rw [Progress.task?_assign, if_pos rfl, hk.task?, hi]
  rfl

lemma Expects.submit (h : c.Expects k p) (hi : t.id ≠ k) :
    Expects { c with policy := policy, progress := r.assign t.id a } k p := by
  have hp : (r.assign t.id a).phase? k = if t.id = k then some .submitted else c.progress.phase? k :=
    hf.sound.phase?_taken hk k
  rw [if_neg hi] at hp
  refine h.of_eq ?_ ?_ ((unitFor?_submit hk hf.sound policy a k).trans (if_neg hi)) ?_
  · rw [hp]
  · rw [hp]
  · rw [Progress.task?_assign, if_neg hi, hk.task?]

end submit

variable [Policy σ τ]

lemma Opening.expects (h : Opening c time event s) (hf : Faithful g c) (hk : event.taskId? ≠ some k)
    (hc : c.Expects k p) : s.1.Expects k p := by
  cases h with
  | quiet => exact hc
  | ignored => exact hc
  | malformed => exact hc.of_eq Iff.rfl Iff.rfl rfl rfl
  | start he hw hs =>
    obtain ⟨_, _, rfl⟩ := Progress.start_eq_ok hs
    have hn := hf.unstarted (hf.waiting _ hw).2
    rw [hc.eq_absent (by simp [hn]) (by simp [hn])]
    exact Progress.phase?_begun_ne _ k
  | refuse => exact hc
  | @finish id u policy fault he hs hp hr =>
    have hk : k ≠ id := fun hi => hk (by rw [hi]; rfl)
    refine hc.of_eq ?_ ?_ (unitFor?_finish c policy id k) ?_
    · rw [hf.sound.submitted_finish hp, and_iff_right hk]
    · rw [hf.sound.completed_finish hp, or_iff_right hk]
    · rw [Progress.task?_finish, if_neg (Ne.symm hk)]

lemma Opening.expects_finished (h : Opening c time (.completed id u) s) (hf : Faithful g c)
    (hh : c.halted = true → c.progress.phase? id ≠ some .submitted)
    (hc : c.Expects id (.running u)) : s.1.Expects id (.finished u) := by
  obtain ⟨hp, hu⟩ := hc
  cases h with
  | quiet _ hn => exact (hn id u rfl).elim
  | ignored hn =>
    rw [Bool.or_eq_true, Bool.not_eq_true'] at hn
    rcases hn with hn | hn
    · exact (hh hn hp).elim
    · rw [hf.started hp] at hn
      cases hn
  | refuse _ _ hn => exact (hn hp).elim
  | @finish _ _ policy fault he hs hp hr =>
    exact ⟨(hf.sound.completed_finish hp id).mpr (Or.inl rfl), (unitFor?_finish c policy id id).trans hu⟩

end Scheduler

open Scheduler

variable {τ : Type} [Time τ] {g : Workflow τ} {c : Scheduler NamedPolicy τ} {e e' : Cluster τ}
  {time : τ} {event : Event τ} {s s' : Scheduler NamedPolicy τ × Array (Action τ)} {n : ℕ}

omit [Time τ] in
lemma Scheduler.Agrees.unit_lt (ha : c.Agrees e) (hb : Balanced n c) {d : Job τ} {u : UnitId}
    (hm : .arrived d u ∈ e.events) : u < n := by
  obtain ⟨p, hp, hc⟩ := ha d.taskId
  obtain rfl := Place.eq_travelling (hp.mem_events hm rfl)
  obtain ⟨v, hv, hu⟩ := hb.placed _ hc.2.1
  rw [hc.2.2] at hu
  exact Option.some.inj hu ▸ hv

lemma Scheduler.Opening.agrees (h : Opening c time event s) (hf : Faithful g c) (hb : Balanced n c)
    (hn : e.units.size = n) (hd : e.Drawn event e') (ha : c.Agrees e) :
    s.1.Agrees (e'.handle event).1 := by
  intro k
  obtain ⟨p, hp, hc⟩ := ha k
  refine hp.handle Expects.running hd ?_ (fun hk => h.expects hf hk hc) ?_ ?_
  · rintro d u rfl
    exact hn ▸ ha.unit_lt hb hd.mem
  · rintro d u rfl rfl
    cases h with
    | quiet => exact hc
  · rintro u rfl rfl
    exact h.expects_finished hf (fun hh => hb.idle hh k) hc

lemma Scheduler.Move.agrees {out : Array (Notice τ)} (h : Move time s s') (hf : Faithful g s.1)
    (hb : Balanced n s.1) (hn : (e.performed out s.2).units.size = n)
    (ha : s.1.Agrees (e.performed out s.2)) : s'.1.Agrees (e.performed out s'.2) := by
  cases h with
  | finish =>
    rw [Cluster.performed_note]
    exact ha
  | fail =>
    rw [Cluster.performed_note]
    exact ha
  | @submit c acts t u policy id progress he ht hp ht' =>
    rw [Cluster.performed_submit, Cluster.performed_note]
    have hk := Progress.taken_of_next? ht'
    obtain ⟨hi, rfl⟩ := Progress.task?_of_peek? ht hk
    have hr := hf.sound.phase?_of_taken hk
    have hu := (NamedPolicy.of_choose_ok hb.inTurn hp).1
    rw [hb.size, ← hn] at hu
    intro k
    obtain ⟨q, hq, hc⟩ := ha k
    by_cases htk : t.id = k
    · subst htk
      rw [hc.eq_absent (by simp [hr]) (by simp [hr])] at hq
      exact ⟨_, hq.submit_self hu, expects_submitted hf hk policy ⟨u, time⟩ hi⟩
    · exact ⟨q, hq.submit_of_ne htk, hc.submit hf hk policy ⟨u, time⟩ htk⟩

namespace Run

variable {pool : Array ComputeUnit} {r r' : Run NamedPolicy τ} {notices : Array (Notice τ)}

structure Joined (g : Workflow τ) (pool : Array ComputeUnit) (c : Scheduler NamedPolicy τ)
    (e : Cluster τ) : Prop where
  faithful : Faithful g c
  balanced : Balanced pool.size c
  houses : e.Houses pool
  agrees : c.Agrees e

lemma joined_ofPool (g : Workflow τ) {name : String} {policy : NamedPolicy}
    (h : NamedPolicy.ofName? name pool.size = some policy) :
    Joined g pool (ofPool pool g policy).scheduler (ofPool pool g policy).cluster where
  faithful := faithful_ofWorkflow g policy
  balanced := balanced_ofWorkflow g h
  houses := (Cluster.houses_ofPool pool).of_eq (Cluster.awaits_startUnits _).units
  agrees id := ⟨.absent, (Cluster.At.ofPool pool id).startUnits, by simp [Expects, ofPool, ofWorkflow]⟩

omit [Time τ] in
lemma Joined.absent_of_ready (h : Joined g pool c e) {id : TaskId}
    (hp : c.progress.phase? id = some .ready) : e.At id .absent := by
  obtain ⟨p, ha, hc⟩ := h.agrees id
  rwa [hc.eq_absent (by simp [hp]) (by simp [hp])] at ha

omit [Time τ] in
lemma Joined.unit_lt (h : Joined g pool c e) {d : Job τ} {u : UnitId} (hm : .arrived d u ∈ e.events) :
    u < e.units.size :=
  h.houses.size ▸ h.agrees.unit_lt h.balanced hm

omit [Time τ] in
lemma Joined.finished_cases (h : Joined g pool c e) (id : TaskId) :
    (∃ r, e.record? id = some r ∧ r.finished.isSome = true ∧ c.progress.phase? id = some .completed ∧
      c.unitFor? id = some r.unit) ∨
    (∀ r, e.record? id = some r → r.finished = none) ∧ c.progress.phase? id ≠ some .completed := by
  obtain ⟨p, hp, hc⟩ := h.agrees id
  have hr := hp.record
  cases p with
  | absent => exact .inr ⟨fun r hr' => (by cases hr.symm.trans hr'), hc.2⟩
  | travelling d u => exact .inr ⟨fun r hr' => (by cases hr.symm.trans hr'), by simp [hc.2.1]⟩
  | queued d u =>
    obtain ⟨r₀, hr₀, _, _, hf⟩ := hr
    refine .inr ⟨fun r hr' => ?_, by simp [hc.2.1]⟩
    cases hr₀.symm.trans hr'
    exact hf
  | running u =>
    obtain ⟨r₀, hr₀, _, _, hf⟩ := hr
    refine .inr ⟨fun r hr' => ?_, by simp [hc.1]⟩
    cases hr₀.symm.trans hr'
    exact hf
  | finished u =>
    obtain ⟨r, hr, rfl, hf⟩ := hr
    exact .inl ⟨r, hr, hf, hc⟩

lemma Joined.opening (h : Joined g pool c e) (hd : e.Drawn event e') (hc : Opening c time event s) :
    Joined g pool s.1 (e'.handle event).1 where
  faithful := hc.faithful h.faithful
  balanced := (hc.balanced h.faithful h.balanced).1
  houses v := by
    rw [Cluster.unit?_handle, Cluster.unit?, hd.units]
    exact h.houses v
  agrees := hc.agrees h.faithful h.balanced h.houses.size hd h.agrees

lemma Joined.move {out : Array (Notice τ)} (h : Joined g pool s.1 (e.performed out s.2))
    (hm : Move time s s') : Joined g pool s'.1 (e.performed out s'.2) where
  faithful := hm.faithful h.faithful
  balanced := hm.balanced h.faithful h.balanced
  houses v := by
    refine Eq.trans ?_ (h.houses v)
    cases hm <;> simp [Cluster.unit?_submit]
  agrees := hm.agrees h.faithful h.balanced h.houses.size h.agrees

lemma Joined.step (h : Joined g pool r.scheduler r.cluster) (hs : r.step? = some (r', notices)) :
    Joined g pool r'.scheduler r'.cluster :=
  step_induction (P := Joined g pool) hs (fun _ _ _ hd hc => h.opening hd hc)
    fun _ _ _ _ _ hm hj => hj.move hm

end Run

namespace Scheduler

def Holds {σ τ : Type} (c : Scheduler σ τ) (t : Task τ) : Place τ → Prop
  | .absent => c.progress.started = false ∨ c.progress.phase? t.id = some .blocked ∨
      c.progress.phase? t.id = some .ready
  | .travelling d u | .queued d u =>
    d = t.job ∧ c.progress.phase? t.id = some .submitted ∧ c.unitFor? t.id = some u
  | .running u => c.progress.phase? t.id = some .submitted ∧ c.unitFor? t.id = some u
  | .finished u => c.progress.phase? t.id = some .completed ∧ c.unitFor? t.id = some u

lemma Expects.holds {σ τ : Type} {g : Workflow τ} {c : Scheduler σ τ} {t : Task τ} {p : Place τ}
    (h : c.Expects t.id p) (hf : Faithful g c) (ht : g.task? t.id = some t) : c.Holds t p := by
  cases hs : c.progress.started with
  | false =>
    have hn : c.progress.phase? t.id = none := by rw [hf.unstarted hs, Progress.phase?_empty]
    rw [h.eq_absent (by simp [hn]) (by simp [hn])]
    exact Or.inl hs
  | true =>
    have ha := hf.alike hs
    have hj {d : Job τ} (hd : (c.progress.task? t.id).map Task.job = some d) : d = t.job := by
      rw [Progress.task?, ha.job, ht] at hd
      exact (Option.some.inj hd).symm
    cases p with
    | absent =>
      have hk : g.contains t.id = true := g.contains_iff_task?.mpr ⟨t, ht⟩
      obtain ⟨⟨s, n⟩, hn⟩ := hf.sound.exists_status (ha.contains t.id ▸ hk)
      have hp : c.progress.phase? t.id = some s := Progress.phase?_eq_some.mpr ⟨n, hn⟩
      obtain ⟨hb, hc⟩ := h
      rw [hp] at hb hc
      cases s with
      | blocked => exact Or.inr (Or.inl hp)
      | ready => exact Or.inr (Or.inr hp)
      | submitted => exact (hb rfl).elim
      | completed => exact (hc rfl).elim
    | travelling | queued => exact ⟨hj h.1, h.2⟩
    | running | finished => exact h

end Scheduler

namespace Run

/-- After any number of steps every task is in exactly one place of the cluster, which is the one that the
scheduler holds it to be in. -/
theorem one_place (g : Workflow τ) (pool : Array ComputeUnit) (name : String) (policy : NamedPolicy)
    (hp : NamedPolicy.ofName? name pool.size = some policy) (n : ℕ) (out : Array (Notice τ))
    (id : TaskId) (t : Task τ) (ht : g.task? id = some t) :
    let s := ((ofPool pool g policy).advance n out).2.1
    ∃! p, s.cluster.At id p ∧ s.scheduler.Holds t p := by
  obtain rfl := g.id_of_get? id t ht
  have h := advance_induction (P := fun s => Joined g pool s.scheduler s.cluster)
    (fun s s' notices hs h => h.step hs) n out (joined_ofPool g hp)
  obtain ⟨p, hp, he⟩ := h.agrees t.id
  exact ⟨p, ⟨hp, he.holds h.faithful ht⟩, fun q hq => hq.1.unique hp⟩

theorem one_place_knot :
    let policy : NamedPolicy := .roundRobin ⟨.ofSize 1, 0⟩
    let s := ((ofPool #[⟨0, "", 1, 1, 1⟩] Workflow.knot policy).advance 3 #[]).2.1
    s.cluster.isRunning 0 = true ∧
      ∃! p, s.cluster.At 0 p ∧ s.scheduler.Holds (.ofCost 0 "" 0 (.sequential 1 1 1)) p :=
  ⟨by decide +kernel, one_place Workflow.knot #[⟨0, "", 1, 1, 1⟩] "RoundRobin"
    (.roundRobin ⟨.ofSize 1, 0⟩) rfl 3 #[] 0 (.ofCost 0 "" 0 (.sequential 1 1 1)) (by decide +kernel)⟩

end Run

end Dispatch
