import Dispatch.Proofs.Cluster.Times
import Dispatch.Proofs.Run.Agreement
import Dispatch.Proofs.Run.Deliveries

namespace Dispatch

open Scheduler Cluster

namespace Cluster

variable {e e' : Cluster ℚ} {a : Appointment ℚ} {event : Event ℚ}

def Dormant (e : Cluster ℚ) : Prop := e.clock = 0 ∧ ∀ a ∈ e.calendar.toList, a.time = 0

lemma Dormant.next (h : e.Dormant) (hn : e.Next a e') : e'.Dormant := by
  refine ⟨?_, fun b hb => h.2 b (hn.calendar.mem_iff.mpr (List.mem_cons_of_mem a hb))⟩
  rw [hn.clock]
  exact h.2 a (hn.calendar.mem_iff.mpr List.mem_cons_self)

lemma Dormant.schedule (h : e.Dormant) (event : Event ℚ) : (e.schedule event 0).Dormant := by
  refine ⟨h.1, fun b hb => ?_⟩
  rcases List.mem_cons.mp ((appointments_schedule _ _ _).mem_iff.mp hb) with rfl | hb
  · exact (add_zero _).trans h.1
  · exact h.2 b hb

lemma Dormant.handle (h : e.Dormant) (hi : event.taskId? = none) : (e.handle event).1.Dormant := by
  refine handle_cases (fun _ _ => h)
    (fun _ n => Dormant.schedule (e := { e with readyUnits := n }) h .ready) ?_ ?_ fun _ _ _ _ => h
  · rintro d u rfl
    cases hi
  · rintro id u rfl
    cases hi

lemma dormant_ofPool (pool : Array ComputeUnit) :
    (Cluster.ofPool pool : Cluster ℚ).startUnits.Dormant := by
  refine startUnits_induction (P := Dormant) (fun e event _ h => h.schedule event) ⟨rfl, fun a ha => ?_⟩
  cases ha

end Cluster

namespace Run

variable {g : Workflow ℚ} {pool : Array ComputeUnit} {c : Scheduler NamedPolicy ℚ} {e e' : Cluster ℚ}
  {time : ℚ} {a : Appointment ℚ} {s s' : Scheduler NamedPolicy ℚ × Array (Action ℚ)}
  {r r' : Run NamedPolicy ℚ} {notices : Array (Notice ℚ)} {id : TaskId}

lemma Joined.known (h : Joined g pool c e) (id : TaskId) : ∃ p, e.At id p ∧ Known g pool.size id p := by
  obtain ⟨p, hp, hc⟩ := h.agrees id
  refine ⟨p, hp, ?_⟩
  cases p with
  | absent | running | finished => trivial
  | travelling d u | queued d u =>
    obtain ⟨hj, hs, hu⟩ := hc
    obtain ⟨v, hv, hu'⟩ := h.balanced.placed id hs
    rw [hu] at hu'
    cases hu'
    have ha := (h.faithful.alike (h.faithful.started hs)).job id
    exact ⟨ha.symm.trans hj, hv⟩

lemma Joined.finished?_isSome_iff (h : Joined g pool c e) :
    (e.finished? id).isSome = true ↔ c.progress.phase? id = some .completed := by
  rcases h.finished_cases id with ⟨r, hr, hf, hp, _⟩ | ⟨hn, hp⟩
  · rw [finished?, hr, Option.bind_some, hf, hp]
    simp
  · have hf : e.finished? id = none := Option.bind_eq_none_iff.mpr hn
    simp [hf, hp]

lemma Joined.parentsFinished (h : Joined g pool c e) {p : Phase} (hp : c.progress.phase? id = some p)
    (hb : p ≠ .blocked) : ParentsFinished g e id := by
  intro q hq
  exact h.finished?_isSome_iff.mpr (h.faithful.completed_of_parent hp hb hq)

def Prompt (g : Workflow ℚ) (c : Scheduler NamedPolicy ℚ) (e : Cluster ℚ) : Prop :=
  c.error? = none → ∀ id, c.progress.phase? id = some .ready →
    IsGreatest (insert 0 (parentTimes g e id)) e.clock

structure Punctual (g : Workflow ℚ) (pool : Array ComputeUnit) (c : Scheduler NamedPolicy ℚ)
    (e : Cluster ℚ) : Prop where
  joined : Joined g pool c e
  timely : Timely g pool e
  prompt : Prompt g c e
  dormant : c.progress.started = false → e.Dormant

lemma Joined.started_of_mem (h : Joined g pool c e) (hm : a.event ∈ e.events)
    (hi : a.event.taskId? = some id) : c.progress.started = true := by
  obtain ⟨p, hp, hc⟩ := h.agrees id
  have he := hp.mem_events hm hi
  cases p with
  | absent | queued | finished => exact (Multiset.notMem_zero _ he).elim
  | travelling => exact h.faithful.started hc.2.1
  | running => exact h.faithful.started hc.1

lemma Opening.started {event : Event ℚ} (h : Opening c time event s)
    (hs : s.1.progress.started = false) : c.progress.started = false := by
  cases h with
  | start _ _ hr =>
    obtain ⟨_, _, rfl⟩ := Progress.start_eq_ok hr
    cases hs
  | _ => exact hs

lemma Punctual.dormant_opening (h : Punctual g pool c e) (hn : e.Next a e')
    (hc : Opening c time a.event s) (hs : s.1.progress.started = false) :
    (e'.handle a.event).1.Dormant := by
  have hb := Opening.started hc hs
  refine ((h.dormant hb).next hn).handle ?_
  cases hi : a.event.taskId? with
  | none => rfl
  | some id =>
    rw [h.joined.started_of_mem hn.drawn.mem hi] at hb
    cases hb

lemma Punctual.prompt_opening (h : Punctual g pool c e) (hr : AtRest c) (hn : e.Next a e')
    (hc : Opening c time a.event s) (hj : Joined g pool s.1 (e'.handle a.event).1)
    (ht : Timely g pool (e'.handle a.event).1) : Prompt g s.1 (e'.handle a.event).1 := by
  have quiet (he : c.error? = none) (id : TaskId) : c.progress.phase? id ≠ some .ready := by
    rw [ne_eq, ← h.joined.faithful.sound.mem_ready, hr.ready he]
    exact List.not_mem_nil
  obtain ⟨i, x, event⟩ := a
  dsimp only at hc hj ht ⊢
  intro he id hp
  cases hc with
  | quiet | ignored | refuse => exact (quiet he id hp).elim
  | malformed => cases he
  | start _ hw hs =>
    -- a task that is ready at the start has no parents, and the clock has not moved yet
    obtain ⟨_, _, rfl⟩ := Progress.start_eq_ok hs
    have hz := ((h.dormant (h.joined.faithful.waiting _ hw).2).next hn).1
    have hp : parentTimes g (e'.handle .ready).1 id = ∅ := by
      refine Set.eq_empty_of_forall_notMem fun y hy => ?_
      obtain ⟨p, hc, _⟩ := hy
      exact (Progress.phase?_begun_ne _ p).2 (hj.faithful.completed_of_parent hp (by simp) hc)
    rw [hp, clock_handle, hz, insert_empty_eq]
    exact isGreatest_singleton
  | @finish k u policy fault _ hst hs =>
    -- nothing was left in the queue: what is ready now are children that this completion released
    have hk : id ∈ g.children k := by
      rw [← hj.faithful.sound.mem_ready, Progress.finish_ready, hr.ready he, List.nil_append] at hp
      rw [← (h.joined.faithful.alike hst).children]
      exact (List.mem_filter.mp hp).1
    obtain ⟨p, ha, _⟩ := h.joined.agrees k
    have hf := finished?_completed (p := k) (u := u) (ha.isRunning_of_drawn hn.drawn)
    rw [if_pos rfl, ← clock_handle e' (.completed k u)] at hf
    refine ⟨Set.mem_insert_of_mem _ ⟨k, hk, hf⟩, ?_⟩
    rintro y (rfl | ⟨q, _, hy⟩)
    · exact ht.nonneg
    · exact ht.finished_le hy

lemma Punctual.opening (h : Punctual g pool c e) (hr : AtRest c) (hn : e.Next a e') (ho : e'.InOrder)
    (hf : ∀ b ∈ e'.calendar.toList, b.before a = false) (hc : Opening c time a.event s) :
    Punctual g pool s.1 (e'.handle a.event).1 := by
  have hj := h.joined.opening hn.drawn hc
  obtain ⟨ht, hm⟩ := h.timely.next hn ho hf
  have ht := ht.handle hn hm h.joined.known
  exact ⟨hj, ht, h.prompt_opening hr hn hc hj ht, h.dormant_opening hn hc⟩

lemma Punctual.move {out : Array (Notice ℚ)} (h : Punctual g pool s.1 (e.performed out s.2))
    (hm : Move time s s') : Punctual g pool s'.1 (e.performed out s'.2) := by
  have hj := h.joined.move hm
  cases hm with
  | finish =>
    refine ⟨hj, by simpa using h.timely, fun he id hp => ?_, by simpa using h.dormant⟩
    rw [Cluster.performed_note]
    exact h.prompt he id hp
  | fail => exact ⟨hj, by simpa using h.timely, fun he => (by cases he), by simpa using h.dormant⟩
  | @submit c acts t u policy id progress he hp _ hn =>
    have hk := Progress.taken_of_next? hn
    obtain ⟨hi, rfl⟩ := Progress.task?_of_peek? hp hk
    have hs := h.joined.faithful.sound
    have hr := hs.phase?_of_taken hk
    have hst := h.joined.faithful.started hr
    rw [Cluster.performed_submit, Cluster.performed_note] at hj ⊢
    refine ⟨hj, ?_, fun _ k hk' => ?_, fun hn => ?_⟩
    · have ht : (g.task? t.id).map Task.job = some t.job := by
        rw [← (h.joined.faithful.alike hst).job, show c.progress.workflow.task? t.id = some t from hi,
          Option.map_some]
      obtain ⟨t₀, ht₀, hjob⟩ := Option.map_eq_some_iff.mp ht
      have hid : t₀.id = t.id := congrArg Job.taskId hjob
      rw [← hid] at ht₀ hr
      rw [← hjob]
      exact h.timely.submit u ht₀ (h.joined.parentsFinished hr (by simp)) (h.prompt he _ hr)
    · have hph : (progress.assign t.id ⟨u, time⟩).phase? k =
          if t.id = k then some .submitted else c.progress.phase? k := hs.phase?_taken hk k
      rw [hph] at hk'
      split at hk'
      · cases hk'
      · rw [parentTimes_submit, clock_submit]
        exact h.prompt he k hk'
    · have hst' : (progress.assign t.id ⟨u, time⟩).started = true := hk.started.trans hst
      rw [hst'] at hn
      cases hn

lemma Punctual.step (h : Punctual g pool r.scheduler r.cluster ∧ AtRest r.scheduler)
    (hs : r.step? = some (r', notices)) :
    Punctual g pool r'.scheduler r'.cluster ∧ AtRest r'.scheduler := by
  obtain ⟨event, e, out, hn, _, hc, he⟩ := exists_delivered_of_step? hs
  rw [hc, he]
  refine ⟨?_, atRest_handle h.1.joined.faithful h.2⟩
  obtain ⟨a, rfl, hn, ho, hf⟩ := h.1.timely.inOrder.exists_next hn
  exact handled_induction (P := Punctual g pool) out (fun c hc => h.1.opening h.2 hn ho hf hc)
    fun c c' hm h => h.move hm

lemma punctual_ofPool (g : Workflow ℚ) {name : String} {policy : NamedPolicy}
    (hp : NamedPolicy.ofName? name pool.size = some policy) :
    Punctual g pool (ofPool pool g policy).scheduler (ofPool pool g policy).cluster where
  joined := joined_ofPool g hp
  timely := by
    refine startUnits_induction (P := Timely g pool) (fun e event hi h => h.schedule le_rfl ?_)
      ⟨houses_ofPool pool, le_rfl, trivial, fun a ha => (by cases ha), fun id r hr => ?_⟩
    · cases event with
      | provisioned u => trivial
      | ready => trivial
      | arrived d u => cases hi
      | completed id u => cases hi
    · cases hr.symm.trans (At.ofPool pool id).record
  prompt _ id hi := by simp [ofPool, ofWorkflow] at hi
  dormant _ := dormant_ofPool pool

/-- In every state of a run, a task that arrived did so as soon as its parents had finished, though not before
its own earliest time, and one that finished ran for as long as its unit needs for its length. -/
theorem schedule_recurrence (g : Workflow ℚ) (pool : Array ComputeUnit) (name : String)
    (policy : NamedPolicy) (hp : NamedPolicy.ofName? name pool.size = some policy) (n : ℕ)
    (out : Array (Notice ℚ)) (id : TaskId) (r : Record ℚ)
    (hr : ((ofPool pool g policy).advance n out).2.1.cluster.record? id = some r) :
    let e := ((ofPool pool g policy).advance n out).2.1.cluster
    ∃ t unit, g.task? id = some t ∧ pool[r.unit]? = some unit ∧
      (∀ p, id ∈ g.children p → (e.finished? p).isSome = true) ∧
      IsGreatest (insert 0 (insert t.notBefore {x | ∃ p, id ∈ g.children p ∧ e.finished? p = some x}))
        r.arrived ∧
      (∀ s, r.started = some s → r.arrived ≤ s) ∧
      ∀ x, r.finished = some x → ∃ s, r.started = some s ∧
        x = s + (t.length.toNat : ℚ) / (max unit.speed 1).toNat := by
  intro e
  have h := advance_induction (P := fun s => Punctual g pool s.scheduler s.cluster ∧ AtRest s.scheduler)
    (fun s s' notices hs h => Punctual.step h hs) n out ⟨punctual_ofPool g hp, atRest_ofWorkflow g policy⟩
  have hp := h.1.timely.paced id r hr
  obtain ⟨t, ht, hg⟩ := hp.due.greatest
  have hu := Array.getElem?_eq_getElem hp.unit
  refine ⟨t, _, ht, hu, hp.due.parents, hg, hp.started, fun x hx => ?_⟩
  obtain ⟨_, s, hs, t', unit, ht', hu', hx⟩ := hp.finished x hx
  cases ht.symm.trans ht'
  cases hu.symm.trans hu'
  exact ⟨s, hs, hx⟩

theorem schedule_recurrence_late :
    let task (id : TaskId) : Task ℚ := .ofCost id "" 0 (.sequential 2 1 1)
    let g : Workflow ℚ :=
      ((Workflow.empty.insertTask (task 0)).insertTask ((task 1).startingFrom 3)).link 0 1
    let policy : NamedPolicy := .leastLoaded ⟨.ofSize 1⟩
    let e := ((ofPool #[⟨0, "", 2, 1, 1⟩] g policy).advance 5 #[]).2.1.cluster
    e.finished? 0 = some 1 ∧ ∃ r, e.record? 1 = some r ∧ r.arrived = 3 ∧
      IsGreatest (insert 0 (insert 3 {x | ∃ p, 1 ∈ g.children p ∧ e.finished? p = some x})) r.arrived := by
  intro task g policy e
  have ha : (e.record? 1).map Record.arrived = some 3 := by decide +kernel
  obtain ⟨r, hr, ha⟩ := Option.map_eq_some_iff.mp ha
  obtain ⟨t, _, ht, _, _, hg, _⟩ :=
    schedule_recurrence g #[⟨0, "", 2, 1, 1⟩] "LeastLoaded" policy rfl 5 #[] 1 r hr
  have hb : (g.task? 1).map Task.notBefore = some 3 := by decide +kernel
  rw [ht, Option.map_some, Option.some.injEq] at hb
  rw [hb] at hg
  exact ⟨by decide +kernel, r, hr, ha, hg⟩

end Run

end Dispatch
