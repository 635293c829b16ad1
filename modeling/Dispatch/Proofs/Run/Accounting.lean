import Dispatch.Proofs.Cluster.Boot
import Dispatch.Proofs.Cluster.Provision
import Dispatch.Proofs.Cluster.Records
import Dispatch.Proofs.Run.Deliveries
import Dispatch.Proofs.Run.Termination
import Dispatch.Proofs.Run.Working

/-! Which events a run delivers, and how many: one for each unit, one when the units are ready, one for each
task that is submitted and one for each that starts. -/

namespace Dispatch

variable {τ : Type} {h : List (Event τ)} {event : Event τ} {id : TaskId} {p : Place τ}

def about (h : List (Event τ)) (id : TaskId) : List (Event τ) :=
  h.filter fun event => event.taskId? == some id

lemma about_append_of_ne (hi : event.taskId? ≠ some id) : about (h ++ [event]) id = about h id := by
  simp [about, hi]

lemma about_append_self (hi : event.taskId? = some id) :
    about (h ++ [event]) id = about h id ++ [event] := by
  simp [about, hi]

def Place.Past (id : TaskId) : Place τ → List (Event τ) → Prop
  | absent, l | travelling _ _, l => l = []
  | queued d u, l => l = [.arrived d u]
  | running u, l => ∃ d, l = [.arrived d u]
  | finished u, l => ∃ d, l = [.arrived d u, .completed id u]

lemma Place.Past.cases {l : List (Event τ)} (hp : p.Past id l) : l = [] ∨ (∃ d u, l = [.arrived d u]) ∨
    ∃ d u, l = [.arrived d u, .completed id u] := by
  cases p with
  | absent | travelling => exact .inl hp
  | queued d u => exact .inr (.inl ⟨d, u, hp⟩)
  | running u => exact .inr (.inl ⟨hp.choose, u, hp.choose_spec⟩)
  | finished u => exact .inr (.inr ⟨hp.choose, u, hp.choose_spec⟩)

namespace Cluster

variable [Time τ] {e e' : Cluster τ}

def Remembers (e : Cluster τ) (h : List (Event τ)) : Prop := ∀ id, ∃ p, e.At id p ∧ p.Past id (about h id)

lemma Remembers.handle (hr : e.Remembers h) (hd : e.Drawn event e')
    (hu : ∀ d u, event = .arrived d u → u < e.units.size) :
    (e'.handle event).1.Remembers (h ++ [event]) := by
  intro k
  obtain ⟨p, hp, hl⟩ := hr k
  refine hp.handle (fun d u h => ⟨d, h⟩) hd hu (fun hi => ?_) ?_ ?_
  · rw [about_append_of_ne hi]
    exact hl
  · rintro d u rfl rfl
    have hi : (Event.arrived d u).taskId? = some k := congrArg some hp.taskId_of_travelling
    rw [Place.Past, about_append_self hi, show about h k = [] from hl, List.nil_append]
  · rintro u rfl rfl
    obtain ⟨d, hl⟩ := hl
    exact ⟨d, by rw [about_append_self rfl, hl]; rfl⟩

lemma Remembers.submit (hr : e.Remembers h) {d : Job τ} (u : UnitId) (hd : e.At d.taskId .absent) :
    (e.submit d u).1.Remembers h := by
  intro k
  by_cases hk : d.taskId = k
  · subst hk
    obtain ⟨p, hp, hl⟩ := hr d.taskId
    obtain rfl := hp.unique hd
    by_cases hu : u < e.units.size
    · exact ⟨_, hp.submit_self hu, hl⟩
    · rw [Cluster.submit, if_neg hu]
      exact ⟨_, hp, hl⟩
  · obtain ⟨p, hp, hl⟩ := hr k
    exact ⟨p, hp.submit_of_ne hk, hl⟩

def Begun (e : Cluster τ) : Prop :=
  ∀ id r, e.record? id = some r → r.finished.isSome = true → r.started.isSome = true

lemma Begun.handle (hb : e.Begun) (hr : e.Remembers h) (hd : e.Drawn event e')
    (hu : ∀ d u, event = .arrived d u → u < e.units.size) : (e'.handle event).1.Begun := by
  have hb' : e'.Begun := fun id r hr => hb id r (hd.record? id ▸ hr)
  refine (At.handle_keeps (Q := fun _ _ => True) (P := Begun) (fun _ _ _ h => h) ?_ hd hu
    (fun k => ⟨_, (hr k).choose_spec.1, trivial⟩) (fun _ _ _ _ h => h) (fun _ _ _ h => h)
    (fun _ => hb') (fun _ => hb') ?_ ?_).2
  · intro e u s d rest _ _ _ _ _ hb id r hr hf
    rw [record?_startTask] at hr
    split at hr
    · obtain ⟨r', _, rfl⟩ := Option.map_eq_some_iff.mp hr
      rfl
    · exact hb id r hr hf
  · intro d u _ _ id r hr hf
    rw [record?_enter] at hr
    split at hr
    · cases hr
      cases hf
    · exact hb' id r hr hf
  · intro k u _ hk id r hr hf
    obtain ⟨r₀, hr₀, _, hs, _⟩ := hk.record
    rw [record?_leave, hd.record?] at hr
    split at hr
    · rename_i hi
      subst hi
      rw [hr₀] at hr
      cases hr
      exact hs
    · exact hb id r hr hf

end Cluster

namespace Run

open Scheduler Cluster

variable [Time τ] {σ : Type} [Policy σ τ] {s s' : Run σ τ} {out : Array (Notice τ)} {e : Cluster τ} {n : ℕ}

def Course (n : ℕ) (h : List (Event τ)) (e : Cluster τ) : Prop :=
  (∃ k ≤ n, h = (List.range k).map .provisioned ∧ e.Booted k) ∨
    ∃ rest, h = (List.range n).map .provisioned ++ .ready :: rest ∧
      (∀ event ∈ rest, event.taskId? ≠ none) ∧ e.duties = 0

lemma duties_performed {c c' : Scheduler σ τ × Array (Action τ)} {time : τ}
    (hm : Move time c c') (hd : (e.performed out c.2).duties = 0) :
    (e.performed out c'.2).duties = 0 := by
  cases hm with
  | submit => simpa [(sameDuties_submit _ _ _).duties] using hd
  | fail => simpa using hd
  | finish => simpa using hd

lemma Course.step [Std.TransCmp (Time.compare (τ := τ))] (hc : Course n h s.cluster)
    (hn : s.cluster.units.size = n) (he : s.cluster.next? = some (event, e)) :
    Course n (h ++ [event])
      (e.performed out (s.scheduler.handle e.clock event).2) := by
  rcases hc with ⟨k, hk, rfl, hb⟩ | ⟨rest, rfl, hr, hd⟩
  · rcases hb.next he with ⟨hk', rfl, hb⟩ | ⟨rfl, rfl, hz⟩
    · refine .inl ⟨k + 1, hn ▸ hk', ?_, ?_⟩
      · rw [List.range_succ, List.map_append]
        rfl
      · simpa [Cluster.performed, Cluster.perform, Scheduler.handle] using hb
    · refine .inr ⟨[], hn ▸ rfl, by simp, ?_⟩
      refine handled_induction (P := fun _ e => e.duties = 0) out (fun c hc => ?_)
        fun c c' hm => duties_performed hm
      exact (congrArg _ hz).trans (Multiset.filter_zero _)
  · have hx := drawn_of_next? he
    have hi : event.taskId? ≠ none := by
      intro hi
      have hm : event ∈ s.cluster.duties := Multiset.mem_filter.mpr ⟨hx.mem, hi⟩
      rw [hd] at hm
      exact Multiset.notMem_zero _ hm
    refine .inr ⟨rest ++ [event], by simp, ?_, ?_⟩
    · intro x hm
      rcases List.mem_append.mp hm with hm | hm
      · exact hr x hm
      · exact List.mem_singleton.mp hm ▸ hi
    · refine handled_induction (P := fun _ e => e.duties = 0) out (fun c hc => ?_)
        fun c c' hm => duties_performed hm
      exact (sameDuties_handle hx hi).duties.trans hd

section traced

variable {g : Workflow τ} {pool : Array ComputeUnit} {c : Scheduler NamedPolicy τ} {e' : Cluster τ}
  {x x' : Scheduler NamedPolicy τ × Array (Action τ)} {time : τ} {a : Appointment τ}
  {r r' : Run NamedPolicy τ} {notices : Array (Notice τ)}

structure Traced (g : Workflow τ) (pool : Array ComputeUnit) (h : List (Event τ))
    (c : Scheduler NamedPolicy τ) (e : Cluster τ) : Prop where
  working : Working g pool c e
  remembers : e.Remembers h
  begun : e.Begun
  counted : e.Counted h.length

lemma Traced.opening (ht : Traced g pool h c e) (hn : e.Next a e') (hc : Opening c time a.event x) :
    Traced g pool (h ++ [a.event]) x.1 (e'.handle a.event).1 := by
  have hu (d : Job τ) (u : UnitId) (he : a.event = .arrived d u) : u < e.units.size :=
    ht.working.joined.unit_lt (he ▸ hn.drawn.mem)
  refine ⟨ht.working.opening hn.drawn hc, ht.remembers.handle hn.drawn hu,
    ht.begun.handle ht.remembers hn.drawn hu, ?_⟩
  rw [List.length_append, List.length_singleton]
  exact (ht.counted.next hn).handle _

lemma Traced.move (ht : Traced g pool h x.1 (e.performed out x.2)) (hm : Move time x x') :
    Traced g pool h x'.1 (e.performed out x'.2) := by
  have hw := ht.working.move hm
  cases hm with
  | finish => exact ⟨hw, by simpa using ht.remembers, by simpa using ht.begun, by simpa using ht.counted⟩
  | fail => exact ⟨hw, by simpa using ht.remembers, by simpa using ht.begun, by simpa using ht.counted⟩
  | @submit c acts t u policy id progress _ hp _ hn =>
    have hk := Progress.taken_of_next? hn
    obtain ⟨_, rfl⟩ := Progress.task?_of_peek? hp hk
    have hj := ht.working.joined
    have ha := hj.absent_of_ready (hj.faithful.sound.phase?_of_taken hk)
    rw [Cluster.performed_submit, Cluster.performed_note] at hw ⊢
    refine ⟨hw, ht.remembers.submit u ha, ?_, ht.counted.submit _ _⟩
    rw [Cluster.submit]
    split <;> exact ht.begun

lemma Traced.step (ht : Traced g pool (deliveries out) r.scheduler r.cluster)
    (hs : r.step? = some (r', notices)) :
    Traced g pool (deliveries (out ++ notices)) r'.scheduler r'.cluster := by
  obtain ⟨event, e, out', hn, hd, hc, he⟩ := exists_delivered_of_step? hs
  rw [deliveries_append, hd, hc, he]
  obtain ⟨a, rfl, hn, _⟩ := exists_deleteMin?_of_next? hn
  exact handled_induction (P := Traced g pool _) out' (fun c hc => ht.opening hn hc)
    fun c c' hm h => h.move hm

lemma Traced.course_step [Std.TransCmp (Time.compare (τ := τ))]
    (ht : Traced g pool (deliveries out) r.scheduler r.cluster)
    (hc : Course pool.size (deliveries out) r.cluster) (hs : r.step? = some (r', notices)) :
    Course pool.size (deliveries (out ++ notices)) r'.cluster := by
  obtain ⟨event, e, out', hn, hd, _, he⟩ := exists_delivered_of_step? hs
  rw [deliveries_append, hd, he]
  exact hc.step ht.working.joined.houses.size hn

lemma traced_ofPool (g : Workflow τ) {name : String} {policy : NamedPolicy}
    (hp : NamedPolicy.ofName? name pool.size = some policy) :
    Traced g pool [] (ofPool pool g policy).scheduler (ofPool pool g policy).cluster := by
  refine ⟨working_ofPool g hp, fun id => ?_, fun id r hr => ?_, ?_⟩
  · exact ⟨_, (At.ofPool pool id).startUnits, rfl⟩
  · cases hr.symm.trans ((At.ofPool pool id).startUnits).record
  · exact Counted.startUnits rfl

lemma course_ofPool [Std.TransCmp (Time.compare (τ := τ))] (g : Workflow τ) (policy : NamedPolicy) :
    Course pool.size [] (ofPool pool g policy).cluster :=
  .inl ⟨0, Nat.zero_le _, rfl, booted_ofPool pool⟩

section ended

variable (ht : Traced g pool h c e) (he : e.events = 0)

include ht he

omit [Time τ] in
lemma Traced.place_of_ended (id : TaskId) : ∃ p, e.At id p ∧ c.Expects id p ∧ p.Past id (about h id) ∧
    (p = .absent ∨ (∃ d u, p = .queued d u) ∨ ∃ u, p = .finished u) := by
  obtain ⟨p, hp, hl⟩ := ht.remembers id
  obtain ⟨q, hq, hc⟩ := ht.working.joined.agrees id
  obtain rfl := hq.unique hp
  have hn := hp.events_eq_zero he
  refine ⟨q, hp, hc, hl, ?_⟩
  cases q with
  | absent => exact .inl rfl
  | travelling d u => simp [Place.events] at hn
  | queued d u => exact .inr (.inl ⟨d, u, rfl⟩)
  | running u => simp [Place.events] at hn
  | finished u => exact .inr (.inr ⟨u, rfl⟩)

omit [Time τ] in
lemma Traced.length_about (id : TaskId) : (about h id).length =
    (c.progress.phase? id == some .submitted).toNat + (c.progress.phase? id == some .completed).toNat +
      ((e.record? id).map fun r => r.started.isSome.toNat).getD 0 := by
  obtain ⟨p, hp, hc, hl, rfl | ⟨d, u, rfl⟩ | ⟨u, rfl⟩⟩ := ht.place_of_ended he id
  · rw [show e.record? id = none from hp.record, show about h id = [] from hl,
      beq_eq_false_iff_ne.mpr hc.1, beq_eq_false_iff_ne.mpr hc.2]
    rfl
  · obtain ⟨r, hr, _, hs, _⟩ := hp.record
    rw [show about h id = _ from hl, hr, hc.2.1, Option.map_some, hs]
    rfl
  · obtain ⟨r, hr, _, hf⟩ := hp.record
    obtain ⟨d, hl⟩ := hl
    rw [hl, hr, hc.1, Option.map_some, ht.begun id r hr hf]
    rfl

omit [Time τ] in
lemma Traced.mem_ids (hm : event ∈ h) (hi : event.taskId? = some id) : id ∈ g.ids := by
  obtain ⟨p, hp, _, hl, rfl | ⟨d, u, rfl⟩ | ⟨u, rfl⟩⟩ := ht.place_of_ended he id
  · have ha : event ∈ about h id := List.mem_filter.mpr ⟨hm, beq_iff_eq.mpr hi⟩
    rw [show about h id = [] from hl] at ha
    exact (List.not_mem_nil ha).elim
  · exact (ht.working.joined.located id).elim fun q hq => hq.2 (by rw [hq.1.unique hp]; simp)
  · exact (ht.working.joined.located id).elim fun q hq => hq.2 (by rw [hq.1.unique hp]; simp)

omit [Time τ] he in
lemma Traced.started_eq_total : e.recorded.countP (fun r => r.started.isSome) =
    total (fun id => ((e.record? id).map fun r => r.started.isSome.toNat).getD 0) g.ids := by
  rw [countP_eq_total, total_recorded _ g.nodup_ids ht.working.joined.mem_ids_of_record]

omit [Time τ] in
lemma Traced.length_rest {l rest : List (Event τ)} (hh : h = l ++ rest)
    (hl : ∀ event ∈ l, event.taskId? = none) (hr : ∀ event ∈ rest, event.taskId? ≠ none) :
    rest.length = c.progress.countIn .submitted + c.progress.countIn .completed +
      e.recorded.countP fun r => r.started.isSome := by
  have hf := ht.working.joined.faithful
  have ha (id : TaskId) : about h id = about rest id := by
    rw [hh, about, List.filter_append, List.filter_eq_nil_iff.mpr, List.nil_append, about]
    intro event hm
    simp [hl event hm]
  -- an event of the rest is about one task, and its task is one of the workflow
  have hx := total_fibres (fun _ => true) Event.taskId? g.nodup_ids (l := rest) fun event hm _ => by
    obtain ⟨id, hi⟩ := Option.ne_none_iff_exists'.mp (hr event hm)
    exact ⟨id, ht.mem_ids he (hh ▸ List.mem_append_right l hm) hi, hi⟩
  simp only [Bool.true_and, List.countP_eq_length_filter, List.filter_true] at hx
  rw [← hx, hf.countIn_eq_total, hf.countIn_eq_total, ht.started_eq_total, ← total_add, ← total_add]
  refine total_congr fun id _ => ?_
  rw [← ht.length_about he id, ha]
  rfl

omit [Time τ] in
lemma Traced.created_eq : e.created = h.length := by
  have hc := ht.counted
  rw [events, Multiset.coe_eq_zero, List.map_eq_nil_iff] at he
  rwa [Counted, he, List.length_nil, Nat.add_zero] at hc

omit [Time τ] in
lemma Traced.counts_of_cores (hs : ∀ id, c.progress.phase? id ≠ some .submitted) :
    c.progress.countIn .submitted = 0 ∧
      e.recorded.countP (fun r => r.started.isSome) = c.progress.countIn .completed := by
  have hf := ht.working.joined.faithful
  refine ⟨?_, ?_⟩
  · rw [hf.countIn_eq_total]
    exact total_eq_zero fun id _ => by rw [beq_eq_false_iff_ne.mpr (hs id)]; rfl
  · rw [ht.started_eq_total, hf.countIn_eq_total]
    refine total_congr fun id _ => ?_
    obtain ⟨p, hp, hc, _, rfl | ⟨d, u, rfl⟩ | ⟨u, rfl⟩⟩ := ht.place_of_ended he id
    · rw [show e.record? id = none from hp.record, beq_eq_false_iff_ne.mpr hc.2]
      rfl
    · exact (hs id hc.2.1).elim
    · obtain ⟨r, hr, _, hf⟩ := hp.record
      rw [hr, hc.1, Option.map_some, ht.begun id r hr hf]
      rfl

end ended

lemma traced_toEnd [Std.TransCmp (Time.compare (τ := τ))] (g : Workflow τ) {name : String}
    {policy : NamedPolicy} (hp : NamedPolicy.ofName? name pool.size = some policy) :
    let s := (ofPool pool g policy).toEnd
    Traced g pool (deliveries s.2) s.1.scheduler s.1.cluster ∧
      Course pool.size (deliveries s.2) s.1.cluster :=
  runUntil_notices (P := fun r out => Traced g pool (deliveries out) r.scheduler r.cluster ∧
    Course pool.size (deliveries out) r.cluster) (fun _ _ _ _ hs h => ⟨h.1.step hs, h.1.course_step h.2 hs⟩)
    _ _ _ ⟨traced_ofPool g hp, course_ofPool g policy⟩

end traced

/-- A run ends. It has delivered that each unit is provisioned, in their order, and that all are, then for each
task that was submitted its arrival and after that, if it was started, its completion. -/
theorem events_accounted [Std.TransCmp (Time.compare (τ := τ))] (g : Workflow τ)
    (pool : Array ComputeUnit) (name : String) (policy : NamedPolicy)
    (hp : NamedPolicy.ofName? name pool.size = some policy) :
    let s := (ofPool pool g policy).toEnd
    let progress := s.1.scheduler.progress
    let started := s.1.cluster.recorded.countP fun r => r.started.isSome
    s.1.step? = none ∧
    (∃ rest, deliveries s.2 = (List.range pool.size).map .provisioned ++ .ready :: rest ∧
      ∀ event ∈ rest, event.taskId? ≠ none) ∧
    (∀ id, about (deliveries s.2) id = [] ∨ (∃ d u, about (deliveries s.2) id = [.arrived d u]) ∨
      ∃ d u, about (deliveries s.2) id = [.arrived d u, .completed id u]) ∧
    s.1.created = (deliveries s.2).length ∧
    s.1.created =
      pool.size + 1 + (progress.countIn .submitted + progress.countIn .completed) + started ∧
    ((∀ u ∈ pool, 0 < u.cores) →
      progress.countIn .submitted = 0 ∧ started = progress.countIn .completed) := by
  intro s progress started
  have hs : s.1.step? = none := toEnd_ends _
  have he : s.1.cluster.events = 0 := step?_eq_none_iff.mp hs
  obtain ⟨ht, hc⟩ := traced_toEnd g hp
  obtain ⟨rest, hd, hr, _⟩ := hc.resolve_left fun ⟨k, _, _, hb⟩ => hb.events_ne_zero he
  have hn : s.1.created = (deliveries s.2).length := ht.created_eq he
  refine ⟨hs, ⟨rest, hd, hr⟩, fun id => ?_, hn, ?_, fun hcores => ?_⟩
  · obtain ⟨p, _, hl⟩ := ht.remembers id
    exact hl.cases
  · have hh : deliveries s.2 = ((List.range pool.size).map .provisioned ++ [.ready]) ++ rest := by
      rw [hd, List.append_assoc]
      rfl
    have hl : rest.length = progress.countIn .submitted + progress.countIn .completed + started :=
      ht.length_rest he hh (by simp [or_imp, forall_and, Event.taskId?]) hr
    rw [hn, hd, List.length_append, List.length_map, List.length_range, List.length_cons, hl]
    omega
  · exact ht.counts_of_cores he
      (ht.working.phase?_ne_submitted he fun u hu => UInt32.lt_iff_toNat_lt.mp (hcores u hu))

theorem events_accounted_chain :
    let task (id : TaskId) : Task Binary64 := .ofCost id "" 0 (.sequential 1 1 1)
    let g : Workflow Binary64 := ((Workflow.empty.insertTask (task 0)).insertTask (task 1)).link 0 1
    let policy : NamedPolicy := .roundRobin ⟨.ofSize 1, 0⟩
    let s := (ofPool #[⟨0, "", 1, 1, 1⟩] g policy).toEnd
    s.1.step? = none ∧ s.1.created = (deliveries s.2).length ∧ (deliveries s.2).length = 6 ∧
      about (deliveries s.2) 1 = [.arrived (task 1).job 0, .completed 1 0] := by
  intro task g policy s
  obtain ⟨hs, _, _, hn, _⟩ := events_accounted g #[⟨0, "", 1, 1, 1⟩] "RoundRobin" policy rfl
  exact ⟨hs, hn, by decide +kernel, by decide +kernel⟩

end Run

end Dispatch
