import Dispatch.Proofs.Cluster.Order
import Dispatch.Proofs.Cluster.Place
import Dispatch.Workflow.Basic

/-! When the tasks of a workflow arrive, start and finish, in exact time. A task arrives as soon as it may: at
the greatest of zero, its own earliest time and the times at which its parents finished. -/

namespace Dispatch

def Event.completes? {τ : Type} : Event τ → Option TaskId
  | .completed id _ => some id
  | _ => none

lemma Event.completes?_eq_some_iff {τ : Type} {event : Event τ} {id : TaskId} :
    event.completes? = some id ↔ ∃ u, event = .completed id u := by
  cases event <;> simp [completes?]

namespace Cluster

section occupy

variable {τ : Type} [Time τ] (e : Cluster τ) (u : UnitId) (s : Station τ) (d : Job τ) (rest : Queue (Job τ))

def occupy : Cluster τ :=
  { e with
    units := e.units.setIfInBounds u { s with free := s.free - s.demand d, queue := rest }
    records := e.records.modify d.taskId ({ · with started := some e.clock, cores := s.demand d }) }

lemma startTask_eq : e.startTask u s d rest =
    (e.occupy u s d rest).schedule (.completed d.taskId u) (s.timeFor d) := rfl

lemma record?_occupy (k : TaskId) : (e.occupy u s d rest).record? k =
    if d.taskId = k then
      (e.record? k).map ({ · with started := some e.clock, cores := s.demand d })
    else e.record? k := record?_startTask (u := u) d rest k

end occupy

section finished

variable {τ : Type} {e e' : Cluster τ} {event : Event τ} {d : Job τ} {u : UnitId} {s : Station τ}
  {rest : Queue (Job τ)} {id p : TaskId}

def finished? (e : Cluster τ) (id : TaskId) : Option τ := (e.record? id).bind (·.finished)

lemma finished?_congr (h : e'.records = e.records) : e'.finished? id = e.finished? id := by
  rw [finished?, record?, h, ← record?, ← finished?]

lemma finished?_leave : (e.leave id u).finished? p =
    if id = p then (e.record? p).map fun _ => e.clock else e.finished? p := by
  rw [finished?, record?_leave, finished?]
  split
  · cases e.record? p <;> rfl
  · rfl

lemma finished?_enter (h : e.record? d.taskId = none) : (e.enter d u).finished? p = e.finished? p := by
  rw [finished?, record?_enter, finished?]
  split
  · rename_i hp
    rw [← hp, h]
    rfl
  · rfl

lemma At.finished?_running (h : e.At id (.running u)) : e.finished? id = none := by
  obtain ⟨r, hr, _, _, hf⟩ := h.record
  rw [finished?, hr]
  exact hf

variable [Time τ]

lemma finished?_occupy : (e.occupy u s d rest).finished? p = e.finished? p := by
  rw [finished?, record?_occupy, finished?]
  split
  · cases e.record? p <;> rfl
  · rfl

lemma finished?_startTask : (e.startTask u s d rest).finished? p = e.finished? p :=
  (finished?_occupy : (e.occupy u s d rest).finished? p = _)

lemma finished?_startWaiting : (e.startWaiting u).1.finished? p = e.finished? p :=
  startWaiting_induction (P := fun e' => e'.finished? p = e.finished? p)
    (fun _ _ _ _ _ _ _ h => finished?_startTask.trans h) rfl

lemma finished?_submit : (e.submit d u).1.finished? p = e.finished? p := by
  rw [submit]
  split <;> rfl

lemma finished?_completed (h : e.isRunning id = true) : (e.handle (.completed id u)).1.finished? p =
    if id = p then some e.clock else e.finished? p := by
  rw [handle, complete, if_pos h, finished?_startWaiting, finished?_leave]
  split
  · rename_i hi
    subst hi
    rw [isRunning] at h
    split at h
    · rename_i hr
      rw [hr]
      rfl
    · cases h
  · rfl

lemma finished?_handle (hl : ∀ k, ∃ q, e.At k q) (hd : e.Drawn event e') (p : TaskId) :
    (e'.handle event).1.finished? p =
      if event.completes? = some p then some e'.clock else e.finished? p := by
  have he : e'.finished? p = e.finished? p := finished?_congr hd.records
  cases event with
  | provisioned u =>
    rw [handle, countUnit]
    split <;> exact he
  | ready => exact he
  | arrived d u =>
    obtain ⟨q, hq⟩ := hl d.taskId
    obtain rfl := Place.eq_travelling (hq.mem_events hd.mem rfl)
    rw [handle, receive, finished?_startWaiting, finished?_enter ((hd.record? _).trans hq.record), he]
    rfl
  | completed id u =>
    obtain ⟨q, hq⟩ := hl id
    rw [finished?_completed (hq.isRunning_of_drawn hd), he]
    simp only [Event.completes?, Option.some_inj]

lemma clock_submit : (e.submit d u).1.clock = e.clock := by
  rw [submit]
  split <;> rfl

lemma clock_startWaiting (e : Cluster τ) (u : UnitId) : (e.startWaiting u).1.clock = e.clock :=
  startWaiting_induction (P := fun e' => e'.clock = e.clock) (fun _ _ _ _ _ _ _ h => h) rfl

lemma clock_handle (e : Cluster τ) (event : Event τ) : (e.handle event).1.clock = e.clock :=
  handle_cases (P := fun e' => e'.clock = e.clock) (fun _ _ => rfl) (fun _ _ => rfl)
    (fun _ u _ => clock_startWaiting _ u) (fun _ u _ _ => clock_startWaiting _ u) fun _ _ _ _ => rfl

end finished

variable {g : Workflow ℚ} {pool : Array ComputeUnit} {e e' f : Cluster ℚ} {a : Appointment ℚ} {id p : TaskId}
  {d : Job ℚ} {u : UnitId} {s : Station ℚ} {rest : Queue (Job ℚ)} {x : ℚ}

def parentTimes (g : Workflow ℚ) (e : Cluster ℚ) (id : TaskId) : Set ℚ :=
  {x | ∃ p, id ∈ g.children p ∧ e.finished? p = some x}

lemma parentTimes_submit (g : Workflow ℚ) (e : Cluster ℚ) (d : Job ℚ) (u : UnitId) (id : TaskId) :
    parentTimes g (e.submit d u).1 id = parentTimes g e id := by
  simp only [parentTimes, finished?_submit]

def ParentsFinished (g : Workflow ℚ) (e : Cluster ℚ) (id : TaskId) : Prop :=
  ∀ p, id ∈ g.children p → (e.finished? p).isSome = true

structure Due (g : Workflow ℚ) (e : Cluster ℚ) (id : TaskId) (x : ℚ) : Prop where
  parents : ParentsFinished g e id
  greatest : ∃ t, g.task? id = some t ∧ IsGreatest (insert 0 (insert t.notBefore (parentTimes g e id))) x

def Ends (g : Workflow ℚ) (pool : Array ComputeUnit) (id : TaskId) (u : UnitId) (s f : ℚ) : Prop :=
  ∃ t unit, g.task? id = some t ∧ pool[u]? = some unit ∧
    f = s + (t.length.toNat : ℚ) / (max unit.speed 1).toNat

structure Continues (e f : Cluster ℚ) : Prop where
  finished : ∀ p x, e.finished? p = some x → f.finished? p = some x
  started : ∀ id r s, e.record? id = some r → r.started = some s →
    ∃ r', f.record? id = some r' ∧ r'.started = some s ∧ r'.unit = r.unit

lemma continues_of_eq (h : f.records = e.records) : e.Continues f where
  finished p x hx := by
    rwa [finished?, record?, h]
  started id r s hr hs := ⟨r, by rwa [record?, h], hs, rfl⟩

lemma continues_enter (hr : e.record? d.taskId = none) : e.Continues (e.enter d u) where
  finished p x hx := (finished?_enter hr).trans hx
  started id r s hi hs := by
    have hd : d.taskId ≠ id := by
      rintro rfl
      rw [hr] at hi
      cases hi
    exact ⟨r, by rw [record?_enter, if_neg hd, hi], hs, rfl⟩

lemma continues_leave (hf : e.finished? id = none) : e.Continues (e.leave id u) where
  finished p x hx := by
    have hi : id ≠ p := by
      rintro rfl
      rw [hf] at hx
      cases hx
    rw [finished?_leave, if_neg hi, hx]
  started k r s hk hs := by
    rw [record?_leave, hk]
    split
    · exact ⟨_, rfl, hs, rfl⟩
    · exact ⟨r, rfl, hs, rfl⟩

lemma continues_occupy (hr : ∀ r, e.record? d.taskId = some r → r.started = none) :
    e.Continues (e.occupy u s d rest) where
  finished p x hx := finished?_occupy.trans hx
  started id r x hi hs := by
    have hd : d.taskId ≠ id := by
      rintro rfl
      rw [hr r hi] at hs
      cases hs
    exact ⟨r, by rw [record?_occupy, if_neg hd, hi], hs, rfl⟩

lemma Due.continues (h : Due g e id x) (hc : e.Continues f) : Due g f id x := by
  -- every parent has a time already, so that none is added
  have hf (p : TaskId) (hp : id ∈ g.children p) : f.finished? p = e.finished? p := by
    obtain ⟨y, hy⟩ := Option.isSome_iff_exists.mp (h.parents p hp)
    rw [hy, hc.finished p y hy]
  have ht : parentTimes g f id = parentTimes g e id := by
    ext y
    refine exists_congr fun p => and_congr_right fun hp => ?_
    rw [hf p hp]
  refine ⟨fun p hp => hf p hp ▸ h.parents p hp, ?_⟩
  rw [ht]
  exact h.greatest

def Meets (g : Workflow ℚ) (pool : Array ComputeUnit) (e : Cluster ℚ) : Event ℚ → ℚ → Prop
  | .arrived d _, x => Due g e d.taskId x
  | .completed id _, x => ∃ r s, e.record? id = some r ∧ r.started = some s ∧ Ends g pool id r.unit s x
  | _, _ => True

lemma Meets.continues {event : Event ℚ} (h : Meets g pool e event x) (hc : e.Continues f) :
    Meets g pool f event x := by
  cases event with
  | provisioned u => trivial
  | ready => trivial
  | arrived d u => exact Due.continues h hc
  | completed id u =>
    obtain ⟨r, s, hr, hs, he⟩ := h
    obtain ⟨r', hr', hs', hu⟩ := hc.started id r s hr hs
    exact ⟨r', s, hr', hs', hu ▸ he⟩

structure Paced (g : Workflow ℚ) (pool : Array ComputeUnit) (e : Cluster ℚ) (id : TaskId)
    (r : Record ℚ) : Prop where
  due : Due g e id r.arrived
  unit : r.unit < pool.size
  arrived : r.arrived ≤ e.clock
  started : ∀ s, r.started = some s → r.arrived ≤ s
  finished : ∀ x, r.finished = some x → x ≤ e.clock ∧ ∃ s, r.started = some s ∧ Ends g pool id r.unit s x

lemma Paced.continues {r : Record ℚ} (h : Paced g pool e id r) (hc : e.Continues f)
    (ht : e.clock ≤ f.clock) : Paced g pool f id r :=
  ⟨h.due.continues hc, h.unit, h.arrived.trans ht, h.started,
    fun x hx => ⟨(h.finished x hx).1.trans ht, (h.finished x hx).2⟩⟩

structure Timely (g : Workflow ℚ) (pool : Array ComputeUnit) (e : Cluster ℚ) : Prop where
  houses : e.Houses pool
  nonneg : 0 ≤ e.clock
  inOrder : e.InOrder
  meets : ∀ a ∈ e.calendar.toList, e.clock ≤ a.time ∧ Meets g pool e a.event a.time
  paced : ∀ id r, e.record? id = some r → Paced g pool e id r

lemma time_le_of_before {b : Appointment ℚ} (h : b.before a = false) : a.time ≤ b.time := by
  rw [Appointment.before_eq_false_iff, compare_rat, compare_lt_iff_lt, compare_eq_iff_eq] at h
  rcases h with h | ⟨h, _⟩
  · exact h.le
  · exact h.le

lemma isGreatest_delayed {times : Set ℚ} {c b : ℚ} (h : IsGreatest (insert 0 times) c) :
    IsGreatest (insert 0 (insert b times)) (c + Time.max (b - c) 0) := by
  have hm : c + Time.max (b - c) 0 = max c b := by
    change c + (if b - c < 0 then 0 else b - c) = _
    split
    · rename_i hb
      rw [add_zero, max_eq_left (sub_neg.mp hb).le]
    · rename_i hb
      rw [add_sub_cancel, max_eq_right (sub_nonneg.mp (not_lt.mp hb))]
  rw [hm, Set.insert_comm, max_comm]
  exact h.insert b

namespace Timely

variable (h : Timely g pool e)

include h

lemma finished_le (hx : e.finished? p = some x) : x ≤ e.clock := by
  obtain ⟨r, hr, hf⟩ := Option.bind_eq_some_iff.mp hx
  exact ((h.paced p r hr).finished x hf).1

lemma next (hn : e.Next a e') (ho : e'.InOrder) (hf : ∀ b ∈ e'.calendar.toList, b.before a = false) :
    Timely g pool e' ∧ Meets g pool e' a.event e'.clock := by
  have hc : e.Continues e' := continues_of_eq hn.drawn.records
  obtain ⟨ht, hm⟩ := h.meets a (hn.calendar.mem_iff.mpr List.mem_cons_self)
  rw [← hn.clock] at ht hm
  refine ⟨⟨h.houses.of_eq hn.drawn.units, h.nonneg.trans ht, ho, fun b hb => ⟨?_, ?_⟩, fun id r hr => ?_⟩,
    hm.continues hc⟩
  · rw [hn.clock]
    exact time_le_of_before (hf b hb)
  · exact (h.meets b (hn.calendar.mem_iff.mpr (List.mem_cons_of_mem a hb))).2.continues hc
  · exact (h.paced id r (hn.drawn.record? id ▸ hr)).continues hc ht

lemma of_continues (hc : e.Continues f) (ht : f.clock = e.clock) (hq : f.calendar = e.calendar)
    (hu : f.Houses pool) (hp : ∀ id r, f.record? id = some r → Paced g pool f id r) :
    Timely g pool f where
  houses := hu
  nonneg := ht ▸ h.nonneg
  inOrder := by
    rw [InOrder, hq]
    exact h.inOrder
  meets b hb := by
    obtain ⟨hl, hm⟩ := h.meets b (hq ▸ hb)
    exact ⟨ht ▸ hl, hm.continues hc⟩
  paced := hp

lemma schedule {event : Event ℚ} {delay : ℚ} (hd : 0 ≤ delay)
    (hm : Meets g pool e event (e.clock + delay)) : Timely g pool (e.schedule event delay) := by
  have hc : e.Continues (e.schedule event delay) := continues_of_eq rfl
  refine ⟨h.houses.of_eq rfl, h.nonneg, h.inOrder.schedule _ _, fun b hb => ?_, fun id r hr => ?_⟩
  · rcases List.mem_cons.mp ((appointments_schedule e event delay).mem_iff.mp hb) with rfl | hb
    · exact ⟨le_add_of_nonneg_right hd, hm.continues hc⟩
    · obtain ⟨hl, hm⟩ := h.meets b hb
      exact ⟨hl, hm.continues hc⟩
  · exact (h.paced id r hr).continues hc le_rfl

lemma enter (hr : e.record? d.taskId = none) (hu : u < pool.size) (hd : Due g e d.taskId e.clock) :
    Timely g pool (e.enter d u) := by
  have hc := continues_enter (u := u) hr
  refine h.of_continues hc rfl rfl (fun v => (unit?_enter v).trans (h.houses v)) fun id r hi => ?_
  rw [record?_enter] at hi
  split at hi
  · rename_i hk
    subst hk
    cases hi
    exact ⟨hd.continues hc, hu, le_rfl, fun s hs => (by cases hs), fun x hx => (by cases hx)⟩
  · exact (h.paced id r hi).continues hc le_rfl

lemma leave (hf : e.finished? id = none) (hm : Meets g pool e (.completed id u) e.clock) :
    Timely g pool (e.leave id u) := by
  have hc := continues_leave (u := u) hf
  refine h.of_continues hc rfl rfl (fun v => (unit?_leave v).trans (h.houses v)) fun k r hk => ?_
  rw [record?_leave] at hk
  split at hk
  · rename_i hi
    subst hi
    obtain ⟨r₀, hr₀, rfl⟩ := Option.map_eq_some_iff.mp hk
    obtain ⟨r', s, hr', hs, he⟩ := hm
    rw [hr₀] at hr'
    cases hr'
    have hp := (h.paced id r₀ hr₀).continues hc le_rfl
    refine ⟨hp.due, hp.unit, hp.arrived, hp.started, fun x hx => ?_⟩
    cases hx
    exact ⟨le_rfl, s, hs, he⟩
  · exact (h.paced k r hk).continues hc le_rfl

lemma occupy (hs : e.units[u]? = some s) (hq : e.At d.taskId (.queued d u)) :
    Timely g pool (e.occupy u s d rest) := by
  obtain ⟨r₀, hr₀, _, hn, hf⟩ := hq.record
  have hc : e.Continues (e.occupy u s d rest) := continues_occupy fun r hr => by
    rw [hr₀] at hr
    cases hr
    exact hn
  refine h.of_continues hc rfl rfl (fun v => (unit?_startTask hs v).trans (h.houses v)) fun k r hk => ?_
  rw [record?_occupy] at hk
  split at hk
  · rename_i hi
    rw [← hi, hr₀] at hk
    cases hk
    have hp := (h.paced _ r₀ hr₀).continues hc le_rfl
    refine ⟨hi ▸ hp.due, hp.unit, hp.arrived, fun x hx => ?_, fun x hx => ?_⟩
    · cases hx
      exact hp.arrived
    · cases hf.symm.trans hx
  · exact (h.paced k r hk).continues hc le_rfl

lemma startTask (hs : e.units[u]? = some s) (hq : e.At d.taskId (.queued d u))
    (hj : (g.task? d.taskId).map Task.job = some d) : Timely g pool (e.startTask u s d rest) := by
  obtain ⟨r₀, hr₀, rfl, _⟩ := hq.record
  obtain ⟨t, ht, rfl⟩ := Option.map_eq_some_iff.mp hj
  have hu : pool[r₀.unit]? = some s.unit := by
    rw [← h.houses, unit?, hs]
    rfl
  refine (h.occupy hs hq).schedule (div_nonneg (Nat.cast_nonneg _) (Nat.cast_nonneg _))
    ⟨{ r₀ with started := some e.clock, cores := s.demand t.job }, e.clock, ?_, rfl, t, s.unit, ht, hu, rfl⟩
  rw [record?_occupy, if_pos rfl, hr₀]
  rfl

lemma submit (u : UnitId) {t : Task ℚ} (ht : g.task? t.id = some t) (hp : ParentsFinished g e t.id)
    (hg : IsGreatest (insert 0 (parentTimes g e t.id)) e.clock) :
    Timely g pool (e.submit t.job u).1 := by
  rw [Cluster.submit]
  split
  · refine h.schedule ?_ ⟨hp, t, ht, isGreatest_delayed hg⟩
    change (0 : ℚ) ≤ if _ < (0 : ℚ) then 0 else _
    split
    · exact le_rfl
    · rename_i hd
      exact not_lt.mp hd
  · exact h

end Timely

def Known (g : Workflow ℚ) (n : ℕ) (id : TaskId) : Place ℚ → Prop
  | .travelling d u | .queued d u => (g.task? id).map Task.job = some d ∧ u < n
  | _ => True

lemma Timely.handle (h : Timely g pool e') (hn : e.Next a e') (hm : Meets g pool e' a.event e'.clock)
    (hk : ∀ id, ∃ p, e.At id p ∧ Known g pool.size id p) : Timely g pool (e'.handle a.event).1 := by
  have hd := hn.drawn
  have hu (d : Job ℚ) (u : UnitId) (he : a.event = .arrived d u) : u < pool.size := by
    obtain ⟨p, hp, hq⟩ := hk d.taskId
    obtain rfl := Place.eq_travelling (hp.mem_events (he ▸ hd.mem) rfl)
    exact hq.2
  have hs : e.units.size = pool.size := by rw [← hd.units, h.houses.size]
  have hc (n : ℕ) : Timely g pool { e' with readyUnits := n } :=
    h.of_continues (continues_of_eq rfl) rfl rfl (h.houses.of_eq rfl) fun id r hr =>
      (h.paced id r hr).continues (continues_of_eq rfl) le_rfl
  refine (At.handle_keeps (Q := Known g pool.size) (P := Timely g pool) (fun _ _ _ _ => trivial)
    (fun e u s d rest hs _ _ ha hq ht => ht.startTask hs ha hq.1) hd (fun d u he => hs ▸ hu d u he) hk
    (fun _ _ _ _ hq => hq) (fun _ _ _ _ => trivial) hc (fun n => (hc n).schedule le_rfl trivial)
    (fun d u he ha => ?_) fun k u he ha => ?_).2
  · refine h.enter (hd.record? _ ▸ ha.record) (hu d u he) ?_
    rw [he] at hm
    exact hm
  · refine h.leave ?_ (he ▸ hm)
    rw [finished?_congr hd.records]
    exact ha.finished?_running

end Cluster

end Dispatch
