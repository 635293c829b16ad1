import Dispatch.Proofs.Cluster.Effects

/-! Where a task is: unknown to the cluster, on its way to a unit, in the queue of a unit, running or
finished. No event leaves a task in two places or in none. -/

namespace Dispatch

inductive Place (τ : Type) where
  | absent
  | travelling (d : Job τ) (u : UnitId)
  | queued (d : Job τ) (u : UnitId)
  | running (u : UnitId)
  | finished (u : UnitId)

namespace Place

variable {τ : Type}

def events (id : TaskId) : Place τ → Multiset (Event τ)
  | travelling d u => {.arrived d u}
  | running u => {.completed id u}
  | _ => 0

def copies : Place τ → UnitId → List (Job τ)
  | queued d u, v => if u = v then [d] else []
  | _, _ => []

lemma eq_queued {p : Place τ} {d : Job τ} {u : UnitId} (h : d ∈ p.copies u) : p = .queued d u := by
  cases p with
  | queued d' v =>
    rw [copies] at h
    split at h
    · rename_i hv
      rw [List.mem_singleton.mp h, hv]
    · cases h
  | _ => cases h

lemma eq_travelling {p : Place τ} {id : TaskId} {d : Job τ} {u : UnitId}
    (h : .arrived d u ∈ p.events id) : p = .travelling d u := by
  cases p with
  | travelling d' v => cases Multiset.mem_singleton.mp h; rfl
  | running v => cases Multiset.mem_singleton.mp h
  | _ => cases Multiset.notMem_zero _ h

lemma eq_running {p : Place τ} {id k : TaskId} {u : UnitId}
    (h : .completed k u ∈ p.events id) : p = .running u := by
  cases p with
  | travelling d' v => cases Multiset.mem_singleton.mp h
  | running v => cases Multiset.mem_singleton.mp h; rfl
  | _ => cases Multiset.notMem_zero _ h

def Fits : Place τ → Option (Record τ) → Prop
  | absent, r? | travelling _ _, r? => r? = none
  | queued _ u, r? => ∃ r, r? = some r ∧ r.unit = u ∧ r.started = none ∧ r.finished = none
  | running u, r? => ∃ r, r? = some r ∧ r.unit = u ∧ r.started.isSome = true ∧ r.finished = none
  | finished u, r? => ∃ r, r? = some r ∧ r.unit = u ∧ r.finished.isSome = true

end Place

namespace Cluster

variable {τ : Type} {e e' : Cluster τ} {u v : UnitId} {s : Station τ} {d : Job τ}
  {rest : Queue (Job τ)} {event : Event τ} {id k : TaskId} {p : Place τ}

def pending (e : Cluster τ) (id : TaskId) : Multiset (Event τ) :=
  e.events.filter fun event => event.taskId? = some id

def copies (e : Cluster τ) (id : TaskId) (u : UnitId) : List (Job τ) :=
  (e.queueAt u).filter fun d => d.taskId = id

lemma pending_of_cons (h : e'.events = event ::ₘ e.events) (id : TaskId) :
    e'.pending id = if event.taskId? = some id then event ::ₘ e.pending id else e.pending id := by
  rw [pending, h, Multiset.filter_cons, pending]
  split <;> simp

lemma copies_enter (hu : u < e.units.size) (id : TaskId) (v : UnitId) : (e.enter d u).copies id v =
    if u = v ∧ d.taskId = id then e.copies id v ++ [d] else e.copies id v := by
  rw [copies, queueAt_enter hu, copies]
  by_cases hv : u = v <;> by_cases hd : d.taskId = id <;> simp [hv, hd]

lemma copies_leave (k : TaskId) (v : UnitId) : (e.leave id u).copies k v = e.copies k v := by
  rw [copies, queueAt_leave, copies]

lemma Drawn.copies (h : e.Drawn event e') (id : TaskId) (u : UnitId) :
    e'.copies id u = e.copies id u := by
  rw [Cluster.copies, Cluster.copies, queueAt, queueAt, h.units]

lemma Drawn.record? (h : e.Drawn event e') (id : TaskId) : e'.record? id = e.record? id := by
  rw [Cluster.record?, Cluster.record?, h.records]

lemma Drawn.pending_eq_zero (h : e.Drawn event e') (hi : event.taskId? = some id)
    (hp : e.pending id = {event}) : e'.pending id = 0 := by
  have he := pending_of_cons h.events id
  rw [hp, if_pos hi, Multiset.singleton_eq_cons_iff] at he
  exact he.2

lemma pending_startUnits [Time τ] (e : Cluster τ) (id : TaskId) :
    e.startUnits.pending id = e.pending id := by
  refine startUnits_induction (P := fun f => f.pending id = e.pending id) (fun f event hi h => ?_) rfl
  rw [pending_of_cons (events_schedule _ _ _), if_neg (by simp [hi]), h]

structure At (e : Cluster τ) (id : TaskId) (p : Place τ) : Prop where
  events : e.pending id = p.events id
  copies : ∀ u, e.copies id u = p.copies u
  record : p.Fits (e.record? id)

namespace At

lemma of_eq (h : e.At id p) (he : e'.pending id = e.pending id)
    (hq : ∀ u, e'.copies id u = e.copies id u) (hr : e'.record? id = e.record? id) : e'.At id p :=
  ⟨he.trans h.events, fun u => (hq u).trans (h.copies u), hr ▸ h.record⟩

lemma eq_queued (h : e.At d.taskId p) (hd : d ∈ e.queueAt u) : p = .queued d u :=
  Place.eq_queued (h.copies u ▸ List.mem_filter.mpr ⟨hd, by simp⟩)

lemma mem_events (h : e.At id p) (he : event ∈ e.events) (hi : event.taskId? = some id) :
    event ∈ p.events id :=
  h.events ▸ Multiset.mem_filter.mpr ⟨he, hi⟩

lemma taskId_of_travelling (h : e.At id (.travelling d u)) : d.taskId = id := by
  have hm : .arrived d u ∈ e.pending id := by
    rw [h.events]
    exact Multiset.mem_singleton_self _
  exact Option.some.inj (Multiset.mem_filter.mp hm).2

lemma events_eq_zero (h : e.At id p) (he : e.events = 0) : p.events id = 0 := by
  rw [← h.events, pending, he, Multiset.filter_zero]

lemma unique {q : Place τ} (h : e.At id p) (hq : e.At id q) : p = q := by
  have he : q.events id = p.events id := hq.events.symm.trans h.events
  have hc (u : UnitId) : q.copies u = p.copies u := (hq.copies u).symm.trans (h.copies u)
  have hr := h.record
  have hr' := hq.record
  cases p with
  | travelling d u =>
    have hm : .arrived d u ∈ q.events id := by rw [he]; exact Multiset.mem_singleton_self _
    exact (Place.eq_travelling hm).symm
  | queued d u => exact (Place.eq_queued (by rw [hc u]; simp [Place.copies])).symm
  | running u =>
    have hm : .completed id u ∈ q.events id := by rw [he]; exact Multiset.mem_singleton_self _
    exact (Place.eq_running hm).symm
  | absent => cases q <;> simp_all [Place.events, Place.Fits]
  | finished u =>
    obtain ⟨r, hr, hu, hf⟩ := hr
    cases q with
    | finished v =>
      obtain ⟨r', hr', hv, _⟩ := hr'
      rw [hr] at hr'
      cases hr'
      rw [← hu, hv]
    | _ => simp_all [Place.events, Place.Fits]

lemma drawn_of_ne (h : e.At k p) (hd : e.Drawn event e') (hk : event.taskId? ≠ some k) :
    e'.At k p := by
  refine h.of_eq ?_ (hd.copies k) (hd.record? k)
  rw [pending_of_cons hd.events, if_neg hk]

variable [Time τ]

lemma schedule_of_ne (h : e.At k p) (delay : τ) (hk : event.taskId? ≠ some k) :
    (e.schedule event delay).At k p := by
  refine h.of_eq ?_ (fun _ => rfl) rfl
  rw [pending_of_cons (events_schedule _ _ _), if_neg hk]

lemma startTask_of_ne (h : e.At k p) (hs : e.units[u]? = some s)
    (hd : s.queue.dequeue? = some (d, rest)) (hk : d.taskId ≠ k) :
    (e.startTask u s d rest).At k p := by
  refine h.of_eq ?_ (fun v => ?_) ?_
  · rw [pending_of_cons (events_startTask d rest), if_neg (by simpa [Event.taskId?] using hk)]
  · rw [Cluster.copies, queueAt_startTask d rest hs, Cluster.copies]
    split
    · rename_i hv
      rw [← hv, queueAt_of_get? hs, Queue.toList_of_dequeue? hd,
        List.filter_cons_of_neg (by simpa using hk)]
    · rfl
  · rw [record?_startTask, if_neg hk]

lemma startTask_self (h : e.At d.taskId p) (hs : e.units[u]? = some s)
    (hd : s.queue.dequeue? = some (d, rest)) :
    p = .queued d u ∧ (e.startTask u s d rest).At d.taskId (.running u) := by
  have hq : e.queueAt u = d :: rest.toList := by rw [queueAt_of_get? hs, Queue.toList_of_dequeue? hd]
  have hp : p = .queued d u := h.eq_queued (by simp [hq])
  subst hp
  obtain ⟨r, hr, hu, _, hn⟩ := h.record
  refine ⟨rfl, ?_, fun v => ?_, ?_⟩
  · rw [pending_of_cons (events_startTask d rest), h.events]
    simp [Event.taskId?, Place.events]
  · have hc := h.copies v
    rw [Cluster.copies] at hc
    rw [Cluster.copies, queueAt_startTask d rest hs]
    by_cases hv : u = v
    · subst hv
      simp only [hq, List.filter_cons_of_pos, Place.copies, decide_true, if_true, List.cons.injEq,
        true_and] at hc
      simpa only [if_true, Place.copies] using hc
    · rw [if_neg hv, hc]
      simp [Place.copies, hv]
  · refine ⟨{ r with started := some e.clock, cores := s.demand d }, ?_, hu, rfl, hn⟩
    rw [record?_startTask, if_pos rfl, hr]
    rfl

lemma startWaiting {Q : Place τ → Prop} (hQ : ∀ d u, Q (.queued d u) → Q (.running u))
    (u : UnitId) (h : ∃ p, e.At k p ∧ Q p) : ∃ p, (e.startWaiting u).1.At k p ∧ Q p := by
  refine startWaiting_induction (P := fun e => ∃ p, e.At k p ∧ Q p) ?_ h
  rintro e s d rest hs hd - ⟨p, hp, hq⟩
  by_cases hk : d.taskId = k
  · subst hk
    obtain ⟨rfl, hr⟩ := hp.startTask_self hs hd
    exact ⟨_, hr, hQ d u hq⟩
  · exact ⟨p, hp.startTask_of_ne hs hd hk, hq⟩

lemma startWaiting_keeps {Q : TaskId → Place τ → Prop} {P : Cluster τ → Prop}
    (hQ : ∀ d u, Q d.taskId (.queued d u) → Q d.taskId (.running u))
    (start : ∀ e s d rest, e.units[u]? = some s → s.queue.dequeue? = some (d, rest) →
      s.demand d ≤ s.free → e.At d.taskId (.queued d u) → Q d.taskId (.queued d u) → P e →
      P (e.startTask u s d rest))
    (hl : ∀ k, ∃ p, e.At k p ∧ Q k p) (h : P e) :
    (∀ k, ∃ p, (e.startWaiting u).1.At k p ∧ Q k p) ∧ P (e.startWaiting u).1 := by
  refine startWaiting_induction (P := fun e => (∀ k, ∃ p, e.At k p ∧ Q k p) ∧ P e) ?_ ⟨hl, h⟩
  rintro e s d rest hs hd hf ⟨hl, h⟩
  obtain ⟨p, hp, hq⟩ := hl d.taskId
  obtain ⟨rfl, hr⟩ := hp.startTask_self hs hd
  refine ⟨fun k => ?_, start e s d rest hs hd hf hp hq h⟩
  by_cases hk : d.taskId = k
  · subst hk
    exact ⟨_, hr, hQ d u hq⟩
  · obtain ⟨q, hq⟩ := hl k
    exact ⟨q, hq.1.startTask_of_ne hs hd hk, hq.2⟩

omit [Time τ]

lemma enter_of_ne (h : e.At k p) (hu : u < e.units.size) (hk : d.taskId ≠ k) : (e.enter d u).At k p := by
  refine h.of_eq rfl (fun v => ?_) ?_
  · rw [copies_enter hu, if_neg fun hv => hk hv.2]
  · rw [record?_enter, if_neg hk]

lemma enter_self (h : e.At d.taskId (.travelling d u)) (hd : e.Drawn (.arrived d u) e')
    (hu : u < e.units.size) : (e'.enter d u).At d.taskId (.queued d u) := by
  refine ⟨hd.pending_eq_zero rfl h.events, fun v => ?_, _, (record?_enter _).trans (if_pos rfl), ?_⟩
  · rw [copies_enter (hd.units ▸ hu), hd.copies, h.copies]
    simp [Place.copies]
  · simp

lemma leave_of_ne (h : e.At k p) (hk : id ≠ k) : (e.leave id u).At k p := by
  refine h.of_eq rfl (copies_leave k) ?_
  rw [record?_leave, if_neg hk]

lemma isRunning (h : e.At id (.running u)) : e.isRunning id = true := by
  obtain ⟨r, hr, _, hs, hf⟩ := h.record
  rw [Cluster.isRunning, hr]
  simp [hs, hf]

lemma exists_running (h : e.At id p) (hi : e.isRunning id = true) : ∃ u, p = .running u := by
  have hr := h.record
  rw [Cluster.isRunning] at hi
  cases p with
  | running u => exact ⟨u, rfl⟩
  | absent | travelling =>
    rw [show e.record? id = none from hr] at hi
    cases hi
  | queued =>
    obtain ⟨r, hr, _, hs, _⟩ := hr
    simp [hr, hs] at hi
  | finished =>
    obtain ⟨r, hr, _, hf⟩ := hr
    rw [hr] at hi
    cases hn : r.finished <;> simp [hn] at hi hf

lemma isRunning_of_drawn (h : e.At id p) (hd : e.Drawn (.completed id u) e') :
    e'.isRunning id = true := by
  obtain rfl := Place.eq_running (h.mem_events hd.mem rfl)
  rw [Cluster.isRunning, hd.record?]
  exact h.isRunning

lemma leave_self (h : e.At id (.running u)) (hd : e.Drawn (.completed id u) e') :
    (e'.leave id u).At id (.finished u) := by
  obtain ⟨r, hr, hu, _, _⟩ := h.record
  refine ⟨hd.pending_eq_zero rfl h.events, fun v => ?_, { r with finished := some e'.clock }, ?_, hu, rfl⟩
  · rw [copies_leave, hd.copies, h.copies]
    rfl
  · rw [record?_leave, if_pos rfl, hd.record?, hr]
    rfl

variable [Time τ]

lemma startUnits (h : e.At id p) : e.startUnits.At id p := by
  obtain ⟨_, hu, hr, _⟩ := awaits_startUnits e
  refine h.of_eq (pending_startUnits e id) (fun u => ?_) ?_
  · rw [Cluster.copies, queueAt, hu, Cluster.copies, queueAt]
  · rw [record?, hr, record?]

lemma ofPool (pool : Array ComputeUnit) (id : TaskId) : (ofPool pool : Cluster τ).At id .absent := by
  refine ⟨rfl, fun u => ?_, ?_⟩
  · rw [Cluster.copies, queueAt, Cluster.ofPool, Array.getElem?_map]
    cases pool[u]? <;> rfl
  · simp [Cluster.ofPool, record?, Place.Fits]

lemma submit_self (h : e.At d.taskId .absent) (hu : u < e.units.size) :
    (e.submit d u).1.At d.taskId (.travelling d u) := by
  rw [submit, if_pos hu]
  refine ⟨?_, h.copies, h.record⟩
  rw [pending_of_cons (events_schedule _ _ _), h.events]
  simp [Event.taskId?, Place.events]

lemma submit_of_ne (h : e.At k p) (hk : d.taskId ≠ k) : (e.submit d u).1.At k p := by
  rw [submit]
  split
  · exact h.schedule_of_ne _ (by simpa [Event.taskId?] using hk)
  · exact h

omit [Time τ] in
lemma enter {Q : Place τ → Prop} (h : e.At k p) (hd : e.Drawn (.arrived d u) e')
    (hu : u < e.units.size) (hq : d.taskId ≠ k → Q p) (ht : p = .travelling d u → Q (.queued d u)) :
    ∃ p, (e'.enter d u).At k p ∧ Q p := by
  by_cases hk : d.taskId = k
  · subst hk
    obtain rfl := Place.eq_travelling (h.mem_events hd.mem rfl)
    exact ⟨_, h.enter_self hd hu, ht rfl⟩
  · have hi : (Event.arrived d u).taskId? ≠ some k := by simpa [Event.taskId?] using hk
    exact ⟨p, (h.drawn_of_ne hd hi).enter_of_ne (hd.units ▸ hu) hk, hq hk⟩

omit [Time τ] in
lemma leave {Q : Place τ → Prop} (h : e.At k p) (hd : e.Drawn (.completed id u) e')
    (hq : id ≠ k → Q p) (ht : id = k → p = .running u → Q (.finished u)) :
    ∃ p, (e'.leave id u).At k p ∧ Q p := by
  by_cases hk : id = k
  · subst hk
    obtain rfl := Place.eq_running (h.mem_events hd.mem rfl)
    exact ⟨_, h.leave_self hd, ht rfl rfl⟩
  · have hi : (Event.completed id u : Event τ).taskId? ≠ some k := by simpa [Event.taskId?] using hk
    exact ⟨p, (h.drawn_of_ne hd hi).leave_of_ne hk, hq hk⟩

lemma handle {Q : Place τ → Prop} (hQ : ∀ d u, Q (.queued d u) → Q (.running u))
    (h : e.At k p) (hd : e.Drawn event e') (hu : ∀ d u, event = .arrived d u → u < e.units.size)
    (hq : event.taskId? ≠ some k → Q p)
    (ha : ∀ d u, event = .arrived d u → p = .travelling d u → Q (.queued d u))
    (hc : ∀ u, event = .completed k u → p = .running u → Q (.finished u)) :
    ∃ p, (e'.handle event).1.At k p ∧ Q p := by
  have quiet (hi : event.taskId? ≠ some k) (n : ℕ) : At { e' with readyUnits := n } k p ∧ Q p :=
    ⟨(h.drawn_of_ne hd hi).of_eq rfl (fun _ => rfl) rfl, hq hi⟩
  refine handle_cases (P := fun e => ∃ p, e.At k p ∧ Q p) (fun hi n => ⟨p, quiet (by simp [hi]) n⟩)
    (fun hi n => ?announce) ?arrived ?completed ?ignored
  case announce =>
    obtain ⟨h', hq⟩ := quiet (by simp [hi]) n
    exact ⟨p, h'.schedule_of_ne _ (by simp [Event.taskId?]), hq⟩
  case arrived =>
    rintro d u rfl
    exact startWaiting hQ u (h.enter hd (hu d u rfl) (fun hk => hq (by simpa [Event.taskId?] using hk))
      (ha d u rfl))
  case completed =>
    rintro id u rfl _
    refine startWaiting hQ u (h.leave hd (fun hk => hq (by simpa [Event.taskId?] using hk)) ?_)
    rintro rfl
    exact hc u rfl
  case ignored =>
    rintro id u rfl hr
    refine ⟨p, quiet (fun hi => ?_) e'.readyUnits⟩
    cases hi
    rw [h.isRunning_of_drawn hd] at hr
    cases hr

/-- What an event does to all places, and to whatever depends on them: it is enough to look at the task that
the event is about and at single starts. -/
lemma handle_keeps {Q : TaskId → Place τ → Prop} {P : Cluster τ → Prop}
    (hQ : ∀ k d u, Q k (.queued d u) → Q k (.running u))
    (start : ∀ e u s d rest, e.units[u]? = some s → s.queue.dequeue? = some (d, rest) →
      s.demand d ≤ s.free → e.At d.taskId (.queued d u) → Q d.taskId (.queued d u) → P e →
      P (e.startTask u s d rest))
    (hd : e.Drawn event e') (hu : ∀ d u, event = .arrived d u → u < e.units.size)
    (hl : ∀ k, ∃ p, e.At k p ∧ Q k p)
    (ha : ∀ k d u, event = .arrived d u → Q k (.travelling d u) → Q k (.queued d u))
    (hc : ∀ k u, event = .completed k u → Q k (.running u) → Q k (.finished u))
    (count : ∀ n, P { e' with readyUnits := n })
    (announce : ∀ n, P ({ e' with readyUnits := n }.schedule .ready Time.zero))
    (enter : ∀ d u, event = .arrived d u → e.At d.taskId (.travelling d u) → P (e'.enter d u))
    (leave : ∀ k u, event = .completed k u → e.At k (.running u) → P (e'.leave k u)) :
    (∀ k, ∃ p, (e'.handle event).1.At k p ∧ Q k p) ∧ P (e'.handle event).1 := by
  refine ⟨fun k => ?_, ?_⟩
  · obtain ⟨p, hp, hq⟩ := hl k
    exact hp.handle (hQ k) hd hu (fun _ => hq) (fun d u he ht => ha k d u he (ht ▸ hq))
      fun u he ht => hc k u he (ht ▸ hq)
  · refine handle_cases (fun _ => count) (fun _ => announce) ?arrived ?completed fun id u _ _ =>
      count e'.readyUnits
    case arrived =>
      rintro d u rfl
      obtain ⟨p, hp, _⟩ := hl d.taskId
      obtain rfl := Place.eq_travelling (hp.mem_events hd.mem rfl)
      refine (startWaiting_keeps (fun d u => hQ d.taskId d u) (fun e => start e u) (fun k => ?_)
        (enter d u rfl hp)).2
      obtain ⟨p, hp, hq⟩ := hl k
      exact hp.enter hd (hu d u rfl) (fun _ => hq) fun ht => ha k d u rfl (ht ▸ hq)
    case completed =>
      rintro id u rfl _
      obtain ⟨p, hp, _⟩ := hl id
      obtain rfl := Place.eq_running (hp.mem_events hd.mem rfl)
      refine (startWaiting_keeps (fun d u => hQ d.taskId d u) (fun e => start e u) (fun k => ?_)
        (leave id u rfl hp)).2
      obtain ⟨p, hp, hq⟩ := hl k
      refine hp.leave hd (fun _ => hq) fun hk ht => ?_
      subst hk
      exact hc id u rfl (ht ▸ hq)

end At

end Cluster

end Dispatch
