import Dispatch.Proofs.Cluster.Clock
import Dispatch.Proofs.Cluster.Cores

namespace Dispatch.Cluster

variable {τ : Type} {e e' f : Cluster τ} {u v : UnitId} {s : Station τ} {d : Job τ} {rest : Queue (Job τ)}
  {event : Event τ} {events : List (Event τ)} {id k : TaskId} {t : τ}
  {gone : List (Job τ)} {times : List τ}

def started? (e : Cluster τ) (id : TaskId) : Option τ := (e.record? id).bind (·.started)

def unitOf? (e : Cluster τ) (id : TaskId) : Option UnitId := (e.record? id).map (·.unit)

def arrivals (events : List (Event τ)) (u : UnitId) : List (Job τ) :=
  events.filterMap fun
    | .arrived d v => if v = u then some d else none
    | _ => none

lemma arrivals_concat (events : List (Event τ)) (event : Event τ) (u : UnitId) :
    arrivals (events ++ [event]) u = arrivals events u ++ arrivals [event] u := List.filterMap_append

lemma arrivals_arrived (d : Job τ) (u v : UnitId) :
    arrivals [.arrived d u] v = if u = v then [d] else [] := by
  rw [arrivals, List.filterMap_cons]
  split_ifs <;> simp_all

lemma arrivals_of_quiet (h : event.taskId? = none) (u : UnitId) : arrivals [event] u = [] := by
  cases event with
  | arrived d v => cases h
  | _ => rfl

lemma started?_congr (h : f.records = e.records) : f.started? id = e.started? id := by
  rw [started?, record?, h, ← record?, ← started?]

lemma isRunning_congr (h : f.records = e.records) : f.isRunning id = e.isRunning id := by
  rw [isRunning, record?, h, ← record?, ← isRunning]

lemma isRunning_iff : e.isRunning id = true ↔ (∃ t, e.started? id = some t) ∧ e.finished? id = none := by
  rw [isRunning, started?, finished?, ← Option.isSome_iff_exists]
  cases e.record? id <;> simp

lemma started?_enter : (e.enter d u).started? k = if d.taskId = k then none else e.started? k := by
  rw [started?, record?_enter, started?]
  split <;> rfl

lemma started?_leave : (e.leave id u).started? k = e.started? k := by
  rw [started?, record?_leave, started?]
  split
  · cases e.record? k <;> rfl
  · rfl

lemma unitOf?_leave : (e.leave id u).unitOf? k = e.unitOf? k := by
  rw [unitOf?, record?_leave, unitOf?]
  split
  · cases e.record? k <;> rfl
  · rfl

lemma At.started?_queued (h : e.At id (.queued d u)) : e.started? id = none := by
  obtain ⟨r, hr, -, hs, -⟩ := h.record
  rw [started?, hr]
  exact hs

lemma At.started?_travelling (h : e.At id (.travelling d u)) : e.started? id = none := by
  rw [started?, show e.record? id = none from h.record]
  rfl

lemma At.unitOf?_queued (h : e.At id (.queued d u)) : e.unitOf? id = some u := by
  obtain ⟨r, hr, hu, -⟩ := h.record
  rw [unitOf?, hr, Option.map_some, hu]

lemma At.unitOf?_running (h : e.At id (.running u)) : e.unitOf? id = some u := by
  obtain ⟨r, hr, hu, -⟩ := h.record
  rw [unitOf?, hr, Option.map_some, hu]

section start

variable [Time τ]

lemma started?_startTask : (e.startTask u s d rest).started? k =
    if d.taskId = k then (e.record? k).map fun _ => e.clock else e.started? k := by
  rw [started?, record?_startTask, started?]
  split
  · cases e.record? k <;> rfl
  · rfl

lemma unitOf?_startTask : (e.startTask u s d rest).unitOf? k = e.unitOf? k := by
  rw [unitOf?, record?_startTask, unitOf?]
  split
  · cases e.record? k <;> rfl
  · rfl

lemma unitOf?_startWaiting : (e.startWaiting u).1.unitOf? k = e.unitOf? k :=
  startWaiting_induction (P := fun f => f.unitOf? k = e.unitOf? k)
    (fun _ _ _ _ _ _ _ h => unitOf?_startTask.trans h) rfl

lemma of_started?_startWaiting (h : (e.startWaiting u).1.started? k = some t) :
    e.started? k = some t ∨ t = e.clock ∧ ∃ d ∈ e.queueAt u, d.taskId = k := by
  suffices (e.startWaiting u).1.clock = e.clock ∧ (e.startWaiting u).1.queueAt u ⊆ e.queueAt u ∧
      ((e.startWaiting u).1.started? k = some t →
        e.started? k = some t ∨ t = e.clock ∧ ∃ d ∈ e.queueAt u, d.taskId = k) from this.2.2 h
  refine startWaiting_induction (P := fun f => f.clock = e.clock ∧ f.queueAt u ⊆ e.queueAt u ∧
    (f.started? k = some t → e.started? k = some t ∨ t = e.clock ∧ ∃ d ∈ e.queueAt u, d.taskId = k))
    ?_ ⟨rfl, List.Subset.refl _, Or.inl⟩
  rintro f s d rest hs hd - ⟨hc, hq, ht⟩
  have hf : f.queueAt u = d :: rest.toList := by rw [queueAt_of_get? hs, Queue.toList_of_dequeue? hd]
  rw [hf] at hq
  refine ⟨hc, ?_, fun hk => ?_⟩
  · rw [queueAt_startTask d rest hs, if_pos rfl]
    exact fun x hx => hq (List.mem_cons_of_mem d hx)
  · rw [started?_startTask] at hk
    split at hk
    · rename_i hi
      obtain ⟨r, -, rfl⟩ := Option.map_eq_some_iff.mp hk
      exact Or.inr ⟨hc, d, hq List.mem_cons_self, hi⟩
    · exact ht hk

lemma of_started?_handle (h : (e.handle event).1.started? k = some t) :
    e.started? k = some t ∨ t = e.clock := by
  revert h
  refine handle_cases (P := fun f => f.started? k = some t → e.started? k = some t ∨ t = e.clock)
    (fun _ _ => Or.inl) (fun _ _ => Or.inl) (fun d u _ h => ?_) (fun id u _ _ h => ?_) fun _ _ _ _ => Or.inl
  · rcases of_started?_startWaiting h with h | ⟨hc, -⟩
    · rw [started?_enter] at h
      split at h
      · cases h
      · exact .inl h
    · exact .inr hc
  · exact (of_started?_startWaiting h).imp started?_leave.symm.trans And.left

lemma startWaiting_of_tight (ht : ∀ s, e.units[u]? = some s → s.Tight) : (e.startWaiting u).1 = e := by
  rw [startWaiting]
  split
  · rfl
  · rename_i s hs
    cases hn : s.free.toNat with
    | zero => rfl
    | succ n =>
      rw [startFront]
      simp only [hs]
      split
      · rfl
      · rename_i d rest hd
        have hf : s.free < s.demand d := by
          apply UInt32.lt_iff_toNat_lt.mpr
          apply ht s hs
          rw [Queue.toList_of_dequeue? hd]
          rfl
        rw [if_pos hf]

lemma of_started?_arrived (ht : e.AllTight) (h : ((e.enter d u).startWaiting u).1.started? k = some t)
    (hn : e.started? k = none) : d.taskId = k ∧ t = e.clock := by
  have he : (e.enter d u).started? k = none := by
    rw [started?_enter, hn, ite_self]
  cases hq : e.queueAt u with
  | nil =>
    rcases of_started?_startWaiting h with h | ⟨rfl, d', hd', rfl⟩
    · rw [he] at h
      cases h
    · refine ⟨?_, rfl⟩
      by_cases hu : u < e.units.size
      · rw [queueAt_enter hu, if_pos rfl, hq] at hd'
        rw [List.mem_singleton.mp hd']
      · have hs : (e.enter d u).units[u]? = none := by
          rw [units_enter, if_pos rfl, Array.getElem?_eq_none (not_lt.mp hu)]
          rfl
        rw [queueAt, hs] at hd'
        cases hd'
  | cons d₀ q =>
    rw [startWaiting_of_tight, he] at h
    · cases h
    · intro s hs d' hd'
      rw [units_enter, if_pos rfl] at hs
      obtain ⟨s₀, hs₀, rfl⟩ := Option.map_eq_some_iff.mp hs
      have hq₀ : s₀.queue.toList = d₀ :: q := (queueAt_of_get? hs₀).symm.trans hq
      have hd₀ : d' = d₀ := by
        simp only [Queue.toList_enqueue, hq₀, List.cons_append, List.head?_cons, Option.some_inj] at hd'
        exact hd'.symm
      rw [hd₀]
      exact ht u s₀ hs₀ d₀ (by rw [hq₀]; rfl)

end start

inductive Occasion (e f : Cluster τ) (id : TaskId) (u : UnitId) : Event τ → Prop
  | arrival {d : Job τ} : d.taskId = id → Occasion e f id u (.arrived d u)
  | ending {k : TaskId} : k ≠ id → e.unitOf? k = some u → e.finished? k = none →
      f.finished? k = some e.clock → Occasion e f id u (.completed k u)

lemma exists_record_of_isRunning (h : e.isRunning id = true) :
    ∃ r, e.record? id = some r ∧ r.started.isSome = true ∧ r.finished = none := by
  rw [isRunning] at h
  split at h
  · rename_i r hr
    rw [Bool.and_eq_true, Option.isNone_iff_eq_none] at h
    exact ⟨r, hr, h⟩
  · cases h

lemma occasion_of_started? [Time τ] (ht : e.AllTight)
    (hq : ∀ u, ∀ d ∈ e.queueAt u, e.unitOf? d.taskId = some u)
    (hr : ∀ k u, event = .completed k u → e.unitOf? k = some u) (hn : e.started? id = none)
    (h : (e.handle event).1.started? id = some t) : t = e.clock ∧ ∃ u,
      (e.handle event).1.unitOf? id = some u ∧ Occasion e (e.handle event).1 id u event := by
  have hx : e.started? id ≠ some t := by simp [hn]
  revert h
  refine handle_cases (P := fun f => f.started? id = some t → t = e.clock ∧ ∃ u, f.unitOf? id = some u ∧
    Occasion e f id u event) (fun _ _ h => (hx h).elim) (fun _ _ h => (hx h).elim) ?arrived ?completed
    fun _ _ _ _ h => (hx h).elim
  case arrived =>
    rintro d u rfl h
    obtain ⟨rfl, hc⟩ := of_started?_arrived ht h hn
    refine ⟨hc, u, ?_, .arrival rfl⟩
    rw [unitOf?_startWaiting, unitOf?, record?_enter, if_pos rfl]
    rfl
  case completed =>
    rintro k u rfl hk h
    obtain ⟨r, hrec, hs, hf⟩ := exists_record_of_isRunning hk
    rcases of_started?_startWaiting h with h | ⟨hc, d, hd, rfl⟩
    · exact (hx (started?_leave.symm.trans h)).elim
    · rw [queueAt_leave] at hd
      refine ⟨hc, u, ?_, .ending ?_ (hr k u rfl) ?_ ?_⟩
      · rw [unitOf?_startWaiting, unitOf?_leave]
        exact hq u d hd
      · rintro rfl
        rw [started?, hrec, Option.bind_some] at hn
        rw [hn] at hs
        cases hs
      · rw [finished?, hrec, Option.bind_some, hf]
      · rw [finished?_startWaiting, finished?_leave, if_pos rfl, hrec]
        rfl

def Retains (e f : Cluster τ) : Prop := ∀ k t, e.started? k = some t → f.started? k = some t

lemma retains_of_eq (h : f.records = e.records) : e.Retains f := by
  intro k t hk
  rwa [started?, record?, h]

lemma Retains.trans {f' : Cluster τ} (h : e.Retains f) (h' : f.Retains f') : e.Retains f' :=
  fun k t hk => h' k t (h k t hk)

lemma retains_of_ne (h : e.started? id = none) (hf : ∀ k, id ≠ k → f.started? k = e.started? k) :
    e.Retains f := by
  intro k t hk
  rw [hf, hk]
  rintro rfl
  rw [h] at hk
  cases hk

lemma retains_enter (h : e.started? d.taskId = none) : e.Retains (e.enter d u) :=
  retains_of_ne h fun k hk => by rw [started?_enter, if_neg hk]

lemma retains_leave : e.Retains (e.leave id u) := fun _ _ hk => started?_leave.trans hk

lemma exists_started? (ht : gone.map (fun d => e.started? d.taskId) = times.map some) (hd : d ∈ gone) :
    ∃ t, e.started? d.taskId = some t := by
  obtain ⟨t, -, hx⟩ := List.mem_map.mp (ht ▸ List.mem_map_of_mem hd)
  exact ⟨t, hx.symm⟩

lemma Retains.map (h : e.Retains f) (ht : gone.map (fun d => e.started? d.taskId) = times.map some) :
    gone.map (fun d => f.started? d.taskId) = times.map some := by
  rw [← ht]
  apply List.map_congr_left
  intro d hd
  obtain ⟨t, hx⟩ := exists_started? ht hd
  rw [hx, h _ t hx]

variable [Time τ]

lemma retains_startTask (h : e.started? d.taskId = none) : e.Retains (e.startTask u s d rest) :=
  retains_of_ne h fun k hk => by rw [started?_startTask, if_neg hk]

lemma retains_handle (hl : ∀ k, ∃ p, e.At k p) (hd : e.Drawn event e')
    (hu : ∀ d u, event = .arrived d u → u < e.units.size) : e.Retains (e'.handle event).1 := by
  have hr : e.Retains e' := retains_of_eq hd.records
  refine (At.handle_keeps (Q := fun _ _ => True) (P := e.Retains) (fun _ _ _ h => h) ?_ hd hu
    (fun k => (hl k).imp fun _ hp => ⟨hp, trivial⟩) (fun _ _ _ _ h => h) (fun _ _ _ h => h)
    (fun _ => hr) (fun _ => hr) (fun d u _ ha => ?_) fun _ _ _ _ => hr.trans retains_leave).2
  · exact fun f u s d rest _ _ _ hq _ h => h.trans (retains_startTask hq.started?_queued)
  · refine hr.trans (retains_enter ?_)
    rw [started?_congr hd.records]
    exact ha.started?_travelling

def Lined (events : List (Event τ)) (e : Cluster τ) (u : UnitId) : Prop :=
  ∃ gone times, arrivals events u = gone ++ e.queueAt u ∧
    gone.map (fun d => e.started? d.taskId) = times.map some ∧ (times ++ [e.clock]).Pairwise Time.Le

namespace Lined

lemma of_retains (h : Lined events e u) (hr : e.Retains f) (hq : f.queueAt u = e.queueAt u)
    (hc : f.clock = e.clock) : Lined events f u := by
  obtain ⟨gone, times, ha, ht, hp⟩ := h
  exact ⟨gone, times, hq ▸ ha, hr.map ht, hc ▸ hp⟩

lemma quiet (h : Lined events e u) (he : arrivals [event] u = []) : Lined (events ++ [event]) e u := by
  obtain ⟨gone, times, ha, ht, hp⟩ := h
  exact ⟨gone, times, by rw [arrivals_concat, he, List.append_nil, ha], ht, hp⟩

lemma leave (h : Lined events e v) (id : TaskId) (u : UnitId) : Lined events (e.leave id u) v :=
  h.of_retains retains_leave (queueAt_leave v) rfl

lemma enter (h : Lined events e v) (hn : e.started? d.taskId = none) (hu : u < e.units.size) :
    Lined (events ++ [.arrived d u]) (e.enter d u) v := by
  have hr : e.Retains (e.enter d u) := retains_enter hn
  by_cases hv : u = v
  · subst hv
    obtain ⟨gone, times, ha, ht, hp⟩ := h
    refine ⟨gone, times, ?_, hr.map ht, hp⟩
    rw [arrivals_concat, arrivals_arrived, if_pos rfl, queueAt_enter hu, if_pos rfl, ha,
      List.append_assoc]
  · refine (h.of_retains hr ?_ rfl).quiet ?_
    · rw [queueAt_enter hu, if_neg hv]
    · rw [arrivals_arrived, if_neg hv]

lemma filter_waiting (h : Lined events e u) (hw : ∀ d ∈ e.queueAt u, e.started? d.taskId = none) :
    e.queueAt u = (arrivals events u).filter fun d => (e.started? d.taskId).isNone := by
  obtain ⟨gone, times, ha, ht, -⟩ := h
  have hg : gone.filter (fun d => (e.started? d.taskId).isNone) = [] := by
    rw [List.filter_eq_nil_iff]
    intro d hd
    obtain ⟨t, hx⟩ := exists_started? ht hd
    rw [hx]
    exact Bool.false_ne_true
  have hq : (e.queueAt u).filter (fun d => (e.started? d.taskId).isNone) = e.queueAt u := by
    rw [List.filter_eq_self]
    intro d hd
    rw [hw d hd]
    rfl
  rw [ha, List.filter_append, hg, hq, List.nil_append]

lemma in_turn (h : Lined events e u) (hw : ∀ d ∈ e.queueAt u, e.started? d.taskId = none) :
    (arrivals events u).Pairwise fun d d' => ∀ t', e.started? d'.taskId = some t' →
      ∃ t, e.started? d.taskId = some t ∧ Time.Le t t' := by
  obtain ⟨gone, times, ha, ht, hp⟩ := h
  have hl (d : Job τ) (d' : Job τ) (hd : d' ∈ e.queueAt u) (t' : τ) (hs : e.started? d'.taskId = some t') :
      ∃ t, e.started? d.taskId = some t ∧ Time.Le t t' := by
    rw [hw d' hd] at hs
    cases hs
  rw [ha, List.pairwise_append]
  refine ⟨?_, List.pairwise_of_forall_mem_list fun d _ d' hd => hl d d' hd, fun d _ d' hd => hl d d' hd⟩
  have hm : (gone.map fun d => e.started? d.taskId).Pairwise fun o o' => ∀ t', o' = some t' →
      ∃ t, o = some t ∧ Time.Le t t' := by
    rw [ht, List.pairwise_map]
    refine (List.pairwise_append.mp hp).1.imp fun {t t'} hle x hx => ?_
    cases hx
    exact ⟨t, rfl, hle⟩
  exact List.pairwise_map.mp hm

variable [Forward τ]

lemma advance (h : Lined events e u) (hr : f.records = e.records) (hu : f.units = e.units)
    (hc : Time.Le e.clock f.clock) : Lined events f u := by
  obtain ⟨gone, times, ha, ht, hp⟩ := h
  have hq : f.queueAt u = e.queueAt u := by rw [queueAt, hu, queueAt]
  exact ⟨gone, times, hq ▸ ha, (retains_of_eq hr).map ht, pairwise_concat_of_le hp hc⟩

lemma startTask (h : Lined events e v) (hs : e.units[u]? = some s) (hd : s.queue.dequeue? = some (d, rest))
    (hq : e.At d.taskId (.queued d u)) : Lined events (e.startTask u s d rest) v := by
  have hr : e.Retains (e.startTask u s d rest) := retains_startTask hq.started?_queued
  by_cases hv : u = v
  · subst hv
    obtain ⟨gone, times, ha, ht, hp⟩ := h
    have hf : e.queueAt u = d :: rest.toList := by
      rw [queueAt_of_get? hs, Queue.toList_of_dequeue? hd]
    have hn : (e.startTask u s d rest).started? d.taskId = some e.clock := by
      obtain ⟨r, hr, -⟩ := hq.record
      rw [started?_startTask, if_pos rfl, hr]
      rfl
    refine ⟨gone ++ [d], times ++ [e.clock], ?_, ?_, pairwise_concat_self hp⟩
    · rw [ha, hf, queueAt_startTask d rest hs, if_pos rfl, List.append_assoc]
      rfl
    · rw [List.map_append, hr.map ht, List.map_append, List.map_singleton, hn]
      rfl
  · refine h.of_retains hr ?_ rfl
    rw [queueAt_startTask d rest hs, if_neg hv]

lemma startWaiting (h : ∀ v, Lined events e v) (hl : ∀ k, ∃ p, e.At k p) (u v : UnitId) :
    Lined events (e.startWaiting u).1 v := by
  refine (At.startWaiting_keeps (Q := fun _ _ => True) (P := fun e => ∀ v, Lined events e v)
    (fun _ _ _ => trivial) (fun e s d rest hs hd _ hq _ h v => (h v).startTask hs hd hq) (fun k => ?_) h).2 v
  obtain ⟨p, hp⟩ := hl k
  exact ⟨p, hp, trivial⟩

lemma handle (h : ∀ v, Lined events e' v) (hl : ∀ k, ∃ p, e.At k p) (hd : e.Drawn event e')
    (hu : ∀ d u, event = .arrived d u → u < e'.units.size) (v : UnitId) :
    Lined (events ++ [event]) (e'.handle event).1 v := by
  have hc (n : ℕ) (he : arrivals [event] v = []) : Lined (events ++ [event]) { e' with readyUnits := n } v :=
    ((h v).quiet he).of_retains (retains_of_eq rfl) rfl rfl
  refine handle_cases (P := fun f => Lined (events ++ [event]) f v)
    (fun hi n => hc n (arrivals_of_quiet hi v)) (fun hi n => ?announce) ?arrived ?completed ?ignored
  case announce => exact (hc n (arrivals_of_quiet hi v)).of_retains (retains_of_eq rfl) rfl rfl
  case arrived =>
    rintro d u rfl
    obtain ⟨p, hp⟩ := hl d.taskId
    obtain rfl := Place.eq_travelling (hp.mem_events hd.mem rfl)
    have hs : e'.started? d.taskId = none := by
      rw [started?_congr hd.records]
      exact hp.started?_travelling
    refine startWaiting (fun v => (h v).enter hs (hu d u rfl)) (fun k => ?_) u v
    obtain ⟨q, hq⟩ := hl k
    obtain ⟨q, hq, -⟩ := hq.enter (Q := fun _ => True) hd (hd.units ▸ hu d u rfl) (fun _ => trivial)
      fun _ => trivial
    exact ⟨q, hq⟩
  case completed =>
    rintro id u rfl -
    refine startWaiting (fun v => ((h v).leave id u).quiet rfl) (fun k => ?_) u v
    obtain ⟨q, hq⟩ := hl k
    obtain ⟨q, hq, -⟩ := hq.leave (Q := fun _ => True) hd (fun _ => trivial) fun _ _ => trivial
    exact ⟨q, hq⟩
  case ignored =>
    rintro id u rfl -
    exact (h v).quiet rfl

end Lined

end Dispatch.Cluster
