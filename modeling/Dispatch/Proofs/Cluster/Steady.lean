import Dispatch.Proofs.Cluster.Records

/-! What holds of a cluster to which jobs were submitted, as long as the events that happen are its own. An
event may be out of the cluster and still to happen. -/

namespace Dispatch

namespace Cluster

variable {τ : Type} {e e' f f' : Cluster τ} {extra : Multiset (Event τ)} {event : Event τ} {u : UnitId}
  {s : Station τ} {d : Job τ} {rest : Queue (Job τ)} {id k : TaskId}

structure Alongside (extra : Multiset (Event τ)) (e f : Cluster τ) : Prop where
  events : f.events = extra + e.events
  clock : f.clock = e.clock
  units : f.units = e.units
  records : f.records = e.records
  readyUnits : f.readyUnits = e.readyUnits

namespace Alongside

variable (h : Alongside extra e f)

include h

lemma record? (id : TaskId) : f.record? id = e.record? id := by
  rw [Cluster.record?, h.records, Cluster.record?]

lemma isRunning (id : TaskId) : f.isRunning id = e.isRunning id := by
  rw [Cluster.isRunning, h.record?, Cluster.isRunning]

lemma coresOf (id : TaskId) : f.coresOf id = e.coresOf id := by
  rw [Cluster.coresOf, h.record?, Cluster.coresOf]

lemma enter (d : Job τ) (u : UnitId) : Alongside extra (e.enter d u) (f.enter d u) := by
  refine ⟨h.events, h.clock, ?_, ?_, h.readyUnits⟩
  · rw [Cluster.enter, h.units, Cluster.enter]
  · rw [Cluster.enter, h.records, h.clock, Cluster.enter]

lemma leave (id : TaskId) (u : UnitId) : Alongside extra (e.leave id u) (f.leave id u) := by
  refine ⟨h.events, h.clock, ?_, ?_, h.readyUnits⟩
  · rw [Cluster.leave, h.units, h.coresOf, Cluster.leave]
  · rw [Cluster.leave, h.records, h.clock, Cluster.leave]

lemma admits (event : Event τ) : f.admits event = e.admits event := by
  cases event <;> simp only [Cluster.admits, canRegain, h.units, h.isRunning, h.coresOf]

lemma inUse (u : UnitId) : f.inUse u = e.inUse u := by
  rw [Cluster.inUse, recorded, h.records, Cluster.inUse, recorded]

omit h in
lemma refl (e : Cluster τ) : Alongside 0 e e := ⟨(zero_add _).symm, rfl, rfl, rfl, rfl⟩

variable [Time τ]

lemma schedule (event : Event τ) (delay : τ) :
    Alongside extra (e.schedule event delay) (f.schedule event delay) := by
  refine ⟨?_, h.clock, h.units, h.records, h.readyUnits⟩
  rw [events_schedule, events_schedule, h.events, Multiset.add_cons]

lemma startTask (u : UnitId) (s : Station τ) (d : Job τ) (rest : Queue (Job τ)) :
    Alongside extra (e.startTask u s d rest) (f.startTask u s d rest) := by
  simp only [Cluster.startTask, h.units, h.records, h.clock]
  apply schedule
  exact ⟨h.events, rfl, rfl, rfl, h.readyUnits⟩

lemma startFront (n : ℕ) (u : UnitId) (out : Array (ClusterReport τ)) :
    Alongside extra (Cluster.startFront n e u out).1 (Cluster.startFront n f u out).1 := by
  induction n generalizing e f out with
  | zero => exact h
  | succ n ih =>
    rw [Cluster.startFront, Cluster.startFront, h.units]
    split
    · exact h
    · split
      · exact h
      · split
        · exact h
        · exact ih (h.startTask _ _ _ _) _

lemma startWaiting (u : UnitId) :
    Alongside extra (e.startWaiting u).1 (f.startWaiting u).1 := by
  rw [Cluster.startWaiting, Cluster.startWaiting, h.units]
  split
  · exact h
  · exact h.startFront _ _ _

lemma handle (event : Event τ) : Alongside extra (e.handle event).1 (f.handle event).1 := by
  cases event with
  | provisioned u =>
    have hc : Alongside extra { e with readyUnits := e.readyUnits + 1 }
        { f with readyUnits := f.readyUnits + 1 } :=
      ⟨h.events, h.clock, h.units, h.records, congrArg (· + 1) h.readyUnits⟩
    simp only [Cluster.handle, countUnit, h.units, h.readyUnits] at hc ⊢
    split
    · exact hc.schedule _ _
    · exact hc
  | ready => exact h
  | arrived d u => exact (h.enter d u).startWaiting u
  | completed id u =>
    simp only [Cluster.handle, complete, h.isRunning]
    split
    · exact (h.leave id u).startWaiting u
    · exact h

lemma startUnits : Alongside extra e.startUnits f.startUnits := by
  obtain ⟨he, hu, hr, hn⟩ := awaits_startUnits e
  obtain ⟨he', hu', hr', hn'⟩ := awaits_startUnits f
  refine ⟨?_, ?_, hu'.trans (h.units.trans hu.symm), hr'.trans (h.records.trans hr.symm),
    hn'.trans (h.readyUnits.trans hn.symm)⟩
  · rw [he', he, h.units, h.events, add_left_comm]
  · rw [clock_startUnits, clock_startUnits, h.clock]

lemma submit (d : Job τ) (u : UnitId) : Alongside extra (e.submit d u).1 (f.submit d u).1 := by
  rw [Cluster.submit, Cluster.submit, h.units, h.clock]
  split
  · exact h.schedule _ _
  · exact h

omit h in
lemma exists_of_list (l : List (Event τ)) (e : Cluster τ) : ∃ f, Alongside ↑l e f := by
  induction l with
  | nil => exact ⟨e, refl e⟩
  | cons event l ih =>
    obtain ⟨f, h⟩ := ih
    refine ⟨f.schedule event Time.zero, ?_, h.clock, h.units, h.records, h.readyUnits⟩
    rw [events_schedule, h.events, ← Multiset.cons_coe, Multiset.cons_add]

end Alongside

section steady

variable {pool : Array ComputeUnit} {n : ℕ} {log : List (Job τ × UnitId)}

def Logged (n : ℕ) (log : List (Job τ × UnitId)) (id : TaskId) : Place τ → Prop
  | .absent => True
  | .travelling d u | .queued d u => (d, u) ∈ log ∧ d.taskId = id ∧ u < n
  | .running _ | .finished _ => id ∈ log.map fun x => x.1.taskId

lemma Logged.mem {p : Place τ} (h : Logged n log id p) (hp : p ≠ .absent) :
    id ∈ log.map fun x => x.1.taskId := by
  cases p with
  | absent => contradiction
  | travelling d u | queued d u => exact List.mem_map.mpr ⟨_, h.1, h.2.1⟩
  | running u | finished u => exact h

lemma Logged.append {p : Place τ} (h : Logged n log id p) (x : Job τ × UnitId) :
    Logged n (log ++ [x]) id p := by
  cases p with
  | absent => trivial
  | travelling d u | queued d u => exact ⟨List.mem_append_left _ h.1, h.2⟩
  | running u | finished u =>
    rw [Logged, List.map_append]
    exact List.mem_append_left _ h

def Fitted (pool : Array ComputeUnit) (log : List (Job τ × UnitId)) (e : Cluster τ) : Prop :=
  ∀ id r, e.record? id = some r → r.started.isSome = true → ∃ d unit, (d, r.unit) ∈ log ∧
    d.taskId = id ∧ pool[r.unit]? = some unit ∧
    r.cores.toNat = min (max d.cores.toNat 1) (max unit.cores.toNat 1)

lemma Fitted.of_record (h : Fitted pool log e)
    (hr : ∀ id r, f.record? id = some r → r.started.isSome = true → ∃ r', e.record? id = some r' ∧
      r'.started.isSome = true ∧ r'.unit = r.unit ∧ r'.cores = r.cores) : Fitted pool log f := by
  intro id r hid hs
  obtain ⟨r', hr', hs', hu, hc⟩ := hr id r hid hs
  rw [← hu, ← hc]
  exact h id r' hr' hs'

lemma Fitted.enter (h : Fitted pool log e) (d : Job τ) (u : UnitId) :
    Fitted pool log (e.enter d u) := by
  refine h.of_record fun id r hid hs => ?_
  rw [record?_enter] at hid
  split at hid
  · cases hid
    cases hs
  · exact ⟨r, hid, hs, rfl, rfl⟩

lemma Fitted.leave (h : Fitted pool log e) (id : TaskId) (u : UnitId) :
    Fitted pool log (e.leave id u) := by
  refine h.of_record fun k r hk hs => ?_
  rw [record?_leave] at hk
  split at hk
  · obtain ⟨r', hr, rfl⟩ := Option.map_eq_some_iff.mp hk
    exact ⟨r', hr, hs, rfl, rfl⟩
  · exact ⟨r, hk, hs, rfl, rfl⟩

lemma Fitted.of_eq (h : Fitted pool log e) (hr : f.records = e.records) : Fitted pool log f :=
  h.of_record fun id r hid hs => ⟨r, by rwa [record?, ← hr], hs, rfl, rfl⟩

structure Steady (pool : Array ComputeUnit) (log : List (Job τ × UnitId)) (e : Cluster τ) : Prop where
  houses : e.Houses pool
  placed : ∀ id, ∃ p, e.At id p ∧ Logged pool.size log id p
  metered : Metered (log.map fun x => x.1.taskId) e
  fitted : Fitted pool log e

lemma Steady.located (h : Steady pool log e) : Located (log.map fun x => x.1.taskId) e := by
  intro id
  obtain ⟨p, hp, hl⟩ := h.placed id
  exact ⟨p, hp, hl.mem⟩

lemma Steady.of_eq (h : Steady pool log e) (he : ∀ id, f.pending id = e.pending id)
    (hu : f.units = e.units) (hr : f.records = e.records) : Steady pool log f where
  houses := h.houses.of_eq hu
  placed id := by
    obtain ⟨p, hp, hl⟩ := h.placed id
    refine ⟨p, hp.of_eq (he id) (fun u => ?_) ?_, hl⟩
    · rw [copies, queueAt, hu, copies, queueAt]
    · rw [record?, hr, record?]
  metered := h.metered.of_eq hr hu
  fitted := h.fitted.of_eq hr

variable [Time τ]

lemma Fitted.startTask (h : Fitted pool log e) (hp : e.Houses pool) (hs : e.units[u]? = some s)
    (hq : e.At d.taskId (.queued d u)) (hl : (d, u) ∈ log) :
    Fitted pool log (e.startTask u s d rest) := by
  intro id r hid hr
  rw [record?_startTask] at hid
  split at hid
  · rename_i hi
    subst hi
    obtain ⟨r', hr', rfl⟩ := Option.map_eq_some_iff.mp hid
    obtain ⟨r₀, hr₀, hu, _⟩ := hq.record
    rw [hr'] at hr₀
    cases hr₀
    have hv := hp u
    rw [unit?, hs] at hv
    exact ⟨d, s.unit, hu ▸ hl, rfl, hu ▸ hv.symm, s.toNat_demand d⟩
  · exact h id r hid hr

lemma Steady.handle (h : Steady pool log e) (hn : (log.map fun x => x.1.taskId).Nodup)
    (hd : e.Drawn event e') : Steady pool log (e'.handle event).1 := by
  have hu (d : Job τ) (u : UnitId) (he : event = .arrived d u) : u < e.units.size := by
    subst he
    obtain ⟨p, hp, hl⟩ := h.placed d.taskId
    obtain rfl := Place.eq_travelling (hp.mem_events hd.mem rfl)
    exact h.houses.size ▸ hl.2.2
  have hf : Fitted pool log e' := h.fitted.of_eq hd.records
  have hv (v : UnitId) : e'.unit? v = pool[v]? := by
    rw [unit?, hd.units]
    exact h.houses v
  have hk : (∀ k, ∃ p, (e'.handle event).1.At k p ∧ Logged pool.size log k p) ∧
      Fitted pool log (e'.handle event).1 ∧ (e'.handle event).1.Houses pool := by
    refine At.handle_keeps (Q := Logged pool.size log) (P := fun e => Fitted pool log e ∧ e.Houses pool)
      (fun k d u hq => hq.mem (by simp)) ?_ hd hu h.placed (fun k d u _ hq => hq)
      (fun k u _ hq => hq) (fun _ => ⟨hf, hv⟩) (fun _ => ⟨hf, hv⟩)
      (fun d u _ _ => ⟨hf.enter d u, fun v => (unit?_enter v).trans (hv v)⟩)
      (fun k u _ _ => ⟨hf.leave k u, fun v => (unit?_leave v).trans (hv v)⟩)
    rintro e u s d rest hs _ _ hq hl ⟨hf, hv⟩
    exact ⟨hf.startTask hv hs hq hl.1, fun v => (unit?_startTask hs v).trans (hv v)⟩
  exact ⟨hk.2.2, hk.1, h.metered.handle h.located hn hd hu, hk.2.1⟩

lemma steady_ofPool (pool : Array ComputeUnit) : Steady pool [] (ofPool pool : Cluster τ) where
  houses := houses_ofPool pool
  placed id := ⟨.absent, .ofPool pool id, trivial⟩
  metered := metered_ofPool pool _
  fitted id r hr := by simp [record?, ofPool] at hr

lemma Steady.startUnits (h : Steady pool log e) : Steady pool log e.startUnits :=
  h.of_eq (pending_startUnits e) (awaits_startUnits e).units (awaits_startUnits e).records

lemma Steady.submit (h : Steady pool log e) (u : UnitId)
    (hd : d.taskId ∉ log.map fun x => x.1.taskId) :
    Steady pool (log ++ [(d, u)]) (e.submit d u).1 := by
  obtain ⟨p, hp, hl⟩ := h.placed d.taskId
  obtain rfl : p = .absent := by
    by_contra hn
    exact hd (hl.mem hn)
  refine ⟨fun v => (unit?_submit d u v).trans (h.houses v), fun k => ?_, ?_, ?_⟩
  · by_cases hk : d.taskId = k
    · subst hk
      by_cases hu : u < e.units.size
      · exact ⟨_, hp.submit_self hu, List.mem_append_right _ List.mem_cons_self, rfl,
          h.houses.size ▸ hu⟩
      · rw [Cluster.submit, if_neg hu]
        exact ⟨_, hp, trivial⟩
    · obtain ⟨q, hq, hl⟩ := h.placed k
      exact ⟨q, hq.submit_of_ne hk, hl.append _⟩
  · rw [List.map_append]
    refine Metered.submit (fun v s hs => ?_) d u
    rw [total_append, List.map_singleton, total_cons, hp.held_eq_zero (by simp), ← h.metered v s hs]
    rfl
  · have hf : Fitted pool (log ++ [(d, u)]) e := by
      intro id r hr hs
      obtain ⟨d', unit, hm, hx⟩ := h.fitted id r hr hs
      exact ⟨d', unit, List.mem_append_left _ hm, hx⟩
    refine hf.of_eq ?_
    rw [Cluster.submit]
    split <;> rfl

omit [Time τ]

lemma Steady.station (h : Steady pool log e) {unit : ComputeUnit} (hu : pool[u]? = some unit) :
    ∃ s, e.units[u]? = some s ∧ s.unit = unit ∧
      s.free.toNat + total (e.held u) (log.map fun x => x.1.taskId) = unit.cores.toNat := by
  obtain ⟨s, hs, rfl⟩ := Option.map_eq_some_iff.mp ((h.houses u).trans hu)
  exact ⟨s, hs, rfl, h.metered u s hs⟩

lemma Steady.running (h : Steady pool log e) {r : Record τ} (hr : e.record? id = some r)
    (hs : r.started.isSome = true) (hf : r.finished = none) : ∃ d unit s, (d, r.unit) ∈ log ∧
      d.taskId = id ∧ pool[r.unit]? = some unit ∧ e.units[r.unit]? = some s ∧
      r.cores.toNat = min (max d.cores.toNat 1) unit.cores.toNat ∧
      s.free.toNat + r.cores.toNat ≤ unit.cores.toNat := by
  obtain ⟨d, unit, hm, hi, hu, hc⟩ := h.fitted id r hr hs
  obtain ⟨s, hst, _, ht⟩ := h.station hu
  have hh : e.held r.unit id = r.cores.toNat := by
    rw [held, isRunning, coresOf, hr]
    simp [hs, hf]
  have hle := le_total (e.held r.unit) (hi ▸ List.mem_map.mpr ⟨_, hm, rfl⟩ :
    id ∈ log.map fun x => x.1.taskId)
  refine ⟨d, unit, s, hm, hi, hu, hst, ?_, ?_⟩
  · omega
  · omega

lemma Steady.admits (h : Steady pool log e) (he : event ∈ e.events) : e.admits event = true := by
  cases event with
  | provisioned u => rfl
  | ready => rfl
  | arrived d u =>
    obtain ⟨p, hp, hl⟩ := h.placed d.taskId
    obtain rfl := Place.eq_travelling (hp.mem_events he rfl)
    rw [Cluster.admits, decide_eq_true_eq, h.houses.size]
    exact hl.2.2
  | completed id u =>
    obtain ⟨p, hp, _⟩ := h.placed id
    obtain rfl := Place.eq_running (hp.mem_events he rfl)
    obtain ⟨r, hr, rfl, hs, hn⟩ := hp.record
    obtain ⟨_, unit, s, _, _, _, hst, _, hf⟩ := h.running hr hs hn
    rw [Cluster.admits, canRegain, hst, coresOf, hr]
    simp only [hp.isRunning, Bool.not_true, Bool.false_or, decide_eq_true_eq]
    exact hf.trans_lt unit.cores.toNat_lt

end steady

end Cluster

end Dispatch
