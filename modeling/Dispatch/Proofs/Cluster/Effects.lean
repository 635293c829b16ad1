import Dispatch.Cluster.Basic
import Mathlib.Tactic

namespace Dispatch

def Event.taskId? {τ : Type} : Event τ → Option TaskId
  | .arrived d _ => some d.taskId
  | .completed id _ => some id
  | _ => none

namespace Cluster

variable {τ : Type} {e e' : Cluster τ} {u v : UnitId} {s : Station τ} {d : Job τ}
  {rest : Queue (Job τ)} {event : Event τ} {id : TaskId}

def events (e : Cluster τ) : Multiset (Event τ) := Multiset.ofList (e.calendar.toList.map (·.event))

def queueAt (e : Cluster τ) (u : UnitId) : List (Job τ) :=
  (e.units[u]?.map fun s => s.queue.toList).getD []

lemma queueAt_of_get? (h : e.units[u]? = some s) : e.queueAt u = s.queue.toList := by
  rw [queueAt, h, Option.map_some, Option.getD_some]

def Houses (e : Cluster τ) (pool : Array ComputeUnit) : Prop := ∀ v, e.unit? v = pool[v]?

lemma Houses.size {pool : Array ComputeUnit} (h : e.Houses pool) : e.units.size = pool.size := by
  refine le_antisymm (Nat.le_of_not_lt fun hl => ?_) (Nat.le_of_not_lt fun hl => ?_)
  · have hv := h pool.size
    rw [unit?, Array.getElem?_eq_getElem hl, Array.getElem?_eq_none le_rfl] at hv
    cases hv
  · have hv := h e.units.size
    rw [unit?, Array.getElem?_eq_none le_rfl, Array.getElem?_eq_getElem hl] at hv
    cases hv

variable [Time τ]

@[simp] lemma events_schedule (e : Cluster τ) (event : Event τ) (delay : τ) :
    (e.schedule event delay).events = event ::ₘ e.events :=
  Multiset.coe_eq_coe.mpr ((Heap.toList_insert_perm _ _ _).map _)

structure Drawn (e : Cluster τ) (event : Event τ) (e' : Cluster τ) : Prop where
  events : e.events = event ::ₘ e'.events
  units : e'.units = e.units
  records : e'.records = e.records
  readyUnits : e'.readyUnits = e.readyUnits

omit [Time τ] in
lemma Drawn.mem (h : e.Drawn event e') : event ∈ e.events := h.events ▸ Multiset.mem_cons_self _ _

lemma drawn_of_next? (h : e.next? = some (event, e')) : e.Drawn event e' := by
  obtain ⟨⟨a, rest⟩, ha, he⟩ := Option.map_eq_some_iff.mp h
  cases he
  exact ⟨Multiset.coe_eq_coe.mpr ((Heap.toList_of_deleteMin? ha).map _), rfl, rfl, rfl⟩

lemma next?_eq_none_iff : e.next? = none ↔ e.events = 0 := by
  rw [next?, Option.map_eq_none_iff, events, Calendar.pop?]
  cases e.calendar with
  | empty => simp [Heap.deleteMin?, Heap.toList]
  | node n a l r => simp [Heap.deleteMin?, Heap.toList]

omit [Time τ] in
lemma nextTime?_eq_none_iff : e.nextTime? = none ↔ e.events = 0 := by
  rw [nextTime?, Option.map_eq_none_iff, events, Calendar.peek?]
  cases e.calendar with
  | empty => simp [Heap.min?, Heap.toList]
  | node n a l r => simp [Heap.min?, Heap.toList]

structure Awaits (e : Cluster τ) (events : Multiset (Event τ)) (e' : Cluster τ) : Prop where
  events : e'.events = events + e.events
  units : e'.units = e.units
  records : e'.records = e.records
  readyUnits : e'.readyUnits = e.readyUnits

lemma startUnits_induction {P : Cluster τ → Prop}
    (schedule : ∀ e event, event.taskId? = none → P e → P (e.schedule event Time.zero)) (h : P e) :
    P e.startUnits := by
  have hf (l : List UnitId) (e : Cluster τ) (h : P e) :
      P (l.foldl (fun e u => e.schedule (.provisioned u) Time.zero) e) := by
    induction l generalizing e with
    | nil => exact h
    | cons u l ih => exact ih _ (schedule e _ rfl h)
  rw [startUnits]
  split
  · exact schedule e _ rfl h
  · exact hf _ e h

lemma clock_startUnits (e : Cluster τ) : e.startUnits.clock = e.clock :=
  startUnits_induction (P := fun f => f.clock = e.clock) (fun _ _ _ h => h) rfl

lemma awaits_foldl_schedule (l : List UnitId) (delay : τ) (e : Cluster τ) :
    e.Awaits (l.map .provisioned : List (Event τ))
      (l.foldl (fun e u => e.schedule (.provisioned u) delay) e) := by
  induction l generalizing e with
  | nil => exact ⟨(zero_add _).symm, rfl, rfl, rfl⟩
  | cons u l ih =>
    obtain ⟨he, hu, hr, hn⟩ := ih (e.schedule (.provisioned u) delay)
    refine ⟨?_, hu, hr, hn⟩
    rw [List.foldl_cons, he, events_schedule, List.map_cons, ← Multiset.cons_coe,
      Multiset.cons_add, Multiset.add_cons]

lemma awaits_startUnits (e : Cluster τ) : e.Awaits
    (if e.units.size = 0 then {.ready} else ((List.range e.units.size).map .provisioned : List (Event τ)))
    e.startUnits := by
  simp only [startUnits, Array.isEmpty, decide_eq_true_eq]
  split
  · exact ⟨events_schedule _ _ _, rfl, rfl, rfl⟩
  · exact awaits_foldl_schedule _ _ _

section startTask

variable (d rest)

@[simp] lemma events_startTask : (e.startTask u s d rest).events = .completed d.taskId u ::ₘ e.events :=
  events_schedule _ _ _

@[simp] lemma size_startTask : (e.startTask u s d rest).units.size = e.units.size :=
  Array.size_setIfInBounds

lemma units_startTask (hs : e.units[u]? = some s) (v : UnitId) :
    (e.startTask u s d rest).units[v]? =
      if u = v then some { s with free := s.free - s.demand d, queue := rest } else e.units[v]? := by
  have hu : u < e.units.size := (Array.getElem?_eq_some_iff.mp hs).1
  refine (Array.getElem?_setIfInBounds ..).trans ?_
  rw [if_pos hu]

lemma record?_startTask (k : TaskId) : (e.startTask u s d rest).record? k =
    if d.taskId = k then
      (e.record? k).map ({ · with started := some e.clock, cores := s.demand d })
    else e.record? k := by
  refine (Std.TreeMap.getElem?_modify ..).trans ?_
  simp only [Nat.compare_eq_eq, record?]
  split
  · rename_i h
    rw [h]
  · rfl

lemma queueAt_startTask (hs : e.units[u]? = some s) (v : UnitId) :
    (e.startTask u s d rest).queueAt v = if u = v then rest.toList else e.queueAt v := by
  rw [queueAt, units_startTask d rest hs]
  split <;> rfl

end startTask

lemma startFront_induction {P : Cluster τ → Prop}
    (start : ∀ e s d rest, e.units[u]? = some s → s.queue.dequeue? = some (d, rest) →
      s.demand d ≤ s.free → P e → P (e.startTask u s d rest))
    (n : ℕ) (out : Array (ClusterReport τ)) (h : P e) : P (startFront n e u out).1 := by
  induction n generalizing e out with
  | zero => exact h
  | succ n ih =>
    rw [startFront]
    split
    · exact h
    · rename_i s hs
      split
      · exact h
      · rename_i d rest hd
        split
        · exact h
        · rename_i hf
          exact ih _ (start e s d rest hs hd (UInt32.not_lt.mp hf) h)

lemma startWaiting_induction {P : Cluster τ → Prop}
    (start : ∀ e s d rest, e.units[u]? = some s → s.queue.dequeue? = some (d, rest) →
      s.demand d ≤ s.free → P e → P (e.startTask u s d rest))
    (h : P e) : P (e.startWaiting u).1 := by
  rw [startWaiting]
  split
  · exact h
  · exact startFront_induction start _ _ h

lemma mem_startFront {n : ℕ} {x : ClusterReport τ} {out : Array (ClusterReport τ)}
    (h : x ∈ (startFront n e u out).2) : x ∈ out ∨ ∃ id t, x = .startedTask id u t := by
  induction n generalizing e out with
  | zero => exact .inl h
  | succ n ih =>
    rw [startFront] at h
    split at h
    · exact .inl h
    · split at h
      · exact .inl h
      · split at h
        · exact .inl h
        · rcases ih h with h | h
          · rcases Array.mem_push.mp h with h | h
            · exact .inl h
            · exact .inr ⟨_, _, h⟩
          · exact .inr h

lemma mem_startWaiting {x : ClusterReport τ} (h : x ∈ (e.startWaiting u).2) :
    ∃ id t, x = .startedTask id u t := by
  rw [startWaiting] at h
  split at h
  · simp at h
  · exact (mem_startFront h).resolve_left (by simp)

def Answers (e : Cluster τ) (event : Event τ) : ClusterReport τ → Prop
  | .delivered _ | .unknownUnit _ _ => False
  | .unexpectedCompletion id => e.isRunning id = false ∧ ∃ u, event = .completed id u
  | _ => True

lemma answers_of_mem {x : ClusterReport τ} (h : x ∈ (e.handle event).2) : e.Answers event x := by
  cases event with
  | provisioned u =>
    obtain rfl := Array.mem_singleton.mp h
    trivial
  | ready =>
    obtain rfl := Array.mem_singleton.mp h
    trivial
  | arrived d u =>
    obtain ⟨_, _, rfl⟩ := mem_startWaiting h
    trivial
  | completed id u =>
    simp only [handle, complete] at h
    split at h
    · obtain ⟨_, _, rfl⟩ := mem_startWaiting h
      trivial
    · rename_i hr
      obtain rfl := Array.mem_singleton.mp h
      exact ⟨Bool.eq_false_of_not_eq_true hr, u, rfl⟩

lemma eq_unknownUnit_of_mem {x : ClusterReport τ} (h : x ∈ (e.submit d u).2) :
    x = .unknownUnit d.taskId u := by
  rw [submit] at h
  split at h
  · exact (Array.not_mem_empty _ h).elim
  · exact Array.mem_singleton.mp h

lemma handle_cases {P : Cluster τ → Prop}
    (count : event.taskId? = none → ∀ n, P { e with readyUnits := n })
    (announce : event.taskId? = none → ∀ n, P ({ e with readyUnits := n }.schedule .ready Time.zero))
    (arrived : ∀ d u, event = .arrived d u → P ((e.enter d u).startWaiting u).1)
    (completed : ∀ id u, event = .completed id u → e.isRunning id = true →
      P ((e.leave id u).startWaiting u).1)
    (ignored : ∀ id u, event = .completed id u → e.isRunning id = false → P e) :
    P (e.handle event).1 := by
  cases event with
  | provisioned u =>
    simp only [handle, countUnit]
    split
    · exact announce rfl _
    · exact count rfl _
  | ready => exact count rfl e.readyUnits
  | arrived d u => exact arrived d u rfl
  | completed id u =>
    simp only [handle, complete]
    split
    · rename_i hr
      exact completed id u rfl hr
    · rename_i hr
      exact ignored id u rfl (Bool.eq_false_of_not_eq_true hr)

omit [Time τ]

lemma units_enter (d : Job τ) (u v : UnitId) : (e.enter d u).units[v]? =
    if u = v then e.units[v]?.map fun s => { s with queue := s.queue.enqueue d } else e.units[v]? :=
  Array.getElem?_modify

lemma record?_enter (k : TaskId) : (e.enter d u).record? k =
    if d.taskId = k then some { taskId := d.taskId, unit := u, arrived := e.clock }
    else e.record? k := by
  refine (Std.TreeMap.getElem?_insert ..).trans ?_
  simp only [Nat.compare_eq_eq]
  rfl

lemma queueAt_enter (hu : u < e.units.size) (v : UnitId) :
    (e.enter d u).queueAt v = if u = v then e.queueAt v ++ [d] else e.queueAt v := by
  rw [queueAt, units_enter]
  split
  · rename_i h
    subst h
    simp [queueAt, Array.getElem?_eq_getElem hu]
  · rfl

lemma units_leave (id : TaskId) (u v : UnitId) : (e.leave id u).units[v]? =
    if u = v then e.units[v]?.map fun s => { s with free := s.free + e.coresOf id }
    else e.units[v]? :=
  Array.getElem?_modify

lemma record?_leave (k : TaskId) : (e.leave id u).record? k =
    if id = k then (e.record? k).map ({ · with finished := some e.clock }) else e.record? k := by
  refine (Std.TreeMap.getElem?_modify ..).trans ?_
  simp only [Nat.compare_eq_eq, record?]
  split
  · rename_i h
    rw [h]
  · rfl

lemma queueAt_leave (v : UnitId) : (e.leave id u).queueAt v = e.queueAt v := by
  rw [queueAt, units_leave, queueAt]
  split
  · cases e.units[v]? <;> rfl
  · rfl

lemma unit?_enter (v : UnitId) : (e.enter d u).unit? v = e.unit? v := by
  rw [unit?, units_enter, unit?]
  split
  · cases e.units[v]? <;> rfl
  · rfl

lemma unit?_leave (v : UnitId) : (e.leave id u).unit? v = e.unit? v := by
  rw [unit?, units_leave, unit?]
  split
  · cases e.units[v]? <;> rfl
  · rfl

variable [Time τ]

lemma unit?_startTask (hs : e.units[u]? = some s) (v : UnitId) :
    (e.startTask u s d rest).unit? v = e.unit? v := by
  rw [unit?, units_startTask d rest hs, unit?]
  split
  · rename_i h
    rw [← h, hs]
    rfl
  · rfl

lemma unit?_startWaiting (u v : UnitId) : (e.startWaiting u).1.unit? v = e.unit? v :=
  startWaiting_induction (P := fun e' => e'.unit? v = e.unit? v)
    (fun _ _ _ _ hs _ _ h => (unit?_startTask hs v).trans h) rfl

lemma unit?_handle (event : Event τ) (v : UnitId) : (e.handle event).1.unit? v = e.unit? v :=
  handle_cases (P := fun e' => e'.unit? v = e.unit? v) (fun _ _ => rfl) (fun _ _ => rfl)
    (fun _ u _ => (unit?_startWaiting u v).trans (unit?_enter v))
    (fun _ u _ _ => (unit?_startWaiting u v).trans (unit?_leave v)) fun _ _ _ _ => rfl

lemma unit?_submit (d : Job τ) (u v : UnitId) : (e.submit d u).1.unit? v = e.unit? v := by
  rw [submit]
  split <;> rfl

omit [Time τ] in
lemma Houses.of_eq {pool : Array ComputeUnit} (h : e.Houses pool) (hu : e'.units = e.units) :
    e'.Houses pool := by
  intro v
  rw [unit?, hu]
  exact h v

lemma houses_ofPool (pool : Array ComputeUnit) : (ofPool pool : Cluster τ).Houses pool := by
  intro v
  rw [unit?, ofPool, Array.getElem?_map]
  cases pool[v]? <;> rfl

end Cluster

end Dispatch
