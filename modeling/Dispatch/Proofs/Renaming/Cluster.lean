import Dispatch.Proofs.Renaming.Scheduler
import Dispatch.Run

namespace Dispatch

section rename

variable {τ : Type} (ρ : TaskId → TaskId)

def Appointment.rename (a : Appointment τ) : Appointment τ := { a with event := a.event.rename ρ }

def Station.rename (s : Station τ) : Station τ := { s with queue := s.queue.map (Job.rename ρ) }

def Record.rename (r : Record τ) : Record τ := { r with taskId := ρ r.taskId }

end rename

namespace Calendar

variable {τ : Type} [Time τ] (ρ : TaskId → TaskId) (q : Calendar τ)

lemma before_rename (a b : Appointment τ) : (a.rename ρ).before (b.rename ρ) = a.before b := rfl

lemma map_push (a : Appointment τ) :
    (q.push a).map (Appointment.rename ρ) = push (q.map (Appointment.rename ρ)) (a.rename ρ) := by
  rw [push, push]
  exact Heap.map_insert (before_rename ρ) q a

lemma pop?_map : pop? (q.map (Appointment.rename ρ)) =
    q.pop?.map fun x => (x.1.rename ρ, x.2.map (Appointment.rename ρ)) := by
  rw [pop?, pop?]
  exact Heap.deleteMin?_map (before_rename ρ) q

end Calendar

namespace Cluster

variable {τ : Type} {ρ : TaskId → TaskId} {e e' f : Cluster τ} {d : Job τ} {id : TaskId} {u : UnitId}
  {s : Station τ} {event : Event τ} {out : Array (ClusterReport τ)}

lemma modify_rename (units : Array (Station τ)) (u : UnitId) {f f' : Station τ → Station τ}
    (hf : ∀ s, f' (s.rename ρ) = (f s).rename ρ) :
    (units.map (Station.rename ρ)).modify u f' = (units.modify u f).map (Station.rename ρ) := by
  apply Array.ext_getElem?
  intro v
  rw [Array.getElem?_modify, Array.getElem?_map, Array.getElem?_map, Array.getElem?_modify]
  split
  · rw [Option.map_map, Option.map_map]
    exact congrArg (fun g => units[v]?.map g) (funext hf)
  · rfl

structure Recorded (ρ : TaskId → TaskId) (m m' : Std.TreeMap ℕ (Record τ)) : Prop where
  get? : ∀ id, m'[ρ id]? = m[id]?.map (Record.rename ρ)
  named : ∀ k r, m'[k]? = some r → ∃ id, k = ρ id

section Recorded

variable {m m' : Std.TreeMap ℕ (Record τ)} (h : Recorded ρ m m') (hρ : Function.Injective ρ)

include h hρ

lemma Recorded.insert (id : TaskId) (r : Record τ) :
    Recorded ρ (m.insert id r) (m'.insert (ρ id) (r.rename ρ)) where
  get? k := by
    simp only [Std.TreeMap.getElem?_insert, Nat.compare_eq_eq, hρ.eq_iff]
    split
    · rfl
    · exact h.get? k
  named k r hr := by
    simp only [Std.TreeMap.getElem?_insert, Nat.compare_eq_eq] at hr
    split at hr
    · rename_i hk
      exact ⟨id, hk.symm⟩
    · exact h.named k r hr

lemma Recorded.modify (id : TaskId) {a : Record τ → Record τ} (ha : ∀ r, a (r.rename ρ) = (a r).rename ρ) :
    Recorded ρ (m.modify id a) (m'.modify (ρ id) a) where
  get? k := by
    simp only [Std.TreeMap.getElem?_modify, Nat.compare_eq_eq, hρ.eq_iff]
    split
    · rw [h.get?, Option.map_map, Option.map_map]
      exact congrArg (fun g => m[id]?.map g) (funext ha)
    · exact h.get? k
  named k r hr := by
    simp only [Std.TreeMap.getElem?_modify, Nat.compare_eq_eq] at hr
    split at hr
    · rename_i hk
      exact ⟨id, hk.symm⟩
    · exact h.named k r hr

end Recorded

structure Renamed (ρ : TaskId → TaskId) (e e' : Cluster τ) : Prop where
  clock : e'.clock = e.clock
  calendar : e'.calendar = e.calendar.map (Appointment.rename ρ)
  created : e'.created = e.created
  units : e'.units = e.units.map (Station.rename ρ)
  readyUnits : e'.readyUnits = e.readyUnits
  records : Recorded ρ e.records e'.records

structure Echoes (ρ : TaskId → TaskId) (s s' : Cluster τ × Array (ClusterReport τ)) : Prop where
  cluster : Renamed ρ s.1 s'.1
  reports : s'.2 = s.2.map (ClusterReport.rename ρ)

namespace Renamed

section lookup

variable (h : Renamed ρ e e')

include h

lemma size : e'.units.size = e.units.size := by rw [h.units, Array.size_map]

lemma unit (u : UnitId) : e'.units[u]? = e.units[u]?.map (Station.rename ρ) := by
  rw [h.units, Array.getElem?_map]

lemma record? (id : TaskId) : e'.record? (ρ id) = (e.record? id).map (Record.rename ρ) := h.records.get? id

lemma isRunning (id : TaskId) : e'.isRunning (ρ id) = e.isRunning id := by
  rw [Cluster.isRunning, h.record?, Cluster.isRunning]
  cases e.record? id <;> rfl

lemma coresOf (id : TaskId) : e'.coresOf (ρ id) = e.coresOf id := by
  rw [Cluster.coresOf, h.record?, Cluster.coresOf]
  cases e.record? id <;> rfl

end lookup

section records

variable (h : Renamed ρ e e') (hρ : Function.Injective ρ)

include h hρ

lemma enter (d : Job τ) (u : UnitId) : Renamed ρ (e.enter d u) (e'.enter (d.rename ρ) u) where
  clock := h.clock
  calendar := h.calendar
  created := h.created
  units := by
    dsimp only [Cluster.enter]
    rw [h.units]
    refine modify_rename e.units u fun s => ?_
    exact congrArg (fun q => (⟨s.unit, s.free, q⟩ : Station τ)) (Queue.map_enqueue _ _ d).symm
  readyUnits := h.readyUnits
  records := by
    rw [Cluster.enter, Cluster.enter, h.clock]
    exact h.records.insert hρ d.taskId { taskId := d.taskId, unit := u, arrived := e.clock }

lemma leave (id : TaskId) (u : UnitId) : Renamed ρ (e.leave id u) (e'.leave (ρ id) u) where
  clock := h.clock
  calendar := h.calendar
  created := h.created
  units := by
    dsimp only [Cluster.leave]
    rw [h.units, h.coresOf]
    exact modify_rename e.units u fun _ => rfl
  readyUnits := h.readyUnits
  records := by
    rw [Cluster.leave, Cluster.leave, h.clock]
    exact h.records.modify hρ id fun _ => rfl

end records

variable [Time τ]

variable (h : Renamed ρ e e')

include h

lemma schedule (event : Event τ) (delay : τ) :
    Renamed ρ (e.schedule event delay) (e'.schedule (event.rename ρ) delay) where
  clock := h.clock
  calendar := by
    rw [Cluster.schedule, Cluster.schedule, h.calendar, h.created, h.clock]
    exact (Calendar.map_push ρ e.calendar ⟨e.created, Time.add e.clock delay, event⟩).symm
  created := congrArg (· + 1) h.created
  units := h.units
  readyUnits := h.readyUnits
  records := h.records

lemma startUnits : Renamed ρ e.startUnits e'.startUnits := by
  have hf (l : List UnitId) {e e' : Cluster τ} (h : Renamed ρ e e') :
      Renamed ρ (l.foldl (fun e u => e.schedule (.provisioned u) Time.zero) e)
        (l.foldl (fun e u => e.schedule (.provisioned u) Time.zero) e') := by
    induction l generalizing e e' with
    | nil => exact h
    | cons u l ih => exact ih (h.schedule (.provisioned u) Time.zero)
  have he : e'.units.isEmpty = e.units.isEmpty := by rw [Array.isEmpty, h.size, Array.isEmpty]
  rw [Cluster.startUnits, Cluster.startUnits, he, h.size]
  split
  · exact h.schedule .ready Time.zero
  · exact hf _ h

omit [Time τ] in
lemma nextTime? : e'.nextTime? = e.nextTime? := by
  rw [Cluster.nextTime?, h.calendar, Calendar.peek?, Heap.min?_map, Option.map_map]
  rfl

lemma next? : Option.Rel (fun x x' => x'.1 = x.1.rename ρ ∧ Renamed ρ x.2 x'.2) e.next? e'.next? := by
  rw [Cluster.next?, Cluster.next?, h.calendar, Calendar.pop?_map]
  cases e.calendar.pop? with
  | none => exact .none
  | some x => exact .some ⟨rfl, rfl, rfl, h.created, h.units, h.readyUnits, h.records⟩

lemma submit (d : Job τ) (u : UnitId) : Echoes ρ (e.submit d u) (e'.submit (d.rename ρ) u) := by
  rw [Cluster.submit, Cluster.submit, h.size, h.clock]
  split
  · exact ⟨h.schedule (.arrived d u) _, Array.map_empty.symm⟩
  · exact ⟨h, by rw [Array.map_singleton]; rfl⟩

variable (hρ : Function.Injective ρ)

include hρ

lemma startTask (u : UnitId) (s : Station τ) (d : Job τ) (rest : Queue (Job τ)) :
    Renamed ρ (e.startTask u s d rest)
      (e'.startTask u (s.rename ρ) (d.rename ρ) (rest.map (Job.rename ρ))) := by
  have hm : Renamed ρ
      { e with
        units := e.units.setIfInBounds u { s with free := s.free - s.demand d, queue := rest }
        records := e.records.modify d.taskId
          ({ · with started := some e.clock, cores := s.demand d }) }
      { e' with
        units := e'.units.setIfInBounds u
          (Station.rename ρ { s with free := s.free - s.demand d, queue := rest })
        records := e'.records.modify (ρ d.taskId)
          ({ · with started := some e'.clock, cores := s.demand d }) } := by
    refine ⟨h.clock, h.calendar, h.created, ?_, h.readyUnits, ?_⟩
    · rw [Array.map_setIfInBounds, h.units]
    · rw [h.clock]
      exact h.records.modify hρ d.taskId fun _ => rfl
  exact hm.schedule (.completed d.taskId u) (s.timeFor d)

lemma startFront (n : ℕ) (u : UnitId) {out out' : Array (ClusterReport τ)}
    (ho : out' = out.map (ClusterReport.rename ρ)) :
    Echoes ρ (e.startFront n u out) (e'.startFront n u out') := by
  induction n generalizing e e' out out' with
  | zero => exact ⟨h, ho⟩
  | succ n ih =>
    have hu := h.unit u
    rw [Cluster.startFront, Cluster.startFront, hu]
    rcases hs : e.units[u]? with _ | s
    · exact ⟨h, ho⟩
    · have hq : (s.rename ρ).queue.dequeue? = s.queue.dequeue?.map fun x =>
          (x.1.rename ρ, x.2.map (Job.rename ρ)) := Queue.dequeue?_map _ _
      simp only [Option.map_some, hq]
      rcases s.queue.dequeue? with _ | ⟨d, rest⟩
      · exact ⟨h, ho⟩
      · simp only [Option.map_some]
        have hd : (s.rename ρ).free < (s.rename ρ).demand (d.rename ρ) ↔ s.free < s.demand d := Iff.rfl
        simp only [hd]
        split
        · exact ⟨h, ho⟩
        · apply ih (h.startTask hρ u s d rest)
          rw [ho, Array.map_push]
          rfl

lemma startWaiting (u : UnitId) : Echoes ρ (e.startWaiting u) (e'.startWaiting u) := by
  rw [Cluster.startWaiting, Cluster.startWaiting, h.unit]
  cases e.units[u]? with
  | none => exact ⟨h, Array.map_empty.symm⟩
  | some s => exact h.startFront hρ s.free.toNat u Array.map_empty.symm

lemma complete (id : TaskId) (u : UnitId) : Echoes ρ (e.complete id u) (e'.complete (ρ id) u) := by
  rw [Cluster.complete, Cluster.complete, h.isRunning]
  split
  · exact (h.leave hρ id u).startWaiting hρ u
  · exact ⟨h, by rw [Array.map_singleton]; rfl⟩

omit hρ in
lemma countUnit (u : UnitId) : Echoes ρ (e.countUnit u) (e'.countUnit u) := by
  have hc : Renamed ρ { e with readyUnits := e.readyUnits + 1 } { e' with readyUnits := e.readyUnits + 1 } :=
    ⟨h.clock, h.calendar, h.created, h.units, rfl, h.records⟩
  rw [Cluster.countUnit, Cluster.countUnit, h.readyUnits, h.size]
  refine ⟨?_, by rw [Array.map_singleton]; rfl⟩
  split
  · exact hc.schedule .ready Time.zero
  · exact hc

lemma handle (event : Event τ) : Echoes ρ (e.handle event) (e'.handle (event.rename ρ)) := by
  cases event with
  | provisioned u => exact h.countUnit u
  | ready => exact ⟨h, by rw [Event.rename, Cluster.handle, Cluster.handle, h.size, Array.map_singleton]; rfl⟩
  | arrived d u => exact (h.enter hρ d u).startWaiting hρ u
  | completed id u => exact h.complete hρ id u

end Renamed

end Cluster

end Dispatch
