import Dispatch.Proofs.Cluster.Cores
import Dispatch.Proofs.Run.Agreement

namespace Dispatch.Run

open Scheduler Cluster

variable {τ : Type} [Time τ] {g : Workflow τ} {pool : Array ComputeUnit} {c : Scheduler NamedPolicy τ}
  {e e' : Cluster τ} {time : τ} {event : Event τ} {s s' : Scheduler NamedPolicy τ × Array (Action τ)}
  {r r' : Run NamedPolicy τ} {notices : Array (Notice τ)}

omit [Time τ] in
lemma Joined.located (h : Joined g pool c e) : Located g.ids e := by
  intro id
  obtain ⟨p, hp, hc⟩ := h.agrees id
  refine ⟨p, hp, fun hn => ?_⟩
  cases p with
  | absent => contradiction
  | travelling | queued => exact h.faithful.mem_ids hc.2.1
  | running | finished => exact h.faithful.mem_ids hc.1

omit [Time τ] in
lemma Joined.mem_ids_of_record (h : Joined g pool c e) (id : TaskId) (r : Record τ)
    (hr : e.record? id = some r) : id ∈ g.ids := by
  obtain ⟨p, hp, hl⟩ := h.located id
  refine hl ?_
  rintro rfl
  cases hr.symm.trans hp.record

structure Working (g : Workflow τ) (pool : Array ComputeUnit) (c : Scheduler NamedPolicy τ)
    (e : Cluster τ) : Prop where
  joined : Joined g pool c e
  metered : Metered g.ids e
  tight : e.AllTight

lemma working_ofPool (g : Workflow τ) {name : String} {policy : NamedPolicy}
    (h : NamedPolicy.ofName? name pool.size = some policy) :
    Working g pool (ofPool pool g policy).scheduler (ofPool pool g policy).cluster where
  joined := joined_ofPool g h
  metered := (metered_ofPool pool g.ids).of_eq (awaits_startUnits _).records (awaits_startUnits _).units
  tight := by
    intro u s hs
    rw [ofPool, (awaits_startUnits _).units, Cluster.ofPool, Array.getElem?_map] at hs
    obtain ⟨unit, _, rfl⟩ := Option.map_eq_some_iff.mp hs
    intro d hd
    cases hd

lemma Working.opening (h : Working g pool c e) (hd : e.Drawn event e') (hc : Opening c time event s) :
    Working g pool s.1 (e'.handle event).1 where
  joined := h.joined.opening hd hc
  metered := by
    apply h.metered.handle h.joined.located g.nodup_ids hd
    rintro d u rfl
    exact h.joined.unit_lt hd.mem
  tight := by
    refine AllTight.handle (fun u s hs => ?_) event
    rw [hd.units] at hs
    exact h.tight u s hs

lemma Working.move {out : Array (Notice τ)} (h : Working g pool s.1 (e.performed out s.2))
    (hm : Move time s s') : Working g pool s'.1 (e.performed out s'.2) where
  joined := h.joined.move hm
  metered := by
    have hr := h.metered
    cases hm <;> simp [hr, hr.submit]
  tight := by
    have ht := h.tight
    cases hm <;> simp [ht, ht.submit]

lemma Working.step (h : Working g pool r.scheduler r.cluster) (hs : r.step? = some (r', notices)) :
    Working g pool r'.scheduler r'.cluster :=
  step_induction (P := Working g pool) hs (fun _ _ _ hd hc => h.opening hd hc)
    fun _ _ _ _ _ hm hj => hj.move hm

lemma charged_ofPool (pool : Array ComputeUnit) (g : Workflow τ) (policy : NamedPolicy) :
    (ofPool pool g policy).cluster.Charged := by
  intro id r hr
  cases hr.symm.trans (At.ofPool pool id).startUnits.record

lemma charged_step (h : r.cluster.Charged) (hs : r.step? = some (r', notices)) : r'.cluster.Charged := by
  obtain ⟨event, e, out, hd, -, hc⟩ := of_step? hs
  refine ((h.of_eq hd.records).handle event).of_eq ?_
  rw [hc]
  exact records_performed _ _ _ _

section ended

omit [Time τ]

variable (h : Working g pool r.scheduler r.cluster) (he : r.cluster.events = 0)

include h he

lemma Working.station {u : UnitId} {unit : ComputeUnit} (hu : pool[u]? = some unit)
    (hc : 0 < unit.cores.toNat) : ∃ s, r.cluster.units[u]? = some s ∧ s.unit = unit ∧
      s.free = unit.cores ∧ s.queue.toList = [] := by
  obtain ⟨s, hs, rfl⟩ := Option.map_eq_some_iff.mp ((h.joined.houses u).trans hu)
  have hz : total (r.cluster.held u) g.ids = 0 := by
    apply total_eq_zero
    intro id _
    obtain ⟨p, hp, _⟩ := h.joined.agrees id
    refine hp.held_eq_zero (fun v hv => ?_) u
    have hn := hp.events_eq_zero he
    simp [hv, Place.events] at hn
  have hf : s.free.toNat = s.unit.cores.toNat := by
    rw [← h.metered u s hs, hz, Nat.add_zero]
  exact ⟨s, hs, rfl, UInt32.toNat_inj.mp hf, (h.tight u s hs).queue_eq_nil hc hf⟩

lemma Working.coreless_of_submitted {id : TaskId} (hs : r.scheduler.progress.phase? id = some .submitted) :
    ∃ u unit, r.scheduler.unitFor? id = some u ∧ pool[u]? = some unit ∧ unit.cores = 0 := by
  obtain ⟨p, hp, hx⟩ := h.joined.agrees id
  have hn := hp.events_eq_zero he
  cases p with
  | absent => exact (hx.1 hs).elim
  | travelling d u => simp [Place.events] at hn
  | running u => simp [Place.events] at hn
  | finished u =>
    rw [hx.1] at hs
    cases hs
  | queued d u =>
    obtain ⟨v, hv, hu⟩ := h.joined.balanced.placed id hs
    rw [hx.2.2] at hu
    cases hu
    refine ⟨u, pool[u], hx.2.2, Array.getElem?_eq_getElem hv, ?_⟩
    -- on a unit with cores no task would wait
    by_contra hz
    obtain ⟨s, hs, _, _, hq⟩ := h.station he (Array.getElem?_eq_getElem hv)
      (Nat.pos_of_ne_zero fun h => hz (UInt32.toNat_inj.mp h))
    have hd := hp.copies u
    rw [Cluster.copies, queueAt_of_get? hs, hq] at hd
    simp [Place.copies] at hd

lemma Working.phase?_ne_submitted (hc : ∀ u ∈ pool, 0 < u.cores.toNat) (id : TaskId) :
    r.scheduler.progress.phase? id ≠ some .submitted := by
  intro hs
  obtain ⟨u, unit, _, hu, hz⟩ := h.coreless_of_submitted he hs
  have hp := hc unit (Array.mem_of_getElem? hu)
  rw [hz] at hp
  exact Nat.lt_irrefl 0 hp

end ended

end Dispatch.Run
