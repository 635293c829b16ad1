import Dispatch.Proofs.Run.Outcome
import Dispatch.Proofs.Scheduler.Halting
import Dispatch.Scenario.Basic

/-! Where a run ends without a word: a task that was placed on a unit without cores waits there for ever. -/

namespace Dispatch

namespace Cluster

variable {τ : Type} {e e' : Cluster τ} {pool : Array ComputeUnit} {id : TaskId} {p : Place τ} {r : Record τ}

def Equipped (pool : Array ComputeUnit) (e : Cluster τ) : Prop :=
  ∀ id r, e.record? id = some r → r.finished.isSome = true → ∃ unit, pool[r.unit]? = some unit ∧ unit.cores ≠ 0

lemma Equipped.of_eq (h : e.Equipped pool) (hr : e'.records = e.records) : e'.Equipped pool := by
  intro id r hi hf
  rw [record?, hr] at hi
  exact h id r hi hf

lemma At.eq_finished (h : e.At id p) (hr : e.record? id = some r) (hf : r.finished.isSome = true) :
    p = .finished r.unit := by
  have hx := h.record
  rw [hr] at hx
  cases p with
  | absent | travelling => cases hx
  | queued | running =>
    obtain ⟨r', hr', hx⟩ := hx
    cases hr'
    simp [hx] at hf
  | finished u =>
    obtain ⟨r', hr', rfl, _⟩ := hx
    cases hr'
    rfl

end Cluster

namespace Run

open Scheduler Cluster

variable {τ : Type} [Time τ] {g : Workflow τ} {pool : Array ComputeUnit} {c : Scheduler NamedPolicy τ}
  {e e' : Cluster τ} {time : τ} {event : Event τ} {s s' : Scheduler NamedPolicy τ × Array (Action τ)}
  {r r' : Run NamedPolicy τ} {notices : Array (Notice τ)} {id : TaskId} {u : UnitId}

omit [Time τ] in
lemma Working.cores_of_running (h : Working g pool c e) (hc : e.Charged) (hr : e.At id (.running u)) :
    ∃ unit, pool[u]? = some unit ∧ unit.cores ≠ 0 := by
  obtain ⟨p, hp, hx⟩ := h.joined.agrees id
  obtain rfl := hp.unique hr
  obtain ⟨v, hv, hu⟩ := h.joined.balanced.placed id hx.1
  cases hx.2.symm.trans hu
  refine ⟨pool[u], Array.getElem?_eq_getElem hv, fun hz => ?_⟩
  obtain ⟨s, hs, hunit⟩ := Option.map_eq_some_iff.mp
    ((h.joined.houses u).trans (Array.getElem?_eq_getElem hv))
  have hm := h.metered u s hs
  have hl := le_total (e.held u) (h.joined.faithful.mem_ids hx.1)
  have hp := hc.held_pos hr
  rw [hunit, hz, UInt32.toNat_zero] at hm
  omega

lemma Working.equipped_handle (h : Working g pool c e) (hc : e.Charged) (hq : e.Equipped pool)
    (hd : e.Drawn event e') : (e'.handle event).1.Equipped pool := by
  intro id r hr hf
  obtain ⟨p, hp, _⟩ := h.joined.agrees id
  have hu (d : Job τ) (u : UnitId) (he : event = .arrived d u) : u < e.units.size :=
    h.joined.unit_lt (he ▸ hd.mem)
  obtain ⟨q, hq', hx⟩ := hp.handle (Q := fun q => ∀ u, q = .finished u → p = .running u ∨ p = .finished u)
    (fun _ _ _ _ h => (by cases h)) hd hu (fun _ _ => .inr) (fun _ _ _ _ _ h => (by cases h))
    fun u _ hp v hv => .inl (by cases hv; exact hp)
  rcases hx r.unit (hq'.eq_finished hr hf) with rfl | rfl
  · exact h.cores_of_running hc hp
  · obtain ⟨r', hr', hu', hf'⟩ := hp.record
    exact hu' ▸ hq id r' hr' hf'

structure Refused (g : Workflow τ) (pool : Array ComputeUnit) (c : Scheduler NamedPolicy τ) (e : Cluster τ) :
    Prop where
  working : Working g pool c e
  size : pool.size = 0
  ids : g.ids ≠ []
  error : c.error? = some (.policy .noUnits)

lemma Refused.opening (h : Refused g pool c e) (hd : e.Drawn event e') (hc : Opening c time event s) :
    Refused g pool s.1 (e'.handle event).1 where
  working := h.working.opening hd hc
  size := h.size
  ids := h.ids
  error := by
    have he := h.error
    cases hc with
    | quiet | ignored => exact he
    | start hn | malformed hn | finish hn | refuse hn => cases hn.symm.trans he

lemma Refused.move {out : Array (Notice τ)} (h : Refused g pool s.1 (e.performed out s.2)) (hm : Move time s s') :
    Refused g pool s'.1 (e.performed out s'.2) where
  working := h.working.move hm
  size := h.size
  ids := h.ids
  error := by
    have he := h.error
    cases hm with
    | finish => exact he
    | submit hn | fail hn => cases hn.symm.trans he

lemma UnderWay.move_or_refused {out : Array (Notice τ)} (h : UnderWay g pool s.1 (e.performed out s.2))
    (hm : Move time s s') :
    UnderWay g pool s'.1 (e.performed out s'.2) ∨ Refused g pool s'.1 (e.performed out s'.2) := by
  have hj := h.joined
  have hw := h.working.move hm
  have hnext := hm
  cases hm with
  | submit | finish => exact .inl (h.move h.healthy hnext)
  | @fail c acts t fault policy he ht hc =>
    have hz := (NamedPolicy.of_choose_error hj.balanced.inTurn hc).1
    have hk := hj.faithful.mem_ids (hj.faithful.sound.of_peek? ht).2.1
    refine .inr ⟨hw, hj.balanced.size.symm.trans hz, List.ne_nil_of_mem hk, ?_⟩
    cases fault
    rfl

structure Attended (g : Workflow τ) (pool : Array ComputeUnit) (r : Run NamedPolicy τ) : Prop where
  state : UnderWay g pool r.scheduler r.cluster ∨ Refused g pool r.scheduler r.cluster
  atRest : AtRest r.scheduler
  charged : r.cluster.Charged
  equipped : r.cluster.Equipped pool

omit [Time τ] in
lemma Attended.working (h : Attended g pool r) : Working g pool r.scheduler r.cluster :=
  h.state.elim UnderWay.working Refused.working

lemma attended_ofPool (g : Workflow τ) {name : String} {policy : NamedPolicy}
    (h : NamedPolicy.ofName? name pool.size = some policy) : Attended g pool (ofPool pool g policy) where
  state := .inl (underWay_ofPool g h)
  atRest := atRest_ofWorkflow g policy
  charged := charged_ofPool pool g policy
  equipped id r hr := by cases hr.symm.trans (At.ofPool pool id).startUnits.record

lemma Attended.step (h : Attended g pool r) (hg : g.Closed) (hs : r.step? = some (r', notices)) :
    Attended g pool r' := by
  have hw := h.working
  obtain ⟨event, e, out, hd, hsch, hcl⟩ := of_step? hs
  refine ⟨?_, ?_, ?_, ?_⟩
  · refine step_induction (P := fun c e => UnderWay g pool c e ∨ Refused g pool c e) hs ?_ ?_
    · intro event e c hd hc
      exact h.state.imp (fun hu => hu.opening hg hd hc) fun hr => hr.opening hd hc
    · intro time e out c c' hm h
      exact h.elim (fun hu => hu.move_or_refused hm) fun hr => .inr (hr.move hm)
  · rw [hsch]
    exact atRest_handle hw.joined.faithful h.atRest
  · exact charged_step h.charged hs
  · refine (hw.equipped_handle h.charged h.equipped hd).of_eq ?_
    rw [hcl]
    exact records_performed _ _ _ _

section ended

omit [Time τ]

variable (h : Attended g pool r) (he : r.cluster.events = 0)

include h

lemma Attended.cores_of_completed (hc : r.scheduler.progress.phase? id = some .completed) :
    ∃ u unit, r.scheduler.unitFor? id = some u ∧ pool[u]? = some unit ∧ unit.cores ≠ 0 := by
  rcases h.working.joined.finished_cases id with ⟨record, hr, hf, -, hu⟩ | ⟨-, hn⟩
  · obtain ⟨unit, hp⟩ := h.equipped id record hr hf
    exact ⟨record.unit, unit, hu, hp⟩
  · exact (hn hc).elim

include he

lemma Attended.finished_iff (ha : g.Acyclic) (hn : r.scheduler.error? = none) :
    r.scheduler.finished = true ↔ ∀ id, r.scheduler.progress.phase? id ≠ some .submitted := by
  have hu : UnderWay g pool r.scheduler r.cluster := h.state.resolve_right fun hr => by
    cases hn.symm.trans hr.error
  have hf := hu.joined.faithful
  have hst := hu.started he
  rw [h.atRest.finished]
  refine ⟨fun hd id hs => ?_, fun hs => ?_⟩
  · cases hf.sound.phase?_of_isFinished hd hs
  · refine (hf.sound.isFinished_iff_acyclic (hf.alike hst) ⟨fun id => ?_, hs⟩ hu.grounded hst).mpr ha
    rw [ne_eq, ← hf.sound.mem_ready, h.atRest.ready hn]
    exact List.not_mem_nil

lemma Attended.error?_eq (ha : g.Acyclic) :
    r.scheduler.error? = if pool = #[] ∧ g.ids ≠ [] then some (.policy .noUnits) else none := by
  rcases h.state with hu | hr
  · rw [hu.healthy, if_neg]
    rintro ⟨rfl, hne⟩
    -- no unit could have completed a task
    obtain ⟨id, hi⟩ := List.exists_mem_of_ne_nil _ hne
    have hf := hu.joined.faithful
    have hd := (h.finished_iff he ha hu.healthy).mpr fun id hs => by
      obtain ⟨u, hlt, _⟩ := hu.joined.balanced.placed id hs
      exact Nat.not_lt_zero u hlt
    rw [h.atRest.finished] at hd
    have hc := (hf.sound.isFinished_iff.mp hd).2 id
    rw [(hf.alike (hu.started he)).contains] at hc
    obtain ⟨u, unit, _, hp, _⟩ := h.cores_of_completed (hc (g.mem_ids.mp hi))
    cases hp
  · rw [hr.error, if_pos ⟨Array.eq_empty_of_size_eq_zero hr.size, hr.ids⟩]

end ended

/-- A run of a workflow without cycles ends. It is silent then, neither finished nor in error, just when tasks are left
submitted, and these are the ones that were placed on units without cores; no other capacity makes a run silent. -/
theorem silent_without_cores (g : Workflow τ) (hg : g.Closed) (ha : g.Acyclic) (c : Scenario)
    (hn : c.policy = "LeastLoaded" ∨ c.policy = "RoundRobin") :
    ∃ s : Run NamedPolicy τ, c.start g = .ok s ∧
      let e := s.toEnd.1
      let p := e.scheduler.progress
      e.step? = none ∧
      (e.scheduler.error? = if c.pool = #[] ∧ g.ids ≠ [] then some (.policy .noUnits) else none) ∧
      (e.scheduler.finished = false ∧ e.scheduler.error? = none ↔ ∃ id, p.phase? id = some .submitted) ∧
      (∀ id, p.phase? id = some .submitted →
        ∃ u unit, e.scheduler.unitFor? id = some u ∧ c.pool[u]? = some unit ∧ unit.cores = 0) ∧
      (∀ id, p.phase? id = some .completed →
        ∃ u unit, e.scheduler.unitFor? id = some u ∧ c.pool[u]? = some unit ∧ unit.cores ≠ 0) ∧
      ((∀ unit ∈ c.pool, unit.cores ≠ 0) → e.scheduler.finished = true ∨ e.scheduler.error?.isSome = true) := by
  obtain ⟨policy, hp⟩ : ∃ policy, NamedPolicy.ofName? c.policy c.pool.size = some policy := by
    rcases hn with hn | hn <;> rw [hn]
    · exact ⟨_, rfl⟩
    · exact ⟨_, rfl⟩
  refine ⟨ofPool c.pool g policy, by rw [Scenario.start, hp], ?_⟩
  intro e p
  have ends : e.step? = none := toEnd_ends _
  have h : Attended g c.pool e :=
    runUntil_induction (P := Attended g c.pool) (fun _ _ _ hs h => h.step hg hs) _ _ _ (attended_ofPool g hp)
  have he := step?_eq_none_iff.mp ends
  have hleft (id : TaskId) (hs : p.phase? id = some .submitted) := h.working.coreless_of_submitted he hs
  have hsilent : e.scheduler.finished = false ∧ e.scheduler.error? = none ↔
      ∃ id, p.phase? id = some .submitted := by
    constructor
    · rintro ⟨hf, hz⟩
      by_contra hs
      rw [(h.finished_iff he ha hz).mpr (not_exists.mp hs)] at hf
      cases hf
    · rintro ⟨id, hs⟩
      have hz : e.scheduler.error? = none := by
        rw [h.error?_eq he ha, if_neg]
        rintro ⟨hz, -⟩
        obtain ⟨u, unit, _, hu, _⟩ := hleft id hs
        rw [hz] at hu
        cases hu
      refine ⟨?_, hz⟩
      rw [Bool.eq_false_iff, ne_eq, h.finished_iff he ha hz]
      exact fun hn => hn id hs
  refine ⟨ends, h.error?_eq he ha, hsilent, hleft, fun id => h.cores_of_completed, fun hc => ?_⟩
  by_contra hs
  rw [not_or, Bool.not_eq_true, Bool.not_eq_true, Option.isSome_eq_false_iff, Option.isNone_iff_eq_none, hsilent]
    at hs
  obtain ⟨id, hs⟩ := hs
  obtain ⟨u, unit, _, hu, hz⟩ := hleft id hs
  exact hc unit (Array.mem_of_getElem? hu) hz

theorem silent_without_cores_beside :
    let task (id : TaskId) : Task Binary64 := .ofCost id "" 0 (.sequential 10 128 1000)
    let g := (Workflow.empty.insertTask (task 0)).insertTask (task 1)
    let c : Scenario := { units := [{ name := "a", speed := 0, cores := 0 }, { name := "b", speed := 0 }] }
    g.Closed ∧ g.Acyclic ∧ ∃ s : Run NamedPolicy Binary64, c.start g = .ok s ∧
      s.toEnd.1.scheduler.finished = false ∧ s.toEnd.1.scheduler.error? = none ∧
      s.toEnd.1.scheduler.progress.phase? 0 = some .submitted ∧
      s.toEnd.1.scheduler.progress.phase? 1 = some .completed := by
  intro task g c
  have hg : g.Closed := g.danglingLink?_eq_none_iff.mp (by decide +kernel)
  have ha : g.Acyclic := Workflow.acyclic_of_increasing (by decide +kernel)
  obtain ⟨s, hs, -, -, hsilent, -⟩ := silent_without_cores g hg ha c (.inl rfl)
  obtain rfl : ofPool c.pool g (.leastLoaded ⟨.ofSize 2⟩) = s := Except.ok.inj hs
  have h₀ : (ofPool c.pool g (.leastLoaded ⟨.ofSize 2⟩ : NamedPolicy)).toEnd.1.scheduler.progress.phase? 0 =
      some .submitted := by
    decide +kernel
  obtain ⟨hf, he⟩ := hsilent.mpr ⟨0, h₀⟩
  exact ⟨hg, ha, _, hs, hf, he, h₀, by decide +kernel⟩

theorem silent_on_coreless_unit :
    let g : Workflow Binary64 := Workflow.empty.insertTask (.ofCost 0 "" 0 (.sequential 10 128 1000))
    let c : Scenario := { units := [{ name := "vm", speed := 1000, cores := 0 }] }
    g.Closed ∧ g.Acyclic ∧ c.policy = "LeastLoaded" ∧ ∃ s : Run NamedPolicy Binary64, c.start g = .ok s ∧
      s.toEnd.1.step? = none ∧
      ¬ (s.toEnd.1.scheduler.finished = true ∨ s.toEnd.1.scheduler.error?.isSome = true) := by
  intro g c
  exact ⟨g.danglingLink?_eq_none_iff.mp (by decide +kernel), Workflow.acyclic_of_increasing (by decide +kernel), rfl,
    ofPool c.pool g (.leastLoaded ⟨.ofSize 1⟩), rfl, toEnd_ends _, by decide +kernel⟩

end Run

end Dispatch
