import Dispatch.Proofs.Cluster.Provision
import Dispatch.Proofs.Progress.Standstill
import Dispatch.Proofs.Run.Termination
import Dispatch.Proofs.Run.Working

namespace Dispatch

namespace Scheduler

variable {τ : Type} {g : Workflow τ} {c : Scheduler NamedPolicy τ} {time : τ} {event : Event τ}
  {s s' : Scheduler NamedPolicy τ × Array (Action τ)} {n : ℕ}

def Grounded (g : Workflow τ) (c : Scheduler NamedPolicy τ) : Prop :=
  ∀ id p, c.progress.phase? id = some p → p ≠ .blocked → Acc g.Precedes id

lemma Opening.grounded (h : Opening c time event s) (hf : Faithful g c) (hg : Grounded g c) :
    Grounded g s.1 := by
  cases h with
  | quiet => exact hg
  | ignored => exact hg
  | malformed => exact hg
  | start he hw hr =>
    obtain ⟨_, hc, rfl⟩ := Progress.start_eq_ok hr
    obtain ⟨rfl, _⟩ := hf.waiting _ hw
    exact Progress.grounded_begun hc
  | refuse => exact hg
  | finish he hr hp hd => exact Progress.Grounded.finish hg hf.sound (hf.alike hr) hp

lemma Move.grounded (h : Move time s s') (hf : Faithful g s.1) (hg : Grounded g s.1) :
    Grounded g s'.1 := by
  cases h with
  | finish => exact hg
  | fail => exact hg
  | submit he ht hp hn =>
    have hk := Progress.taken_of_next? hn
    have ha := hf.alike (hf.started (hf.sound.phase?_of_taken hk))
    have hr := Progress.Grounded.taken hg hf.sound ha hk
    exact hr

lemma Opening.healthy (h : Opening c time event s) (hf : Faithful g c) (hg : g.Closed)
    (he : c.error? = none) : s.1.error? = none := by
  cases h with
  | @malformed g' e _ hw hs =>
    obtain ⟨rfl, hn⟩ := hf.waiting _ hw
    rw [Progress.start_of_closed hn hg] at hs
    cases hs
  | _ => exact he

lemma Move.healthy (h : Move time s s') (hb : Balanced n s.1) (hn : 0 < n) (he : s.1.error? = none) :
    s'.1.error? = none := by
  cases h with
  | fail _ _ hc =>
    have hz := (NamedPolicy.of_choose_error hb.inTurn hc).1
    have hs : _ = n := hb.size
    omega
  | _ => exact he

end Scheduler

namespace Run

open Scheduler Cluster

structure Outcome {τ : Type} (g : Workflow τ) (pool : Array ComputeUnit) (s : Run NamedPolicy τ) :
    Prop where
  completed : ∀ id, g.contains id = true → g.Clear id →
    s.scheduler.progress.phase? id = some .completed
  blocked : ∀ id, g.contains id = true → ¬ g.Clear id →
    s.scheduler.progress.phase? id = some .blocked
  loads : s.scheduler.loads = Array.replicate pool.size 0
  units : ∀ (u : UnitId) (unit : ComputeUnit), pool[u]? = some unit → ∃ t : Station τ,
    s.cluster.units[u]? = some t ∧ t.unit = unit ∧ t.free = unit.cores ∧ t.queue.toList = []
  error : s.scheduler.error? = none
  finished : s.scheduler.finished = true ↔ g.Acyclic
  whole : g.Acyclic → ∀ id, g.contains id = true → s.scheduler.progress.phase? id = some .completed

variable {τ : Type} [Time τ] {g : Workflow τ} {pool : Array ComputeUnit} {c : Scheduler NamedPolicy τ}
  {e e' : Cluster τ} {time : τ} {event : Event τ} {s s' : Scheduler NamedPolicy τ × Array (Action τ)}
  {r r' : Run NamedPolicy τ} {notices : Array (Notice τ)}

structure UnderWay (g : Workflow τ) (pool : Array ComputeUnit) (c : Scheduler NamedPolicy τ)
    (e : Cluster τ) : Prop where
  joined : Joined g pool c e
  grounded : Grounded g c
  healthy : c.error? = none
  booting : c.workflow? = none ∨ e.Booting
  metered : Metered g.ids e
  tight : e.AllTight

lemma underWay_ofPool (g : Workflow τ) {name : String} {policy : NamedPolicy}
    (h : NamedPolicy.ofName? name pool.size = some policy) :
    UnderWay g pool (ofPool pool g policy).scheduler (ofPool pool g policy).cluster where
  joined := joined_ofPool g h
  grounded id p hp := by simp [ofPool, ofWorkflow] at hp
  healthy := rfl
  booting := Or.inr (booting_ofPool pool)
  metered := (working_ofPool g h).metered
  tight := (working_ofPool g h).tight

omit [Time τ] in
lemma UnderWay.working (h : UnderWay g pool c e) : Working g pool c e := ⟨h.joined, h.metered, h.tight⟩

lemma UnderWay.opening (h : UnderWay g pool c e) (hg : g.Closed) (hd : e.Drawn event e')
    (hc : Opening c time event s) : UnderWay g pool s.1 (e'.handle event).1 where
  joined := h.joined.opening hd hc
  grounded := hc.grounded h.joined.faithful h.grounded
  healthy := hc.healthy h.joined.faithful hg h.healthy
  booting := by
    by_cases he : event = .ready
    · subst he
      exact Or.inl (hc.workflow?_of_ready h.healthy)
    · exact h.booting.imp hc.workflow?_of_none fun hb => hb.handle hd he
  metered := (h.working.opening hd hc).metered
  tight := (h.working.opening hd hc).tight

lemma UnderWay.move {out : Array (Notice τ)} (h : UnderWay g pool s.1 (e.performed out s.2))
    (he : s'.1.error? = none) (hm : Move time s s') : UnderWay g pool s'.1 (e.performed out s'.2) where
  joined := h.joined.move hm
  grounded := hm.grounded h.joined.faithful h.grounded
  healthy := he
  booting := by
    refine h.booting.imp (fun hw => ?_) fun hb => ?_
    · cases hm <;> exact hw
    · cases hm <;> simp [hb, hb.submit]
  metered := (h.working.move hm).metered
  tight := (h.working.move hm).tight

lemma UnderWay.step (h : UnderWay g pool r.scheduler r.cluster) (hg : g.Closed) (hp : 0 < pool.size)
    (hs : r.step? = some (r', notices)) : UnderWay g pool r'.scheduler r'.cluster :=
  step_induction (P := UnderWay g pool) hs (fun _ _ _ hd hc => h.opening hg hd hc)
    fun _ _ _ _ _ hm hj => hj.move (hm.healthy hj.joined.balanced hp hj.healthy) hm

omit [Time τ] in
lemma UnderWay.started (h : UnderWay g pool r.scheduler r.cluster) (he : r.cluster.events = 0) :
    r.scheduler.progress.started = true := by
  refine h.joined.faithful.begun ?_ h.healthy
  apply h.booting.resolve_right
  intro hb
  have hd : r.cluster.duties = 0 := by rw [duties, he, Multiset.filter_zero]
  rcases hb with hr | ⟨hr, _⟩
  · rw [hd] at hr
    exact Multiset.notMem_zero _ hr
  · rw [hd] at hr
    exact Nat.lt_irrefl 0 hr

omit [Time τ] in
lemma UnderWay.outcome (h : UnderWay g pool r.scheduler r.cluster) (hs : AtRest r.scheduler)
    (hc : ∀ u ∈ pool, 0 < u.cores.toNat) (he : r.cluster.events = 0) : Outcome g pool r := by
  have hf := h.joined.faithful
  have hb := h.joined.balanced
  have hst := h.started he
  have ha := hf.alike hst
  have hn := h.working.phase?_ne_submitted he hc
  have ht : r.scheduler.progress.AtStandstill := by
    refine ⟨fun id => ?_, hn⟩
    rw [ne_eq, ← hf.sound.mem_ready, hs.ready h.healthy]
    exact List.not_mem_nil
  have hd (id : TaskId) :
      r.scheduler.progress.phase? id = some .completed ↔ g.contains id = true ∧ g.Clear id :=
    hf.sound.completed_iff ha ht h.grounded
  refine ⟨fun id hi hx => (hd id).mpr ⟨hi, hx⟩,
    fun id hi hx => (hf.sound.blocked_iff ha ht h.grounded).mpr ⟨hi, hx⟩, hb.loads_eq_replicate hn,
    fun u unit hu => h.working.station he hu (hc unit (Array.mem_of_getElem? hu)), h.healthy, ?_,
    fun hx id hi => (hd id).mpr ⟨hi, fun a _ => hx a⟩⟩
  rw [hs.finished]
  exact hf.sound.isFinished_iff_acyclic ha ht h.grounded hst

lemma UnderWay.atRest_step (h : UnderWay g pool r.scheduler r.cluster) (hs : AtRest r.scheduler)
    (hr : r.step? = some (r', notices)) : AtRest r'.scheduler := by
  obtain ⟨event, e, out, _, hc, _⟩ := of_step? hr
  rw [hc]
  exact atRest_handle h.joined.faithful hs

/-- A run comes to an end, whatever the workflow, and there is one way in which it ends. -/
theorem run_outcome (g : Workflow τ) (hg : g.Closed) (pool : Array ComputeUnit) (hp : 0 < pool.size)
    (hc : ∀ u ∈ pool, 0 < u.cores) (name : String) (policy : NamedPolicy)
    (hn : NamedPolicy.ofName? name pool.size = some policy) :
    let s := ofPool pool g policy
    s.toEnd.1.step? = none ∧ Outcome g pool s.toEnd.1 ∧
      ∀ n out, (s.advance n out).2.1.step? = none → Outcome g pool (s.advance n out).2.1 := by
  have initial := And.intro (underWay_ofPool g hn) (atRest_ofWorkflow g policy)
  have step (s s' : Run NamedPolicy τ) (notices : Array (Notice τ)) (hs : s.step? = some (s', notices))
      (h : UnderWay g pool s.scheduler s.cluster ∧ AtRest s.scheduler) :
      UnderWay g pool s'.scheduler s'.cluster ∧ AtRest s'.scheduler :=
    ⟨h.1.step hg hp hs, h.1.atRest_step h.2 hs⟩
  have outcome (s : Run NamedPolicy τ) (h : UnderWay g pool s.scheduler s.cluster ∧ AtRest s.scheduler)
      (hs : s.step? = none) : Outcome g pool s :=
    h.1.outcome h.2 (fun u hu => UInt32.lt_iff_toNat_lt.mp (hc u hu)) (step?_eq_none_iff.mp hs)
  have ends := toEnd_ends (ofPool pool g policy)
  refine ⟨ends, outcome _ (runUntil_induction step _ _ _ initial) ends, fun n out hs => ?_⟩
  exact outcome _ (advance_induction step n out initial) hs

theorem run_outcome_knot :
    let pool : Array ComputeUnit := #[⟨0, "", 1, 1, 1⟩]
    let s := (ofPool pool Workflow.knot (.leastLoaded ⟨.ofSize 1⟩ : NamedPolicy)).toEnd.1
    Outcome Workflow.knot pool s ∧ s.scheduler.progress.phase? 1 = some .completed ∧
      ¬ Workflow.knot.Clear 2 := by
  have hg : Workflow.knot.Closed := Workflow.knot.danglingLink?_eq_none_iff.mp (by decide +kernel)
  obtain ⟨_, h, _⟩ := run_outcome Workflow.knot hg #[⟨0, "", 1, 1, 1⟩] (by decide) (by decide)
    "LeastLoaded" (.leastLoaded ⟨.ofSize 1⟩) rfl
  have hb : (ofPool #[⟨0, "", 1, 1, 1⟩] Workflow.knot
      (.leastLoaded ⟨.ofSize 1⟩ : NamedPolicy)).toEnd.1.scheduler.progress.phase? 2 = some .blocked := by
    decide +kernel
  refine ⟨h, by decide +kernel, fun hc => ?_⟩
  have hd := h.completed 2 (by decide +kernel) hc
  rw [hb] at hd
  cases hd

end Run

end Dispatch
