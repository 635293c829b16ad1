import Dispatch.Proofs.Run.Outcome
import Dispatch.Proofs.Scheduler.Linkless
import Dispatch.Trace.Reading

namespace Dispatch

namespace Trace

lemma linkless_toWorkflow {τ : Type} (tasks : Array (Task τ)) : (toWorkflow tasks).Linkless := by
  have hl (l : List (Task τ)) (g : Workflow τ) : (l.foldl Workflow.insertTask g).links = g.links := by
    induction l generalizing g with
    | nil => rfl
    | cons t l ih => exact ih (g.insertTask t)
  intro p
  rw [Workflow.children, toWorkflow, ← Array.foldl_toList, hl]
  simp [Workflow.empty]

end Trace

namespace Run

open Scheduler

variable {τ : Type} [Time τ] {g : Workflow τ} {pool : Array ComputeUnit} {s s' : Run NamedPolicy τ} {n : ℕ}
  {out : Array (Notice τ)}

structure Paired (g : Workflow τ) (n : ℕ) (s s' : Run NamedPolicy τ) : Prop where
  cluster : s'.cluster = s.cluster
  scheduler : s.scheduler.Paired g n s'.scheduler

lemma Paired.step? (h : Paired g n s s') (hg : g.Linkless) :
    Option.Rel (fun x x' => Paired g n x.1 x'.1 ∧ x'.2 = x.2) s.step? s'.step? := by
  rw [Run.step?, Run.step?, h.cluster]
  cases s.cluster.next? with
  | none => exact .none
  | some x =>
    obtain ⟨event, e⟩ := x
    obtain ⟨ha, hs⟩ := h.scheduler.handle hg e.clock event
    refine .some ⟨⟨?_, hs⟩, ?_⟩
    · simp only [ha]
    · simp only [ha]

lemma Paired.advance (h : Paired g n s s') (hg : g.Linkless) (m : ℕ) (out : Array (Notice τ)) :
    (s'.advance m out).1 = (s.advance m out).1 ∧ (s'.advance m out).2.2 = (s.advance m out).2.2 ∧
      Paired g n (s.advance m out).2.1 (s'.advance m out).2.1 := by
  induction m generalizing s s' out with
  | zero => exact ⟨rfl, rfl, h⟩
  | succ m ih =>
    have hs := h.step? hg
    rw [Run.advance, Run.advance]
    generalize s.step? = x, s'.step? = x' at hs
    cases hs with
    | none => exact ⟨rfl, rfl, h⟩
    | @some x x' hx =>
      obtain ⟨hp, hn⟩ := hx
      simp only [hn]
      exact ih hp _

lemma paired_ofPool (g : Workflow τ) (pool : Array ComputeUnit) :
    Paired g pool.size (ofPool pool g (.leastLoaded ⟨.ofSize pool.size⟩ : NamedPolicy))
      (ofPool pool g (.roundRobin ⟨.ofSize pool.size, 0⟩ : NamedPolicy)) :=
  ⟨rfl, .inl ⟨rfl, rfl⟩⟩

structure Alike (s s' : Run NamedPolicy τ) : Prop where
  cluster : s'.cluster = s.cluster
  workflow : s'.scheduler.workflow? = s.scheduler.workflow?
  progress : s'.scheduler.progress = s.scheduler.progress
  finished : s'.scheduler.finished = s.scheduler.finished
  error : s'.scheduler.error? = s.scheduler.error?
  loads : s'.scheduler.loads = s.scheduler.loads
  summary : s'.summary = s.summary

omit [Time τ] in
lemma Paired.placed (h : Paired g n s s') (hn : 0 < n) {k : ℕ} {id : TaskId} (hk : g.atOnce[k]? = some id) :
    s.scheduler.unitFor? id = if s.scheduler.progress.started then some (k % n) else none := by
  rcases h.scheduler with ⟨hs, _⟩ | hs
  · rw [hs]
    simp [ofWorkflow, unitFor?, Progress.task?, Workflow.task?, Progress.empty, Workflow.empty]
  · have hu := hs.placed hn k id hk
    have hb : s.scheduler.progress.started = true := by
      by_contra hb
      rw [unitFor?, hs.faithful.unstarted (Bool.eq_false_iff.mpr hb)] at hu
      simp [Progress.task?, Workflow.task?, Progress.empty, Workflow.empty] at hu
    rw [hu, hb, if_pos rfl]

lemma Paired.alike (h : Paired g n s s') : Alike s s' := by
  have hc := h.cluster
  rcases h.scheduler with ⟨hs, hs'⟩ | hs
  · refine ⟨hc, ?_, ?_, ?_, ?_, ?_, congrArg Cluster.summary hc⟩
    all_goals rw [hs, hs']; rfl
  · obtain ⟨q, hq, he⟩ := hs.mirrors
    have hs' : s'.scheduler = s.scheduler.withPolicy q := congrArg Prod.fst he
    refine ⟨hc, ?_, ?_, ?_, ?_, ?_, congrArg Cluster.summary hc⟩
    all_goals rw [hs']
    any_goals rfl
    rw [Scheduler.loads, Scheduler.loads, NamedPolicy.policy_loads, NamedPolicy.policy_loads]
    exact congrArg Loads.counts hq

/-- Tasks are dealt out to `n` units in turn by the one policy whatever is released meanwhile, by the other one
as long as nothing is released. So both do the same with a workflow without links, such as that of a trace. -/
theorem policies_coincide :
    (∀ n : ℕ, 0 < n →
      (∀ requests : List (Policy.Request τ), Policy.answers (.roundRobin ⟨.ofSize n, 0⟩ : NamedPolicy) requests =
        (List.range (requests.countP Policy.Request.isChoose)).map fun k => .ok (k % n)) ∧
      ∀ tasks : List (Task τ), Policy.answers (.leastLoaded ⟨.ofSize n⟩ : NamedPolicy) (tasks.map .choose) =
        (List.range tasks.length).map fun k => .ok (k % n)) ∧
    (∀ tasks : Array (Task τ), (Trace.toWorkflow tasks).Linkless) ∧
    ∀ g : Workflow τ, g.Linkless → g.atOnce.Perm g.ids ∧
      ∀ (pool : Array ComputeUnit) (m : ℕ),
        let run := (ofPool pool g (.leastLoaded ⟨.ofSize pool.size⟩ : NamedPolicy)).advance m #[]
        let run' := (ofPool pool g (.roundRobin ⟨.ofSize pool.size, 0⟩ : NamedPolicy)).advance m #[]
        run'.1 = run.1 ∧ run'.2.2 = run.2.2 ∧ Alike run.2.1 run'.2.1 ∧
          (0 < pool.size → (∀ k id, g.atOnce[k]? = some id → run.2.1.scheduler.unitFor? id =
              if run.2.1.scheduler.progress.started then some (k % pool.size) else none) ∧
            (run.2.1.step? = none → run.2.1.scheduler.progress.started = true)) := by
  refine ⟨fun n hn => ⟨fun requests => ?_, fun tasks => ?_⟩, Trace.linkless_toWorkflow, fun g hg =>
    ⟨hg.atOnce_perm, fun pool m => ?_⟩⟩
  · rw [List.range_eq_range']
    exact NamedPolicy.answers_roundRobin hn (Loads.size_ofSize n) (Nat.zero_mod n).symm requests
  · rw [List.range_eq_range', ← Loads.dealt_zero]
    exact NamedPolicy.answers_leastLoaded hn tasks
  · intro run run'
    obtain ⟨hb, hn, hp⟩ := (paired_ofPool g pool).advance hg m #[]
    refine ⟨hb, hn, hp.alike, fun hs => ⟨fun k id => hp.placed hs, fun he => ?_⟩⟩
    have hu : NamedPolicy.ofName? "LeastLoaded" pool.size = some (.leastLoaded ⟨.ofSize pool.size⟩) := rfl
    have h := advance_induction (P := fun s => UnderWay g pool s.scheduler s.cluster)
      (fun s s' notices hx h => h.step hg.closed hs hx) m #[] (underWay_ofPool g hu)
    exact h.started (step?_eq_none_iff.mp he)

theorem policies_coincide_three :
    let task (id : TaskId) : Task Rat := .ofCost id "" 0 (.sequential 1 1 1)
    let g := Trace.toWorkflow #[task 0, task 1, task 2]
    let pool : Array ComputeUnit := #[⟨0, "", 1, 1, 1⟩, ⟨1, "", 2, 1, 1⟩]
    let run := (ofPool pool g (.leastLoaded ⟨.ofSize pool.size⟩ : NamedPolicy)).advance 5 #[]
    let run' := (ofPool pool g (.roundRobin ⟨.ofSize pool.size, 0⟩ : NamedPolicy)).advance 5 #[]
    g.Linkless ∧ run'.2.2 = run.2.2 ∧ run.2.1.scheduler.unitFor? 2 = some 0 ∧ run'.2.1.summary = run.2.1.summary := by
  intro task g pool run run'
  obtain ⟨_, hl, hp⟩ := policies_coincide (τ := Rat)
  have hg : g.Linkless := hl _
  obtain ⟨_, hn, ha, hu⟩ := (hp g hg).2 pool 5
  have hk : g.atOnce[2]? = some 2 := by decide +kernel
  have hs : run.2.1.scheduler.progress.started = true := by decide +kernel
  have hi : run.2.1.scheduler.unitFor? 2 = if run.2.1.scheduler.progress.started then some (2 % pool.size) else none :=
    (hu (by decide)).1 2 2 hk
  have hz : pool.size = 2 := rfl
  rw [if_pos hs, hz] at hi
  exact ⟨hg, hn, hi, ha.summary⟩

end Run

end Dispatch
