import Dispatch.Proofs.Cluster.Effects
import Dispatch.Proofs.Renaming.Summary

/-! Identifiers of tasks are only names: a run of a workflow whose tasks go by other identifiers goes in
lockstep with the run of that workflow. -/

namespace Dispatch

namespace Cluster

variable {τ : Type} [Time τ] {ρ : TaskId → TaskId} {e e' : Cluster τ} {out out' : Array (Notice τ)}

omit [Time τ] in
lemma Renamed.queueAt (h : Renamed ρ e e') (u : UnitId) :
    e'.queueAt u = (e.queueAt u).map (Job.rename ρ) := by
  rw [Cluster.queueAt, h.unit, Cluster.queueAt]
  cases e.units[u]? with
  | none => rfl
  | some s => exact Queue.toList_map ..

lemma renamed_ofPool (ρ : TaskId → TaskId) (pool : Array ComputeUnit) :
    Renamed ρ (ofPool pool : Cluster τ) (ofPool pool) where
  clock := rfl
  calendar := rfl
  created := rfl
  units := by
    rw [ofPool, Array.map_map]
    rfl
  readyUnits := rfl
  records := ⟨fun id => by simp [ofPool], fun k r hr => by simp [ofPool] at hr⟩

structure Notes (ρ : TaskId → TaskId) (s s' : Cluster τ × Array (Notice τ)) : Prop where
  cluster : Renamed ρ s.1 s'.1
  notices : s'.2 = s.2.map (Notice.rename ρ)

omit [Time τ] in
lemma Echoes.notes {s s' : Cluster τ × Array (ClusterReport τ)} (h : Echoes ρ s s')
    (ho : out' = out.map (Notice.rename ρ)) :
    Notes ρ (s.1, out ++ s.1.notices s.2) (s'.1, out' ++ s'.1.notices s'.2) := by
  refine ⟨h.cluster, ?_⟩
  rw [ho, Array.map_append, Cluster.notices, Cluster.notices, h.reports, h.cluster.clock, Array.map_map,
    Array.map_map]
  rfl

lemma Notes.perform (hρ : Function.Injective ρ) (h : Notes ρ (e, out) (e', out')) (act : Action τ) :
    Notes ρ (perform (e, out) act) (perform (e', out') (act.rename ρ)) := by
  have he : Renamed ρ e e' := h.cluster
  have ho : out' = out.map (Notice.rename ρ) := h.notices
  cases act with
  | forward event => exact (he.handle hρ event).notes ho
  | submit d u => exact (he.submit d u).notes ho
  | note n => exact ⟨he, by rw [ho]; exact Array.map_push.symm⟩

lemma Notes.foldl (hρ : Function.Injective ρ) (h : Notes ρ (e, out) (e', out')) (acts : Array (Action τ)) :
    Notes ρ (acts.foldl Cluster.perform (e, out))
      ((acts.map (Action.rename ρ)).foldl Cluster.perform (e', out')) := by
  rw [← Array.foldl_toList, ← Array.foldl_toList, Array.toList_map]
  induction acts.toList generalizing e e' out out' with
  | nil => exact h
  | cons act acts ih => exact ih (h.perform hρ act)

end Cluster

namespace Run

variable {τ : Type} [Time τ] {ρ : TaskId → TaskId} {s s' : Run NamedPolicy τ}
  {g g' : Workflow τ} {out out' : Array (Notice τ)}

structure Renamed (ρ : TaskId → TaskId) (s s' : Run NamedPolicy τ) : Prop where
  cluster : s.cluster.Renamed ρ s'.cluster
  scheduler : s.scheduler.Renamed ρ s'.scheduler

lemma renamed_ofPool (hg : g.Renamed ρ g') (pool : Array ComputeUnit) (policy : NamedPolicy) :
    Renamed ρ (ofPool pool g policy) (ofPool pool g' policy) :=
  ⟨(Cluster.renamed_ofPool ρ pool).startUnits, Scheduler.renamed_ofWorkflow hg policy⟩

lemma Renamed.step? (h : Renamed ρ s s') (hρ : Function.Injective ρ) :
    Option.Rel (fun x x' => Renamed ρ x.1 x'.1 ∧ x'.2 = x.2.map (Notice.rename ρ)) s.step? s'.step? := by
  have hn := h.cluster.next?
  rw [Run.step?, Run.step?]
  generalize s.cluster.next? = x, s'.cluster.next? = x' at hn
  cases hn with
  | none => exact .none
  | @some x x' hx =>
    obtain ⟨event, e⟩ := x
    obtain ⟨event', e'⟩ := x'
    obtain ⟨rfl, he⟩ : event' = event.rename ρ ∧ e.Renamed ρ e' := hx
    have ha : Scheduler.Echoes ρ (s.scheduler.handle e.clock event)
        (s'.scheduler.handle e'.clock (event.rename ρ)) := by
      rw [he.clock]
      exact .handle hρ h.scheduler event
    have hi : Cluster.Notes ρ (e, #[.cluster e.clock (.delivered event)])
        (e', #[.cluster e'.clock (.delivered (event.rename ρ))]) := by
      refine ⟨he, ?_⟩
      rw [Array.map_singleton, he.clock]
      rfl
    have hf := hi.foldl hρ (s.scheduler.handle e.clock event).2
    rw [← ha.answer] at hf
    exact .some ⟨⟨hf.cluster, ha.scheduler⟩, hf.notices⟩

lemma Renamed.advance (h : Renamed ρ s s') (hρ : Function.Injective ρ) (n : ℕ)
    (ho : out' = out.map (Notice.rename ρ)) :
    (s'.advance n out').1 = (s.advance n out).1 ∧
      Renamed ρ (s.advance n out).2.1 (s'.advance n out').2.1 ∧
      (s'.advance n out').2.2 = (s.advance n out).2.2.map (Notice.rename ρ) := by
  induction n generalizing s s' out out' with
  | zero => exact ⟨rfl, h, ho⟩
  | succ n ih =>
    have hs := h.step? hρ
    rw [Run.advance, Run.advance]
    generalize s.step? = x, s'.step? = x' at hs
    cases hs with
    | none => exact ⟨rfl, h, ho⟩
    | @some x x' hx =>
      obtain ⟨hr, hn⟩ := hx
      apply ih hr
      rw [ho, hn, Array.map_append]

structure Lockstep (ρ : TaskId → TaskId) (s s' : Run NamedPolicy τ) : Prop where
  time : s'.time = s.time
  created : s'.created = s.created
  nextTime : s'.cluster.nextTime? = s.cluster.nextTime?
  loads : s'.scheduler.loads = s.scheduler.loads
  finished : s'.scheduler.finished = s.scheduler.finished
  error : s'.scheduler.error? = s.scheduler.error?.map (Fault.rename ρ)
  queue : ∀ u, s'.cluster.queueAt u = (s.cluster.queueAt u).map (Job.rename ρ)
  record : ∀ id, s'.cluster.record? (ρ id) = (s.cluster.record? id).map (Record.rename ρ)
  phase : ∀ id, s'.scheduler.progress.phase? (ρ id) = s.scheduler.progress.phase? id
  pending : ∀ id, s'.scheduler.progress.pending? (ρ id) = s.scheduler.progress.pending? id
  unit : ∀ id, s'.scheduler.unitFor? (ρ id) = s.scheduler.unitFor? id
  unnamed : ∀ k, (∀ id, ρ id ≠ k) → s'.cluster.record? k = none ∧
    s'.scheduler.progress.phase? k = none ∧ s'.scheduler.unitFor? k = none
  summary : Cluster.Agrees s.summary s'.summary

lemma Renamed.lockstep [LawfulMax τ] (h : Renamed ρ s s') (hρ : Function.Injective ρ) :
    Lockstep ρ s s' where
  time := h.cluster.clock
  created := h.cluster.created
  nextTime := h.cluster.nextTime?
  loads := by rw [Scheduler.loads, h.scheduler.policy, Scheduler.loads]
  finished := h.scheduler.finished
  error := h.scheduler.error
  queue := h.cluster.queueAt
  record := h.cluster.record?
  phase := h.scheduler.progress.phase?
  pending := h.scheduler.progress.pending?
  unit := h.scheduler.unitFor?
  unnamed k hk := by
    refine ⟨?_, ?_, ?_⟩
    · rw [Option.eq_none_iff_forall_ne_some]
      intro r hr
      obtain ⟨id, rfl⟩ := h.cluster.records.named k r hr
      exact hk id rfl
    · rw [Progress.phase?, h.scheduler.progress.status.get?_eq_none hk, Option.map_none]
    · rw [Scheduler.unitFor?, Progress.task?, Workflow.task?,
        h.scheduler.progress.workflow.tasks.get?_eq_none hk, Option.bind_none]
  summary := h.cluster.summary hρ

/-- Tasks may be given any identifiers that tell them apart. A workflow with other ones exists, and its run is
that of the first workflow under the other identifiers. -/
theorem names_immaterial [LawfulMax τ] {ρ : TaskId → TaskId} (hρ : Function.Injective ρ) (g : Workflow τ) :
    (∃ g', g.Renamed ρ g') ∧
      ∀ g', g.Renamed ρ g' → ∀ (pool : Array ComputeUnit) (policy : NamedPolicy) (n : ℕ),
        let run := (ofPool pool g policy).advance n #[]
        let run' := (ofPool pool g' policy).advance n #[]
        run'.1 = run.1 ∧ run'.2.2 = run.2.2.map (Notice.rename ρ) ∧ Lockstep ρ run.2.1 run'.2.1 := by
  refine ⟨g.exists_renamed hρ, fun g' hg pool policy n => ?_⟩
  obtain ⟨hb, hr, hn⟩ := (renamed_ofPool hg pool policy).advance hρ n Array.map_empty.symm
  exact ⟨hb, hn, hr.lockstep hρ⟩

theorem names_immaterial_swap :
    let task (id : TaskId) : Task Rat := .ofCost id "" 0 (.sequential 1 1 1)
    let g := ((Workflow.empty.insertRoot (task 0)).insertTask (task 1)).link 0 1
    let g' := ((Workflow.empty.insertRoot (task 1)).insertTask (task 0)).link 1 0
    let run' := (ofPool #[⟨0, "", 1, 1, 1⟩] g' (.leastLoaded ⟨.ofSize 1⟩ : NamedPolicy)).advance 4 #[]
    Function.Injective (Equiv.swap 0 1 : TaskId → TaskId) ∧ g.Renamed (Equiv.swap 0 1) g' ∧
      run'.1 = true ∧ run'.2.1.scheduler.progress.phase? 1 = some .completed ∧
      run'.2.1.scheduler.progress.phase? 0 = some .submitted := by
  intro task g g' run'
  have hρ : Function.Injective (Equiv.swap 0 1 : TaskId → TaskId) := (Equiv.swap 0 1).injective
  have hg : g.Renamed (Equiv.swap 0 1) g' :=
    ((Workflow.Renamed.empty.insertRoot hρ (task 0)).insertTask hρ (task 1)).link hρ 0 1
  obtain ⟨hb, _, hl⟩ := (names_immaterial hρ g).2 g' hg #[⟨0, "", 1, 1, 1⟩] (.leastLoaded ⟨.ofSize 1⟩) 4
  refine ⟨hρ, hg, hb.trans (by decide +kernel), ?_, ?_⟩
  · exact (hl.phase 0).trans (by decide +kernel)
  · exact (hl.phase 1).trans (by decide +kernel)

end Run

end Dispatch
