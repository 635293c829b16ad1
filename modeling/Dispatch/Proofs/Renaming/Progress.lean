import Dispatch.Proofs.Progress.Release
import Dispatch.Proofs.Renaming.Workflow

namespace Dispatch

def Completion.rename (ρ : TaskId → TaskId) : Completion → Completion
  | .effective released => .effective (released.map ρ)
  | .refused reason => .refused reason

namespace Progress

variable {τ : Type} {ρ : TaskId → TaskId} {r r' p : Progress τ} {g g' : Workflow τ}

structure Renamed (ρ : TaskId → TaskId) (r r' : Progress τ) : Prop where
  workflow : r.workflow.Renamed ρ r'.workflow
  status : Table.Renamed ρ id r.status r'.status
  ready : r'.ready = r.ready.map ρ
  submitted : r'.submitted = r.submitted
  completed : r'.completed = r.completed
  started : r'.started = r.started

namespace Renamed

lemma empty : Renamed ρ (Progress.empty : Progress τ) Progress.empty :=
  ⟨.empty, .empty, rfl, rfl, rfl, rfl⟩

section lookup

variable (h : Renamed ρ r r')

include h

lemma task? (id : TaskId) : r'.task? (ρ id) = (r.task? id).map (Task.rename ρ) := h.workflow.task? id

lemma phase? (id : TaskId) : r'.phase? (ρ id) = r.phase? id := by
  rw [Progress.phase?, h.status.get?, Option.map_map, Progress.phase?]
  rfl

lemma pending? (id : TaskId) : r'.pending? (ρ id) = r.pending? id := by
  rw [Progress.pending?, h.status.get?, Option.map_map, Progress.pending?]
  rfl

lemma readySize : r'.readySize = r.readySize := by
  rw [Progress.readySize, h.ready, Queue.size_map, Progress.readySize]

lemma isFinished : r'.isFinished = r.isFinished := by
  rw [Progress.isFinished, h.started, h.completed, h.workflow.size, Progress.isFinished]

lemma peek? : r'.peek? = r.peek?.map (Task.rename ρ) := by
  rw [Progress.peek?, h.ready, Queue.head?_map, Progress.peek?]
  cases r.ready.head? with
  | none => rfl
  | some id => exact h.task? id

end lookup

variable (h : Renamed ρ r r') (hρ : Function.Injective ρ)

include hρ in
lemma begun (hg : g.Renamed ρ g') : Renamed ρ (begun g) (begun g') where
  workflow := hg
  status := (hg.parentCounts hρ).map fun _ _ => rfl
  ready := by
    have hc : (fun k => g'.parentCounts.get? k == some 0) ∘ ρ = fun k => g.parentCounts.get? k == some 0 := by
      funext k
      rw [Function.comp_apply, (hg.parentCounts hρ).get?, Option.map_id]
      rfl
    rw [Progress.begun, Progress.begun, Queue.map_ofList, hg.preorderAll hρ, List.filter_map, hc]
  submitted := rfl
  completed := rfl
  started := rfl

include h hρ

lemma start (hg : g.Renamed ρ g') :
    (∀ e, r.start g = .error e → r'.start g' = .error (e.rename ρ)) ∧
      ∀ p, r.start g = .ok p → ∃ p', r'.start g' = .ok p' ∧ Renamed ρ p p' := by
  rw [Progress.start, Progress.start, h.started, hg.danglingLink?]
  cases r.started with
  | true =>
    refine ⟨fun e he => ?_, fun p hp => (by cases hp)⟩
    cases he
    rfl
  | false =>
    cases g.danglingLink? with
    | some e =>
      refine ⟨fun e he => ?_, fun p hp => (by cases hp)⟩
      cases he
      rfl
    | none =>
      refine ⟨fun e he => (by cases he), fun p hp => ?_⟩
      cases hp
      exact ⟨_, rfl, begun hρ hg⟩

lemma setPhase (id : TaskId) (s : Phase) : Renamed ρ (r.setPhase id s) (r'.setPhase (ρ id) s) :=
  ⟨h.workflow, h.status.modify hρ id fun _ => rfl, h.ready, h.submitted, h.completed, h.started⟩

lemma assign (id : TaskId) (a : Assignment τ) : Renamed ρ (r.assign id a) (r'.assign (ρ id) a) :=
  ⟨h.workflow.modifyTask hρ id (f := ({ · with assignment := some a })) (fun _ => rfl) fun _ => rfl,
    h.status, h.ready, h.submitted, h.completed, h.started⟩

lemma next? {id : TaskId} (hn : r.next? = some (id, p)) :
    ∃ p', r'.next? = some (ρ id, p') ∧ Renamed ρ p p' := by
  obtain ⟨⟨_, q⟩, hq, he⟩ := Option.map_eq_some_iff.mp hn
  cases he
  have hs := h.setPhase hρ id .submitted
  refine ⟨{ r'.setPhase (ρ id) .submitted with ready := q.map ρ, submitted := r'.submitted + 1 }, ?_,
    hs.workflow, hs.status, rfl, congrArg (· + 1) h.submitted, hs.completed, hs.started⟩
  rw [Progress.next?, h.ready, Queue.dequeue?_map, hq]
  rfl

omit h in
lemma releaseChild {t t' : Table Status} (ht : Table.Renamed ρ id t t') (rel : Array TaskId)
    (c : TaskId) :
    Table.Renamed ρ id (releaseChild t rel c).1 (releaseChild t' (rel.map ρ) (ρ c)).1 ∧
      (releaseChild t' (rel.map ρ) (ρ c)).2 = (releaseChild t rel c).2.map ρ := by
  have hg := ht.get? c
  rw [Option.map_id] at hg
  rw [Progress.releaseChild, Progress.releaseChild, hg]
  rcases hs : t.get? c with _ | ⟨s, n⟩
  · exact ⟨ht, rfl⟩
  · rcases n with _ | _ | n
    · exact ⟨ht, rfl⟩
    · exact ⟨ht.insert hρ c _, by simp⟩
    · exact ⟨ht.insert hρ c _, rfl⟩

omit h in
lemma foldl_releaseChild {t t' : Table Status} (ht : Table.Renamed ρ id t t') (rel : Array TaskId)
    (cs : List TaskId) :
    let result := cs.foldl (fun (t, rel) c => Progress.releaseChild t rel c) (t, rel)
    let result' := (cs.map ρ).foldl (fun (t, rel) c => Progress.releaseChild t rel c) (t', rel.map ρ)
    Table.Renamed ρ id result.1 result'.1 ∧ result'.2 = result.2.map ρ := by
  induction cs generalizing t t' rel with
  | nil => exact ⟨ht, rfl⟩
  | cons c cs ih =>
    obtain ⟨hc, hr⟩ := releaseChild hρ ht rel c
    have hi := ih hc (Progress.releaseChild t rel c).2
    rw [← hr] at hi
    exact hi

lemma finish (id : TaskId) : Renamed ρ (r.finish id).1 (r'.finish (ρ id)).1 ∧
    (r'.finish (ρ id)).2 = (r.finish id).2.map ρ := by
  obtain ⟨hs, hr⟩ := foldl_releaseChild hρ (h.setPhase hρ id .completed).status #[]
    (r.workflow.children id)
  rw [← h.workflow.children, Array.map_empty] at hs hr
  refine ⟨⟨h.workflow.modifyTask hρ id (f := ({ · with done := true })) (fun _ => rfl) fun _ => rfl, hs, ?_,
    congrArg (· - 1) h.submitted, congrArg (· + 1) h.completed, h.started⟩, hr⟩
  have hq (r : Progress τ) (id : TaskId) :
      (r.finish id).1.ready = (r.finish id).2.toList.foldl (·.enqueue ·) r.ready := by
    rw [Array.foldl_toList]
    rfl
  have hr : (r'.finish (ρ id)).2 = (r.finish id).2.map ρ := hr
  rw [hq, hq, hr, h.ready, Queue.map_foldl_enqueue, Array.toList_map]

lemma complete (id : TaskId) : Renamed ρ (r.complete id).1 (r'.complete (ρ id)).1 ∧
    (r'.complete (ρ id)).2 = (r.complete id).2.rename ρ := by
  rw [Progress.complete, Progress.complete, h.phase?]
  split
  · exact ⟨h, rfl⟩
  · obtain ⟨hf, hr⟩ := h.finish hρ id
    exact ⟨hf, congrArg Completion.effective hr⟩
  · exact ⟨h, rfl⟩
  · exact ⟨h, rfl⟩

end Renamed

end Progress

end Dispatch
