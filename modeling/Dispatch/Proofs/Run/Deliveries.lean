import Dispatch.Proofs.Cluster.Order
import Dispatch.Proofs.Run.Steps

namespace Dispatch

variable {τ : Type}

def deliveries (out : Array (Notice τ)) : List (Event τ) :=
  out.toList.filterMap fun
    | .cluster _ (.delivered event) => some event
    | _ => none

lemma deliveries_append (out out' : Array (Notice τ)) :
    deliveries (out ++ out') = deliveries out ++ deliveries out' := by
  simp [deliveries]

def Silent (acts : Array (Action τ)) : Prop := ∀ n, .note n ∈ acts → deliveries #[n] = []

variable [Time τ]

namespace Cluster

variable {e : Cluster τ} {event : Event τ} {out : Array (Notice τ)}

omit [Time τ] in
lemma deliveries_notices {reports : Array (ClusterReport τ)}
    (h : ∀ event, .delivered event ∉ reports) : deliveries (e.notices reports) = [] := by
  rw [deliveries, List.filterMap_eq_nil_iff]
  intro n hn
  obtain ⟨x, hx, rfl⟩ := Array.mem_map.mp (Array.mem_toList_iff.mp hn)
  cases x with
  | delivered event => exact (h event hx).elim
  | _ => rfl

lemma deliveries_perform {act : Action τ} (h : ∀ n, act = .note n → deliveries #[n] = []) :
    deliveries (perform (e, out) act).2 = deliveries out := by
  cases act with
  | forward event =>
    simp only [perform, deliveries_append]
    rw [deliveries_notices fun _ hm => answers_of_mem hm, List.append_nil]
  | submit d u =>
    simp only [perform, deliveries_append]
    rw [deliveries_notices fun _ hm => (by cases eq_unknownUnit_of_mem hm), List.append_nil]
  | note n =>
    simp only [perform]
    rw [Array.push_eq_append, deliveries_append, h n rfl, List.append_nil]

lemma deliveries_foldl {acts : List (Action τ)}
    (h : ∀ n, .note n ∈ acts → deliveries #[n] = []) (s : Cluster τ × Array (Notice τ)) :
    deliveries (acts.foldl perform s).2 = deliveries s.2 := by
  induction acts generalizing s with
  | nil => rfl
  | cons act acts ih =>
    rw [List.foldl_cons, ih fun n hn => h n (List.mem_cons_of_mem act hn)]
    exact deliveries_perform fun n hn => h n (hn ▸ List.mem_cons_self)

end Cluster

namespace Scheduler

variable {σ : Type} [Policy σ τ]

omit [Time τ] in
lemma silent_handle (c : Scheduler σ τ) (time : τ) (event : Event τ) : Silent (c.handle time event).2 := by
  refine handle_induction (P := fun s : Scheduler σ τ × Array (Action τ) => Silent s.2) ?_ ?_
  · intro s hs
    cases hs with
    | @finish id u policy fault => cases fault <;> simp [Silent, deliveries]
    | _ => simp [Silent, deliveries]
  · intro s s' hm h
    cases hm <;> simpa [Silent, deliveries, or_imp, forall_and] using h

end Scheduler

namespace Run

variable {σ : Type} [Policy σ τ] {s s' : Run σ τ} {notices : Array (Notice τ)}

lemma exists_delivered_of_step? (h : s.step? = some (s', notices)) : ∃ event e out,
    s.cluster.next? = some (event, e) ∧ deliveries notices = [event] ∧
      s'.scheduler = (s.scheduler.handle e.clock event).1 ∧
      s'.cluster = e.performed out (s.scheduler.handle e.clock event).2 := by
  obtain ⟨⟨event, e⟩, he, hs⟩ := Option.map_eq_some_iff.mp h
  have hn : ((s.scheduler.handle e.clock event).2.foldl Cluster.perform
      (e, #[.cluster e.clock (.delivered event)])).2 = notices := congrArg Prod.snd hs
  refine ⟨event, e, _, he, ?_, (congrArg (·.1.scheduler) hs).symm, (congrArg (·.1.cluster) hs).symm⟩
  rw [← hn, ← Array.foldl_toList]
  refine Cluster.deliveries_foldl (fun n hn => ?_) _
  exact Scheduler.silent_handle _ _ _ n (Array.mem_toList_iff.mp hn)

end Run

end Dispatch
