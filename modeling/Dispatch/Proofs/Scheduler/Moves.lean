import Dispatch.Proofs.Progress.Counters
import Dispatch.Scheduler

/-! What a scheduler can do in answer to an event: an opening that belongs to the event, then moves that
work off the ready tasks one by one. -/

namespace Dispatch

lemma Progress.exists_next? {τ : Type} {r : Progress τ} {t : Task τ} (ht : r.peek? = some t) :
    ∃ p, r.next? = some (t.id, p) := by
  obtain ⟨id, hi, ht⟩ := Option.bind_eq_some_iff.mp ht
  obtain rfl := r.workflow.id_of_get? id t ht
  cases hn : r.next? with
  | none =>
    rw [next?_eq_none_iff] at hn
    rw [Queue.head?_eq, hn] at hi
    cases hi
  | some x =>
    obtain ⟨id, p⟩ := x
    rw [Queue.head?_eq, (taken_of_next? hn).ready] at hi
    cases hi
    exact ⟨p, rfl⟩

namespace Scheduler

open Relation

variable {σ τ : Type} [Policy σ τ]

inductive Move (time : τ) :
    Scheduler σ τ × Array (Action τ) → Scheduler σ τ × Array (Action τ) → Prop
  | submit {c : Scheduler σ τ} {acts : Array (Action τ)} {t : Task τ} {u : UnitId} {policy : σ}
      {id : TaskId} {progress : Progress τ} : c.error? = none → c.progress.peek? = some t →
      Policy.choose c.policy t = (.ok u, policy) → c.progress.next? = some (id, progress) →
      Move time (c, acts)
        ({ c with policy := policy, progress := progress.assign id ⟨u, time⟩ },
          (acts.push (.note (.scheduler time (.submittedTask id u)))).push (.submit t.job u))
  | fail {c : Scheduler σ τ} {acts : Array (Action τ)} {t : Task τ} {e : PolicyError} {policy : σ} :
      c.error? = none → c.progress.peek? = some t → Policy.choose c.policy t = (.error e, policy) →
      Move time (c, acts)
        ({ c with policy := policy, error? := some (.policy e) },
          acts.push (.note (.scheduler time (.placingFailed t.id e))))
  | finish {c : Scheduler σ τ} {acts : Array (Action τ)} : c.finished = false →
      c.progress.isFinished = true →
      Move time (c, acts)
        ({ c with finished := true }, acts.push (.note (.scheduler time .finishedWorkflow)))

inductive Opening (c : Scheduler σ τ) (time : τ) :
    Event τ → Scheduler σ τ × Array (Action τ) → Prop
  | quiet {event : Event τ} : (event = .ready → c.halted = true ∨ c.workflow? = none) →
      (∀ id u, event ≠ .completed id u) → Opening c time event (c, #[.forward event])
  | start {g : Workflow τ} {progress : Progress τ} : c.error? = none → c.workflow? = some g →
      c.progress.start g = .ok progress →
      Opening c time .ready ({ c with workflow? := none, progress := progress },
        #[.forward .ready, .note (.scheduler time (.startedWorkflow g.size (Policy.size τ c.policy)))])
  | malformed {g : Workflow τ} {e : LinkError} : c.error? = none → c.workflow? = some g →
      c.progress.start g = .error e →
      Opening c time .ready ({ c with workflow? := none, error? := some (.link e) },
        #[.forward .ready, .note (.scheduler time (.malformedWorkflow e))])
  | ignored {id : TaskId} {u : UnitId} : (c.halted || !c.progress.started) = true →
      Opening c time (.completed id u) (c,
        #[.forward (.completed id u), .note (.scheduler time (.ignoredCompletion id))])
  | finish {id : TaskId} {u : UnitId} {policy : σ} {fault : Option ReleaseFault} :
      c.error? = none → c.progress.started = true → c.progress.phase? id = some .submitted →
      freeUnit (τ := τ) c.policy (c.unitFor? id) = (policy, fault) →
      Opening c time (.completed id u)
        ({ c with policy := policy, progress := (c.progress.finish id).1 },
          (#[Action.forward (.completed id u)] ++ (fault.map fun f => Action.note (.policy f)).toArray).push
            (.note (.scheduler time (.completedTask id (c.progress.finish id).2.size))))
  | refuse {id : TaskId} {u : UnitId} {reason : Refusal} :
      c.error? = none → c.progress.started = true → c.progress.phase? id ≠ some .submitted →
      Opening c time (.completed id u) (c,
        #[.forward (.completed id u), .note (.progress id reason),
          .note (.scheduler time (.completedTask id 0))])

variable {c : Scheduler σ τ} {time : τ}

section submitUpTo

variable {n : ℕ} {acts : Array (Action τ)} {t : Task τ} {q : σ}

lemma submitUpTo_of_none (ht : c.progress.peek? = none) : submitUpTo time n c acts = (c, acts) := by
  cases n with
  | zero => rfl
  | succ n => rw [submitUpTo, ht]

lemma submitUpTo_of_error {e : PolicyError} (ht : c.progress.peek? = some t)
    (hc : Policy.choose c.policy t = (.error e, q)) : submitUpTo time (n + 1) c acts =
      ({ c with policy := q, error? := some (.policy e) },
        acts.push (.note (.scheduler time (.placingFailed t.id e)))) := by
  rw [submitUpTo, ht]
  simp only [hc]

lemma submitUpTo_of_ok {u : UnitId} {p : Progress τ} (ht : c.progress.peek? = some t)
    (hc : Policy.choose c.policy t = (.ok u, q)) (hn : c.progress.next? = some (t.id, p)) :
    submitUpTo time (n + 1) c acts =
      submitUpTo time n { c with policy := q, progress := p.assign t.id ⟨u, time⟩ }
        ((acts.push (.note (.scheduler time (.submittedTask t.id u)))).push (.submit t.job u)) := by
  rw [submitUpTo, ht]
  simp only [hc, hn]

end submitUpTo

lemma submitUpTo_moves (n : ℕ) (acts : Array (Action τ)) (h : c.error? = none) :
    ReflTransGen (Move time) (c, acts) (submitUpTo time n c acts) := by
  induction n generalizing c acts with
  | zero => exact .refl
  | succ n ih =>
    cases ht : c.progress.peek? with
    | none =>
      rw [submitUpTo_of_none ht]
    | some t =>
      obtain ⟨p, hn⟩ := Progress.exists_next? ht
      rcases hc : Policy.choose c.policy t with ⟨e | u, q⟩
      · rw [submitUpTo_of_error ht hc]
        exact .single (.fail h ht hc)
      · rw [submitUpTo_of_ok ht hc hn]
        exact .head (.submit h ht hc hn) (ih _ h)

lemma noteFinish_moves (c : Scheduler σ τ) (acts : Array (Action τ)) :
    ReflTransGen (Move time) (c, acts) (c.noteFinish time acts) := by
  rw [noteFinish]
  split
  · rename_i h
    rw [Bool.and_eq_true, Bool.not_eq_true'] at h
    exact .single (.finish h.1 h.2)
  · exact .refl

lemma advance_moves (acts : Array (Action τ)) (h : c.error? = none) :
    ReflTransGen (Move time) (c, acts) (c.advance time acts) :=
  (submitUpTo_moves _ acts h).trans (noteFinish_moves _ _)

omit [Policy σ τ] in
lemma halted_eq_false_iff : c.halted = false ↔ c.error? = none := by
  rw [halted, Option.isSome_eq_false_iff, Option.isNone_iff_eq_none]

omit [Policy σ τ] in
lemma unitToFree?_of_submitted {id : TaskId} (hs : c.progress.phase? id = some .submitted) :
    c.unitToFree? id = c.unitFor? id := if_pos hs

omit [Policy σ τ] in
lemma unitToFree?_of_ne {id : TaskId} (hs : c.progress.phase? id ≠ some .submitted) :
    c.unitToFree? id = none := if_neg hs

section handle

variable {acts : Array (Action τ)} {g : Workflow τ}

lemma whenReady_of_halted (h : c.halted = true) : c.whenReady time acts = (c, acts) := if_pos h

lemma whenReady_of_none (h : c.halted = false) (hw : c.workflow? = none) :
    c.whenReady time acts = c.advance time acts := by
  rw [whenReady, h, hw]
  rfl

lemma whenReady_of_error (h : c.halted = false) (hw : c.workflow? = some g) {e : LinkError}
    (hs : c.progress.start g = .error e) : c.whenReady time acts =
      ({ c with workflow? := none, error? := some (.link e) },
        acts.push (.note (.scheduler time (.malformedWorkflow e)))) := by
  rw [whenReady, h, hw]
  simp only [hs, Bool.false_eq_true, if_false]

lemma whenReady_of_ok (h : c.halted = false) (hw : c.workflow? = some g) {p : Progress τ}
    (hs : c.progress.start g = .ok p) : c.whenReady time acts =
      advance { c with workflow? := none, progress := p } time
        (acts.push (.note (.scheduler time (.startedWorkflow g.size (Policy.size τ c.policy))))) := by
  rw [whenReady, h, hw]
  simp only [hs, Bool.false_eq_true, if_false]

lemma whenCompleted_of_idle {id : TaskId} (h : (c.halted || !c.progress.started) = true) :
    c.whenCompleted time id acts = (c, acts.push (.note (.scheduler time (.ignoredCompletion id)))) :=
  if_pos h

lemma whenCompleted_of_running {id : TaskId} (h : (c.halted || !c.progress.started) = false) :
    c.whenCompleted time id acts =
      advance { c with
          policy := (freeUnit (τ := τ) c.policy (c.unitToFree? id)).1,
          progress := (c.progress.complete id).1 } time
        ((acts ++ ((freeUnit (τ := τ) c.policy (c.unitToFree? id)).2.map
            fun f => Action.note (.policy f)).toArray ++
          ((c.progress.complete id).2.refusal?.map fun r => Action.note (.progress id r)).toArray).push
          (.note (.scheduler time (.completedTask id (c.progress.complete id).2.released.size)))) := by
  rw [whenCompleted, h]
  rfl

end handle

lemma handle_moves (c : Scheduler σ τ) (time : τ) (event : Event τ) :
    ∃ s, Opening c time event s ∧ ReflTransGen (Move time) s (c.handle time event) := by
  cases event with
  | provisioned u => exact ⟨_, .quiet (by simp) (by simp), .refl⟩
  | arrived d u => exact ⟨_, .quiet (by simp) (by simp), .refl⟩
  | ready =>
    rw [handle]
    cases hh : c.halted with
    | true =>
      rw [whenReady_of_halted hh]
      exact ⟨_, .quiet (fun _ => .inl hh) (by simp), .refl⟩
    | false =>
      have he : c.error? = none := halted_eq_false_iff.mp hh
      cases hw : c.workflow? with
      | none =>
        rw [whenReady_of_none hh hw]
        exact ⟨_, .quiet (fun _ => .inr hw) (by simp), advance_moves _ he⟩
      | some g =>
        cases hs : c.progress.start g with
        | error e =>
          rw [whenReady_of_error hh hw hs]
          exact ⟨_, .malformed he hw hs, .refl⟩
        | ok p =>
          rw [whenReady_of_ok hh hw hs]
          exact ⟨_, .start he hw hs, advance_moves _ he⟩
  | completed id u =>
    rw [handle]
    cases hh : (c.halted || !c.progress.started) with
    | true =>
      rw [whenCompleted_of_idle hh]
      exact ⟨_, .ignored hh, .refl⟩
    | false =>
      rw [whenCompleted_of_running hh]
      rw [Bool.or_eq_false_iff, halted_eq_false_iff, Bool.not_eq_false'] at hh
      by_cases hp : c.progress.phase? id = some .submitted
      · rw [unitToFree?_of_submitted hp, Progress.complete_of_submitted hp]
        exact ⟨_, .finish hh.1 hh.2 hp rfl, advance_moves _ hh.1⟩
      · obtain ⟨reason, hc⟩ := Progress.complete_of_ne hp
        rw [unitToFree?_of_ne hp, hc]
        exact ⟨_, .refuse hh.1 hh.2 hp, advance_moves _ hh.1⟩

lemma Opening.workflow?_of_none {event : Event τ} {s : Scheduler σ τ × Array (Action τ)}
    (h : Opening c time event s) (hw : c.workflow? = none) : s.1.workflow? = none := by
  cases h with
  | start => rfl
  | malformed => rfl
  | _ => exact hw

lemma Opening.workflow?_of_ready {s : Scheduler σ τ × Array (Action τ)} (h : Opening c time .ready s)
    (he : c.error? = none) : s.1.workflow? = none := by
  cases h with
  | start => rfl
  | malformed => rfl
  | quiet hr =>
    rcases hr rfl with hh | hw
    · rw [halted_eq_false_iff.mpr he] at hh
      cases hh
    · exact hw

lemma handle_induction {P : Scheduler σ τ × Array (Action τ) → Prop} {event : Event τ}
    (opening : ∀ s, Opening c time event s → P s)
    (move : ∀ s s', Move time s s' → P s → P s') : P (c.handle time event) := by
  obtain ⟨s, hs, hm⟩ := handle_moves c time event
  generalize c.handle time event = answer at hm
  induction hm with
  | refl => exact opening s hs
  | tail _ h ih => exact move _ _ h ih

end Scheduler

end Dispatch
