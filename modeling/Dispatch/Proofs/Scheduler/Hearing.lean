import Dispatch.Proofs.Scheduler.Faithful

namespace Dispatch.Scheduler

variable {σ τ : Type} [Policy σ τ]

def hear (h : Scheduler σ τ × List (Array (Action τ))) (x : τ × Event τ) :
    Scheduler σ τ × List (Array (Action τ)) :=
  let (c, answer) := h.1.handle x.1 x.2
  (c, h.2 ++ [answer])

def hearAll (c : Scheduler σ τ) (events : List (τ × Event τ)) :
    Scheduler σ τ × List (Array (Action τ)) :=
  events.foldl hear (c, [])

lemma hearAll_append (c : Scheduler σ τ) (events : List (τ × Event τ)) (x : τ × Event τ) :
    c.hearAll (events ++ [x]) =
      (((c.hearAll events).1.handle x.1 x.2).1,
        (c.hearAll events).2 ++ [((c.hearAll events).1.handle x.1 x.2).2]) := by
  rw [hearAll, List.foldl_append]
  rfl

lemma hearAll_append_list (c : Scheduler σ τ) (events more : List (τ × Event τ)) :
    c.hearAll (events ++ more) = (((c.hearAll events).1.hearAll more).1,
      (c.hearAll events).2 ++ ((c.hearAll events).1.hearAll more).2) := by
  induction more using List.reverseRecOn with
  | nil => simp [hearAll]
  | append_singleton more x ih =>
    rw [← List.append_assoc, hearAll_append, hearAll_append, ih, List.append_assoc]

lemma hearAll_cons (c : Scheduler σ τ) (x : τ × Event τ) (events : List (τ × Event τ)) :
    c.hearAll (x :: events) = (((c.handle x.1 x.2).1.hearAll events).1,
      (c.handle x.1 x.2).2 :: ((c.handle x.1 x.2).1.hearAll events).2) :=
  hearAll_append_list c [x] events

lemma length_hearAll (c : Scheduler σ τ) (events : List (τ × Event τ)) :
    (c.hearAll events).2.length = events.length := by
  induction events generalizing c with
  | nil => rfl
  | cons x events ih => rw [hearAll_cons, List.length_cons, ih, List.length_cons]

lemma hearAll_induction {P : List (τ × Event τ) → Scheduler σ τ → List (Array (Action τ)) → Prop}
    {c : Scheduler σ τ} (initial : P [] c [])
    (event : ∀ events c answers time event, P events c answers →
      P (events ++ [(time, event)]) (c.handle time event).1 (answers ++ [(c.handle time event).2]))
    (events : List (τ × Event τ)) : P events (c.hearAll events).1 (c.hearAll events).2 := by
  induction events using List.reverseRecOn with
  | nil => exact initial
  | append_singleton events x ih =>
    rw [hearAll_append]
    exact event events _ _ x.1 x.2 ih

def submissions (answer : Array (Action τ)) : List (Job τ × UnitId) :=
  answer.toList.filterMap fun
    | .submit d u => some (d, u)
    | _ => none

def forwards (answer : Array (Action τ)) : List (Event τ) :=
  answer.toList.filterMap fun
    | .forward event => some event
    | _ => none

lemma settled_hearAll (g : Workflow τ) (policy : σ) (events : List (τ × Event τ)) :
    Faithful g ((ofWorkflow g policy).hearAll events).1 ∧
      AtRest ((ofWorkflow g policy).hearAll events).1 :=
  hearAll_induction (P := fun _ c _ => Faithful g c ∧ AtRest c)
    ⟨faithful_ofWorkflow g policy, atRest_ofWorkflow g policy⟩
    (fun _ _ _ _ _ h => ⟨faithful_handle h.1, atRest_handle h.1 h.2⟩) events

omit [Policy σ τ]

@[simp] lemma submissions_note (answer : Array (Action τ)) (n : Notice τ) :
    submissions (answer.push (.note n)) = submissions answer := by
  simp [submissions]

@[simp] lemma submissions_submit (answer : Array (Action τ)) (d : Job τ) (u : UnitId) :
    submissions (answer.push (.submit d u)) = submissions answer ++ [(d, u)] := by
  simp [submissions]

@[simp] lemma forwards_note (answer : Array (Action τ)) (n : Notice τ) :
    forwards (answer.push (.note n)) = forwards answer := by
  simp [forwards]

@[simp] lemma forwards_submit (answer : Array (Action τ)) (d : Job τ) (u : UnitId) :
    forwards (answer.push (.submit d u)) = forwards answer := by
  simp [forwards]

end Dispatch.Scheduler
