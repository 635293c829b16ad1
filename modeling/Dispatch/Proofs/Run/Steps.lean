import Dispatch.Proofs.Cluster.Effects
import Dispatch.Proofs.Scheduler.Moves
import Dispatch.Run

namespace Dispatch

namespace Cluster

variable {τ : Type} [Time τ] (e : Cluster τ) (out : Array (Notice τ)) (acts : Array (Action τ))

def performed : Cluster τ := (acts.foldl perform (e, out)).1

@[simp] lemma performed_note (n : Notice τ) :
    e.performed out (acts.push (.note n)) = e.performed out acts := by
  simp [performed, perform]

@[simp] lemma performed_submit (d : Job τ) (u : UnitId) :
    e.performed out (acts.push (.submit d u)) = ((e.performed out acts).submit d u).1 := by
  simp [performed, perform]

end Cluster

open Scheduler

lemma Scheduler.Opening.performed {σ τ : Type} [Time τ] [Policy σ τ] {c : Scheduler σ τ} {time : τ}
    {event : Event τ} {s : Scheduler σ τ × Array (Action τ)} (h : Opening c time event s)
    (e : Cluster τ) (out : Array (Notice τ)) : e.performed out s.2 = (e.handle event).1 := by
  cases h with
  | @finish id u policy fault he hs hp hr =>
    rw [Cluster.performed_note]
    cases fault <;> simp [Cluster.performed, Cluster.perform]
  | _ => simp [Cluster.performed, Cluster.perform]

namespace Run

variable {σ τ : Type} [Time τ] [Policy σ τ] {s s' : Run σ τ} {notices : Array (Notice τ)}

lemma step?_eq_none_iff : s.step? = none ↔ s.cluster.events = 0 := by
  rw [step?, Option.map_eq_none_iff, Cluster.next?_eq_none_iff]

lemma step?_eq_none_iff_nextTime? : s.step? = none ↔ s.cluster.nextTime? = none :=
  step?_eq_none_iff.trans Cluster.nextTime?_eq_none_iff.symm

lemma of_step? (h : s.step? = some (s', notices)) : ∃ event e out, s.cluster.Drawn event e ∧
    s'.scheduler = (s.scheduler.handle e.clock event).1 ∧
    s'.cluster = e.performed out (s.scheduler.handle e.clock event).2 := by
  obtain ⟨⟨event, e⟩, he, hs⟩ := Option.map_eq_some_iff.mp h
  cases hs
  exact ⟨event, e, _, Cluster.drawn_of_next? he, rfl, rfl⟩

lemma handled_induction {P : Scheduler σ τ → Cluster τ → Prop} {c : Scheduler σ τ} {e : Cluster τ}
    {event : Event τ} (out : Array (Notice τ))
    (opening : ∀ s, Opening c e.clock event s → P s.1 (e.handle event).1)
    (move : ∀ s s', Move e.clock s s' → P s.1 (e.performed out s.2) → P s'.1 (e.performed out s'.2)) :
    P (c.handle e.clock event).1 (e.performed out (c.handle e.clock event).2) := by
  refine handle_induction (P := fun s => P s.1 (e.performed out s.2)) (fun s hs => ?_) move
  rw [hs.performed]
  exact opening s hs

lemma records_performed (c : Scheduler σ τ) (e : Cluster τ) (event : Event τ) (out : Array (Notice τ)) :
    (e.performed out (c.handle e.clock event).2).records = (e.handle event).1.records := by
  refine handled_induction (P := fun _ f => f.records = (e.handle event).1.records) out (fun _ _ => rfl)
    fun c c' hm h => ?_
  cases hm with
  | submit =>
    rw [Cluster.performed_submit, Cluster.performed_note, Cluster.submit]
    split <;> exact h
  | fail => rwa [Cluster.performed_note]
  | finish => rwa [Cluster.performed_note]

lemma step_induction {P : Scheduler σ τ → Cluster τ → Prop} (h : s.step? = some (s', notices))
    (opening : ∀ event e c, s.cluster.Drawn event e → Opening s.scheduler e.clock event c →
      P c.1 (e.handle event).1)
    (move : ∀ time e out c c', Move time c c' → P c.1 (Cluster.performed e out c.2) →
      P c'.1 (Cluster.performed e out c'.2)) : P s'.scheduler s'.cluster := by
  obtain ⟨event, e, out, hd, hs, hc⟩ := of_step? h
  rw [hs, hc]
  exact handled_induction out (fun c => opening event e c hd) fun c c' => move _ e out c c'

lemma advance_notices {P : Run σ τ → Array (Notice τ) → Prop}
    (step : ∀ s out s' notices, s.step? = some (s', notices) → P s out → P s' (out ++ notices))
    (n : ℕ) (out : Array (Notice τ)) (h : P s out) : P (s.advance n out).2.1 (s.advance n out).2.2 := by
  induction n generalizing s out with
  | zero => exact h
  | succ n ih =>
    rw [advance]
    split
    · exact h
    · rename_i s' notices hs
      exact ih _ (step s out s' notices hs h)

lemma advance_induction {P : Run σ τ → Prop}
    (step : ∀ s s' notices, s.step? = some (s', notices) → P s → P s')
    (n : ℕ) (out : Array (Notice τ)) (h : P s) : P (s.advance n out).2.1 :=
  advance_notices (P := fun s _ => P s) (fun s _ => step s) n out h

lemma runUntil_within {P : Run σ τ → Array (Notice τ) → Prop} {stop : τ → Bool}
    (step : ∀ s out t s' notices, s.cluster.nextTime? = some t → stop t = false →
      s.step? = some (s', notices) → P s out → P s' (out ++ notices))
    (n : ℕ) (out : Array (Notice τ)) (h : P s out) : P (s.runUntil stop n out).1 (s.runUntil stop n out).2 := by
  induction n generalizing s out with
  | zero => exact h
  | succ n ih =>
    rw [runUntil]
    split
    · exact h
    · rename_i t ht
      split
      · exact h
      · rename_i hl
        split
        · exact h
        · rename_i s' notices hs
          exact ih _ (step s out t s' notices ht (Bool.eq_false_of_not_eq_true hl) hs h)

lemma runUntil_notices {P : Run σ τ → Array (Notice τ) → Prop}
    (step : ∀ s out s' notices, s.step? = some (s', notices) → P s out → P s' (out ++ notices))
    (stop : τ → Bool) (n : ℕ) (out : Array (Notice τ)) (h : P s out) :
    P (s.runUntil stop n out).1 (s.runUntil stop n out).2 :=
  runUntil_within (fun s out _ s' notices _ _ => step s out s' notices) n out h

lemma runUntil_induction {P : Run σ τ → Prop}
    (step : ∀ s s' notices, s.step? = some (s', notices) → P s → P s')
    (stop : τ → Bool) (n : ℕ) (out : Array (Notice τ)) (h : P s) :
    P (s.runUntil stop n out).1 :=
  runUntil_notices (P := fun s _ => P s) (fun s _ => step s) stop n out h

end Run

end Dispatch
