import Dispatch.Proofs.Cluster.Agenda
import Dispatch.Proofs.Numeric
import Dispatch.Proofs.Run.Onward
import Dispatch.Proofs.Run.Termination

namespace Dispatch.Run

variable {σ τ : Type} [Time τ] [Policy σ τ] {s s' : Run σ τ} {out notices : Array (Notice τ)}

lemma exists_advance (s : Run σ τ) (stop : τ → Bool) (n : ℕ) (out : Array (Notice τ)) :
    ∃ k, s.advance k out = (true, s.runUntil stop n out) := by
  induction n generalizing s out with
  | zero => exact ⟨0, rfl⟩
  | succ n ih =>
    rw [runUntil]
    split
    · exact ⟨0, rfl⟩
    · split
      · exact ⟨0, rfl⟩
      · split
        · exact ⟨0, rfl⟩
        · rename_i s' notices hs
          obtain ⟨k, hk⟩ := ih s' (out ++ notices)
          exact ⟨k + 1, by rw [advance, hs]; exact hk⟩

lemma length_deliveredAt_advance (k : ℕ) (out : Array (Notice τ)) (h : s.advance k out = (true, s', notices)) :
    (deliveredAt notices).length = (deliveredAt out).length + k := by
  induction k generalizing s out with
  | zero =>
    cases h
    rfl
  | succ k ih =>
    rw [advance] at h
    split at h
    · cases h
    · rename_i s₁ more hs
      obtain ⟨event, e, _, _, hd, _⟩ := deliveredAt_of_step? hs
      rw [ih _ h, deliveredAt_append, hd, List.length_append, List.length_singleton]
      omega

lemma deliveredAt_of_nextTime? {t : τ} (ht : s.cluster.nextTime? = some t) (h : s.step? = some (s', notices)) :
    s'.time = t ∧ (deliveredAt notices).map Prod.fst = [t] := by
  obtain ⟨event, e, out, hn, hd, hc⟩ := deliveredAt_of_step? h
  obtain ⟨a, -, hx, hm⟩ := Cluster.exists_deleteMin?_of_next? hn
  have hm := Cluster.nextTime?_eq_some_of_deleteMin? hm
  have he : e.clock = t := hx.clock.trans (Option.some.inj (hm.symm.trans ht))
  refine ⟨?_, ?_⟩
  · rw [time, hc, Cluster.clock_performed, he]
  · rw [hd, List.map_singleton, he]

section numeric

variable [Numeric τ] {last : τ}

omit [Policy σ τ] in
lemma exceeds_of_nextTime? (ha : s.cluster.Ahead) (hc : s.cluster.Clocked)
    (hl : ∀ t, s.cluster.nextTime? = some t → Time.exceeds t last = true) :
    ∀ a ∈ s.cluster.calendar.toList, Time.exceeds a.time last = true := by
  intro b hb
  obtain ⟨a, hm, ha, hf⟩ := Heap.exists_min? ha.inOrder hb
  have hx : Time.exceeds a.time last = true := by
    apply hl
    rw [Cluster.nextTime?, Calendar.peek?, hm, Option.map_some]
  rcases hf with rfl | hf
  · exact hx
  · exact Numeric.exceeds_of_le (hc.pending a ha) (hc.pending b hb) (le_of_before hf) hx

structure Foreseen (s : Run σ τ) : Prop where
  ahead : s.cluster.Ahead
  clocked : s.cluster.Clocked

omit [Policy σ τ] in
lemma foreseen_ofPool (pool : Array ComputeUnit) (g : Workflow τ) (policy : σ) :
    (ofPool pool g policy).Foreseen where
  ahead := Cluster.temporal_ahead.startUnits (Cluster.ahead_ofPool pool)
  clocked := Cluster.temporal_clocked.startUnits (Cluster.clocked_ofPool pool)

lemma Foreseen.step (h : s.Foreseen) (hs : s.step? = some (s', notices)) : s'.Foreseen := by
  obtain ⟨event, e, out, hn, -, hc⟩ := deliveredAt_of_step? hs
  obtain ⟨a, -, hx, ha, -⟩ := h.ahead.next hn
  constructor
  · rw [hc]
    exact Cluster.temporal_ahead.performed ha _
  · rw [hc]
    exact Cluster.temporal_clocked.performed (h.clocked.next hx) _

structure Within (start last : τ) (s : Run σ τ) (out : Array (Notice τ)) : Prop where
  foreseen : s.Foreseen
  time : s.time = ((deliveredAt out).map Prod.fst).getLastD start
  shown : ∀ t ∈ (deliveredAt out).map Prod.fst, Shown t ∧ Time.exceeds t last = false

lemma Within.step {start t : τ} (h : s.Within start last out) (ht : s.cluster.nextTime? = some t)
    (hl : Time.exceeds t last = false) (hs : s.step? = some (s', notices)) :
    s'.Within start last (out ++ notices) := by
  obtain ⟨he, hd⟩ := deliveredAt_of_nextTime? ht hs
  have hf := h.foreseen.step hs
  refine ⟨hf, ?_, ?_⟩
  · rw [deliveredAt_append, List.map_append, hd, he, List.getLastD_concat]
  · rw [deliveredAt_append, List.map_append, hd]
    intro x hx
    rcases List.mem_append.mp hx with hx | hx
    · exact h.shown x hx
    · rw [List.mem_singleton.mp hx]
      exact ⟨he ▸ hf.clocked.now, hl⟩

/-- Within a duration the next events happen, as many as are not too late: those that so many steps deliver, in which
the clock shows the time of the last of them, and what is left is too late. -/
theorem during_delivers (pool : Array ComputeUnit) (g : Workflow τ) (policy : σ) (n : ℕ) (duration : τ) :
    let s := ((ofPool pool g policy).advance n #[]).2.1
    let last := Time.add s.time duration
    let r := s.during duration
    let times := (deliveredAt r.2.2).map Prod.fst
    (∃ k, s.advance k #[] = (true, r.2) ∧ times.length = k) ∧
    (∀ t ∈ times, Time.exceeds t last = false ∧ (Time.Defined last → Time.AtMost t last)) ∧
    (∀ a ∈ r.2.1.cluster.calendar.toList, Time.exceeds a.time last = true) ∧
    (r.1 = true ↔ r.2.1.cluster.calendar.toList ≠ []) ∧
    r.2.1.time = times.getLastD s.time := by
  intro s last r times
  have hs : s.Foreseen := advance_induction (fun _ _ _ hs h => h.step hs) n #[] (foreseen_ofPool pool g policy)
  have hw : r.2.1.Within s.time last r.2.2 :=
    runUntil_within (P := Within s.time last) (fun _ _ _ _ _ ht hl hs h => h.step ht hl hs) s.budget #[]
      ⟨hs, rfl, fun _ ht => (List.not_mem_nil ht).elim⟩
  obtain ⟨k, hk⟩ := s.exists_advance (Time.exceeds · last) s.budget #[]
  refine ⟨⟨k, hk, ?_⟩, fun t ht => ?_, ?_, ?_, hw.time⟩
  · rw [List.length_map]
    exact (length_deliveredAt_advance k #[] hk).trans (Nat.zero_add k)
  · obtain ⟨hn, he⟩ := hw.shown t ht
    exact ⟨he, fun hl => ⟨Numeric.defined hn, hl, he⟩⟩
  · exact exceeds_of_nextTime? hw.foreseen.ahead hw.foreseen.clocked fun t ht =>
      stop_of_runUntil (Time.exceeds · last) s.budget #[] le_rfl ht
  · have he : r.2.1.cluster.events = 0 ↔ r.2.1.cluster.calendar.toList = [] := by simp [Cluster.events]
    have hi : r.1 = r.2.1.cluster.nextTime?.isSome := rfl
    rw [hi, Option.isSome_iff_ne_none, ne_eq, Cluster.nextTime?_eq_none_iff, he]

end numeric

theorem during_delivers_five :
    let g := (Workflow.empty : Workflow Binary64).insertTask (.ofCost 0 "" 0 (.sequential 10 1 1))
    let s := ofPool #[⟨0, "", 1, 1, 4⟩] g (.leastLoaded ⟨.ofSize 1⟩ : NamedPolicy)
    let r := s.during (.ofUInt64 5)
    r.1 = true ∧ (deliveredAt r.2.2).length = 3 ∧ (s.during .negativeInfinity).2.2.size = 0 ∧
      ∀ a ∈ r.2.1.cluster.calendar.toList, Time.exceeds a.time (Time.add s.time (.ofUInt64 5)) = true :=
  ⟨by decide +kernel, by decide +kernel, by decide +kernel, (during_delivers _ _ _ 0 _).2.2.1⟩

end Dispatch.Run
