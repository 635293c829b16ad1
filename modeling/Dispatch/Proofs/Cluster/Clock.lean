import Dispatch.Proofs.Cluster.Times
import Dispatch.Proofs.Forward

namespace Dispatch.Cluster

variable {τ : Type} [Time τ] {e e' : Cluster τ} {event : Event τ} {delay : τ}

structure Temporal (P : Cluster τ → Prop) : Prop where
  of_eq : ∀ {e f : Cluster τ}, f.clock = e.clock → f.calendar = e.calendar → P e → P f
  schedule : ∀ {e : Cluster τ} (event : Event τ) {delay : τ}, Delay delay →
    (event.taskId? = none → delay = Time.zero) → P e → P (e.schedule event delay)

namespace Temporal

variable {P : Cluster τ → Prop} (hP : Temporal P) (h : P e)

include hP h

lemma startUnits : P e.startUnits :=
  startUnits_induction (fun _ event _ h => hP.schedule event .none (fun _ => rfl) h) h

lemma startWaiting (u : UnitId) : P (e.startWaiting u).1 := by
  refine startWaiting_induction (fun e s d rest _ _ _ h => ?_) h
  have ho : P (e.occupy u s d rest) := hP.of_eq (e := e) rfl rfl h
  rw [startTask_eq]
  exact hP.schedule (.completed d.taskId u) (.work d.length s.unit.speed) (fun hn => (by cases hn)) ho

lemma handle (event : Event τ) : P (e.handle event).1 := by
  have hc (n : ℕ) : P { e with readyUnits := n } := hP.of_eq (e := e) rfl rfl h
  refine handle_cases (fun _ => hc) (fun _ n => hP.schedule _ .none (fun _ => rfl) (hc n)) (fun d u _ => ?_)
    (fun id u _ _ => ?_) fun _ _ _ _ => h
  · have he : P (e.enter d u) := hP.of_eq (e := e) rfl rfl h
    exact hP.startWaiting he u
  · have hl : P (e.leave id u) := hP.of_eq (e := e) rfl rfl h
    exact hP.startWaiting hl u

lemma submit (d : Job τ) (u : UnitId) : P (e.submit d u).1 := by
  rw [Cluster.submit]
  split
  · exact hP.schedule (.arrived d u) (.rest _) (fun hn => (by cases hn)) h
  · exact h

end Temporal

structure Ahead (e : Cluster τ) : Prop where
  nonneg : Time.Le Time.zero e.clock
  inOrder : e.InOrder
  pending : ∀ a ∈ e.calendar.toList, Time.Le e.clock a.time

lemma Ahead.of_eq (h : e.Ahead) (hc : e'.clock = e.clock) (hq : e'.calendar = e.calendar) : e'.Ahead := by
  obtain ⟨hn, ho, hp⟩ := h
  refine ⟨hc ▸ hn, ?_, ?_⟩
  · rw [InOrder, hq]
    exact ho
  · rw [hc, hq]
    exact hp

section ahead

variable [Forward τ]

lemma ahead_ofPool (pool : Array ComputeUnit) : (ofPool pool : Cluster τ).Ahead :=
  ⟨.refl _, trivial, fun _ ha => (List.not_mem_nil ha).elim⟩

lemma Ahead.schedule (h : e.Ahead) (event : Event τ) (hd : Delay delay) : (e.schedule event delay).Ahead where
  nonneg := h.nonneg
  inOrder := h.inOrder.schedule event delay
  pending a ha := by
    rcases List.mem_cons.mp ((appointments_schedule e event delay).mem_iff.mp ha) with rfl | ha
    · exact Forward.le_add h.nonneg hd
    · exact h.pending a ha

lemma Ahead.next (h : e.Ahead) (hn : e.next? = some (event, e')) : ∃ a, a.event = event ∧ e.Next a e' ∧
    e'.Ahead ∧ Time.Le e.clock e'.clock := by
  obtain ⟨a, ha, hn, ho, hf⟩ := h.inOrder.exists_next hn
  have hl : Time.Le e.clock e'.clock := hn.clock ▸ h.pending a (hn.calendar.mem_iff.mpr List.mem_cons_self)
  refine ⟨a, ha, hn, ⟨h.nonneg.trans hl, ho, fun b hb => ?_⟩, hl⟩
  rw [hn.clock]
  exact le_of_before (hf b hb)

lemma temporal_ahead : Temporal (Ahead (τ := τ)) :=
  ⟨fun hc hq h => h.of_eq hc hq, fun event _ hd _ h => h.schedule event hd⟩

end ahead

structure Clocked (e : Cluster τ) : Prop where
  now : Shown e.clock
  pending : ∀ a ∈ e.calendar.toList, Shown a.time

lemma clocked_ofPool (pool : Array ComputeUnit) : (ofPool pool : Cluster τ).Clocked :=
  ⟨.zero, fun _ ha => (List.not_mem_nil ha).elim⟩

lemma Clocked.next {a : Appointment τ} (h : e.Clocked) (hn : e.Next a e') : e'.Clocked where
  now := hn.clock ▸ h.pending a (hn.calendar.mem_iff.mpr List.mem_cons_self)
  pending b hb := h.pending b (hn.calendar.mem_iff.mpr (List.mem_cons_of_mem a hb))

lemma temporal_clocked : Temporal (Clocked (τ := τ)) where
  of_eq hc hq h := by
    refine ⟨hc ▸ h.now, ?_⟩
    rw [hq]
    exact h.pending
  schedule {e} event delay hd _ h := by
    refine ⟨h.now, fun a ha => ?_⟩
    rcases List.mem_cons.mp ((appointments_schedule e event delay).mem_iff.mp ha) with rfl | ha
    · exact .later h.now hd
    · exact h.pending a ha

end Dispatch.Cluster
