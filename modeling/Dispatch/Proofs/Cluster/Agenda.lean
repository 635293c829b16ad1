import Dispatch.Proofs.Cluster.Order
import Dispatch.Proofs.Totals

/-! Events are put down and taken out in any order: none is lost, none is taken out twice, and what is taken out is
always the earliest one, of several at one time the oldest. -/

namespace Dispatch

variable {τ : Type} [Time τ]

namespace Appointment

structure Strict (before : Appointment τ → Appointment τ → Bool) : Prop where
  trans : ∀ a b c, before a b = true → before b c = true → before a c = true
  total : ∀ a b, a.same b = false → (before a b = true ↔ before b a = false)

variable {a b : Appointment τ}

lemma before_iff : a.before b = true ↔ Time.compare b.time a.time = .gt ∨
    Time.compare b.time a.time = .eq ∧ a.id < b.id := by
  rw [before, beq_iff_eq, priority, Ordering.then_eq_gt, Nat.compare_eq_gt]

variable [Std.TransCmp (Time.compare (τ := τ))]

lemma before_iff_of_ne (h : a.id ≠ b.id) : b.before a = false ↔ a.before b = true := by
  rw [before_eq_false_iff, before_iff, Std.OrientedCmp.gt_iff_lt, Std.OrientedCmp.eq_comm]
  exact or_congr_right (and_congr_right fun _ => ⟨fun hl => lt_of_le_of_ne hl h, le_of_lt⟩)

lemma strict_before : Strict (before (τ := τ)) where
  trans a b c h h' := by
    rw [before, beq_iff_eq] at h h' ⊢
    exact Std.TransCmp.gt_trans h h'
  total a b h := by
    rw [same, beq_eq_false_iff_ne] at h
    exact (before_iff_of_ne h).symm

end Appointment

namespace Cluster

inductive Operation (τ : Type) where
  | emit (event : Event τ) (delay : τ)
  | next

def operate (e : Cluster τ) : Operation τ → Cluster τ
  | .emit event delay => e.schedule event delay
  | .next => (e.next?.map Prod.snd).getD e

def putDown (e : Cluster τ) : Operation τ → List (Appointment τ)
  | .emit event delay => [⟨e.created, Time.add e.clock delay, event⟩]
  | .next => []

def takenOut (e : Cluster τ) : Operation τ → List (Appointment τ)
  | .emit .. => []
  | .next => (e.calendar.pop?.map Prod.fst).toList

variable {e e' : Cluster τ} {a : Appointment τ} {event : Event τ} {emitted returned : List (Appointment τ)}

structure Agenda (emitted returned : List (Appointment τ)) (e : Cluster τ) : Prop where
  ids : emitted.map (·.id) = List.range e.created
  whole : (returned ++ e.calendar.toList).Perm emitted
  order : e.InOrder

lemma agenda_ofPool (pool : Array ComputeUnit) : Agenda [] [] (ofPool pool : Cluster τ) :=
  ⟨rfl, .refl _, trivial⟩

lemma takenOut_next (hd : e.calendar.deleteMin? Appointment.before = some (a, e'.calendar)) :
    e.takenOut .next = [a] := by
  rw [takenOut, Calendar.pop?, hd]
  rfl

omit [Time τ] in
lemma nextTime?_eq_some_of_deleteMin? {before : Appointment τ → Appointment τ → Bool} {q : Calendar τ}
    (hd : e.calendar.deleteMin? before = some (a, q)) : e.nextTime? = some a.time := by
  rw [nextTime?, Calendar.peek?]
  cases hc : e.calendar with
  | empty =>
    rw [hc] at hd
    cases hd
  | node n b l r =>
    rw [hc] at hd
    cases hd
    rfl

namespace Agenda

variable (h : Agenda emitted returned e)

include h

lemma length_emitted : emitted.length = e.created := by
  rw [← List.length_map (·.id), h.ids, List.length_range]

lemma nodup_ids : (emitted.map (·.id)).Nodup := by
  rw [h.ids]
  exact List.nodup_range

lemma nodup : (returned ++ e.calendar.toList).Nodup :=
  h.whole.nodup_iff.mpr (List.Nodup.of_map _ h.nodup_ids)

lemma eq_of_id (ha : a ∈ emitted) {b : Appointment τ} (hb : b ∈ emitted) (hi : a.id = b.id) : a = b :=
  List.inj_on_of_nodup_map h.nodup_ids ha hb hi

lemma mem_calendar_iff : a ∈ e.calendar.toList ↔ a ∈ emitted ∧ a ∉ returned := by
  rw [← h.whole.mem_iff, List.mem_append, or_and_right, and_not_self_iff, false_or]
  exact ⟨fun ha => ⟨ha, fun hr => List.disjoint_of_nodup_append h.nodup hr ha⟩, And.left⟩

lemma next?_eq_none_iff : e.next? = none ↔ returned.Perm emitted := by
  rw [Cluster.next?_eq_none_iff, events, Multiset.coe_eq_zero, List.map_eq_nil_iff]
  constructor
  · intro hc
    have hw := h.whole
    rwa [hc, List.append_nil] at hw
  · intro hp
    have hl := hp.length_eq.trans h.whole.length_eq.symm
    rw [List.length_append] at hl
    exact List.length_eq_zero_iff.mp (by omega)

variable [Std.TransCmp (Time.compare (τ := τ))]

lemma emit (event : Event τ) (delay : τ) :
    Agenda (emitted ++ e.putDown (.emit event delay)) (returned ++ e.takenOut (.emit event delay))
      (e.operate (.emit event delay)) where
  ids := by
    rw [List.map_append, h.ids, operate, schedule, List.range_succ]
    rfl
  whole := by
    rw [takenOut, List.append_nil]
    have hp := (e.appointments_schedule event delay).append_left returned
    have hw := (h.whole.cons ⟨e.created, Time.add e.clock delay, event⟩).trans
      (List.perm_append_singleton _ _).symm
    exact hp.trans (List.perm_middle.trans hw)
  order := h.order.schedule event delay

lemma next : Agenda (emitted ++ e.putDown .next) (returned ++ e.takenOut .next) (e.operate .next) := by
  rw [putDown, List.append_nil]
  cases hn : e.next? with
  | none =>
    have ht : e.takenOut .next = [] := by
      rw [takenOut, Option.map_eq_none_iff.mp hn]
      rfl
    rw [ht, List.append_nil, operate, hn]
    exact h
  | some x =>
    obtain ⟨event, e'⟩ := x
    obtain ⟨a, _, ha, hd⟩ := exists_deleteMin?_of_next? hn
    rw [takenOut_next hd, operate, hn]
    refine ⟨h.ids.trans (congrArg List.range ha.created.symm), ?_, ?_⟩
    · rw [List.append_assoc]
      exact (ha.calendar.symm.append_left returned).trans h.whole
    · exact (Heap.ordered_deleteMin? Appointment.sorts_before h.order hd).2

lemma operate (o : Operation τ) :
    Agenda (emitted ++ e.putDown o) (returned ++ e.takenOut o) (e.operate o) := by
  cases o with
  | emit event delay => exact h.emit event delay
  | next => exact h.next

end Agenda

variable [Std.TransCmp (Time.compare (τ := τ))]

lemma agenda_foldl_operate (pool : Array ComputeUnit) (ops : List (Operation τ)) :
    Agenda (gathered operate putDown (ofPool pool) ops) (gathered operate takenOut (ofPool pool) ops)
      (ops.foldl operate (ofPool pool)) := by
  induction ops using List.reverseRecOn with
  | nil => exact agenda_ofPool pool
  | append_singleton ops o ih =>
    rw [gathered_concat, gathered_concat, List.foldl_append]
    exact ih.operate o

/-- However events were put down and taken out, no event is taken out twice, and each one has been taken out when
none is left. The next one, whose time is announced and becomes that of the clock, is of those that are still to come
the one with the smallest time, and of several at that time the one that was put down first. -/
theorem taken_out_by_time_then_age (pool : Array ComputeUnit) (ops : List (Operation τ)) :
    let e := ops.foldl operate (ofPool pool)
    let emitted := gathered operate putDown (ofPool pool) ops
    let returned := gathered operate takenOut (ofPool pool) ops
    Appointment.Strict (Appointment.before (τ := τ)) ∧
    emitted.map (·.id) = List.range emitted.length ∧
    returned.Nodup ∧ (∀ a ∈ returned, a ∈ emitted) ∧
    (e.next? = none ↔ returned.Perm emitted) ∧
    ∀ event e', e.next? = some (event, e') → ∃ a ∈ emitted, a ∉ returned ∧ e.takenOut .next = [a] ∧
      a.event = event ∧ e.nextTime? = some a.time ∧ e'.clock = a.time ∧
      ∀ b ∈ emitted, b ∉ returned → b ≠ a → Time.compare a.time b.time = .lt ∨
        Time.compare a.time b.time = .eq ∧ a.id < b.id := by
  intro e emitted returned
  have h : Agenda emitted returned e := agenda_foldl_operate pool ops
  refine ⟨Appointment.strict_before, ?_, (List.nodup_append.mp h.nodup).1, fun a ha => ?_,
    h.next?_eq_none_iff, fun event e' hn => ?_⟩
  · rw [h.length_emitted, h.ids]
  · exact h.whole.subset (List.mem_append_left _ ha)
  · obtain ⟨a, rfl, hn, hd⟩ := exists_deleteMin?_of_next? hn
    have hl := (Heap.ordered_deleteMin? Appointment.sorts_before h.order hd).1
    obtain ⟨he, hr⟩ := h.mem_calendar_iff.mp (hn.calendar.mem_iff.mpr List.mem_cons_self)
    refine ⟨a, he, hr, takenOut_next hd, rfl, nextTime?_eq_some_of_deleteMin? hd, hn.clock, ?_⟩
    intro b hb hbr hba
    have hc := hn.calendar.mem_iff.mp (h.mem_calendar_iff.mpr ⟨hb, hbr⟩)
    have hf := hl b ((List.mem_cons.mp hc).resolve_left hba)
    rcases Appointment.before_eq_false_iff.mp hf with hlt | ⟨heq, hle⟩
    · exact .inl hlt
    · exact .inr ⟨heq, lt_of_le_of_ne hle fun hi => hba (h.eq_of_id hb he hi.symm)⟩

theorem taken_out_by_time_then_age_undefined :
    let ops : List (Operation Binary64) := [.emit .ready .nan, .emit (.provisioned 0) .zero,
      .emit (.provisioned 1) .zero, .next, .emit .ready .negativeInfinity]
    let e := ops.foldl operate (ofPool #[])
    ∃ a ∈ gathered operate putDown (ofPool #[]) ops, e.takenOut .next = [a] ∧ a.id = 3 ∧
      e.nextTime? = some a.time ∧ a.time = .negativeInfinity := by
  intro ops e
  obtain ⟨_, _, _, _, _, hn⟩ := taken_out_by_time_then_age (τ := Binary64) #[] ops
  obtain ⟨⟨event, e'⟩, he⟩ := Option.isSome_iff_exists.mp (show e.next?.isSome = true by decide +kernel)
  obtain ⟨a, ha, _, ht, _, hp, _⟩ := hn event e' he
  have hi : (e.takenOut .next).map (·.id) = [3] := by decide +kernel
  have hc : e.nextTime? = some .negativeInfinity := by decide +kernel
  rw [ht] at hi
  refine ⟨a, ha, ht, by simpa using hi, hp, ?_⟩
  rwa [hp, Option.some_inj] at hc

end Cluster

end Dispatch
