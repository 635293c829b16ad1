import Dispatch.Proofs.Cluster.Effects
import Dispatch.Proofs.HeapOrder
import Dispatch.Time.Binary64

namespace Dispatch

lemma compare_rat : Time.compare (τ := Rat) = compare := by
  funext x y
  exact (LinearOrder.compare_eq_compareOfLessAndEq x y).symm

instance : Std.TransCmp (Time.compare (τ := Rat)) := by
  rw [compare_rat]
  infer_instance

instance : Std.TransCmp (Time.compare (τ := Binary64)) where
  eq_swap {x y} := @Std.OrientedCmp.eq_swap UInt64 compare _ x.rank y.rank
  isLE_trans {x y z} := @Std.TransCmp.isLE_trans UInt64 compare _ x.rank y.rank z.rank

variable {τ : Type} [Time τ] {a b : Appointment τ}

namespace Appointment

lemma before_eq_false : a.before b = false ↔ (a.priority b).isLE = true := by
  rw [before, Ordering.isLE_iff_ne_gt, beq_eq_false_iff_ne]

lemma before_eq_false_iff : b.before a = false ↔ Time.compare a.time b.time = .lt ∨
    Time.compare a.time b.time = .eq ∧ a.id ≤ b.id := by
  rw [← Nat.isLE_compare, ← Ordering.isLE_then_iff_or, before_eq_false, priority]

variable [Std.TransCmp (Time.compare (τ := τ))]

instance : Std.TransCmp (priority (τ := τ)) := by
  have ht : Std.TransCmp fun a b : Appointment τ => Time.compare b.time a.time :=
    { eq_swap := Std.OrientedCmp.eq_swap
      isLE_trans := fun h h' => Std.TransCmp.isLE_trans h' h }
  have hi : Std.TransCmp fun a b : Appointment τ => compare b.id a.id :=
    { eq_swap := Std.OrientedCmp.eq_swap
      isLE_trans := fun h h' => Std.TransCmp.isLE_trans h' h }
  exact inferInstanceAs (Std.TransCmp (compareLex _ _))

lemma sorts_before : Heap.Sorts (before (τ := τ)) where
  asymm {a b} h := by
    rw [before, beq_iff_eq, Std.OrientedCmp.gt_iff_lt] at h
    rw [before, h]
    rfl
  trans {a b c} h h' := by
    rw [before_eq_false] at h h' ⊢
    exact Std.TransCmp.isLE_trans h' h

end Appointment

namespace Cluster

variable {e e' : Cluster τ} {event : Event τ}

lemma appointments_schedule (e : Cluster τ) (event : Event τ) (delay : τ) :
    (e.schedule event delay).calendar.toList.Perm
      (⟨e.created, Time.add e.clock delay, event⟩ :: e.calendar.toList) :=
  Heap.toList_insert_perm _ _ _

lemma startWaiting_pushes {P : Calendar τ → ℕ → Prop}
    (push : ∀ q n event time, P q n → P (q.push ⟨n, time, event⟩) (n + 1))
    (h : P e.calendar e.created) (u : UnitId) :
    P (e.startWaiting u).1.calendar (e.startWaiting u).1.created :=
  startWaiting_induction (P := fun e => P e.calendar e.created)
    (fun _ _ _ _ _ _ _ h => push _ _ _ _ h) h

lemma handle_pushes {P : Calendar τ → ℕ → Prop}
    (push : ∀ q n event time, P q n → P (q.push ⟨n, time, event⟩) (n + 1))
    (h : P e.calendar e.created) (event : Event τ) :
    P (e.handle event).1.calendar (e.handle event).1.created :=
  handle_cases (P := fun e => P e.calendar e.created) (fun _ _ => h) (fun _ _ => push _ _ _ _ h)
    (fun d u _ => startWaiting_pushes (e := e.enter d u) push h u)
    (fun id u _ _ => startWaiting_pushes (e := e.leave id u) push h u) fun _ _ _ _ => h

lemma submit_pushes {P : Calendar τ → ℕ → Prop}
    (push : ∀ q n event time, P q n → P (q.push ⟨n, time, event⟩) (n + 1))
    (h : P e.calendar e.created) (d : Job τ) (u : UnitId) :
    P (e.submit d u).1.calendar (e.submit d u).1.created := by
  rw [submit]
  split
  · exact push _ _ _ _ h
  · exact h

structure Next (e : Cluster τ) (a : Appointment τ) (e' : Cluster τ) : Prop where
  drawn : e.Drawn a.event e'
  calendar : e.calendar.toList.Perm (a :: e'.calendar.toList)
  clock : e'.clock = a.time
  created : e'.created = e.created

lemma exists_deleteMin?_of_next? (h : e.next? = some (event, e')) : ∃ a, a.event = event ∧
    e.Next a e' ∧ e.calendar.deleteMin? Appointment.before = some (a, e'.calendar) := by
  obtain ⟨⟨a, rest⟩, ha, he⟩ := Option.map_eq_some_iff.mp h
  cases he
  exact ⟨a, rfl, ⟨drawn_of_next? h, Heap.toList_of_deleteMin? ha, rfl, rfl⟩, ha⟩

def Counted (n : ℕ) (e : Cluster τ) : Prop := e.created = n + e.calendar.toList.length

lemma counted_push {n : ℕ} (q : Calendar τ) (m : ℕ) (event : Event τ) (time : τ)
    (h : m = n + q.toList.length) : m + 1 = n + (q.push ⟨m, time, event⟩).toList.length := by
  rw [Calendar.push, (Heap.toList_insert_perm ..).length_eq, List.length_cons, h]
  rfl

lemma Counted.startUnits {n : ℕ} (h : e.Counted n) : e.startUnits.Counted n :=
  startUnits_induction (P := Counted n) (fun _ _ _ h => counted_push _ _ _ _ h) h

lemma Counted.handle {n : ℕ} (h : e.Counted n) (event : Event τ) : (e.handle event).1.Counted n :=
  handle_pushes (P := fun q m => m = n + q.toList.length) counted_push h event

lemma Counted.submit {n : ℕ} (h : e.Counted n) (d : Job τ) (u : UnitId) : (e.submit d u).1.Counted n :=
  submit_pushes (P := fun q m => m = n + q.toList.length) counted_push h d u

omit [Time τ] in
lemma Counted.next {n : ℕ} {a : Appointment τ} (h : e.Counted n) (hn : e.Next a e') :
    e'.Counted (n + 1) := by
  rw [Counted, hn.created, h, hn.calendar.length_eq, List.length_cons]
  omega

def InOrder (e : Cluster τ) : Prop := e.calendar.Ordered Appointment.before

variable [Std.TransCmp (Time.compare (τ := τ))]

lemma InOrder.schedule (h : e.InOrder) (event : Event τ) (delay : τ) : (e.schedule event delay).InOrder :=
  Heap.ordered_insert Appointment.sorts_before h _

lemma InOrder.exists_next (h : e.InOrder) (hn : e.next? = some (event, e')) : ∃ a, a.event = event ∧
    e.Next a e' ∧ e'.InOrder ∧ ∀ b ∈ e'.calendar.toList, b.before a = false := by
  obtain ⟨a, ha, hn, hd⟩ := exists_deleteMin?_of_next? hn
  obtain ⟨hl, ho⟩ := Heap.ordered_deleteMin? Appointment.sorts_before h hd
  exact ⟨a, ha, hn, ho, hl⟩

end Cluster

end Dispatch
