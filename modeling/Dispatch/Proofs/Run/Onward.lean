import Dispatch.Proofs.Cluster.Clock
import Dispatch.Proofs.Run.Deliveries

namespace Dispatch

variable {τ : Type}

def deliveredAt (out : Array (Notice τ)) : List (τ × Event τ) :=
  out.toList.filterMap fun
    | .cluster time (.delivered event) => some (time, event)
    | _ => none

lemma deliveredAt_append (out out' : Array (Notice τ)) :
    deliveredAt (out ++ out') = deliveredAt out ++ deliveredAt out' := by
  simp [deliveredAt]

lemma map_deliveredAt (out : Array (Notice τ)) : (deliveredAt out).map Prod.snd = deliveries out := by
  rw [deliveredAt, List.map_filterMap, deliveries]
  congr 1
  funext n
  cases n with
  | cluster time report => cases report <;> rfl
  | _ => rfl

variable [Time τ]

namespace Cluster

variable {e : Cluster τ} {out : Array (Notice τ)}

lemma foldl_perform_append (acts : List (Action τ)) (s : Cluster τ × Array (Notice τ)) :
    ∃ more, (acts.foldl perform s).2 = s.2 ++ more := by
  induction acts generalizing s with
  | nil => exact ⟨#[], (Array.append_empty).symm⟩
  | cons act acts ih =>
    obtain ⟨more, hm⟩ := ih (perform s act)
    have hp : ∃ x, (perform s act).2 = s.2 ++ x := by
      cases act with
      | forward event => exact ⟨_, rfl⟩
      | submit d u => exact ⟨_, rfl⟩
      | note n => exact ⟨#[n], Array.push_eq_append⟩
    obtain ⟨x, hx⟩ := hp
    exact ⟨x ++ more, by rw [List.foldl_cons, hm, hx, Array.append_assoc]⟩

lemma performed_induction {P : Cluster τ → Prop} (handle : ∀ e event, P e → P (e.handle event).1)
    (submit : ∀ e d u, P e → P (e.submit d u).1) (h : P e) (acts : Array (Action τ)) :
    P (e.performed out acts) := by
  have hl (acts : List (Action τ)) (s : Cluster τ × Array (Notice τ)) (h : P s.1) :
      P (acts.foldl perform s).1 := by
    induction acts generalizing s with
    | nil => exact h
    | cons act acts ih =>
      apply ih
      cases act with
      | forward event => exact handle _ event h
      | submit d u => exact submit _ d u h
      | note n => exact h
  rw [performed, ← Array.foldl_toList]
  exact hl _ _ h

lemma clock_performed (e : Cluster τ) (out : Array (Notice τ)) (acts : Array (Action τ)) :
    (e.performed out acts).clock = e.clock :=
  performed_induction (P := fun f => f.clock = e.clock) (fun f event h => (clock_handle f event).trans h)
    (fun _ _ _ h => clock_submit.trans h) rfl acts

lemma Temporal.performed {P : Cluster τ → Prop} (hP : Temporal P) (h : P e) (acts : Array (Action τ)) :
    P (e.performed out acts) :=
  performed_induction (P := P) (fun _ event h => hP.handle h event) (fun _ d u h => hP.submit h d u) h acts

end Cluster

namespace Run

variable {σ : Type} [Policy σ τ] {s s' : Run σ τ} {out notices : Array (Notice τ)}

lemma deliveredAt_of_step? (h : s.step? = some (s', notices)) : ∃ event e out,
    s.cluster.next? = some (event, e) ∧ deliveredAt notices = [(e.clock, event)] ∧
      s'.cluster = e.performed out (s.scheduler.handle e.clock event).2 := by
  obtain ⟨event, e, out, hn, hd, -, hc⟩ := exists_delivered_of_step? h
  refine ⟨event, e, out, hn, ?_, hc⟩
  -- the delivery is noted first, and there is no other one
  obtain ⟨more, hm⟩ := Cluster.foldl_perform_append (s.scheduler.handle e.clock event).2.toList
    (e, #[.cluster e.clock (.delivered event)])
  have hs : notices = #[.cluster e.clock (.delivered event)] ++ more := by
    rw [← hm, Array.foldl_toList]
    rw [step?, hn] at h
    exact (congrArg Prod.snd (Option.some.inj h)).symm
  have hnil : deliveries more = [] := by
    rw [hs, deliveries_append] at hd
    exact (List.cons.inj hd).2
  rw [← map_deliveredAt, List.map_eq_nil_iff] at hnil
  rw [hs, deliveredAt_append, hnil]
  rfl

variable [Forward τ]

lemma deliver_of_ahead (h : s.cluster.Ahead) (hs : s.step? = some (s', notices)) :
    ∃ a ∈ s.cluster.calendar.toList, s'.cluster.Ahead ∧ deliveredAt notices = [(a.time, a.event)] ∧
      s'.time = a.time ∧ Time.Le s.time s'.time := by
  obtain ⟨event, e, out, hn, hd, hc⟩ := deliveredAt_of_step? hs
  obtain ⟨a, rfl, hn, ha, hl⟩ := h.next hn
  have ht : s'.time = a.time := by rw [time, hc, Cluster.clock_performed, hn.clock]
  rw [hn.clock] at hd hl
  rw [hc]
  exact ⟨a, hn.calendar.mem_iff.mpr List.mem_cons_self, Cluster.temporal_ahead.performed ha _, hd, ht, ht ▸ hl⟩

structure Onward (s : Run σ τ) (out : Array (Notice τ)) : Prop where
  ahead : s.cluster.Ahead
  sorted : ((deliveredAt out).map Prod.fst ++ [s.time]).Pairwise Time.Le

omit [Policy σ τ] in
lemma onward_ofPool (pool : Array ComputeUnit) (g : Workflow τ) (policy : σ) :
    (ofPool pool g policy).Onward #[] :=
  ⟨Cluster.temporal_ahead.startUnits (Cluster.ahead_ofPool pool), List.pairwise_singleton _ _⟩

lemma Onward.step (h : s.Onward out) (hs : s.step? = some (s', notices)) : s'.Onward (out ++ notices) := by
  obtain ⟨a, _, ha, hd, ht, hl⟩ := deliver_of_ahead h.ahead hs
  refine ⟨ha, ?_⟩
  rw [deliveredAt_append, hd, List.map_append, ← ht]
  exact pairwise_concat_self (pairwise_concat_of_le h.sorted hl)

/-- In every state of a run no pending event lies behind the clock, and the events were delivered in the order of
their times; the next step moves the clock to the time of the event that it delivers. -/
theorem time_never_goes_back (pool : Array ComputeUnit) (g : Workflow τ) (policy : σ) (n : ℕ) :
    let r := (ofPool pool g policy).advance n #[]
    let s := r.2.1
    let times := (deliveredAt r.2.2).map Prod.fst
    (∀ a ∈ s.cluster.calendar.toList, Time.Le s.time a.time) ∧
    times.Pairwise Time.Le ∧ (∀ t ∈ times, Time.Le t s.time) ∧
    ∀ s' notices, s.step? = some (s', notices) → ∃ a ∈ s.cluster.calendar.toList,
      deliveredAt notices = [(a.time, a.event)] ∧ s'.time = a.time ∧ Time.Le s.time s'.time := by
  intro r s times
  have h : s.Onward r.2.2 := advance_notices (P := Onward) (fun _ _ _ _ hs h => h.step hs) n #[]
    (onward_ofPool pool g policy)
  obtain ⟨hp, _, hb⟩ := List.pairwise_append.mp h.sorted
  refine ⟨h.ahead.pending, hp, fun t ht => hb t ht _ List.mem_cons_self, fun s' notices hs => ?_⟩
  obtain ⟨a, hm, _, hd, ht, hl⟩ := deliver_of_ahead h.ahead hs
  exact ⟨a, hm, hd, ht, hl⟩

theorem time_never_goes_back_undefined :
    let task (id : TaskId) (x : Binary64) : Task Binary64 :=
      (Task.ofCost id "" 0 (.sequential 1 1 1)).startingFrom x
    let g := (((Workflow.empty.insertTask (task 0 .nan)).insertTask (task 1 .negativeInfinity)).insertTask
      (task 2 .infinity)).insertTask (task 3 .undefined)
    let s := ((ofPool #[⟨0, "", 1, 1, 1⟩, ⟨1, "", 2, 0, 4⟩] g
      (.roundRobin ⟨.ofSize 2, 0⟩ : NamedPolicy)).advance 8 #[]).2.1
    s.time = .infinity ∧ s.cluster.calendar.size = 1 ∧ ∀ a ∈ s.cluster.calendar.toList, Time.Le s.time a.time :=
  ⟨by decide +kernel, by decide +kernel, (time_never_goes_back _ _ _ 8).1⟩

end Run

end Dispatch
