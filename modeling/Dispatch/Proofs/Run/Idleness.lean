import Dispatch.Proofs.Cluster.Seamless
import Dispatch.Proofs.Run.Onward
import Dispatch.Proofs.Run.Outcome
import Dispatch.Proofs.Run.Recurrence

/-! On a single unit with one core no time is lost, whatever the dependencies of the tasks are. -/

namespace Dispatch

open Scheduler Cluster

def Workflow.timeOn (g : Workflow ℚ) (unit : ComputeUnit) (id : TaskId) : ℚ :=
  match g.task? id with
  | some t => (t.length.toNat : ℚ) / (max unit.speed 1).toNat
  | none => 0

namespace Run

structure Unbroken (g : Workflow ℚ) (unit : ComputeUnit) (s : Run NamedPolicy ℚ) : Prop where
  makespan : s.summary.makespan = ((g.ids.filter fun id =>
    s.scheduler.progress.phase? id = some .completed).map (g.timeOn unit)).sum
  single : ∀ id k, s.cluster.isRunning id = true → s.cluster.isRunning k = true → id = k
  alone : ∀ x id k, s.cluster.RunsAt id x → s.cluster.RunsAt k x → id = k
  busy : ∀ x, 0 ≤ x → x < s.time → ∃ id, s.cluster.RunsAt id x
  ended : s.step? = none → s.summary.makespan = s.time

variable {g : Workflow ℚ} {unit : ComputeUnit} {pool : Array ComputeUnit} {c : Scheduler NamedPolicy ℚ}
  {e : Cluster ℚ} {r r' : Run NamedPolicy ℚ} {notices : Array (Notice ℚ)} {id : TaskId}

lemma Working.single (h : Working g #[unit] c e) (hc : e.Charged) (h1 : unit.cores = 1) : e.Single := by
  have place (id : TaskId) (hi : e.isRunning id = true) : id ∈ g.ids ∧ e.At id (.running 0) := by
    obtain ⟨p, hp, hx⟩ := h.joined.agrees id
    obtain ⟨u, rfl⟩ := hp.exists_running hi
    obtain ⟨v, hv, hu⟩ := h.joined.balanced.placed id hx.1
    cases hx.2.symm.trans hu
    obtain rfl : u = 0 := Nat.lt_one_iff.mp hv
    exact ⟨h.joined.faithful.mem_ids hx.1, hp⟩
  intro id k hi hk
  obtain ⟨hid, hp⟩ := place id hi
  obtain ⟨hkd, hp'⟩ := place k hk
  obtain ⟨s, hs, hu⟩ := Option.map_eq_some_iff.mp (h.joined.houses 0)
  exact h.metered.eq_of_single g.nodup_ids hc hs (hu ▸ h1) hid hkd hp hp'

structure Occupied (g : Workflow ℚ) (unit : ComputeUnit) (r : Run NamedPolicy ℚ) : Prop where
  working : Working g #[unit] r.scheduler r.cluster
  punctual : Punctual g #[unit] r.scheduler r.cluster
  atRest : AtRest r.scheduler
  undelayed : r.cluster.Undelayed
  charged : r.cluster.Charged
  seamless : ∃ l t, r.cluster.Seamless l t

lemma occupied_ofPool (g : Workflow ℚ) (unit : ComputeUnit) {name : String} {policy : NamedPolicy}
    (hp : NamedPolicy.ofName? name 1 = some policy) : Occupied g unit (ofPool #[unit] g policy) where
  working := working_ofPool g hp
  punctual := punctual_ofPool g hp
  atRest := atRest_ofWorkflow g policy
  undelayed := temporal_undelayed.startUnits fun _ ha => (List.not_mem_nil ha).elim
  charged := charged_ofPool #[unit] g policy
  seamless := by
    have hr (id : TaskId) : (ofPool #[unit] g policy).cluster.record? id = none :=
      (At.ofPool #[unit] id).startUnits.record
    have hc : (ofPool #[unit] g policy).cluster.clock = 0 := clock_startUnits (Cluster.ofPool #[unit])
    refine ⟨[], 0, rfl, List.nodup_nil, fun id => ?_, fun id hi => ?_, fun _ => hc.symm, hc.ge⟩
    · simp [finished?, hr]
    · simp [isRunning, hr] at hi

lemma Occupied.step (h : Occupied g unit r) (h1 : unit.cores = 1)
    (hg : ∀ id t, g.task? id = some t → t.notBefore ≤ 0) (hs : r.step? = some (r', notices)) :
    Occupied g unit r' := by
  have hw := h.working.step hs
  obtain ⟨hp, hr⟩ := Punctual.step ⟨h.punctual, h.atRest⟩ hs
  obtain ⟨event, e, out, hn, _, _, he⟩ := exists_delivered_of_step? hs
  obtain ⟨a, rfl, hn, _, hf⟩ := h.punctual.timely.inOrder.exists_next hn
  have hrec : r'.cluster.records = (e.handle a.event).1.records := he ▸ records_performed _ _ _ _
  have hclock : r'.cluster.clock = (e.handle a.event).1.clock := by
    rw [he, clock_performed, clock_handle]
  have hle : r.cluster.clock ≤ a.time :=
    (h.punctual.timely.meets a (hn.calendar.mem_iff.mpr List.mem_cons_self)).1
  have hcharged : r'.cluster.Charged := charged_step h.charged hs
  refine ⟨hw, hp, hr, ?_, hcharged, ?_⟩
  · rw [he]
    exact temporal_undelayed.performed (h.undelayed.next hn hle hf) _
  · obtain ⟨l, t, hsl⟩ := h.seamless
    have hl (k : TaskId) : ∃ p, r.cluster.At k p := (h.working.joined.agrees k).imp fun _ => And.left
    have hu (d : Job ℚ) (u : UnitId) (hd : a.event = .arrived d u) : u < r.cluster.units.size :=
      h.working.joined.unit_lt (hd ▸ hn.drawn.mem)
    cases hc : a.event.completes? with
    | none =>
      have hsingle : (e.handle a.event).1.Single := fun id k hi hk => hw.single hcharged h1 id k
        (isRunning_congr hrec ▸ hi) (isRunning_congr hrec ▸ hk)
      -- the clock stands still, so that a task that starts now takes over from the one before
      have hclk := h.punctual.timely.clock_eq_of_next h.undelayed hg hn hc
      exact ⟨l, t, (hsl.handle_quiet hl hn hu hc hclk hsingle).of_eq hrec hclock⟩
    | some id =>
      have hcl := hsl.handle_completed hl hn hu (hn.clock ▸ hle) hc (h.working.single h.charged h1)
      exact ⟨_, _, hcl.of_eq hrec hclock⟩

lemma Occupied.duration (h : Occupied g unit r) {s x : ℚ} (hs : r.cluster.started? id = some s)
    (hx : r.cluster.finished? id = some x) : x = s + g.timeOn unit id := by
  obtain ⟨record, hr, hs⟩ := Option.bind_eq_some_iff.mp hs
  rw [finished?, hr, Option.bind_some] at hx
  have hp := h.punctual.timely.paced id record hr
  obtain ⟨_, s', hs', t, unit', ht, hu, rfl⟩ := hp.finished x hx
  cases hs.symm.trans hs'
  have hz : record.unit = 0 := Nat.lt_one_iff.mp hp.unit
  obtain rfl : unit = unit' := Option.some.inj ((hz ▸ rfl : #[unit][record.unit]? = some unit).symm.trans hu)
  simp only [Workflow.timeOn, ht]

lemma Occupied.unbroken (h : Occupied g unit r) (h1 : unit.cores = 1) : Unbroken g unit r := by
  obtain ⟨l, t, hsl⟩ := h.seamless
  have hs := h.working.single h.charged h1
  have hj := h.working.joined
  have hperm : l.Perm (g.ids.filter fun id => r.scheduler.progress.phase? id = some .completed) := by
    refine (List.perm_ext_iff_of_nodup hsl.nodup (g.nodup_ids.filter _)).mpr fun id => ?_
    rw [hsl.finished, hj.finished?_isSome_iff, List.mem_filter, decide_eq_true_eq]
    exact ⟨fun hc => ⟨hj.faithful.mem_ids hc, hc⟩, And.right⟩
  refine ⟨?_, hs, fun x id k => hsl.eq_of_runsAt hs, fun x => hsl.exists_runsAt, fun he => ?_⟩
  · have ht := hsl.chain.eq_add_sum fun id a b => h.duration
    rw [Run.summary, hsl.makespan_eq, ht, zero_add, (hperm.map _).sum_eq]
  · refine hsl.makespan_eq.trans (hsl.idle fun id => Bool.eq_false_of_not_eq_true fun hi => ?_)
    obtain ⟨p, hp, _⟩ := hj.agrees id
    obtain ⟨u, rfl⟩ := hp.exists_running hi
    have hn := hp.events_eq_zero (step?_eq_none_iff.mp he)
    simp [Place.events] at hn

/-- A run on one unit with one core, of tasks that may all start at once as far as they do not depend on each other,
goes on without a break until it ends, and then it has taken as long as the completed tasks together. These are all but
those that a cycle keeps waiting. -/
theorem one_core_never_idle (g : Workflow ℚ) (hg : ∀ id t, g.task? id = some t → t.notBefore ≤ 0)
    (unit : ComputeUnit) (h1 : unit.cores = 1) (name : String) (policy : NamedPolicy)
    (hp : NamedPolicy.ofName? name 1 = some policy) :
    let s := ofPool #[unit] g policy
    s.toEnd.1.step? = none ∧ (g.Closed → Outcome g #[unit] s.toEnd.1) ∧ Unbroken g unit s.toEnd.1 ∧
      ∀ n out, Unbroken g unit (s.advance n out).2.1 := by
  intro s
  have initial : Occupied g unit s := occupied_ofPool g unit hp
  have step (r r' : Run NamedPolicy ℚ) (notices : Array (Notice ℚ)) (hs : r.step? = some (r', notices))
      (h : Occupied g unit r) : Occupied g unit r' := h.step h1 hg hs
  have ends : s.toEnd.1.step? = none := toEnd_ends s
  refine ⟨ends, fun hclosed => ?_, ?_, fun n out => ?_⟩
  · obtain ⟨hw, hr⟩ := runUntil_induction
      (P := fun r => UnderWay g #[unit] r.scheduler r.cluster ∧ AtRest r.scheduler)
      (fun r r' notices hs h => ⟨h.1.step hclosed Nat.one_pos hs, h.1.atRest_step h.2 hs⟩) (fun _ => false) s.budget
      #[] ⟨underWay_ofPool g hp, atRest_ofWorkflow g policy⟩
    refine hw.outcome hr (fun u hu => ?_) (step?_eq_none_iff.mp ends)
    rw [List.mem_singleton.mp (Array.mem_toList_iff.mpr hu), h1, UInt32.toNat_one]
    exact Nat.one_pos
  · exact (runUntil_induction step _ _ _ initial).unbroken h1
  · exact (advance_induction step n out initial).unbroken h1

theorem one_core_never_idle_chain :
    let unit : ComputeUnit := ⟨0, "", 2, 1, 1⟩
    let task (id : TaskId) (cores : UInt32) : Task ℚ := .ofCost id "" 0 ⟨3, 1, cores, 3⟩
    let g : Workflow ℚ := (((Workflow.empty.insertTask ((task 0 1).startingFrom (-1))).insertTask
      (task 1 8)).insertTask (task 2 0)).link 0 1
    let s := (ofPool #[unit] g (.roundRobin ⟨.ofSize 1, 0⟩ : NamedPolicy)).toEnd.1
    (∀ id t, g.task? id = some t → t.notBefore ≤ 0) ∧ unit.cores = 1 ∧ Outcome g #[unit] s ∧ Unbroken g unit s ∧
      s.scheduler.progress.completed = 3 ∧ s.time = 9 / 2 := by
  intro unit task g s
  have hg : ∀ id t, g.task? id = some t → t.notBefore ≤ 0 := by
    have hl : ∀ id ∈ g.ids, ∀ t ∈ g.task? id, t.notBefore ≤ 0 := by decide +kernel
    intro id t ht
    exact hl id (g.mem_ids.mpr (g.contains_iff_task?.mpr ⟨t, ht⟩)) t ht
  have hclosed : g.Closed := g.danglingLink?_eq_none_iff.mp (by decide +kernel)
  obtain ⟨_, ho, h, _⟩ := one_core_never_idle g hg unit rfl "RoundRobin" (.roundRobin ⟨.ofSize 1, 0⟩) rfl
  exact ⟨hg, rfl, ho hclosed, h, by decide +kernel, by decide +kernel⟩

end Run

end Dispatch
