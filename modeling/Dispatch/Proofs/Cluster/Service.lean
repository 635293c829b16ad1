import Dispatch.Proofs.Cluster.Session
import Dispatch.Proofs.Cluster.Waiting
import Dispatch.Proofs.Totals

namespace Dispatch.Cluster.Session

variable {τ : Type} [Time τ] {e f : Cluster τ} {pool : Array ComputeUnit} {log : List (Job τ × UnitId)} {s : Session τ}
  {events : List (Event τ)} {event : Event τ} {d : Job τ} {u : UnitId} {id : TaskId} {t : τ} {x : Request τ}

def heard (s : Session τ) : Request τ → List (Event τ)
  | .handle i => s.taken[i]?.toList
  | _ => []

structure Serves (events : List (Event τ)) (s : Session τ) : Prop where
  ahead : s.cluster.Ahead
  tight : s.cluster.AllTight
  lined : ∀ u, Lined events s.cluster u

omit [Time τ] in
lemma Kept.queued (h : s.Kept pool log) (hd : d ∈ s.cluster.queueAt u) :
    s.cluster.started? d.taskId = none ∧ s.cluster.unitOf? d.taskId = some u := by
  obtain ⟨f, ha, hs⟩ := h
  obtain ⟨p, hp, -⟩ := hs.placed d.taskId
  rw [queueAt, ← ha.units, ← queueAt] at hd
  obtain rfl := hp.eq_queued hd
  rw [started?, unitOf?, ← ha.record?]
  exact ⟨hp.started?_queued, hp.unitOf?_queued⟩

lemma Kept.running {i : ℕ} {k : TaskId} (h : s.Kept pool log) (hi : s.taken[i]? = some (.completed k u)) :
    s.cluster.unitOf? k = some u := by
  obtain ⟨f, f', hs, hd, ha⟩ := h.drawn hi
  obtain ⟨p, hp, -⟩ := hs.placed k
  obtain rfl := Place.eq_running (hp.mem_events hd.mem rfl)
  rw [unitOf?, ← ha.record?, hd.record?]
  exact hp.unitOf?_running

omit [Time τ] in
lemma tight_of_eq (h : e.AllTight) (hu : f.units = e.units) : f.AllTight := by
  rw [AllTight, hu]
  exact h

lemma Kept.starts (h : s.Kept pool log) (hs : s.cluster.AllTight) (hn : s.cluster.started? id = none)
    (ht : (s.serve x).cluster.started? id = some t) : t = s.cluster.clock ∧ ∃ i event u, x = .handle i ∧
      s.taken[i]? = some event ∧ (s.serve x).cluster.unitOf? id = some u ∧
      Occasion s.cluster (s.serve x).cluster id u event := by
  have hx : s.cluster.started? id ≠ some t := by simp [hn]
  cases x with
  | provision =>
    rw [Session.serve, started?, record?, (awaits_startUnits s.cluster).records] at ht
    exact (hx ht).elim
  | submit d u =>
    have hr : (s.cluster.submit d u).1.started? id = s.cluster.started? id := by
      rw [Cluster.submit]
      split <;> rfl
    exact (hx (hr.symm.trans ht)).elim
  | take =>
    rw [Session.serve] at ht
    split at ht
    · exact (hx ht).elim
    · rename_i event e hn
      rw [started?, (drawn_of_next? hn).record?] at ht
      exact (hx ht).elim
  | handle i =>
    rw [Session.serve] at ht ⊢
    split at ht
    · exact (hx ht).elim
    · rename_i event hi
      obtain ⟨hc, u, hu, ho⟩ := occasion_of_started? hs (fun u d hd => (h.queued hd).2)
        (fun k u he => h.running (he ▸ hi)) hn ht
      exact ⟨hc, i, event, u, rfl, hi, hu, ho⟩

variable [Forward τ]

lemma serves_ofPool (pool : Array ComputeUnit) : (ofPool pool : Session τ).Serves [] where
  ahead := ahead_ofPool pool
  tight u t ht d hd := by
    obtain ⟨unit, -, rfl⟩ := Option.map_eq_some_iff.mp ((Array.getElem?_map ..).symm.trans ht)
    cases hd
  lined u := by
    refine ⟨[], [], ?_, rfl, List.pairwise_singleton _ _⟩
    change _ = Cluster.queueAt (Cluster.ofPool pool) u
    rw [queueAt, Cluster.ofPool, Array.getElem?_map]
    cases pool[u]? <;> rfl

lemma Serves.provision (h : s.Serves events) : (s.serve .provision).Serves events := by
  obtain ⟨_, hu, hr, _⟩ := awaits_startUnits s.cluster
  exact ⟨temporal_ahead.startUnits h.ahead, tight_of_eq h.tight hu, fun u =>
    (h.lined u).advance hr hu (clock_startUnits s.cluster ▸ .refl _)⟩

lemma Serves.submit (h : s.Serves events) (d : Job τ) (u : UnitId) :
    (s.serve (.submit d u)).Serves events := by
  have hs : (s.cluster.submit d u).1.units = s.cluster.units ∧
      (s.cluster.submit d u).1.records = s.cluster.records := by
    rw [Cluster.submit]
    split <;> exact ⟨rfl, rfl⟩
  refine ⟨temporal_ahead.submit h.ahead d u, h.tight.submit d u, fun v => (h.lined v).advance hs.2 hs.1 ?_⟩
  have hc : (s.cluster.submit d u).1.clock = s.cluster.clock := clock_submit
  exact hc ▸ .refl _

lemma Serves.take (h : s.Serves events) : (s.serve .take).Serves events := by
  rw [serve]
  split
  · exact h
  · rename_i event e hn
    obtain ⟨a, -, hn, ha, hl⟩ := h.ahead.next hn
    exact ⟨ha, tight_of_eq h.tight hn.drawn.units, fun u =>
      (h.lined u).advance hn.drawn.records hn.drawn.units hl⟩

lemma Serves.lined_handle {i : ℕ} (h : s.Serves events) (hk : s.Kept pool log) (hi : s.taken[i]? = some event)
    (u : UnitId) : Lined (events ++ [event]) (s.cluster.handle event).1 u := by
  obtain ⟨f, f', hs, hd, ha⟩ := hk.drawn hi
  have hl (v : UnitId) : Lined events f' v :=
    (h.lined v).advance ha.records ha.units (ha.clock ▸ .refl _)
  have hu (d : Job τ) (u : UnitId) (he : event = .arrived d u) : u < f'.units.size := by
    have hm := hs.admits (he ▸ hd.mem)
    rw [hd.units]
    exact of_decide_eq_true hm
  have hx := ha.handle event
  refine (Lined.handle hl (fun k => ?_) hd hu u).advance hx.records.symm hx.units.symm (hx.clock ▸ .refl _)
  obtain ⟨p, hp, -⟩ := hs.placed k
  exact ⟨p, hp⟩

lemma Serves.serve (h : s.Serves events) (hk : s.Kept pool log) (x : Request τ) :
    (s.serve x).Serves (events ++ s.heard x) := by
  cases x with
  | provision => exact (List.append_nil events).symm ▸ h.provision
  | submit d u => exact (List.append_nil events).symm ▸ h.submit d u
  | take => exact (List.append_nil events).symm ▸ h.take
  | handle i =>
    rw [Session.serve, heard]
    split
    · rename_i hi
      rw [hi, Option.toList_none, List.append_nil]
      exact h
    · rename_i event hi
      rw [hi, Option.toList_some]
      exact ⟨temporal_ahead.handle h.ahead event, h.tight.handle event, h.lined_handle hk hi⟩

lemma serves_serveAll (pool : Array ComputeUnit) (requests : List (Request τ))
    (hn : ((submitted requests).map fun x => x.1.taskId).Nodup) :
    ((ofPool pool).serveAll requests).Serves (gathered Session.serve heard (ofPool pool) requests) := by
  induction requests using List.reverseRecOn with
  | nil => exact serves_ofPool pool
  | append_singleton requests x ih =>
    rw [submitted_append, List.map_append] at hn
    have hr := (List.nodup_append.mp hn).1
    rw [gathered_concat, serveAll, List.foldl_append]
    exact (ih hr).serve (accounted_serveAll pool requests hr).kept x

/-- Whatever is submitted, and in whatever order the events of the cluster happen, those who wait on a unit are those
that arrived there and did not start, in the order of their arrival; they start in that order, and the first one waits
only for cores. A task starts when it arrives or when another task ends on its unit. -/
theorem served_in_turn (pool : Array ComputeUnit) (requests : List (Request τ))
    (hn : ((submitted requests).map fun x => x.1.taskId).Nodup) :
    let s := (ofPool pool).serveAll requests
    let e := s.cluster
    let arrived := arrivals (gathered serve heard (ofPool pool) requests)
    (∀ u, e.queueAt u = (arrived u).filter fun d => (e.started? d.taskId).isNone) ∧
    (∀ u, (arrived u).Pairwise fun d d' => ∀ t', e.started? d'.taskId = some t' →
      ∃ t, e.started? d.taskId = some t ∧ Time.Le t t') ∧
    (∀ (u : UnitId) (unit : ComputeUnit), pool[u]? = some unit → ∃ station : Station τ,
      e.units[u]? = some station ∧ station.unit = unit ∧
        ∀ d, (e.queueAt u).head? = some d → station.free < station.demand d) ∧
    ∀ x id t, e.started? id = none → (s.serve x).cluster.started? id = some t → t = e.clock ∧
      ∃ i event u, x = .handle i ∧ s.taken[i]? = some event ∧ (s.serve x).cluster.unitOf? id = some u ∧
        Occasion e (s.serve x).cluster id u event := by
  intro s e arrived
  have hk : s.Kept pool (submitted requests) := (accounted_serveAll pool requests hn).kept
  have h : s.Serves _ := serves_serveAll pool requests hn
  have hw (u : UnitId) (d : Job τ) (hd : d ∈ e.queueAt u) : e.started? d.taskId = none := (hk.queued hd).1
  refine ⟨fun u => (h.lined u).filter_waiting (hw u), fun u => (h.lined u).in_turn (hw u),
    fun u unit hu => ?_, fun x id t hn ht => hk.starts h.tight hn ht⟩
  obtain ⟨f, ha, hs⟩ := hk
  obtain ⟨station, hst, rfl, -⟩ := hs.station hu
  rw [ha.units] at hst
  refine ⟨station, hst, rfl, fun d hd => ?_⟩
  rw [queueAt_of_get? hst] at hd
  exact UInt32.lt_iff_toNat_lt.mpr (h.tight u station hst d hd)

theorem served_in_turn_behind :
    let pool : Array ComputeUnit := #[⟨0, "", 1, 2, 1⟩]
    let requests : List (Request Binary64) :=
      [.submit ⟨7, 1, 2, 0, .nan⟩ 0, .submit ⟨8, 1, 1, 0, .zero⟩ 0, .submit ⟨9, 1, 1, 0, .negativeInfinity⟩ 0,
        .take, .take, .take, .handle 1, .handle 0, .handle 0]
    let e := ((ofPool pool).serveAll requests).cluster
    let s := (ofPool pool).serveAll (requests ++ [.take])
    let f := (s.serve (.handle 0)).cluster
    (((submitted requests).map fun x => x.1.taskId).Nodup ∧ e.started? 8 = some .zero ∧
      (e.queueAt 0).map Job.taskId = [7, 9] ∧
      e.queueAt 0 = (arrivals (gathered serve heard (ofPool pool) requests) 0).filter
        fun d => (e.started? d.taskId).isNone) ∧
    ((submitted (requests ++ [.take])).map fun x => x.1.taskId).Nodup ∧
      s.cluster.started? 7 = none ∧ f.started? 7 = some s.cluster.clock ∧
      (f.queueAt 0).map Job.taskId = [9] ∧ Occasion s.cluster f 7 0 (.completed 8 0) := by
  intro pool requests e s f
  have hn : ((submitted requests).map fun x => x.1.taskId).Nodup := by decide +kernel
  have hm : ((submitted (requests ++ [.take])).map fun x => x.1.taskId).Nodup := by decide +kernel
  have hw : s.cluster.started? 7 = none := by decide +kernel
  have hs : f.started? 7 = some s.cluster.clock := by decide +kernel
  have ht : s.taken[0]? = some (.completed 8 0) := by decide +kernel
  have hu : f.unitOf? 7 = some 0 := by decide +kernel
  refine ⟨⟨hn, by decide +kernel, by decide +kernel, (served_in_turn pool requests hn).1 0⟩, hm, hw, hs,
    by decide +kernel, ?_⟩
  obtain ⟨-, i, event, u, hi, he, hv, ho⟩ := (served_in_turn pool _ hm).2.2.2 (.handle 0) 7 _ hw hs
  cases hi
  cases ht.symm.trans he
  cases hu.symm.trans hv
  exact ho

end Dispatch.Cluster.Session
