import Dispatch.Proofs.Cluster.Steady

/-! A cluster in the hands of someone who submits jobs at any moment, takes events out of it and has each of
them handled at once, later or never. No unit gives away more cores than it has, and none gets lost. -/

namespace Dispatch.Cluster

variable {τ : Type} [Time τ]

inductive Request (τ : Type) where
  | provision
  | submit (d : Job τ) (u : UnitId)
  | take
  | handle (i : ℕ)

structure Session (τ : Type) where
  cluster : Cluster τ
  taken : List (Event τ) := []
  reports : List (ClusterReport τ) := []

namespace Session

def ofPool (pool : Array ComputeUnit) : Session τ where
  cluster := Cluster.ofPool pool

def serve (s : Session τ) : Request τ → Session τ
  | .provision => { s with cluster := s.cluster.startUnits }
  | .submit d u =>
    let (e, out) := s.cluster.submit d u
    { s with cluster := e, reports := s.reports ++ out.toList }
  | .take =>
    match s.cluster.next? with
    | none => s
    | some (event, e) => { s with cluster := e, taken := s.taken ++ [event] }
  | .handle i =>
    match s.taken[i]? with
    | none => s
    | some event =>
      let (e, out) := s.cluster.handle event
      { s with cluster := e, taken := s.taken.eraseIdx i, reports := s.reports ++ out.toList }

def serveAll (s : Session τ) (requests : List (Request τ)) : Session τ := requests.foldl serve s

end Session

omit [Time τ] in
def submitted (requests : List (Request τ)) : List (Job τ × UnitId) :=
  requests.filterMap fun
    | .submit d u => some (d, u)
    | _ => none

omit [Time τ] in
lemma submitted_append (requests : List (Request τ)) (x : Request τ) :
    submitted (requests ++ [x]) = submitted requests ++ submitted [x] := List.filterMap_append

namespace Session

variable {pool : Array ComputeUnit} {log : List (Job τ × UnitId)} {s : Session τ} {event : Event τ}

def Kept (pool : Array ComputeUnit) (log : List (Job τ × UnitId)) (s : Session τ) : Prop :=
  ∃ f, Alongside ↑s.taken s.cluster f ∧ Steady pool log f

lemma Kept.take {e : Cluster τ} (h : s.Kept pool log) (hn : s.cluster.next? = some (event, e)) :
    Kept pool log { s with cluster := e, taken := s.taken ++ [event] } := by
  obtain ⟨f, ha, hs⟩ := h
  have hd := drawn_of_next? hn
  refine ⟨{ f with clock := e.clock }, ⟨?_, rfl, ha.units.trans hd.units.symm,
    ha.records.trans hd.records.symm, ha.readyUnits.trans hd.readyUnits.symm⟩,
    hs.of_eq (fun _ => rfl) rfl rfl⟩
  refine ha.events.trans ?_
  rw [hd.events, ← Multiset.coe_add, add_assoc, Multiset.coe_singleton, Multiset.singleton_add]

omit [Time τ] in
lemma cons_eraseIdx {i : ℕ} {l : List (Event τ)} (h : l[i]? = some event) :
    (l : Multiset (Event τ)) = event ::ₘ ↑(l.eraseIdx i) := by
  obtain ⟨hi, rfl⟩ := List.getElem?_eq_some_iff.mp h
  exact Multiset.coe_eq_coe.mpr (List.getElem_cons_eraseIdx_perm hi).symm

lemma Kept.drawn {i : ℕ} (h : s.Kept pool log) (hi : s.taken[i]? = some event) :
    ∃ f f', Steady pool log f ∧ f.Drawn event f' ∧ Alongside ↑(s.taken.eraseIdx i) s.cluster f' := by
  obtain ⟨f, ha, hs⟩ := h
  -- all taken events but this one are given back: as a multiset, drawing it leaves exactly those
  obtain ⟨f', hf⟩ := Alongside.exists_of_list (s.taken.eraseIdx i) s.cluster
  refine ⟨f, f', hs, ⟨?_, hf.units.trans ha.units.symm, hf.records.trans ha.records.symm,
    hf.readyUnits.trans ha.readyUnits.symm⟩, hf⟩
  rw [ha.events, hf.events, cons_eraseIdx hi, Multiset.cons_add]

lemma Kept.expected {i : ℕ} (h : s.Kept pool log) (hi : s.taken[i]? = some event) (id : TaskId) :
    .unexpectedCompletion id ∉ (s.cluster.handle event).2 := by
  intro hm
  obtain ⟨hr, u, rfl⟩ := answers_of_mem hm
  obtain ⟨f, f', hs, hd, ha⟩ := h.drawn hi
  obtain ⟨p, hp, _⟩ := hs.placed id
  obtain rfl := Place.eq_running (hp.mem_events hd.mem rfl)
  have hx := hp.isRunning
  rw [Cluster.isRunning, ← hd.record?, ← Cluster.isRunning, ha.isRunning, hr] at hx
  cases hx

structure Accounted (pool : Array ComputeUnit) (log : List (Job τ × UnitId)) (s : Session τ) : Prop where
  kept : s.Kept pool log
  expected : ∀ id, .unexpectedCompletion id ∉ s.reports

lemma Accounted.provision (h : s.Accounted pool log) : (s.serve .provision).Accounted pool log := by
  obtain ⟨⟨f, ha, hs⟩, he⟩ := h
  exact ⟨⟨f.startUnits, ha.startUnits, hs.startUnits⟩, he⟩

lemma Accounted.submit (h : s.Accounted pool log) (d : Job τ) (u : UnitId)
    (hd : d.taskId ∉ log.map fun x => x.1.taskId) :
    (s.serve (.submit d u)).Accounted pool (log ++ [(d, u)]) := by
  obtain ⟨⟨f, ha, hs⟩, he⟩ := h
  refine ⟨⟨(f.submit d u).1, ha.submit d u, hs.submit u hd⟩, fun id hm => ?_⟩
  rcases List.mem_append.mp hm with hm | hm
  · exact he id hm
  · cases eq_unknownUnit_of_mem (Array.mem_toList_iff.mp hm)

lemma Accounted.take (h : s.Accounted pool log) : (s.serve .take).Accounted pool log := by
  rw [serve]
  split
  · exact h
  · rename_i hx
    exact ⟨h.kept.take hx, h.expected⟩

lemma Accounted.handle (h : s.Accounted pool log) (hn : (log.map fun x => x.1.taskId).Nodup) (i : ℕ) :
    (s.serve (.handle i)).Accounted pool log := by
  rw [serve]
  split
  · exact h
  · rename_i event hi
    obtain ⟨f, f', hs, hd, ha⟩ := h.kept.drawn hi
    refine ⟨⟨(f'.handle event).1, ha.handle event, hs.handle hn hd⟩, fun id hm => ?_⟩
    rcases List.mem_append.mp hm with hm | hm
    · exact h.expected id hm
    · exact h.kept.expected hi id (Array.mem_toList_iff.mp hm)

lemma accounted_serveAll (pool : Array ComputeUnit) (requests : List (Request τ))
    (hn : ((submitted requests).map fun x => x.1.taskId).Nodup) :
    ((ofPool pool).serveAll requests).Accounted pool (submitted requests) := by
  induction requests using List.reverseRecOn with
  | nil => exact ⟨⟨_, .refl _, steady_ofPool pool⟩, fun id => List.not_mem_nil⟩
  | append_singleton requests x ih =>
    rw [submitted_append, List.map_append] at hn
    obtain ⟨hr, _, hx⟩ := List.nodup_append.mp hn
    have h := ih hr
    rw [serveAll, List.foldl_append, submitted_append]
    cases x with
    | submit d u => exact h.submit d u fun hm => hx _ hm _ List.mem_cons_self rfl
    | provision => simpa [submitted, serveAll] using h.provision
    | take => simpa [submitted, serveAll] using h.take
    | handle i => simpa [submitted, serveAll] using h.handle hr i

/-- Whatever is submitted, and in whatever order the events of the cluster happen, the free cores of a unit
and those in use are its cores. -/
theorem cores_conserved (pool : Array ComputeUnit) (requests : List (Request τ))
    (hn : ((submitted requests).map fun x => x.1.taskId).Nodup) :
    let s := (ofPool pool).serveAll requests
    (∀ (u : UnitId) (unit : ComputeUnit), pool[u]? = some unit → ∃ t : Station τ,
      s.cluster.units[u]? = some t ∧ t.unit = unit ∧
        t.free.toNat + s.cluster.inUse u = unit.cores.toNat) ∧
    (∀ id r, s.cluster.record? id = some r → r.started.isSome = true → r.finished = none →
      ∃ d unit, (d, r.unit) ∈ submitted requests ∧ d.taskId = id ∧ pool[r.unit]? = some unit ∧
        r.cores = min (max d.cores 1) unit.cores) ∧
    (∀ event ∈ s.taken, s.cluster.admits event = true) ∧
    ∀ id, .unexpectedCompletion id ∉ s.reports := by
  intro s
  obtain ⟨⟨f, ha, hs⟩, he⟩ := accounted_serveAll pool requests hn
  refine ⟨fun u unit hu => ?_, fun id r hr hst hf => ?_, fun event hm => ?_, he⟩
  · obtain ⟨t, ht, htu, hc⟩ := hs.station hu
    refine ⟨t, ha.units ▸ ht, htu, ?_⟩
    rw [← hc, ← ha.inUse, inUse_eq_total hn]
    intro id r hr
    obtain ⟨p, hp, hl⟩ := hs.located id
    refine hl ?_
    rintro rfl
    cases hr.symm.trans hp.record
  · obtain ⟨d, unit, _, hm, hi, hu, _, hc, _⟩ := hs.running ((ha.record? id).trans hr) hst hf
    refine ⟨d, unit, hm, hi, hu, UInt32.toNat_inj.mp ?_⟩
    rw [hc, UInt32.toNat_min, UInt32.toNat_max]
    rfl
  · rw [← ha.admits]
    exact hs.admits (ha.events ▸ Multiset.mem_add.mpr (.inl (Multiset.mem_coe.mpr hm)))

theorem cores_conserved_late :
    let pool : Array ComputeUnit := #[⟨0, "", 1, 2, 1⟩]
    let requests : List (Request Rat) :=
      [.provision, .take, .submit ⟨7, 1, 3, 0, 0⟩ 0, .take, .handle 1, .submit ⟨8, 1, 1, 0, 0⟩ 0]
    let more := requests ++ [.take, .handle 1, .take, .handle 1]
    let s := (ofPool pool).serveAll requests
    let s' := (ofPool pool).serveAll more
    (((submitted requests).map fun x => x.1.taskId).Nodup ∧
      s.cluster.isRunning 7 = true ∧ s.cluster.inUse 0 = 2 ∧
      ∃ t : Station Rat, s.cluster.units[0]? = some t ∧ t.free.toNat + s.cluster.inUse 0 = 2) ∧
    ((submitted more).map fun x => x.1.taskId).Nodup ∧
      (s'.cluster.record? 7).bind Record.finished = some 1 ∧ s'.cluster.isRunning 8 = true ∧ s'.cluster.inUse 0 = 1 ∧
      ∃ t : Station Rat, s'.cluster.units[0]? = some t ∧ t.free.toNat + s'.cluster.inUse 0 = 2 := by
  intro pool requests more s s'
  have hn : ((submitted requests).map fun x => x.1.taskId).Nodup := by decide +kernel
  have hm : ((submitted more).map fun x => x.1.taskId).Nodup := by decide +kernel
  obtain ⟨t, ht, _, hc⟩ := (cores_conserved pool requests hn).1 0 ⟨0, "", 1, 2, 1⟩ rfl
  have hs : s' = (ofPool pool).serveAll more := rfl
  obtain ⟨t', ht', _, hc'⟩ := (cores_conserved pool more hm).1 0 ⟨0, "", 1, 2, 1⟩ rfl
  rw [← hs] at ht' hc'
  have hf : (s'.cluster.record? 7).bind Record.finished = some 1 := by decide +kernel
  have hr : s'.cluster.isRunning 8 = true := by decide +kernel
  have hi : s'.cluster.inUse 0 = 1 := by decide +kernel
  exact ⟨⟨hn, by decide +kernel, by decide +kernel, t, ht, hc⟩, hm, hf, hr, hi, t', ht', hc'⟩

end Session

end Dispatch.Cluster
