import Dispatch.Proofs.Cluster.Place
import Dispatch.Proofs.Totals

/-! The free cores of a unit and those that its running tasks hold are all of its cores, and a task waits
only behind one that needs more cores than are free. -/

namespace Dispatch

lemma Queue.size_of_dequeue? {α : Type*} {q q' : Queue α} {a : α} (h : q.dequeue? = some (a, q')) :
    q.size = q'.size + 1 := by
  rw [← length_toList, ← length_toList, toList_of_dequeue? h, List.length_cons]

namespace Station

variable {τ : Type} {s : Station τ} {d : Job τ} {rest : Queue (Job τ)}

lemma toNat_demand (s : Station τ) (d : Job τ) :
    (s.demand d).toNat = min (max d.cores.toNat 1) (max s.unit.cores.toNat 1) := by
  rw [demand, UInt32.toNat_min, UInt32.toNat_max, UInt32.toNat_max]
  rfl

lemma demand_pos (s : Station τ) (d : Job τ) : 0 < (s.demand d).toNat := by
  rw [toNat_demand]
  omega

lemma toNat_free_sub (h : s.demand d ≤ s.free) :
    (s.free - s.demand d).toNat + (s.demand d).toNat = s.free.toNat := by
  rw [UInt32.toNat_sub_of_le _ _ h]
  exact Nat.sub_add_cancel (UInt32.le_iff_toNat_le.mp h)

def Tight (s : Station τ) : Prop :=
  ∀ d, s.queue.toList.head? = some d → s.free.toNat < (s.demand d).toNat

lemma Tight.queue_eq_nil (h : s.Tight) (hc : 0 < s.unit.cores.toNat)
    (hf : s.free.toNat = s.unit.cores.toNat) : s.queue.toList = [] := by
  cases hq : s.queue.toList with
  | nil => rfl
  | cons d q =>
    have hd := h d (by rw [hq]; rfl)
    rw [toNat_demand] at hd
    omega

lemma exists_fits (h : ¬ s.Tight) : ∃ d rest, s.queue.dequeue? = some (d, rest) ∧ ¬ s.free < s.demand d := by
  simp only [Tight, not_forall] at h
  obtain ⟨d, hd, hf⟩ := h
  cases hq : s.queue.dequeue? with
  | none =>
    rw [Queue.dequeue?_eq_none_iff.mp hq] at hd
    cases hd
  | some x =>
    rw [Queue.toList_of_dequeue? hq] at hd
    cases hd
    exact ⟨x.1, x.2, rfl, mt UInt32.lt_iff_toNat_lt.mp hf⟩

section take

variable [Time τ]

def take (s : Station τ) : Station τ × List (TaskId × τ × UInt32) :=
  match _ : s.queue.dequeue? with
  | none => (s, [])
  | some (d, rest) =>
    if s.free < s.demand d then (s, [])
    else
      let (s', taken) := take { s with free := s.free - s.demand d, queue := rest }
      (s', (d.taskId, s.timeFor d, s.demand d) :: taken)
termination_by s.queue.size
decreasing_by
  rename_i h _
  rw [Queue.size_of_dequeue? h]
  exact Nat.lt_succ_self _

lemma take_of_tight (h : s.Tight) : s.take = (s, []) := by
  rw [take]
  split
  · rfl
  · rename_i d rest hd
    rw [if_pos]
    exact UInt32.lt_iff_toNat_lt.mpr (h d (by rw [Queue.toList_of_dequeue? hd]; rfl))

lemma take_of_fits (h : s.queue.dequeue? = some (d, rest)) (hf : ¬ s.free < s.demand d) :
    let s' := { s with free := s.free - s.demand d, queue := rest }
    s.take = (s'.take.1, (d.taskId, s.timeFor d, s.demand d) :: s'.take.2) := by
  rw [take]
  split
  · rename_i hn
    rw [h] at hn
    cases hn
  · rename_i hd
    cases h.symm.trans hd
    rw [if_neg hf]

end take

end Station

namespace Cluster

variable {τ : Type} {e e' : Cluster τ} {u v : UnitId} {s : Station τ} {d : Job τ}
  {rest : Queue (Job τ)} {event : Event τ} {id : TaskId} {p : Place τ} {ids : List TaskId}

def held (e : Cluster τ) (u : UnitId) (id : TaskId) : ℕ :=
  if e.isRunning id = true ∧ (e.record? id).map Record.unit = some u then (e.coresOf id).toNat else 0

lemma held_congr (h : e'.record? id = e.record? id) (u : UnitId) : e'.held u id = e.held u id := by
  rw [held, held, isRunning, isRunning, coresOf, coresOf, h]

lemma At.held_running (h : e.At id (.running v)) (u : UnitId) :
    e.held u id = if v = u then (e.coresOf id).toNat else 0 := by
  obtain ⟨r, hr, hv, _, _⟩ := h.record
  rw [held, h.isRunning, hr, Option.map_some, hv]
  simp

lemma At.held_eq_zero (h : e.At id p) (hp : ∀ v, p ≠ .running v) (u : UnitId) : e.held u id = 0 := by
  apply if_neg
  rintro ⟨hi, _⟩
  obtain ⟨v, hv⟩ := h.exists_running hi
  exact hp v hv

def Located (ids : List TaskId) (e : Cluster τ) : Prop :=
  ∀ id, ∃ p, e.At id p ∧ (p ≠ .absent → id ∈ ids)

def Metered (ids : List TaskId) (e : Cluster τ) : Prop :=
  ∀ u s, e.units[u]? = some s → s.free.toNat + total (e.held u) ids = s.unit.cores.toNat

lemma Metered.of_eq (h : Metered ids e) (hr : e'.records = e.records) (hu : e'.units = e.units) :
    Metered ids e' := by
  intro u s hs
  rw [hu] at hs
  rw [← h u s hs]
  congr 1
  exact total_congr fun id _ => held_congr (by rw [record?, hr, record?]) u

lemma Metered.enter (h : Metered ids e) (hl : Located ids e) (hd : e.Drawn (.arrived d u) e')
    (hu : u < e.units.size) : Metered ids (e'.enter d u) := by
  intro v s hs
  have ht : total ((e'.enter d u).held v) ids = total (e.held v) ids := by
    apply total_congr
    intro k _
    by_cases hk : d.taskId = k
    · subst hk
      obtain ⟨p, hp, _⟩ := hl d.taskId
      obtain rfl := Place.eq_travelling (hp.mem_events hd.mem rfl)
      rw [hp.held_eq_zero (by simp), (hp.enter_self hd hu).held_eq_zero (by simp)]
    · refine held_congr ?_ v
      rw [record?_enter, if_neg hk, hd.record?]
  rw [units_enter] at hs
  rw [ht]
  split at hs
  · obtain ⟨t, ht, rfl⟩ := Option.map_eq_some_iff.mp hs
    exact h v t (hd.units ▸ ht)
  · exact h v s (hd.units ▸ hs)

lemma Metered.leave (h : Metered ids e) (hl : Located ids e) (hn : ids.Nodup)
    (hd : e.Drawn (.completed id u) e') : Metered ids (e'.leave id u) := by
  intro v s hs
  obtain ⟨p, hp, hm⟩ := hl id
  obtain rfl := Place.eq_running (hp.mem_events hd.mem rfl)
  have ht := total_update (f := (e'.leave id u).held v) (g := e.held v) hn (hm (by simp))
    fun k _ hk => held_congr (by rw [record?_leave, if_neg (Ne.symm hk), hd.record?]) v
  rw [(hp.leave_self hd).held_eq_zero (by simp), hp.held_running] at ht
  rw [units_leave, hd.units, coresOf, hd.record?, ← coresOf] at hs
  by_cases hv : u = v
  · rw [if_pos hv] at hs ht
    obtain ⟨t, hu, rfl⟩ := Option.map_eq_some_iff.mp hs
    have hc := h v t hu
    have hlt := t.unit.cores.toNat_lt
    have ha : (t.free + e.coresOf id).toNat = t.free.toNat + (e.coresOf id).toNat := by
      rw [UInt32.toNat_add, Nat.mod_eq_of_lt (by omega)]
    dsimp only
    omega
  · rw [if_neg hv] at hs ht
    have hc := h v s hs
    omega

def Charged (e : Cluster τ) : Prop :=
  ∀ id r, e.record? id = some r → r.started.isSome = true → 0 < r.cores.toNat

lemma Charged.of_eq (h : e.Charged) (hr : e'.records = e.records) : e'.Charged := by
  intro id r hi hs
  rw [record?, hr] at hi
  exact h id r hi hs

lemma Charged.held_pos (h : e.Charged) (hr : e.At id (.running u)) : 0 < e.held u id := by
  obtain ⟨r, hx, _, hs, _⟩ := hr.record
  rw [hr.held_running, if_pos rfl, coresOf, hx]
  exact h id r hx hs

lemma Metered.eq_of_single (h : Metered ids e) (hn : ids.Nodup) (hc : e.Charged) (hs : e.units[u]? = some s)
    (h1 : s.unit.cores = 1) {k : TaskId} (hi : id ∈ ids) (hk : k ∈ ids) (hr : e.At id (.running u))
    (hr' : e.At k (.running u)) : id = k := by
  -- two tasks would hold two cores
  by_contra hne
  have ht := add_le_total (e.held u) hn hi hk hne
  have hm := h u s hs
  have hpi := hc.held_pos hr
  have hpk := hc.held_pos hr'
  rw [h1, UInt32.toNat_one] at hm
  omega

variable [Time τ]

lemma Metered.startTask (h : Metered ids e) (hl : Located ids e) (hn : ids.Nodup)
    (hs : e.units[u]? = some s) (hd : s.queue.dequeue? = some (d, rest)) (hf : s.demand d ≤ s.free) :
    Metered ids (e.startTask u s d rest) := by
  intro v t ht
  obtain ⟨p, hp, hm⟩ := hl d.taskId
  obtain ⟨rfl, hr⟩ := hp.startTask_self hs hd
  have hu := total_update (f := (e.startTask u s d rest).held v) (g := e.held v) hn (hm (by simp))
    fun k _ hk => held_congr (by rw [record?_startTask, if_neg (Ne.symm hk)]) v
  have hc : (e.startTask u s d rest).coresOf d.taskId = s.demand d := by
    obtain ⟨r, hr, _⟩ := hp.record
    rw [coresOf, record?_startTask, if_pos rfl, hr]
    rfl
  rw [hp.held_eq_zero (by simp), hr.held_running, hc] at hu
  rw [units_startTask d rest hs] at ht
  by_cases hv : u = v
  · rw [if_pos hv] at ht hu
    cases ht
    have hm := h v s (hv ▸ hs)
    have hb := Station.toNat_free_sub hf
    dsimp only
    omega
  · rw [if_neg hv] at ht hu
    have hm := h v t ht
    omega

lemma Located.startWaiting_metered (hl : Located ids e) (h : Metered ids e) (hn : ids.Nodup)
    (u : UnitId) : Metered ids (e.startWaiting u).1 := by
  refine (startWaiting_induction (P := fun e => Located ids e ∧ Metered ids e) ?_ ⟨hl, h⟩).2
  rintro e s d rest hs hd hf ⟨hl, hm⟩
  refine ⟨fun k => ?_, hm.startTask hl hn hs hd hf⟩
  obtain ⟨p, hp, hi⟩ := hl k
  by_cases hk : d.taskId = k
  · subst hk
    obtain ⟨rfl, hr⟩ := hp.startTask_self hs hd
    exact ⟨_, hr, fun _ => hi (by simp)⟩
  · exact ⟨p, hp.startTask_of_ne hs hd hk, hi⟩

lemma Metered.handle (h : Metered ids e) (hl : Located ids e) (hn : ids.Nodup)
    (hd : e.Drawn event e') (hu : ∀ d u, event = .arrived d u → u < e.units.size) :
    Metered ids (e'.handle event).1 := by
  refine handle_cases (fun _ _ => h.of_eq hd.records hd.units) (fun _ _ => h.of_eq hd.records hd.units)
    ?arrived ?completed fun _ _ _ _ => h.of_eq hd.records hd.units
  case arrived =>
    rintro d u rfl
    refine Located.startWaiting_metered (fun k => ?_) (h.enter hl hd (hu d u rfl)) hn u
    obtain ⟨p, hp, hi⟩ := hl k
    exact hp.enter hd (hu d u rfl) (fun _ => hi) fun ht _ => hi (by simp [ht])
  case completed =>
    rintro id u rfl _
    refine Located.startWaiting_metered (fun k => ?_) (h.leave hl hn hd) hn u
    obtain ⟨p, hp, hi⟩ := hl k
    exact hp.leave hd (fun _ => hi) fun _ ht _ => hi (by simp [ht])

lemma metered_ofPool (pool : Array ComputeUnit) (ids : List TaskId) :
    Metered ids (ofPool pool : Cluster τ) := by
  intro u s hs
  rw [ofPool, Array.getElem?_map] at hs
  obtain ⟨unit, _, rfl⟩ := Option.map_eq_some_iff.mp hs
  rw [total_eq_zero fun id _ => (At.ofPool pool id).held_eq_zero (by simp) u, Nat.add_zero]

lemma Metered.submit (h : Metered ids e) (d : Job τ) (u : UnitId) : Metered ids (e.submit d u).1 := by
  rw [Cluster.submit]
  split
  · exact h.of_eq rfl rfl
  · exact h

lemma units_startFront_of_ne (n : ℕ) (out : Array (ClusterReport τ)) (hv : u ≠ v) :
    (startFront n e u out).1.units[v]? = e.units[v]? := by
  refine startFront_induction (P := fun e' => e'.units[v]? = e.units[v]?) ?_ n out rfl
  intro e' s d rest hs _ _ h
  rw [units_startTask d rest hs, if_neg hv, h]

lemma startFront_of_tight (hs : e.units[u]? = some s) (ht : s.Tight) (n : ℕ) (out : Array (ClusterReport τ)) :
    startFront n e u out = (e, out) := by
  cases n with
  | zero => rfl
  | succ n =>
    simp only [startFront, hs]
    split
    · rfl
    · rename_i d rest hd
      rw [if_pos]
      exact UInt32.lt_iff_toNat_lt.mpr (ht d (by rw [Queue.toList_of_dequeue? hd]; rfl))

lemma startFront_of_fits (hs : e.units[u]? = some s) (hd : s.queue.dequeue? = some (d, rest))
    (hf : ¬ s.free < s.demand d) (n : ℕ) (out : Array (ClusterReport τ)) : startFront (n + 1) e u out =
      startFront n (e.startTask u s d rest) u (out.push (.startedTask d.taskId u (s.timeFor d))) := by
  simp only [startFront, hs, hd, if_neg hf]

lemma startFront_tight (n : ℕ) (out : Array (ClusterReport τ))
    (hn : ∀ s, e.units[u]? = some s → s.free.toNat ≤ n)
    (hs : (startFront n e u out).1.units[u]? = some s) :
    s.Tight := by
  induction n generalizing e out with
  | zero =>
    intro d _
    exact (hn s hs).trans_lt (s.demand_pos d)
  | succ n ih =>
    cases hu : e.units[u]? with
    | none =>
      simp only [startFront, hu] at hs
      cases hs
    | some t =>
      by_cases ht : t.Tight
      · rw [startFront_of_tight hu ht] at hs
        cases hu.symm.trans hs
        exact ht
      · obtain ⟨d, rest, hd, hf⟩ := Station.exists_fits ht
        rw [startFront_of_fits hu hd hf] at hs
        refine ih _ (fun t' ht' => ?_) hs
        rw [units_startTask d rest hu, if_pos rfl] at ht'
        cases ht'
        have hb := Station.toNat_free_sub (UInt32.not_lt.mp hf)
        have hp := t.demand_pos d
        have hm := hn t hu
        dsimp only
        omega

def startTaken (u : UnitId) (e : Cluster τ × Array (ClusterReport τ)) (taken : TaskId × τ × UInt32) :
    Cluster τ × Array (ClusterReport τ) :=
  let (id, time, cores) := taken
  (schedule { e.1 with records := e.1.records.modify id ({ · with started := some e.1.clock, cores := cores }) }
    (.completed id u) time, e.2.push (.startedTask id u time))

omit [Time τ] in
lemma units_setIfInBounds_self (hs : e.units[u]? = some s) : e.units.setIfInBounds u s = e.units := by
  obtain ⟨hu, rfl⟩ := Array.getElem?_eq_some_iff.mp hs
  simp [Array.setIfInBounds, hu]

lemma startFront_eq (n : ℕ) (out : Array (ClusterReport τ)) (hs : e.units[u]? = some s) (hn : s.free.toNat ≤ n) :
    startFront n e u out =
      s.take.2.foldl (startTaken u) ({ e with units := e.units.setIfInBounds u s.take.1 }, out) := by
  induction n generalizing e s out with
  | zero =>
    have ht : s.Tight := fun d _ => hn.trans_lt (s.demand_pos d)
    rw [Station.take_of_tight ht, units_setIfInBounds_self hs]
    rfl
  | succ n ih =>
    by_cases ht : s.Tight
    · rw [Station.take_of_tight ht, startFront_of_tight hs ht, units_setIfInBounds_self hs]
      rfl
    · obtain ⟨d, rest, hd, hf⟩ := Station.exists_fits ht
      have hs' : (e.startTask u s d rest).units[u]? = some { s with free := s.free - s.demand d, queue := rest } := by
        rw [units_startTask d rest hs, if_pos rfl]
      have hb := Station.toNat_free_sub (UInt32.not_lt.mp hf)
      have hp := s.demand_pos d
      rw [startFront_of_fits hs hd hf, ih _ hs' (by dsimp only; omega), Station.take_of_fits hd hf, List.foldl_cons]
      congr 2
      simp [startTask, schedule]

lemma startWaiting_eq (e : Cluster τ) (u : UnitId) : e.startWaiting u =
    match e.units[u]? with
    | none => (e, #[])
    | some s => s.take.2.foldl (startTaken u) ({ e with units := e.units.setIfInBounds u s.take.1 }, #[]) := by
  rw [startWaiting]
  cases hs : e.units[u]? with
  | none => rfl
  | some s => exact startFront_eq _ _ hs le_rfl

def AllTight {τ : Type} (e : Cluster τ) : Prop :=
  ∀ (u : UnitId) (s : Station τ), e.units[u]? = some s → s.Tight

lemma startWaiting_tight (u : UnitId) (h : ∀ v s, u ≠ v → e.units[v]? = some s → s.Tight) :
    (e.startWaiting u).1.AllTight := by
  intro v s hs
  rw [startWaiting] at hs
  by_cases hv : u = v
  · subst hv
    split at hs
    · rename_i hn
      rw [hn] at hs
      cases hs
    · rename_i t ht
      refine startFront_tight _ _ (fun t' ht' => ?_) hs
      rw [ht] at ht'
      cases ht'
      exact le_rfl
  · split at hs
    · exact h v s hv hs
    · rw [units_startFront_of_ne _ _ hv] at hs
      exact h v s hv hs

lemma AllTight.handle (h : e.AllTight) (event : Event τ) : (e.handle event).1.AllTight := by
  refine handle_cases (fun _ _ => h) (fun _ _ => h) (fun d u _ => startWaiting_tight u ?_)
    (fun id u _ _ => startWaiting_tight u ?_) fun _ _ _ _ => h
  · intro v s hv hs
    rw [units_enter, if_neg hv] at hs
    exact h v s hs
  · intro v s hv hs
    rw [units_leave, if_neg hv] at hs
    exact h v s hs

lemma Charged.handle (h : e.Charged) (event : Event τ) : (e.handle event).1.Charged := by
  have start (e : Cluster τ) (h : e.Charged) (u : UnitId) : (e.startWaiting u).1.Charged := by
    refine startWaiting_induction (P := Charged) (fun e s d rest _ _ _ h id r hr hs => ?_) h
    rw [record?_startTask] at hr
    split at hr
    · obtain ⟨_, _, rfl⟩ := Option.map_eq_some_iff.mp hr
      exact s.demand_pos d
    · exact h id r hr hs
  refine handle_cases (fun _ _ => h) (fun _ _ => h) (fun d u _ => start _ (fun id r hr hs => ?_) u)
    (fun k u _ _ => start _ (fun id r hr hs => ?_) u) fun _ _ _ _ => h
  · rw [record?_enter] at hr
    split at hr
    · cases hr
      cases hs
    · exact h id r hr hs
  · rw [record?_leave] at hr
    split at hr
    · obtain ⟨r₀, hr₀, rfl⟩ := Option.map_eq_some_iff.mp hr
      exact h id r₀ hr₀ hs
    · exact h id r hr hs

lemma AllTight.submit (h : e.AllTight) (d : Job τ) (u : UnitId) : (e.submit d u).1.AllTight := by
  rw [Cluster.submit]
  split <;> exact h

end Cluster

end Dispatch
