import Dispatch.Proofs.Cluster.Order

namespace Dispatch.Cluster

variable {τ : Type} [Time τ] {e e' : Cluster τ} {event : Event τ} {k : ℕ} {pool : Array ComputeUnit}

def provisioning (u : UnitId) : Appointment τ := ⟨u, Time.add Time.zero Time.zero, .provisioned u⟩

structure Booted (k : ℕ) (e : Cluster τ) : Prop where
  readyUnits : e.readyUnits = k
  inOrder : e.InOrder
  rest : (k < e.units.size ∧
      e.calendar.toList.Perm ((List.range' k (e.units.size - k)).map provisioning)) ∨
    (k = e.units.size ∧ e.events = {.ready})

lemma Booted.events_ne_zero (h : e.Booted k) : e.events ≠ 0 := by
  intro he
  rcases h.rest with ⟨hk, hp⟩ | ⟨_, hr⟩
  · have hl : e.calendar.toList = [] := by
      rwa [events, Multiset.coe_eq_zero, List.map_eq_nil_iff] at he
    have hn := hp.length_eq
    rw [hl, List.length_map, List.length_range', List.length_nil] at hn
    omega
  · rw [he] at hr
    exact (Multiset.singleton_ne_zero _ hr.symm).elim

variable [Std.TransCmp (Time.compare (τ := τ))]

lemma provisionings (pool : Array ComputeUnit) (n : ℕ) :
    let e := (List.range n).foldl (fun e u => e.schedule (.provisioned u) Time.zero)
      (ofPool pool : Cluster τ)
    e.created = n ∧ e.clock = Time.zero ∧ e.InOrder ∧
      e.calendar.toList.Perm ((List.range n).map provisioning) := by
  induction n with
  | zero => exact ⟨rfl, rfl, trivial, .refl _⟩
  | succ n ih =>
    obtain ⟨hn, hc, ho, hp⟩ := ih
    rw [List.range_succ, List.foldl_append, List.map_append]
    refine ⟨congrArg (· + 1) hn, hc, ho.schedule _ _, ?_⟩
    refine (appointments_schedule _ _ _).trans ?_
    rw [hn, hc]
    exact (hp.cons _).trans (List.perm_append_singleton _ _).symm

lemma booted_ofPool (pool : Array ComputeUnit) : (ofPool pool : Cluster τ).startUnits.Booted 0 := by
  obtain ⟨he, hu, _, hr⟩ := awaits_startUnits (ofPool pool : Cluster τ)
  by_cases hs : (ofPool pool : Cluster τ).units.size = 0
  · rw [if_pos hs] at he
    refine ⟨hr, ?_, .inr ⟨(hu ▸ hs).symm, he⟩⟩
    rw [startUnits, if_pos (by simpa [Array.isEmpty] using hs)]
    exact InOrder.schedule (e := ofPool pool) trivial _ _
  · obtain ⟨_, _, ho, hp⟩ := provisionings (τ := τ) pool (ofPool pool : Cluster τ).units.size
    have hn : ¬ (ofPool pool : Cluster τ).units.isEmpty = true := by simpa [Array.isEmpty] using hs
    refine ⟨hr, ?_, .inl ?_⟩
    · rw [startUnits, if_neg hn]
      exact ho
    · rw [hu, Nat.sub_zero, ← List.range_eq_range', startUnits, if_neg hn]
      exact ⟨Nat.pos_of_ne_zero hs, hp⟩

lemma eq_provisioning {a : Appointment τ} {rest : List (Appointment τ)} {m : ℕ}
    (hp : ((List.range' k (m + 1)).map provisioning).Perm (a :: rest))
    (hf : ∀ b ∈ rest, b.before a = false) : a = provisioning k := by
  by_contra hn
  have hk : provisioning k ∈ a :: rest := by
    refine hp.mem_iff.mp (List.mem_map_of_mem ?_)
    exact List.mem_range'_1.mpr ⟨le_rfl, by omega⟩
  have ha : a ∈ (List.range' k (m + 1)).map provisioning := hp.mem_iff.mpr List.mem_cons_self
  obtain ⟨u, hu, rfl⟩ := List.mem_map.mp ha
  have hb := hf _ ((List.mem_cons.mp hk).resolve_left fun h => hn h.symm)
  have hku : k ≠ u := fun h => hn (by rw [h])
  -- all provisionings have one time, so that the identifiers decide
  rcases Appointment.before_eq_false_iff.mp hb with hl | ⟨_, hl⟩
  · have hr : Time.compare (provisioning u : Appointment τ).time (provisioning k).time = .eq :=
      Std.ReflCmp.compare_self
    rw [hr] at hl
    cases hl
  · exact hku (le_antisymm (List.mem_range'_1.mp hu).1 hl)

lemma booted_countUnit {m : ℕ} (ho : e.InOrder) (hr : e.readyUnits = k) (hs : e.units.size = k + m + 1)
    (hp : e.calendar.toList.Perm ((List.range' (k + 1) m).map provisioning)) (u : UnitId) :
    (e.countUnit u).1.Booted (k + 1) := by
  cases m with
  | zero =>
    have hc : (e.countUnit u).1 = { e with readyUnits := k + 1 }.schedule .ready Time.zero := by
      simp [countUnit, hr, hs]
    have hz : e.events = 0 := by
      rw [events, hp.eq_nil]
      rfl
    rw [hc]
    refine ⟨rfl, InOrder.schedule (e := { e with readyUnits := k + 1 }) ho _ _, .inr ⟨hs.symm, ?_⟩⟩
    rw [events_schedule]
    exact congrArg _ hz
  | succ m =>
    have hc : (e.countUnit u).1 = { e with readyUnits := k + 1 } := by simp [countUnit, hr, hs]
    rw [hc]
    refine ⟨rfl, ho, .inl ?_⟩
    rw [hs, show k + (m + 1) + 1 - (k + 1) = m + 1 by omega]
    exact ⟨by omega, hp⟩

lemma Booted.next (h : e.Booted k) (hn : e.next? = some (event, e')) :
    (k < e.units.size ∧ event = .provisioned k ∧ (e'.handle event).1.Booted (k + 1)) ∨
      (k = e.units.size ∧ event = .ready ∧ e'.events = 0) := by
  obtain ⟨a, rfl, hn, ho, hf⟩ := h.inOrder.exists_next hn
  rcases h.rest with ⟨hk, hp⟩ | ⟨hk, he⟩
  · obtain ⟨m, hm⟩ := Nat.exists_eq_add_of_lt hk
    rw [hm, show k + m + 1 - k = m + 1 by omega] at hp
    have hp := hp.symm.trans hn.calendar
    obtain rfl := eq_provisioning hp hf
    refine .inl ⟨hk, rfl, ?_⟩
    rw [List.range'_succ, List.map_cons] at hp
    have hp := hp.cons_inv.symm
    have hr : e'.readyUnits = k := hn.drawn.readyUnits.trans h.readyUnits
    have hs : e'.units.size = k + m + 1 := (congrArg Array.size hn.drawn.units).trans hm
    exact booted_countUnit ho hr hs hp k
  · have hd := hn.drawn.events
    rw [he, Multiset.singleton_eq_cons_iff] at hd
    exact .inr ⟨hk, hd.1.symm, hd.2⟩

end Dispatch.Cluster
