import Dispatch.Proofs.Cluster.Effects

namespace Dispatch.Cluster

variable {τ : Type} {e e' : Cluster τ} {event : Event τ} {u : UnitId} {s : Station τ} {d : Job τ}
  {rest : Queue (Job τ)}

def duties (e : Cluster τ) : Multiset (Event τ) := e.events.filter fun event => event.taskId? = none

def Booting (e : Cluster τ) : Prop :=
  .ready ∈ e.duties ∨ 0 < e.duties.card ∧ e.readyUnits + e.duties.card = e.units.size

lemma duties_of_cons (h : e'.events = event ::ₘ e.events) :
    e'.duties = if event.taskId? = none then event ::ₘ e.duties else e.duties := by
  rw [duties, h, Multiset.filter_cons, duties]
  split <;> simp

structure SameDuties (e e' : Cluster τ) : Prop where
  duties : e'.duties = e.duties
  readyUnits : e'.readyUnits = e.readyUnits
  size : e'.units.size = e.units.size

lemma SameDuties.booting (h : e.SameDuties e') (hb : e.Booting) : e'.Booting := by
  rw [Booting, h.duties, h.readyUnits, h.size]
  exact hb

lemma SameDuties.trans {f : Cluster τ} (h : e.SameDuties e') (h' : e'.SameDuties f) : e.SameDuties f :=
  ⟨h'.duties.trans h.duties, h'.readyUnits.trans h.readyUnits, h'.size.trans h.size⟩

lemma sameDuties_drawn (h : e.Drawn event e') (hi : event.taskId? ≠ none) : e.SameDuties e' := by
  have hd := duties_of_cons h.events
  rw [if_neg hi] at hd
  exact ⟨hd.symm, h.readyUnits, congrArg Array.size h.units⟩

variable [Time τ]

lemma sameDuties_schedule (delay : τ) (hi : event.taskId? ≠ none) :
    e.SameDuties (e.schedule event delay) := by
  refine ⟨?_, rfl, rfl⟩
  rw [duties_of_cons (events_schedule _ _ _), if_neg hi]

lemma sameDuties_startWaiting (e : Cluster τ) (u : UnitId) : e.SameDuties (e.startWaiting u).1 := by
  refine startWaiting_induction (P := fun e' => e.SameDuties e') ?_ ⟨rfl, rfl, rfl⟩
  intro e' s d rest _ _ _ h
  refine ⟨?_, h.readyUnits, (size_startTask d rest).trans h.size⟩
  rw [duties_of_cons (events_startTask d rest), if_neg (by simp [Event.taskId?]), h.duties]

lemma sameDuties_submit (e : Cluster τ) (d : Job τ) (u : UnitId) : e.SameDuties (e.submit d u).1 := by
  rw [Cluster.submit]
  split
  · exact sameDuties_schedule _ (by simp [Event.taskId?])
  · exact ⟨rfl, rfl, rfl⟩

lemma sameDuties_handle (hd : e.Drawn event e') (hi : event.taskId? ≠ none) :
    e.SameDuties (e'.handle event).1 := by
  have he := sameDuties_drawn hd hi
  refine handle_cases (fun hn => (hi hn).elim) (fun hn => (hi hn).elim) (fun d u _ => he.trans ?_)
    (fun id u _ _ => he.trans ?_) fun _ _ _ _ => he
  · have hl : e'.SameDuties (e'.enter d u) := ⟨rfl, rfl, Array.size_modify⟩
    exact hl.trans (sameDuties_startWaiting _ u)
  · have hl : e'.SameDuties (e'.leave id u) := ⟨rfl, rfl, Array.size_modify⟩
    exact hl.trans (sameDuties_startWaiting _ u)

lemma Booting.submit (h : e.Booting) (d : Job τ) (u : UnitId) : (e.submit d u).1.Booting :=
  (sameDuties_submit e d u).booting h

lemma Booting.countUnit (h : e.Booting) (hd : e.Drawn (.provisioned u) e') :
    (e'.countUnit u).1.Booting := by
  have hc : e.duties = .provisioned u ::ₘ e'.duties := duties_of_cons hd.events
  have hs : e'.units.size = e.units.size := congrArg Array.size hd.units
  rw [Booting, hc, Multiset.card_cons, Multiset.mem_cons] at h
  have hr : Event.ready ∈ (e'.schedule .ready Time.zero).duties := by
    refine Multiset.mem_filter.mpr ⟨?_, rfl⟩
    rw [events_schedule]
    exact Multiset.mem_cons_self _ _
  simp only [Cluster.countUnit]
  split
  · exact Or.inl hr
  · rename_i hn
    rcases h with (h | h) | ⟨_, h⟩
    · cases h
    · exact Or.inl h
    · have hz : e'.readyUnits + 1 + e'.duties.card = e'.units.size := by
        rw [hs, hd.readyUnits, ← h]
        omega
      have hp : e'.duties.card ≠ 0 := fun h0 => hn (by rwa [h0] at hz)
      exact Or.inr ⟨Nat.pos_of_ne_zero hp, hz⟩

lemma Booting.handle (h : e.Booting) (hd : e.Drawn event e') (hr : event ≠ .ready) :
    (e'.handle event).1.Booting := by
  cases event with
  | provisioned u => exact h.countUnit hd
  | ready => contradiction
  | arrived d u => exact (sameDuties_handle hd (by simp [Event.taskId?])).booting h
  | completed id u => exact (sameDuties_handle hd (by simp [Event.taskId?])).booting h

lemma booting_ofPool (pool : Array ComputeUnit) : (ofPool pool : Cluster τ).startUnits.Booting := by
  obtain ⟨he, hu, _, hr⟩ := awaits_startUnits (ofPool pool : Cluster τ)
  have h0 : (ofPool pool : Cluster τ).events = 0 := rfl
  rw [Booting, duties, he, h0, add_zero, hu, hr]
  split
  · exact Or.inl (Multiset.mem_filter.mpr ⟨Multiset.mem_singleton_self _, rfl⟩)
  · rename_i hs
    have hl : Multiset.filter (fun event => event.taskId? = none) (Multiset.ofList
        ((List.range (ofPool pool : Cluster τ).units.size).map (Event.provisioned : UnitId → Event τ))) =
        Multiset.ofList ((List.range (ofPool pool : Cluster τ).units.size).map .provisioned) := by
      apply Multiset.filter_eq_self.mpr
      intro event hm
      obtain ⟨u, _, rfl⟩ := List.mem_map.mp (Multiset.mem_coe.mp hm)
      rfl
    rw [hl, Multiset.coe_card, List.length_map, List.length_range]
    exact Or.inr ⟨Nat.pos_of_ne_zero hs, Nat.zero_add _⟩

end Dispatch.Cluster
