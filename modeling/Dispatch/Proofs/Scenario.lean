import Dispatch.Proofs.Placement
import Dispatch.Proofs.Pool
import Dispatch.Proofs.Totals
import Dispatch.Scenario.Basic

namespace Dispatch

namespace UnitGroup

variable {c : UnitGroup}

def Fit (c : UnitGroup) : Prop := 0 < c.speed ∧ 0 < c.cores

lemma fit_iff : c.Fit ↔ c.speed ≠ 0 ∧ c.cores ≠ 0 := and_congr UInt64.pos_iff_ne_zero UInt32.pos_iff_ne_zero

lemma not_fit_iff : ¬ c.Fit ↔ c.speed = 0 ∨ c.cores = 0 := by rw [fit_iff, not_and_or, not_not, not_not]

lemma fault?_eq_none_iff : c.fault? = none ↔ c.Fit := by
  rw [fault?, fit_iff]
  split_ifs with hs hc
  · simp [hs]
  · simp [hc]
  · simp [hs, hc]

end UnitGroup

inductive Draft.FirstFault (raw : Draft) : Scenario.Error → Prop
  | speed {before after : List UnitGroup} {c : UnitGroup} (hu : raw.units = before ++ c :: after)
      (hb : ∀ b ∈ before, b.Fit) (hs : c.speed = 0) : FirstFault raw (.zeroSpeed c.name)
  | cores {before after : List UnitGroup} {c : UnitGroup} (hu : raw.units = before ++ c :: after)
      (hb : ∀ b ∈ before, b.Fit) (hs : 0 < c.speed) (hc : c.cores = 0) : FirstFault raw (.zeroCores c.name)

namespace Draft

variable {raw : Draft} {e : Scenario.Error}

lemma findSome?_fault?_eq_some_iff : raw.units.findSome? UnitGroup.fault? = some e ↔ raw.FirstFault e := by
  simp only [List.findSome?_eq_some_iff, UnitGroup.fault?_eq_none_iff]
  constructor
  · rintro ⟨before, c, after, hu, he, hb⟩
    rw [UnitGroup.fault?] at he
    split_ifs at he with hs hc
    · cases he
      exact .speed hu hb hs
    · cases he
      exact .cores hu hb (UInt64.pos_iff_ne_zero.mpr hs) hc
  · intro h
    cases h with
    | speed hu hb hs => exact ⟨_, _, _, hu, if_pos hs, hb⟩
    | cores hu hb hs hc =>
      exact ⟨_, _, _, hu, (if_neg (UInt64.pos_iff_ne_zero.mp hs)).trans (if_pos hc), hb⟩

lemma FirstFault.exists_not_fit (h : raw.FirstFault e) : ∃ c ∈ raw.units, ¬ c.Fit := by
  have hm {before after : List UnitGroup} {c : UnitGroup} (hu : raw.units = before ++ c :: after) : c ∈ raw.units :=
    hu ▸ List.mem_append_right _ List.mem_cons_self
  cases h with
  | speed hu _ hs => exact ⟨_, hm hu, UnitGroup.not_fit_iff.mpr (.inl hs)⟩
  | cores hu _ _ hc => exact ⟨_, hm hu, UnitGroup.not_fit_iff.mpr (.inr hc)⟩

end Draft

namespace NamedPolicy

variable {τ : Type} {name : String} {n : ℕ} {p : NamedPolicy}

lemma policy_size (p : NamedPolicy) : Policy.size τ p = p.table.size := by cases p <;> rfl

lemma policy_size_of_ofName? (h : ofName? name n = some p) : Policy.size τ p = n := by
  rw [policy_size, (ofName?_eq_some h).1, Loads.size_ofSize]

end NamedPolicy

namespace Scenario

variable {τ : Type} {raw : Draft} {c : Scenario} {e : Scenario.Error} {u : ComputeUnit} {k : ℕ}

lemma ofDraft_eq_error_iff : ofDraft raw = .error e ↔ raw.FirstFault e := by
  rw [← Draft.findSome?_fault?_eq_some_iff, ofDraft]
  cases raw.units.findSome? UnitGroup.fault? <;> simp

lemma fit_of_ofDraft (h : ofDraft raw = .ok c) : ∀ g ∈ raw.units, g.Fit := by
  rw [ofDraft] at h
  split at h
  case h_1 => cases h
  case h_2 hf => simpa only [List.findSome?_eq_none_iff, UnitGroup.fault?_eq_none_iff] using hf

lemma exists_error_iff : (∃ e, ofDraft raw = .error e) ↔ ∃ g ∈ raw.units, g.speed = 0 ∨ g.cores = 0 := by
  simp only [← UnitGroup.not_fit_iff]
  constructor
  · rintro ⟨e, h⟩
    exact (ofDraft_eq_error_iff.mp h).exists_not_fit
  · rintro ⟨g, hg, hn⟩
    cases h : ofDraft raw with
    | error e => exact ⟨e, rfl⟩
    | ok c => exact (hn (fit_of_ofDraft h g hg)).elim

lemma units_ofDraft (h : ofDraft raw = .ok c) :
    c.units = if raw.units = [] then ({} : Scenario).units else raw.units := by
  rw [ofDraft] at h
  split at h
  case h_1 => cases h
  case h_2 =>
    cases h
    simp only [List.isEmpty_iff]

lemma fit_units (h : ofDraft raw = .ok c) : ∀ g ∈ c.units, g.Fit := by
  rw [units_ofDraft h]
  split_ifs
  · intro g hg
    rw [List.mem_singleton.mp hg]
    exact ⟨by decide, by decide⟩
  · exact fit_of_ofDraft h

lemma fit_pool (h : ofDraft raw = .ok c) (hu : c.pool[k]? = some u) : 0 < u.speed ∧ 0 < u.cores := by
  obtain ⟨g, i, hs, rfl⟩ := Pool.getElem?_ofGroups.mp hu
  exact fit_units h g hs.mem

variable [Time τ] {g : Workflow τ} {policy : NamedPolicy}

lemma start_of_policy (h : NamedPolicy.ofName? c.policy c.pool.size = some policy) :
    ∃ s, Run.ofPool? c.pool g policy = some s ∧ c.start g = .ok s := by
  refine ⟨Run.ofPool c.pool g policy, if_pos (NamedPolicy.policy_size_of_ofName? h), ?_⟩
  rw [start, h]

lemma start_of_no_policy (h : NamedPolicy.ofName? c.policy c.pool.size = none) :
    c.start g = .error (.unknownPolicy c.policy) := by
  rw [start, h]

/-- A draft is refused just when an entry has no speed or no cores, for the first such entry; all units of the pool of
an accepted one have speed and cores. A pool is built unit by unit, each identified by the number of those before it,
so that the units stand in the order of the entries and are identified by where they stand, and there are as many as
the counts say. A policy that is found by name keeps as many loads as there are units. -/
theorem pool_of_draft (raw : Draft) (groups : List UnitGroup) (c : Scenario) (g : Workflow τ) :
    ((∃ e, ofDraft raw = .error e) ↔ ∃ b ∈ raw.units, b.speed = 0 ∨ b.cores = 0) ∧
    (∀ e, ofDraft raw = .error e ↔ raw.FirstFault e) ∧
    (∀ s, ofDraft raw = .ok s →
      (s.units = if raw.units = [] then ({} : Scenario).units else raw.units) ∧
      ∀ (k : ℕ) (u : ComputeUnit), s.pool[k]? = some u → u.id = k ∧ 0 < u.speed ∧ 0 < u.cores) ∧
    Pool.ofGroups groups = groups.foldl Pool.addAll #[] ∧
    (∀ (k : ℕ) u, (Pool.ofGroups groups)[k]? = some u ↔ ∃ b i, UnitGroup.StandsAt groups k b i ∧
      u = ⟨k, if b.count = 1 then b.name else b.name ++ "-" ++ toString i, b.speed, b.cores, b.memory⟩) ∧
    (Pool.ofGroups groups).size = (groups.map fun b => b.count.toNat).sum ∧
    c.pool.size = c.poolSize ∧
    match NamedPolicy.ofName? c.policy c.pool.size with
    | some policy => Policy.size τ policy = c.pool.size ∧
      ∃ r, Run.ofPool? c.pool g policy = some r ∧ c.start g = .ok r
    | none => c.start g = .error (.unknownPolicy c.policy) := by
  refine ⟨exists_error_iff, fun e => ofDraft_eq_error_iff,
    fun s hs => ⟨units_ofDraft hs, fun k u hu => ⟨?_, fit_pool hs hu⟩⟩, Pool.ofGroups_eq_foldl groups,
    fun k u => Pool.getElem?_ofGroups, ?_, Pool.size_ofGroups c.units, ?_⟩
  · obtain ⟨b, i, -, rfl⟩ := Pool.getElem?_ofGroups.mp hu
    rfl
  · rw [Pool.size_ofGroups, UnitGroup.totalCount, total_eq_sum]
  · split
    case h_1 policy hp => exact ⟨NamedPolicy.policy_size_of_ofName? hp, start_of_policy hp⟩
    case h_2 hp => exact start_of_no_policy hp

theorem pool_of_draft_mixed :
    let lone : UnitGroup := { name := "lone", speed := 5 }
    let several : UnitGroup := { name := "several", speed := 7, cores := 2, memory := 9, count := 3 }
    let missing : UnitGroup := { name := "missing", speed := 1, count := 0 }
    let idle : UnitGroup := { name := "idle", speed := 0, cores := 0 }
    let raw : Draft := { policy := "RoundRobin", units := [missing, lone, missing, several] }
    ofDraft { raw with units := [lone, idle, { lone with cores := 0 }] } = .error (.zeroSpeed "idle") ∧
    ∃ s, ofDraft raw = .ok s ∧ s.pool.size = 4 ∧ s.pool[0]? = some ⟨0, "lone", 5, 1, 0⟩ ∧
      s.pool[2]? = some ⟨2, "several-1", 7, 2, 9⟩ ∧ (∀ u, s.pool[3]? = some u → 0 < u.cores) ∧
      ∃ policy r, NamedPolicy.ofName? "RoundRobin" 4 = some policy ∧
        Run.ofPool? s.pool (Workflow.empty : Workflow ℚ) policy = some r := by
  intro lone several missing idle raw
  have hb : ∀ b ∈ [lone], b.Fit := fun b hb => List.mem_singleton.mp hb ▸ ⟨by decide, by decide⟩
  let s : Scenario := { policy := "RoundRobin", units := raw.units }
  obtain ⟨-, -, hs, -, hk, hn, -, -, r, hr, -⟩ := pool_of_draft raw raw.units s (Workflow.empty : Workflow ℚ)
  refine ⟨?_, s, rfl, hn, (hk 0 _).mpr ⟨lone, 0, ⟨[missing], _, rfl, by decide, rfl⟩, rfl⟩,
    (hk 2 _).mpr ⟨several, 1, ⟨[missing, lone, missing], [], rfl, by decide, rfl⟩, rfl⟩,
    fun u hu => ((hs s rfl).2 3 u hu).2.2, _, r, rfl, hr⟩
  obtain ⟨-, he, -⟩ := pool_of_draft { raw with units := [lone, idle, { lone with cores := 0 }] } [] s
    (Workflow.empty : Workflow ℚ)
  exact (he _).mpr (.speed (show _ = [lone] ++ idle :: _ from rfl) hb rfl)

end Scenario

end Dispatch
