import Dispatch.Policy
import Mathlib.Tactic

namespace Dispatch

namespace Loads

variable {t : Loads} {u v : UnitId} {n : ℕ}

lemma get?_eq_none_iff : t.get? u = none ↔ t.size ≤ u := Array.getElem?_eq_none_iff

@[simp] lemma get?_ofSize (n : ℕ) (u : UnitId) :
    (ofSize n).get? u = if u < n then some 0 else none := by
  simp [ofSize, get?, Array.getElem?_replicate]

lemma size_eq_zero_of_lightest? (h : t.lightest? = none) : t.size = 0 := by
  rw [lightest?] at h
  cases hs : t.size with
  | zero => rfl
  | succ n =>
    rw [hs, List.range_succ, List.foldl_append] at h
    cases h

def load (t : Loads) (u : UnitId) : ℕ := t.counts.getD u 0

lemma load_of_get? (h : t.get? u = some n) : t.load u = n := by
  rw [load, Array.getD_eq_getD_getElem?, show t.counts[u]? = some n from h, Option.getD_some]

lemma lighter_cases (t : Loads) (b v : UnitId) :
    t.load v < t.load b ∧ t.lighter (some b) v = v ∨ t.load b ≤ t.load v ∧ t.lighter (some b) v = b := by
  rw [lighter]
  split
  · exact .inl ⟨‹_›, rfl⟩
  · exact .inr ⟨not_lt.mp ‹_›, rfl⟩

lemma foldl_lighter_range
    (h : (List.range n).foldl (fun best u => some (t.lighter best u)) none = some u) :
    u < n ∧ ∀ v < n, t.load u ≤ t.load v ∧ (v < u → t.load u < t.load v) := by
  induction n generalizing u with
  | zero => cases h
  | succ n ih =>
    rw [List.range_succ, List.foldl_append, List.foldl_cons, List.foldl_nil, Option.some.injEq] at h
    generalize hb : (List.range n).foldl (fun best u => some (t.lighter best u)) none = best at h
    cases best with
    | none =>
      cases n with
      | zero =>
        subst h
        refine ⟨Nat.one_pos, fun v hv => ?_⟩
        obtain rfl := Nat.lt_one_iff.mp hv
        exact ⟨le_rfl, fun hl => absurd hl (Nat.lt_irrefl _)⟩
      | succ n =>
        rw [List.range_succ, List.foldl_append] at hb
        cases hb
    | some b =>
      obtain ⟨hl, hm⟩ := ih hb
      rcases t.lighter_cases b n with ⟨hn, he⟩ | ⟨hn, he⟩
      · obtain rfl := he.symm.trans h
        refine ⟨Nat.lt_succ_self _, fun v hv => ?_⟩
        rcases Nat.lt_succ_iff_lt_or_eq.mp hv with hv | rfl
        · have hlt := hn.trans_le (hm v hv).1
          exact ⟨hlt.le, fun _ => hlt⟩
        · exact ⟨le_rfl, fun hl => absurd hl (Nat.lt_irrefl _)⟩
      · obtain rfl := he.symm.trans h
        refine ⟨hl.trans (Nat.lt_succ_self n), fun v hv => ?_⟩
        rcases Nat.lt_succ_iff_lt_or_eq.mp hv with hv | rfl
        · exact hm v hv
        · exact ⟨hn, fun hv => absurd hv (Nat.lt_asymm hl)⟩

lemma lightest?_eq_some_iff : t.lightest? = some u ↔
    u < t.size ∧ ∀ v < t.size, t.load u ≤ t.load v ∧ (v < u → t.load u < t.load v) := by
  refine ⟨foldl_lighter_range, fun ⟨hu, hm⟩ => ?_⟩
  cases hl : t.lightest? with
  | none => exact absurd (size_eq_zero_of_lightest? hl) (Nat.ne_of_gt (Nat.zero_lt_of_lt hu))
  | some b =>
    -- neither of two such units stands before the other
    obtain ⟨hb, hn⟩ := foldl_lighter_range hl
    have h := hm b hb
    have h' := hn u hu
    rcases Nat.lt_trichotomy u b with hlt | rfl | hlt
    · exact absurd (h'.2 hlt) (Nat.not_lt.mpr h.1)
    · rfl
    · exact absurd (h.2 hlt) (Nat.not_lt.mpr h'.1)

lemma release_of_get? (h : t.get? u = some (n + 1)) :
    t.release u = (⟨t.counts.modify u (· - 1)⟩, none) := by
  rw [release]
  split
  · simp_all
  · simp_all
  · rfl

lemma size_release (t : Loads) (u : UnitId) : (t.release u).1.size = t.size := by
  rw [release]
  split
  · rfl
  · rfl
  · exact Array.size_modify

end Loads

namespace NamedPolicy

variable {τ : Type} {p q : NamedPolicy} {u : UnitId} {n : ℕ}

def table : NamedPolicy → Loads
  | .leastLoaded p => p.loads
  | .roundRobin p => p.loads

def InTurn : NamedPolicy → Prop
  | .leastLoaded _ => True
  | .roundRobin p => 0 < p.loads.size → p.next < p.loads.size

lemma policy_loads (p : NamedPolicy) : Policy.loads τ p = p.table.counts := by cases p <;> rfl

lemma ofName?_eq_some {name : String} (h : ofName? name n = some p) :
    p.table = .ofSize n ∧ p.InTurn := by
  rw [ofName?] at h
  split at h
  · cases h
    exact ⟨rfl, trivial⟩
  · split at h
    · cases h
      exact ⟨rfl, id⟩
    · cases h

lemma choose_cases (hp : p.InTurn) (t : Task τ) :
    (p.table.size = 0 ∧ Policy.choose p t = (.error .noUnits, p)) ∨
      ∃ u q, Policy.choose p t = (.ok u, q) ∧ u < p.table.size ∧ q.table = p.table.charge u ∧
        q.InTurn := by
  cases p with
  | leastLoaded p =>
    cases h : p.loads.lightest? with
    | none =>
      refine Or.inl ⟨Loads.size_eq_zero_of_lightest? h, ?_⟩
      simp [Policy.choose, h]
    | some u =>
      refine Or.inr ⟨u, .leastLoaded ⟨p.loads.charge u⟩, ?_, (Loads.lightest?_eq_some_iff.mp h).1, rfl, trivial⟩
      simp [Policy.choose, h]
  | roundRobin p =>
    by_cases h : p.loads.isEmpty = true
    · refine Or.inl ⟨by simpa [Loads.isEmpty, Loads.size, table] using h, ?_⟩
      simp [Policy.choose, h]
    · have hs : 0 < p.loads.size := by
        simpa [Loads.isEmpty, Loads.size, Array.size_pos_iff] using h
      refine Or.inr ⟨p.next, .roundRobin ⟨p.loads.charge p.next, (p.next + 1) % p.loads.size⟩, ?_,
        hp hs, rfl, fun _ => ?_⟩
      · simp [Policy.choose, h]
      · simpa using Nat.mod_lt _ hs

lemma of_choose_ok (hp : p.InTurn) {t : Task τ} (h : Policy.choose p t = (.ok u, q)) :
    u < p.table.size ∧ q.table = p.table.charge u ∧ q.InTurn := by
  rcases choose_cases hp t with ⟨_, hn⟩ | ⟨v, r, hn, hv⟩
  · rw [h] at hn
    cases hn
  · rw [h] at hn
    cases hn
    exact hv

lemma of_choose_error (hp : p.InTurn) {t : Task τ} {e : PolicyError}
    (h : Policy.choose p t = (.error e, q)) : p.table.size = 0 ∧ q = p := by
  rcases choose_cases hp t with ⟨hz, hn⟩ | ⟨v, r, hn, _⟩
  · rw [h] at hn
    cases hn
    exact ⟨hz, rfl⟩
  · rw [h] at hn
    cases hn

lemma release_of_get? (hp : p.InTurn) (h : p.table.get? u = some (n + 1)) :
    ∃ q, Policy.release τ p u = (q, none) ∧ q.table = ⟨p.table.counts.modify u (· - 1)⟩ ∧
      q.InTurn := by
  cases p with
  | leastLoaded p =>
    refine ⟨.leastLoaded ⟨⟨p.loads.counts.modify u (· - 1)⟩⟩, ?_, rfl, trivial⟩
    have hr := Loads.release_of_get? h
    simp only [table] at hr
    simp [Policy.release, hr]
  | roundRobin p =>
    refine ⟨.roundRobin ⟨⟨p.loads.counts.modify u (· - 1)⟩, p.next⟩, ?_, rfl, fun hs => ?_⟩
    · have hr := Loads.release_of_get? h
      simp only [table] at hr
      simp [Policy.release, hr]
    · simpa [Loads.size] using hp (by simpa [Loads.size] using hs)

lemma inTurn_release (hp : p.InTurn) (u : UnitId) : (Policy.release τ p u).1.InTurn ∧
    (Policy.release τ p u).1.table.size = p.table.size := by
  cases p with
  | leastLoaded p => exact ⟨trivial, p.loads.size_release u⟩
  | roundRobin p =>
    have hs := p.loads.size_release u
    refine ⟨fun h => ?_, hs⟩
    have h : 0 < (p.loads.release u).1.size := h
    rw [hs] at h
    exact (hp h).trans_eq hs.symm

end NamedPolicy

end Dispatch
