import Dispatch.Proofs.Placement

/-! Both named policies take the units in turn: the one by its own rule, the other as long as nothing is
released, because the loads then form a staircase whose step is the next unit. -/

namespace Dispatch

namespace Loads

variable {n k u : ℕ}

def dealt (n k : ℕ) : Loads := ⟨Array.ofFn fun u : Fin n => k / n + if u < k % n then 1 else 0⟩

@[simp] lemma size_dealt (n k : ℕ) : (dealt n k).size = n := Array.size_ofFn

@[simp] lemma dealt_zero (n : ℕ) : dealt n 0 = ofSize n := by
  rw [dealt, ofSize, mk.injEq]
  apply Array.ext
  · simp
  · simp

lemma load_dealt (hu : u < n) : (dealt n k).load u = k / n + if u < k % n then 1 else 0 := by
  apply load_of_get?
  rw [dealt, get?, Array.getElem?_ofFn, dif_pos hu]

lemma lightest?_dealt (hn : 0 < n) (k : ℕ) : (dealt n k).lightest? = some (k % n) := by
  have hk : k % n < n := Nat.mod_lt k hn
  rw [lightest?_eq_some_iff, size_dealt]
  refine ⟨hk, fun v hv => ?_⟩
  rw [load_dealt hk, load_dealt hv, if_neg (Nat.lt_irrefl _), Nat.add_zero]
  exact ⟨Nat.le_add_right _ _, fun hl => by rw [if_pos hl]; exact Nat.lt_succ_self _⟩

lemma stair_succ (hu : u < n) (k : ℕ) : ((k + 1) / n + if u < (k + 1) % n then 1 else 0) =
    (k / n + if u < k % n then 1 else 0) + if k % n = u then 1 else 0 := by
  have hn : 0 < n := Nat.zero_lt_of_lt hu
  have hk : k % n < n := Nat.mod_lt k hn
  have hs : k % n + n * (k / n) = k := Nat.mod_add_div k n
  -- the step climbs to the next unit, or a level is full
  rcases Nat.lt_or_eq_of_le (Nat.succ_le_of_lt hk) with hl | hl
  · have hx : k % n + 1 + n * (k / n) = k + 1 := by rw [Nat.add_right_comm, hs]
    obtain ⟨hd, hm⟩ := (Nat.div_mod_unique hn).mpr ⟨hx, hl⟩
    rw [hd, hm]
    split_ifs <;> omega
  · have hx : 0 + n * (k / n + 1) = k + 1 := by
      have hl : k % n + 1 = n := hl
      rw [Nat.mul_add_one, Nat.zero_add]
      omega
    obtain ⟨hd, hm⟩ := (Nat.div_mod_unique hn).mpr ⟨hx, hn⟩
    rw [hd, hm]
    split_ifs <;> omega

lemma charge_dealt (n k : ℕ) : (dealt n k).charge (k % n) = dealt n (k + 1) := by
  rw [dealt, charge, dealt, mk.injEq]
  apply Array.ext
  · simp
  · intro u hu _
    have hu : u < n := by simpa using hu
    rw [Array.getElem_modify, Array.getElem_ofFn, Array.getElem_ofFn, stair_succ hu]
    split <;> rfl

end Loads

namespace Policy

inductive Request (τ : Type) where
  | choose (task : Task τ)
  | release (unit : UnitId)

def Request.isChoose {τ : Type} : Request τ → Bool
  | .choose _ => true
  | .release _ => false

variable {σ τ : Type} [Policy σ τ]

def answers (p : σ) : List (Request τ) → List (Except PolicyError UnitId)
  | [] => []
  | .choose t :: requests => (Policy.choose p t).1 :: answers (Policy.choose p t).2 requests
  | .release u :: requests => answers (Policy.release τ p u).1 requests

end Policy

namespace NamedPolicy

open Policy

variable {τ : Type} {n k : ℕ}

lemma choose_leastLoaded (hn : 0 < n) (k : ℕ) (t : Task τ) :
    Policy.choose (.leastLoaded ⟨.dealt n k⟩ : NamedPolicy) t =
      (.ok (k % n), .leastLoaded ⟨.dealt n (k + 1)⟩) := by
  simp [Policy.choose, Loads.lightest?_dealt hn, Loads.charge_dealt]

lemma choose_of_size_eq_zero {p : NamedPolicy} (hz : p.table.size = 0) (t : Task τ) :
    Policy.choose p t = (.error .noUnits, p) := by
  have hp : p.InTurn := by
    cases p with
    | leastLoaded p => trivial
    | roundRobin p => exact fun hs => absurd hz hs.ne'
  rcases choose_cases hp t with ⟨_, hc⟩ | ⟨u, q, _, hu, _⟩
  · exact hc
  · exact absurd (hz ▸ hu) (Nat.not_lt_zero u)

lemma choose_roundRobin {p : RoundRobin} (hn : 0 < n) (hs : p.loads.size = n) (t : Task τ) :
    Policy.choose (.roundRobin p : NamedPolicy) t =
      (.ok p.next, .roundRobin ⟨p.loads.charge p.next, (p.next + 1) % n⟩) := by
  have he : p.loads.isEmpty = false := by
    rw [Loads.isEmpty, Array.isEmpty_eq_false_iff, ← Array.size_pos_iff]
    exact hn.trans_eq hs.symm
  simp [Policy.choose, he, hs]

lemma answers_roundRobin {p : RoundRobin} (hn : 0 < n) (hs : p.loads.size = n) (hk : p.next = k % n)
    (requests : List (Request τ)) : answers (.roundRobin p : NamedPolicy) requests =
      (List.range' k (requests.countP Request.isChoose)).map fun i => .ok (i % n) := by
  induction requests generalizing p k with
  | nil => rfl
  | cons request requests ih =>
    cases request with
    | choose t =>
      have ht : (p.next + 1) % n = (k + 1) % n := by rw [hk, Nat.mod_add_mod]
      have hr := ih (p := ⟨p.loads.charge p.next, (p.next + 1) % n⟩) ((p.loads.size_charge _).trans hs) ht
      rw [answers, choose_roundRobin hn hs, hr, List.countP_cons_of_pos rfl, List.range'_succ, List.map_cons, hk]
    | release u =>
      have hr := ih (p := ⟨(p.loads.release u).1, p.next⟩) ((p.loads.size_release u).trans hs) hk
      rw [answers, List.countP_cons_of_neg (by simp [Request.isChoose])]
      exact hr

lemma answers_leastLoaded (hn : 0 < n) (tasks : List (Task τ)) :
    answers (.leastLoaded ⟨.dealt n k⟩ : NamedPolicy) (tasks.map .choose) =
      (List.range' k tasks.length).map fun i => .ok (i % n) := by
  induction tasks generalizing k with
  | nil => rfl
  | cons t tasks ih =>
    rw [List.map_cons, answers, choose_leastLoaded hn, ih, List.length_cons, List.range'_succ, List.map_cons]

lemma release_eq (p : NamedPolicy) (u : UnitId) :
    (Policy.release τ p u).1.table = (p.table.release u).1 ∧
      (Policy.release τ p u).2 = (p.table.release u).2 := by
  cases p <;> exact ⟨rfl, rfl⟩

end NamedPolicy
end Dispatch
