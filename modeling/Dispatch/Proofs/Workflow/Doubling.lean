import Dispatch.Workflow.Recursion
import Mathlib.Tactic

namespace Dispatch

namespace Saturating

lemma mul_le_mul {a b c d : UInt64} (hb : a ≤ b) (hd : c ≤ d) : mul a c ≤ mul b d := by
  rw [UInt64.le_iff_toNat_le] at hb hd ⊢
  rw [toNat_mul, toNat_mul]
  exact min_le_min_right _ (Nat.mul_le_mul hb hd)

end Saturating

namespace Doubling

variable {m : Doubling} {n k : UInt64}

def Stalls (m : Doubling) (n : UInt64) : Prop := m.base = 1 ∧ 64 ≤ n

instance (m : Doubling) (n : UInt64) : Decidable (m.Stalls n) := inferInstanceAs (Decidable (_ ∧ _))

lemma stalls_iff : m.Stalls n ↔ m.base.toNat = 1 ∧ 64 ≤ n.toNat :=
  and_congr UInt64.toNat_inj.symm UInt64.le_iff_toNat_le

lemma toNat_exponent (n : UInt64) : (min n 63).toNat = min n.toNat 63 := by
  rw [UInt64.min_def, apply_ite UInt64.toNat, Nat.min_def]
  simp only [UInt64.le_iff_toNat_le]
  rfl

lemma toNat_factor (n : UInt64) : ((1 : UInt64) <<< min n 63).toNat = 2 ^ min n.toNat 63 := by
  have hm : min n.toNat 63 < 64 := (Nat.min_le_right _ _).trans_lt (by decide)
  rw [UInt64.toNat_shiftLeft, toNat_exponent, Nat.mod_eq_of_lt hm, UInt64.toNat_one, Nat.one_shiftLeft]
  exact Nat.mod_eq_of_lt (Nat.pow_lt_pow_right (by decide) hm)

lemma factor_le (h : n ≤ k) : (1 : UInt64) <<< min n 63 ≤ 1 <<< min k 63 := by
  rw [UInt64.le_iff_toNat_le] at h ⊢
  rw [toNat_factor, toNat_factor]
  exact Nat.pow_le_pow_right (by decide) (min_le_min_right _ h)

lemma toNat_runtime (m : Doubling) (n : UInt64) :
    (m.cost n).runtime.toNat = min (m.base.toNat * 2 ^ min n.toNat 63) (2 ^ 64 - 1) := by
  rw [← toNat_factor]
  exact Saturating.toNat_mul _ _

lemma toNat_length (m : Doubling) (n : UInt64) :
    (m.cost n).length.toNat = min ((m.cost n).runtime.toNat * m.rating.toNat) (2 ^ 64 - 1) :=
  Saturating.toNat_mul _ _

lemma runtime_of_stalls (h : m.Stalls n) : (m.cost n).runtime.toNat = 2 ^ 63 := by
  obtain ⟨hb, hn⟩ := stalls_iff.mp h
  have he : min n.toNat 63 = 63 := by omega
  rw [toNat_runtime, hb, he]
  rfl

-- past the last exponent, zero stays zero, and two is already lifted to the end of the words
lemma runtime_of_not_stalls (h : ¬ m.Stalls n) :
    (m.cost n).runtime.toNat = min (m.base.toNat * 2 ^ n.toNat) (2 ^ 64 - 1) := by
  rw [toNat_runtime]
  by_cases hn : n.toNat ≤ 63
  · rw [Nat.min_eq_left hn]
  · have he : min n.toNat 63 = 63 := by omega
    rw [he]
    rw [stalls_iff] at h
    obtain hb | hb : m.base.toNat = 0 ∨ 2 ≤ m.base.toNat := by omega
    · rw [hb, Nat.zero_mul, Nat.zero_mul]
    · have hp : 2 ^ 64 ≤ m.base.toNat * 2 ^ 63 := Nat.mul_le_mul_right (2 ^ 63) hb
      have hq : m.base.toNat * 2 ^ 63 ≤ m.base.toNat * 2 ^ n.toNat :=
        Nat.mul_le_mul_left _ (Nat.pow_le_pow_right (by decide) (by omega))
      omega

lemma runtime_le (h : n ≤ k) : (m.cost n).runtime ≤ (m.cost k).runtime :=
  Saturating.mul_le_mul (UInt64.le_refl m.base) (factor_le h)

lemma length_le (h : n ≤ k) : (m.cost n).length ≤ (m.cost k).length :=
  Saturating.mul_le_mul (runtime_le h) (UInt64.le_refl m.rating)

lemma runtime_succ (hk : k.toNat = n.toNat + 1) (hs : (m.cost k).runtime.toNat < 2 ^ 64 - 1)
    (h : ¬ m.Stalls k) : (m.cost k).runtime.toNat = 2 * (m.cost n).runtime.toNat := by
  have hn : ¬ m.Stalls n := by
    rw [stalls_iff] at h ⊢
    omega
  have hd : m.base.toNat * 2 ^ k.toNat = 2 * (m.base.toNat * 2 ^ n.toNat) := by
    rw [hk, pow_succ]
    ring
  rw [runtime_of_not_stalls h] at hs ⊢
  rw [runtime_of_not_stalls hn]
  omega

/-- The runtime is the base times a power of two as far as words go, and doubles until it comes to their end; a base
of one, which the last exponent does not lift that far, is the only one whose runtime stands still before. The length
follows the runtime, and neither falls. -/
theorem cost_saturates (m : Doubling) (n : UInt64) :
    let c := m.cost n
    (c.runtime.toNat = if m.Stalls n then 2 ^ 63 else min (m.base.toNat * 2 ^ n.toNat) (2 ^ 64 - 1)) ∧
    c.length.toNat = min (c.runtime.toNat * m.rating.toNat) (2 ^ 64 - 1) ∧
    c.memory = m.memory ∧ c.cores = 1 ∧
    (∀ k, n ≤ k → c.runtime ≤ (m.cost k).runtime ∧ c.length ≤ (m.cost k).length) ∧
    ∀ k : UInt64, k.toNat = n.toNat + 1 → (m.cost k).runtime.toNat < 2 ^ 64 - 1 → ¬ m.Stalls k →
      (m.cost k).runtime.toNat = 2 * c.runtime.toNat := by
  intro c
  refine ⟨?_, toNat_length m n, rfl, rfl, fun k hk => ⟨runtime_le hk, length_le hk⟩,
    fun k hk hs h => runtime_succ hk hs h⟩
  split_ifs with h
  · exact runtime_of_stalls h
  · exact runtime_of_not_stalls h

theorem cost_saturates_at_three :
    let m : Doubling := { base := 3, rating := 7 }
    let least : Doubling := { base := 1, rating := 7 }
    (m.cost 62).runtime.toNat = 3 * 2 ^ 62 ∧ (m.cost 62).runtime.toNat = 2 * (m.cost 61).runtime.toNat ∧
      (m.cost 62).length.toNat = 2 ^ 64 - 1 ∧ (m.cost 64).runtime.toNat = 2 ^ 64 - 1 ∧
      (m.cost 62).runtime ≤ (m.cost 64).runtime ∧ (least.cost 64).runtime.toNat = 2 ^ 63 := by
  intro m least
  have hb : m.base.toNat = 3 := rfl
  have h : (m.cost 62).runtime.toNat = 3 * 2 ^ 62 := by
    rw [(cost_saturates m 62).1, if_neg (by decide), hb]
    rfl
  have he : (m.cost 64).runtime.toNat = 2 ^ 64 - 1 := by
    rw [(cost_saturates m 64).1, if_neg (by decide), hb]
    rfl
  have hs : (least.cost 64).runtime.toNat = 2 ^ 63 := by
    rw [(cost_saturates least 64).1, if_pos (by decide)]
  obtain ⟨-, -, -, -, -, hd⟩ := cost_saturates m 61
  obtain ⟨-, hl, -, -, hm, -⟩ := cost_saturates m 62
  refine ⟨h, hd 62 rfl (by omega) (by decide), ?_, he, (hm 64 (by decide)).1, hs⟩
  rw [hl, h]
  rfl

/-- A runtime can stand still before words end. -/
theorem least_base_stands_still :
    let m : Doubling := { base := 1, rating := 1 }
    (m.cost 64).runtime.toNat = 2 ^ 63 ∧ (m.cost 64).length.toNat = 2 ^ 63 ∧
      (m.cost 64).runtime.toNat ≠ min (m.base.toNat * 2 ^ 64) (2 ^ 64 - 1) ∧
      (m.cost 64).runtime.toNat < 2 ^ 64 - 1 ∧
      (m.cost 64).runtime.toNat ≠ 2 * (m.cost 63).runtime.toNat := by
  intro m
  have h₆₄ : (m.cost 64).runtime.toNat = 2 ^ 63 := runtime_of_stalls (by decide)
  have hb : m.base.toNat = 1 := rfl
  have h₆₃ : (m.cost 63).runtime.toNat = 2 ^ 63 := by
    rw [runtime_of_not_stalls (by decide), hb]
    rfl
  have hl : (m.cost 64).length.toNat = 2 ^ 63 := by
    rw [toNat_length, h₆₄]
    rfl
  exact ⟨h₆₄, hl, by omega, by omega, by omega⟩

end Doubling

end Dispatch
