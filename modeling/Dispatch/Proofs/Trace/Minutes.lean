import Dispatch.Proofs.Trace.Expansion

namespace Dispatch

namespace Trace

variable {τ : Type} [Time τ] {cost : String → UInt64 → Cost} {settings : Settings} {cell : String}

lemma addMinute_of_overlong (h : settings.minuteLimit.toNat < 2 ^ 64 - 1) (ho : Overlong cell)
    (function : String) (minute : ℕ) (r : Reading τ) :
    Reading.Extends cost settings (List.replicate settings.minuteLimit.toNat (function, minute)) 0 1 r
      (Reading.addMinute cost settings function r minute cell) := by
  have hs := Reading.extends_addMinute cost settings function minute r cell
  have hp := parse_of_overlong ho
  have ha : asked cell = 2 ^ 64 - 1 := by rw [asked, hp]
  rw [ha, hp, Nat.min_eq_right h.le, if_neg (by decide), if_pos h] at hs
  exact hs

/-- Numerals count, however large they are, and so does a cell with digits in front that are too large for a
word; any other cell counts for nothing. -/
theorem addMinute_counts (h : settings.minuteLimit.toNat < 2 ^ 64 - 1) (cell function : String) (minute : ℕ)
    (r : Reading τ) :
    let limit := settings.minuteLimit.toNat
    let n := valueOf (unsigned cell)
    let s := Reading.addMinute cost settings function r minute cell
    (Numeral cell → Reading.Extends cost settings (List.replicate (min n limit) (function, minute)) 0
      (if limit < n then 1 else 0) r s) ∧
    (¬ Numeral cell → ¬ Overlong cell → Reading.Extends cost settings [] 1 0 r s) ∧
    (¬ Numeral cell → Overlong cell →
      Reading.Extends cost settings (List.replicate limit (function, minute)) 0 1 r s) := by
  intro limit n s
  have hs := Reading.extends_addMinute cost settings function minute r cell
  refine ⟨fun hn => ?_, fun hn ho => ?_, fun _ ho => addMinute_of_overlong h ho function minute r⟩
  · by_cases ho : Overlong cell
    · have hl : limit < n := by
        rw [Overlong, takeWhile_of_numeral hn] at ho
        exact h.trans_le ((Nat.sub_le _ _).trans ho)
      rw [Nat.min_eq_right hl.le, if_pos hl]
      exact addMinute_of_overlong h ho function minute r
    · have hp := parse_of_numeral hn ho
      have ha : asked cell = n := by
        rw [Overlong, takeWhile_of_numeral hn, not_le] at ho
        rw [asked, hp]
        exact UInt64.toNat_ofNat_of_lt ho
      rw [ha, hp, if_neg (by simp)] at hs
      exact hs
  · have hp := parse_of_not_numeral hn ho
    have ha : asked cell = 0 := by rw [asked, hp]
    rw [ha, hp, if_pos rfl, if_neg (Nat.not_lt_zero _), Nat.zero_min] at hs
    exact hs

theorem addMinute_counts_seven :
    let settings : Settings := { minuteLimit := 2 }
    settings.minuteLimit.toNat < 2 ^ 64 - 1 ∧
    Reading.Extends demands settings [("f", 0), ("f", 0)] 0 1 ({} : Reading ℚ)
      (Reading.addMinute demands settings "f" {} 0 "+07") ∧
    Reading.Extends demands settings [] 1 0 ({} : Reading ℚ) (Reading.addMinute demands settings "f" {} 0 "-1") ∧
    Reading.Extends demands settings [("f", 0), ("f", 0)] 0 1 ({} : Reading ℚ)
      (Reading.addMinute demands settings "f" {} 0 "99999999999999999999x") := by
  intro settings
  have h : settings.minuteLimit.toNat < 2 ^ 64 - 1 := by decide
  exact ⟨h, (addMinute_counts h "+07" "f" 0 {}).1 (by decide),
    (addMinute_counts h "-1" "f" 0 {}).2.1 (by decide) (by decide),
    (addMinute_counts h "99999999999999999999x" "f" 0 {}).2.2 (by decide) (by decide)⟩

/-- A cell that is no numeral may count like one that is too large. -/
theorem overlong_cell_counted :
    let settings : Settings := { minuteLimit := 2 }
    let cell := "99999999999999999999x"
    let s : Reading ℚ := Reading.addMinute demands settings "f" {} 0 cell
    ¬ Numeral cell ∧ s.tasks.size = 2 ∧ s.tally = { cut := 1 } ∧
      ¬ Reading.Extends demands settings [] 1 0 {} s := by
  intro settings cell s
  have ho : Overlong cell := by decide
  have hs : Reading.Extends demands settings [("f", 0), ("f", 0)] 0 1 ({} : Reading ℚ) s :=
    addMinute_of_overlong (by decide) ho "f" 0 {}
  have ht : s.tally = { cut := 1 } := hs.tally
  refine ⟨by decide, ?_, ht, fun h => ?_⟩
  · rw [← Array.length_toList, hs.tasks]
    rfl
  · exact absurd (ht.symm.trans h.tally) (by decide)

end Trace

end Dispatch
