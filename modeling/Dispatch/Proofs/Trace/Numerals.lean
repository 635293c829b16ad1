import Dispatch.Trace.Cells
import Mathlib.Data.List.TakeWhile
import Mathlib.Data.Nat.Digits.Lemmas
import Mathlib.Tactic

namespace Dispatch

namespace Trace

def valueOf (digits : List Char) : ℕ := Nat.ofDigits 10 (digits.reverse.map fun c => c.toNat - '0'.toNat)

def unsigned (cell : String) : List Char :=
  match cell.toList with
  | '+' :: rest => rest
  | chars => chars

def Numeral (cell : String) : Prop := unsigned cell ≠ [] ∧ (unsigned cell).all Char.isDigit = true

instance (cell : String) : Decidable (Numeral cell) := inferInstanceAs (Decidable (_ ∧ _))

def Overlong (cell : String) : Prop := UInt64.size ≤ valueOf ((unsigned cell).takeWhile Char.isDigit)

instance (cell : String) : Decidable (Overlong cell) := inferInstanceAs (Decidable (_ ≤ _))

section count

variable {c : Char} {chars : List Char} {cell : String} {n : ℕ}

lemma valueOf_cons (c : Char) (digits : List Char) :
    valueOf (c :: digits) = (c.toNat - '0'.toNat) * 10 ^ digits.length + valueOf digits := by
  rw [valueOf, List.reverse_cons, List.map_append, Nat.ofDigits_append, List.map_singleton,
    Nat.ofDigits_singleton, List.length_map, List.length_reverse, ← valueOf]
  ring

lemma extend_cons (n : ℕ) (c : Char) (digits : List Char) :
    n * 10 ^ (c :: digits).length + valueOf (c :: digits) =
      (n * 10 + (c.toNat - '0'.toNat)) * 10 ^ digits.length + valueOf digits := by
  rw [valueOf_cons, List.length_cons]
  ring

lemma digit?_of_isDigit (h : c.isDigit = true) : Count.digit? c = some (c.toNat - '0'.toNat) := if_pos h

lemma digit?_of_not_isDigit (h : ¬ c.isDigit = true) : Count.digit? c = none := if_neg h

lemma le_extend (n : ℕ) (digits : List Char) : n ≤ n * 10 ^ digits.length + valueOf digits :=
  (Nat.le_mul_of_pos_right n (by positivity)).trans (Nat.le_add_right _ _)

lemma ofDigits_eq (hn : n < UInt64.size) : Count.ofDigits n chars =
    let m := n * 10 ^ (chars.takeWhile Char.isDigit).length + valueOf (chars.takeWhile Char.isDigit)
    if UInt64.size ≤ m then .overflow
    else if chars.all Char.isDigit then .exact (.ofNat m)
    else .invalid := by
  induction chars generalizing n with
  | nil => simp [Count.ofDigits, valueOf, hn]
  | cons c rest ih =>
    rw [Count.ofDigits]
    by_cases hc : c.isDigit = true
    · rw [digit?_of_isDigit hc, List.takeWhile_cons_of_pos hc, extend_cons, List.all_cons, hc, Bool.true_and]
      dsimp only
      by_cases hs : n * 10 + (c.toNat - '0'.toNat) < UInt64.size
      · rw [if_pos hs]
        exact ih hs
      · rw [if_neg hs, if_pos ((not_lt.mp hs).trans (le_extend _ _))]
    · rw [digit?_of_not_isDigit hc, List.takeWhile_cons_of_neg hc]
      simp [valueOf, hn, hc]

lemma unsigned_of_plus {rest : List Char} (h : cell.toList = '+' :: rest) : unsigned cell = rest := by
  rw [unsigned, h]
  rfl

lemma unsigned_of_not_plus (h : ∀ rest, cell.toList ≠ '+' :: rest) : unsigned cell = cell.toList := by
  rw [unsigned]
  split
  · rename_i rest hr
    exact absurd hr (h rest)
  · rfl

lemma parse_eq (cell : String) : Count.parse cell =
    if unsigned cell = [] then .invalid else Count.ofDigits 0 (unsigned cell) := by
  rw [Count.parse]
  split
  · rename_i h
    rw [unsigned_of_not_plus fun rest hr => List.cons_ne_nil _ _ (hr.symm.trans h), h, if_pos rfl]
  · rename_i h
    rw [unsigned_of_plus h, if_pos rfl]
  · rename_i digits hd h
    rw [unsigned_of_plus h, if_neg hd]
  · rename_i hn _ hp
    rw [unsigned_of_not_plus hp, if_neg hn]

lemma takeWhile_of_numeral (h : Numeral cell) : (unsigned cell).takeWhile Char.isDigit = unsigned cell :=
  List.takeWhile_eq_self_iff.mpr (List.all_eq_true.mp h.2)

lemma parse_of_overlong (h : Overlong cell) : Count.parse cell = .overflow := by
  have hne : unsigned cell ≠ [] := by
    intro he
    rw [Overlong, he] at h
    exact absurd h (by decide)
  rw [parse_eq, if_neg hne, ofDigits_eq (by decide)]
  exact if_pos (by simpa [Overlong] using h)

lemma parse_of_numeral (h : Numeral cell) (ho : ¬ Overlong cell) :
    Count.parse cell = .exact (.ofNat (valueOf (unsigned cell))) := by
  rw [Overlong, takeWhile_of_numeral h] at ho
  rw [parse_eq, if_neg h.1, ofDigits_eq (by decide), takeWhile_of_numeral h, Nat.zero_mul, Nat.zero_add]
  simp only [ho, h.2, if_true, if_false]

lemma parse_of_not_numeral (h : ¬ Numeral cell) (ho : ¬ Overlong cell) : Count.parse cell = .invalid := by
  rw [parse_eq]
  split_ifs with hne
  · rfl
  · have hd : (unsigned cell).all Char.isDigit = false := Bool.eq_false_of_not_eq_true fun hd => h ⟨hne, hd⟩
    rw [Overlong] at ho
    rw [ofDigits_eq (by decide), Nat.zero_mul, Nat.zero_add]
    simp only [ho, hd, if_false, Bool.false_eq_true]

end count

end Trace

end Dispatch
