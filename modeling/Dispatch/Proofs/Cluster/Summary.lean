import Dispatch.Proofs.Cluster.Records
import Dispatch.Proofs.Cluster.Times

namespace Dispatch

def Record.ended {τ : Type} (r : Record τ) : Bool := r.started.isSome && r.finished.isSome

namespace Cluster

variable {τ : Type}

def ends (l : List (Record τ)) : List (Record τ × τ × τ) :=
  l.filterMap fun r =>
    match r.started, r.finished with
    | some started, some finished => some (r, started, finished)
    | _, _ => none

lemma countP_ends (l : List (Record τ)) (q : Record τ → Bool) :
    (ends l).countP (fun x => q x.1) = l.countP fun r => r.ended && q r := by
  rw [ends, List.countP_filterMap]
  apply List.countP_congr
  rintro ⟨id, u, cores, arrived, started, finished⟩ _
  cases started <;> cases finished <;> simp [Record.ended]

lemma length_ends (l : List (Record τ)) : (ends l).length = l.countP Record.ended := by
  have h := countP_ends l fun _ => true
  simpa using h

lemma mem_ends {l : List (Record τ)} {r : Record τ} {a b : τ} :
    (r, a, b) ∈ ends l ↔ r ∈ l ∧ r.started = some a ∧ r.finished = some b := by
  rw [ends, List.mem_filterMap]
  constructor
  · rintro ⟨⟨id, u, cores, arrived, started, finished⟩, hm, h⟩
    cases started <;> cases finished <;> cases h
    exact ⟨hm, rfl, rfl⟩
  · rintro ⟨hm, hs, hf⟩
    exact ⟨r, hm, by rw [hs, hf]⟩

lemma mem_finishes {e : Cluster τ} {x : τ}
    (hb : ∀ id r, e.record? id = some r → r.finished.isSome = true → r.started.isSome = true) :
    x ∈ (ends e.recorded).map (·.2.2) ↔ ∃ id, e.finished? id = some x := by
  rw [List.mem_map]
  constructor
  · rintro ⟨⟨r, a, b⟩, hm, rfl⟩
    obtain ⟨hr, _, hf⟩ := mem_ends.mp hm
    obtain ⟨id, hr⟩ := mem_recorded.mp hr
    exact ⟨id, by rw [finished?, hr, Option.bind_some, hf]⟩
  · rintro ⟨id, hx⟩
    obtain ⟨r, hr, hf⟩ := Option.bind_eq_some_iff.mp hx
    obtain ⟨a, ha⟩ := Option.isSome_iff_exists.mp (hb id r hr (by rw [hf]; rfl))
    exact ⟨(r, a, x), mem_ends.mpr ⟨mem_recorded.mpr ⟨id, hr⟩, ha, hf⟩, rfl⟩

lemma getElem?_foldl_modify (l : List ℕ) (counts : Array ℕ) (u : ℕ) :
    (l.foldl (fun counts u => counts.modify u (· + 1)) counts)[u]? = counts[u]?.map (· + l.count u) := by
  induction l generalizing counts with
  | nil => simp
  | cons v l ih =>
    rw [List.foldl_cons, ih, Array.getElem?_modify, List.count_cons]
    cases counts[u]? <;> by_cases hv : v = u <;> simp [hv]
    omega

variable [Time τ]

lemma foldl_countRecord (l : List (Record τ)) (s : Summary τ) :
    (l.foldl countRecord s).completed = s.completed + (ends l).length ∧
      (l.foldl countRecord s).makespan = ((ends l).map (·.2.2)).foldl Time.max s.makespan ∧
      (l.foldl countRecord s).working.data.toList =
        s.working.data.toList ++ (ends l).map (fun x => Time.sub x.2.2 x.2.1) ∧
      (l.foldl countRecord s).waiting.data.toList =
        s.waiting.data.toList ++ (ends l).map (fun x => Time.sub x.2.1 x.1.arrived) ∧
      (l.foldl countRecord s).perUnit =
        ((ends l).map (·.1.unit)).foldl (fun counts u => counts.modify u (· + 1)) s.perUnit := by
  induction l generalizing s with
  | nil => simp [ends]
  | cons r l ih =>
    obtain ⟨id, u, cores, arrived, started, finished⟩ := r
    rw [List.foldl_cons]
    obtain ⟨hc, hm, hw, hq, hu⟩ := ih (countRecord s ⟨id, u, cores, arrived, started, finished⟩)
    rw [hc, hm, hw, hq, hu]
    cases started with
    | none => simp [ends, countRecord]
    | some a =>
      cases finished with
      | none => simp [ends, countRecord]
      | some b =>
        simp [ends, countRecord, Sample.add]
        omega

lemma summary_eq (e : Cluster τ) : e.summary = (e.records.toList.map Prod.snd).foldl countRecord {
    completed := 0
    makespan := Time.zero
    working := .empty
    waiting := .empty
    perUnit := Array.replicate e.units.size 0 } := by
  rw [summary, Std.TreeMap.foldl_eq_foldl_toList, List.foldl_map]

lemma summary_counts (e : Cluster τ) :
    e.summary.completed = e.recorded.countP Record.ended ∧
      e.summary.working.size = e.recorded.countP Record.ended ∧
      e.summary.waiting.size = e.recorded.countP Record.ended ∧
      e.summary.makespan = ((ends e.recorded).map (·.2.2)).foldl Time.max Time.zero ∧
      ∀ u, e.summary.perUnit[u]? =
        if u < e.units.size then some (e.recorded.countP fun r => r.ended && r.unit == u) else none := by
  obtain ⟨hc, hm, hw, hq, hu⟩ := foldl_countRecord e.recorded (τ := τ)
    ⟨0, Time.zero, .empty, .empty, Array.replicate e.units.size 0⟩
  have hs : e.summary = e.recorded.foldl countRecord
      ⟨0, Time.zero, .empty, .empty, Array.replicate e.units.size 0⟩ := summary_eq e
  refine ⟨?_, ?_, ?_, ?_, fun u => ?_⟩
  · rw [hs, hc, Nat.zero_add, length_ends]
  · rw [hs, Sample.size, ← Array.length_toList, hw, List.length_append, List.length_map, length_ends]
    exact Nat.zero_add _
  · rw [hs, Sample.size, ← Array.length_toList, hq, List.length_append, List.length_map, length_ends]
    exact Nat.zero_add _
  · rw [hs, hm]
  · rw [hs, hu, getElem?_foldl_modify, Array.getElem?_replicate, List.count_eq_countP, List.countP_map]
    have hq := countP_ends e.recorded (·.unit == u)
    split
    · rw [Option.map_some, Nat.zero_add]
      exact congrArg some hq
    · rfl

end Cluster

end Dispatch
