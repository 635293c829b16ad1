import Dispatch.Proofs.Totals
import Dispatch.Proofs.Trace.Numerals
import Dispatch.Proofs.Whole
import Dispatch.Proofs.Workflow.Insertion
import Dispatch.Trace.Source

namespace Dispatch

variable {τ : Type}

namespace Trace

def asked (cell : String) : ℕ :=
  match Count.parse cell with
  | .exact n => n.toNat
  | .overflow => 2 ^ 64 - 1
  | .invalid => 0

def record? : Except RowFault (Array String) → Option (Array String)
  | .ok cells => if 1444 ≤ cells.size then some cells else none
  | .error _ => none

def minuteCell (cells : Array String) (minute : ℕ) : String := cells.getD (4 + minute) ""

def invocations (limit : ℕ) (cells : Array String) : List (String × ℕ) :=
  (List.range 1440).flatMap fun m =>
    List.replicate (min (asked (minuteCell cells m)) limit) (cells.getD 2 "", m)

def invalidCells (cells : Array String) : ℕ :=
  (List.range 1440).countP fun m => Count.parse (minuteCell cells m) = .invalid

def cutCells (limit : ℕ) (cells : Array String) : ℕ :=
  (List.range 1440).countP fun m => limit < asked (minuteCell cells m)

lemma toNat_invocations (cell : String) : (Count.parse cell).invocations.toNat = asked cell := by
  rw [asked]
  cases Count.parse cell <;> rfl

namespace Reading

variable [Time τ] {cost : String → UInt64 → Cost} {settings : Settings} {function : String} {minute : ℕ}
  {r : Reading τ} {calls : List (String × ℕ)}

lemma addTasks_eq (n : ℕ) (r : Reading τ) : addTasks cost settings function minute n r =
    { r with tasks := r.tasks ++
        ((List.range n).map fun i => task cost settings function minute (r.tasks.size + i)).toArray } := by
  induction n generalizing r with
  | zero => simp [addTasks]
  | succ n ih =>
    rw [addTasks, ih]
    congr 1
    apply Array.toList_inj.mp
    simp [List.range_succ_eq_map, Nat.add_assoc, Nat.add_comm 1, Function.comp_def]

lemma addMinute_eq (cell : String) : addMinute cost settings function r minute cell =
    { tasks := r.tasks ++ ((List.range (min (asked cell) settings.minuteLimit.toNat)).map fun i =>
        task cost settings function minute (r.tasks.size + i)).toArray
      tally := { r.tally with
        invalid := r.tally.invalid + if Count.parse cell = .invalid then 1 else 0
        cut := r.tally.cut + if settings.minuteLimit.toNat < asked cell then 1 else 0 }
      warnings := if Count.parse cell = .invalid then
        r.warnings.push (.invalidCount r.tally.rows cell minute function) else r.warnings } := by
  have ha := toNat_invocations cell
  dsimp only [addMinute]
  simp only [UInt64.lt_iff_toNat_lt, ha]
  by_cases hl : settings.minuteLimit.toNat < asked cell
  · have hv : Count.parse cell ≠ .invalid := fun hv => by simp [asked, hv] at hl
    simp only [hl, hv, if_true, if_false, addTasks_eq, Nat.min_eq_right hl.le, Nat.add_zero]
  · rw [not_lt] at hl
    by_cases hv : Count.parse cell = .invalid
    · simp only [hl.not_gt, hv, if_true, if_false, addTasks_eq, Nat.min_eq_left hl, Nat.add_zero]
    · simp only [hl.not_gt, hv, if_false, addTasks_eq, Nat.min_eq_left hl, Nat.add_zero]

structure Extends (cost : String → UInt64 → Cost) (settings : Settings) (calls : List (String × ℕ))
    (invalid cut : ℕ) (r s : Reading τ) : Prop where
  tasks : s.tasks.toList =
    r.tasks.toList ++ calls.mapIdx fun k c => task cost settings c.1 c.2 (r.tasks.size + k)
  tally : s.tally = { r.tally with invalid := r.tally.invalid + invalid, cut := r.tally.cut + cut }

lemma Extends.refl (r : Reading τ) : Extends cost settings [] 0 0 r r := ⟨by simp, rfl⟩

lemma Extends.trans {r s t : Reading τ} {calls more : List (String × ℕ)} {i j c d : ℕ}
    (h : Extends cost settings calls i c r s) (h' : Extends cost settings more j d s t) :
    Extends cost settings (calls ++ more) (i + j) (c + d) r t where
  tasks := by
    have hs : s.tasks.size = r.tasks.size + calls.length := by
      rw [← Array.length_toList, h.tasks]
      simp
    rw [h'.tasks, h.tasks, List.mapIdx_append, List.append_assoc, hs]
    simp only [Nat.add_assoc, Nat.add_comm calls.length]
  tally := by
    rw [h'.tally, h.tally]
    simp only [Nat.add_assoc]

lemma extends_addMinute (cost : String → UInt64 → Cost) (settings : Settings) (function : String) (minute : ℕ)
    (r : Reading τ) (cell : String) :
    Extends cost settings (List.replicate (min (asked cell) settings.minuteLimit.toNat) (function, minute))
      (if Count.parse cell = .invalid then 1 else 0)
      (if settings.minuteLimit.toNat < asked cell then 1 else 0) r
      (addMinute cost settings function r minute cell) where
  tasks := by
    rw [addMinute_eq]
    simp only [Array.toList_append, List.append_cancel_left_eq]
    apply List.ext_getElem <;> simp
  tally := by rw [addMinute_eq]

lemma extends_addMinutes (cell : ℕ → String) (n m : ℕ) (r : Reading τ) :
    Extends cost settings
      ((List.range' m n).flatMap fun i =>
        List.replicate (min (asked (cell i)) settings.minuteLimit.toNat) (function, i))
      ((List.range' m n).countP fun i => Count.parse (cell i) = .invalid)
      ((List.range' m n).countP fun i => settings.minuteLimit.toNat < asked (cell i)) r
      (addMinutes cost settings function r m ((List.range' m n).map cell)) := by
  induction n generalizing m r with
  | zero => exact .refl r
  | succ n ih =>
    rw [List.range'_succ, List.flatMap_cons, List.countP_cons, List.countP_cons, List.map_cons, addMinutes,
      Nat.add_comm (List.countP _ _), Nat.add_comm (List.countP _ _)]
    have hm := extends_addMinute cost settings function m r (cell m)
    simpa only [decide_eq_true_eq] using hm.trans (ih (m + 1) _)

lemma take_drop_cells {cells : Array String} (h : 1444 ≤ cells.size) :
    (cells.toList.drop firstMinute).take minutes = (List.range' 0 1440).map (minuteCell cells) := by
  apply List.ext_getElem
  · simp [firstMinute, minutes]
    omega
  · intro i hi _
    simp only [List.length_take, List.length_drop, Array.length_toList, firstMinute, minutes] at hi
    simp [minuteCell, firstMinute, Array.getD, show 4 + i < cells.size by omega]

lemma addRow_of_record? (cost : String → UInt64 → Cost) (settings : Settings) (r : Reading τ)
    {row : Except RowFault (Array String)} {cells : Array String} (h : record? row = some cells) :
    Extends cost settings (invocations settings.minuteLimit.toNat cells)
      (invalidCells cells) (cutCells settings.minuteLimit.toNat cells)
      { r with tally.rows := r.tally.rows + 1 } (addRow cost settings r row) := by
  cases row with
  | error fault => cases h
  | ok cells' =>
    rw [record?] at h
    split at h
    · rename_i hc
      cases h
      have hn : ¬ cells.size < columns := by simpa [columns, firstMinute, minutes] using hc
      rw [addRow]
      simp only [hn, if_false, take_drop_cells hc, nameColumn]
      simpa only [invocations, invalidCells, cutCells, List.range_eq_range'] using
        extends_addMinutes (minuteCell cells) 1440 0 { r with tally.rows := r.tally.rows + 1 }
    · cases h

lemma addRow_of_not_record (cost : String → UInt64 → Cost) (settings : Settings) (r : Reading τ)
    {row : Except RowFault (Array String)} (h : record? row = none) :
    (addRow cost settings r row).tasks = r.tasks ∧ (addRow cost settings r row).tally =
      { r.tally with rows := r.tally.rows + 1, skipped := r.tally.skipped + 1 } := by
  cases row with
  | error fault => exact ⟨rfl, rfl⟩
  | ok cells =>
    have hn : cells.size < columns := by simpa [record?, columns, firstMinute, minutes] using h
    rw [addRow]
    simp only [hn, if_true]
    exact ⟨rfl, rfl⟩

structure Covers (cost : String → UInt64 → Cost) (settings : Settings)
    (rows : List (Except RowFault (Array String))) (r : Reading τ) : Prop where
  tasks : r.tasks.toList = ((rows.filterMap record?).flatMap
    (invocations settings.minuteLimit.toNat)).mapIdx fun k c => task cost settings c.1 c.2 k
  tally : r.tally = {
    rows := rows.length
    skipped := rows.countP fun row => (record? row).isNone
    invalid := total invalidCells (rows.filterMap record?)
    cut := total (cutCells settings.minuteLimit.toNat) (rows.filterMap record?) }

lemma Covers.addRow {rows : List (Except RowFault (Array String))} (h : Covers cost settings rows r)
    (row : Except RowFault (Array String)) : Covers cost settings (rows ++ [row]) (addRow cost settings r row) := by
  cases hr : record? row with
  | none =>
    obtain ⟨ht, hc⟩ := addRow_of_not_record cost settings r hr
    refine ⟨by simpa [ht, hr] using h.tasks, ?_⟩
    rw [hc, h.tally]
    simp [hr]
  | some cells =>
    have he := addRow_of_record? cost settings r hr
    have hs : r.tasks.size = ((rows.filterMap record?).flatMap
        (invocations settings.minuteLimit.toNat)).length := by
      rw [← Array.length_toList, h.tasks, List.length_mapIdx]
    refine ⟨?_, ?_⟩
    · rw [he.tasks]
      simp [hr, h.tasks, List.mapIdx_append, hs, Nat.add_comm]
    · rw [he.tally, h.tally]
      simp [hr]

lemma covers_foldl (rows : List (Except RowFault (Array String))) :
    Covers cost settings rows (rows.foldl (Reading.addRow cost settings) ({} : Reading τ)) := by
  induction rows using List.reverseRecOn with
  | nil => exact ⟨rfl, rfl⟩
  | append_singleton rows row ih =>
    rw [List.foldl_append]
    exact ih.addRow row

end Reading

lemma tasks_read [Time τ] (cost : String → UInt64 → Cost) (settings : Settings)
    (results : List (Except RowFault (Array String))) : (read cost settings results : Reading τ).tasks.toList =
      (((results.take settings.rowLimit).filterMap record?).flatMap
        (invocations settings.minuteLimit.toNat)).mapIdx fun k c => Reading.task cost settings c.1 c.2 k :=
  (Reading.covers_foldl (results.take settings.rowLimit)).tasks

lemma task_eq [Time τ] (cost : String → UInt64 → Cost) (settings : Settings) (function : String)
    (minute id : ℕ) :
    (Reading.task cost settings function minute id : Task τ) = {
      id := id
      name := function
      input := .ofNat minute
      runtime := (cost function settings.rating).runtime
      memory := (cost function settings.rating).memory
      cores := (cost function settings.rating).cores
      length := (cost function settings.rating).length
      notBefore := Time.quotient (.ofNat (minute * 60)) 1 } := rfl

lemma ids_read [Time τ] (cost : String → UInt64 → Cost) (settings : Settings)
    (results : List (Except RowFault (Array String))) :
    (read cost settings results : Reading τ).tasks.toList.map Task.id =
      List.range (read cost settings results : Reading τ).tasks.size := by
  apply List.ext_getElem (by simp)
  intro k _ _
  rw [List.getElem_map, List.getElem_range]
  simp only [tasks_read, List.getElem_mapIdx, task_eq]

lemma toWorkflow_tasks [Time τ] {tasks : Array (Task τ)}
    (h : (tasks.toList.map Task.id).Nodup) : (toWorkflow tasks).tasks.toList =
      tasks.toList.map (fun t => (t.id, t)) ∧ (toWorkflow tasks).families = [] ∧
      (toWorkflow tasks).root? = none := by
  rw [toWorkflow, ← Array.foldl_toList]
  obtain ⟨ht, hl, hr⟩ := Workflow.foldl_insertTask tasks.toList .empty h
  refine ⟨?_, ?_, hr⟩
  · rw [ht]
    rfl
  · rw [Workflow.families, hl]
    rfl

lemma toNat_seconds (m : Fin 1440) : (UInt64.ofNat (m * 60)).toNat = m * 60 := by
  rw [UInt64.toNat_ofNat']
  omega

def record (function : String) (cell : ℕ → String) : Array String :=
  #["owner", "app", function, "http"] ++ Array.ofFn fun m : Fin 1440 => cell m

section record

variable (function : String) (cell : ℕ → String)

lemma record?_record : record? (.ok (record function cell)) = some (record function cell) := by
  simp [record?, record]

lemma minuteCell_record {m : ℕ} (h : m < 1440) : minuteCell (record function cell) m = cell m := by
  have hs : 4 + m < (record function cell).size := by
    simp [record]
    omega
  rw [minuteCell, Array.getD, dif_pos hs]
  simp [record]

lemma invocations_record (limit : ℕ) : invocations limit (record function cell) =
    (List.range 1440).flatMap fun m => List.replicate (min (asked (cell m)) limit) (function, m) := by
  refine List.flatMap_congr fun m hm => ?_
  rw [minuteCell_record _ _ (List.mem_range.mp hm)]
  simp [record, Array.getD]

lemma invalidCells_record : invalidCells (record function cell) =
    (List.range 1440).countP fun m => Count.parse (cell m) = .invalid := by
  refine List.countP_congr fun m hm => ?_
  rw [minuteCell_record _ _ (List.mem_range.mp hm)]

lemma cutCells_record (limit : ℕ) : cutCells limit (record function cell) =
    (List.range 1440).countP fun m => limit < asked (cell m) := by
  refine List.countP_congr fun m hm => ?_
  rw [minuteCell_record _ _ (List.mem_range.mp hm)]

end record

/-- The rows that are read become tasks, one for each invocation and in the order of the rows and minutes. -/
theorem read_expands (format : Format) (settings : Settings)
    (results : List (Except RowFault (Array String))) :
    let considered := results.take settings.rowLimit
    let records := considered.filterMap record?
    let calls := records.flatMap (invocations settings.minuteLimit.toNat)
    (∀ cell, (Overlong cell → Count.parse cell = .overflow) ∧
      (Numeral cell → ¬ Overlong cell → Count.parse cell = .exact (.ofNat (valueOf (unsigned cell)))) ∧
      (¬ Numeral cell → ¬ Overlong cell → Count.parse cell = .invalid)) ∧
    (∀ {τ : Type} [Time τ],
      let r : Reading τ := read format.cost settings results
      r.tasks.toList = (calls.mapIdx fun k c => {
        id := k
        name := c.1
        input := .ofNat c.2
        runtime := (format.cost c.1 settings.rating).runtime
        memory := (format.cost c.1 settings.rating).memory
        cores := (format.cost c.1 settings.rating).cores
        length := (format.cost c.1 settings.rating).length
        notBefore := Time.quotient (.ofNat (c.2 * 60)) 1 }) ∧
      r.tally = {
        rows := considered.length
        skipped := considered.countP fun row => (record? row).isNone
        invalid := total invalidCells records
        cut := total (cutCells settings.minuteLimit.toNat) records
        tasks := calls.length } ∧
      (toWorkflow r.tasks).tasks.toList = r.tasks.toList.map (fun t => (t.id, t)) ∧
      (toWorkflow r.tasks).families = [] ∧ (toWorkflow r.tasks).root? = none ∧
      ∀ bytes, (({ settings := settings, format := format } : Source τ).workflow (some bytes)).1 =
        .ok (toWorkflow (read format.cost settings (format.rows bytes)).tasks)) ∧
    (∀ m : Fin 1440, (Time.quotient (.ofNat (m * 60)) 1 : ℚ) = m * 60) ∧
    ∀ m : Fin 1440, (Time.quotient (.ofNat (m * 60)) 1 : Binary64).Denotes (m * 60) := by
  intro considered records calls
  refine ⟨fun cell => ⟨parse_of_overlong, parse_of_numeral, parse_of_not_numeral⟩, ?_, ?_, ?_⟩
  · intro τ _ r
    have hc : Reading.Covers format.cost settings considered
        (considered.foldl (Reading.addRow format.cost settings) ({} : Reading τ)) :=
      Reading.covers_foldl considered
    have ht : r.tasks.toList = calls.mapIdx fun k c => Reading.task format.cost settings c.1 c.2 k :=
      tasks_read format.cost settings results
    have hs : r.tasks.size = calls.length := by rw [← Array.length_toList, ht, List.length_mapIdx]
    have hi : r.tasks.toList.map Task.id = List.range r.tasks.size := ids_read format.cost settings results
    obtain ⟨hg, hf, hr⟩ := toWorkflow_tasks (hi ▸ List.nodup_range)
    refine ⟨ht, ?_, hg, hf, hr, fun bytes => rfl⟩
    calc r.tally = { (considered.foldl (Reading.addRow format.cost settings) ({} : Reading τ)).tally with
          tasks := r.tasks.size } := rfl
      _ = _ := by rw [hc.tally, hs]
  · intro m
    have hm := toNat_seconds m
    change ((_ : ℕ) : ℚ) / ((1 : ℕ) : ℚ) = _
    rw [hm]
    push_cast
    exact div_one _
  · intro m
    have hm := toNat_seconds m
    rw [Binary64.quotient_one (by omega)]
    simpa only [hm] using Binary64.denotes_ofUInt64 (n := .ofNat (m * 60)) (by omega)

theorem read_expands_mixed :
    let cell (m : ℕ) : String := if m = 0 then "3" else if m = 1 then "x" else if m = 1439 then "+1" else "0"
    let results := [.error default, .ok #["owner", "app"], .ok (record "f" cell), .ok (record "g" cell)]
    let settings : Settings := { minuteLimit := 2, rowLimit := 3 }
    let r : Reading ℚ := read demands settings results
    r.tasks.toList.map (fun t => (t.id, t.name, t.input)) = [(0, "f", 0), (1, "f", 0), (2, "f", 1439)] ∧
      r.tally = { rows := 3, skipped := 2, invalid := 1, cut := 1, tasks := 3 } := by
  intro cell results settings r
  have hk : results.take settings.rowLimit = [.error default, .ok #["owner", "app"], .ok (record "f" cell)] := rfl
  have hs : record? (.ok #["owner", "app"]) = none := by decide
  have hr : (results.take settings.rowLimit).filterMap record? = [record "f" cell] := by
    rw [hk, List.filterMap_cons_none rfl, List.filterMap_cons_none hs, List.filterMap_cons_some (record?_record _ _),
      List.filterMap_nil]
  have hc : invocations settings.minuteLimit.toNat (record "f" cell) = [("f", 0), ("f", 0), ("f", 1439)] := by
    rw [invocations_record]
    decide +kernel
  have hi : invalidCells (record "f" cell) = 1 := by
    rw [invalidCells_record]
    decide +kernel
  have hl : cutCells settings.minuteLimit.toNat (record "f" cell) = 1 := by
    rw [cutCells_record]
    decide +kernel
  obtain ⟨-, h, -⟩ := read_expands {} settings results
  obtain ⟨ht, hn, -⟩ := h (τ := ℚ)
  rw [hr, List.flatMap_singleton, hc] at ht hn
  refine ⟨by rw [ht]; rfl, hn.trans ?_⟩
  rw [hk]
  simp only [total_cons, total_nil, hi, hl, List.countP_cons, List.countP_nil, record?_record, hs]
  rfl

end Trace

end Dispatch
