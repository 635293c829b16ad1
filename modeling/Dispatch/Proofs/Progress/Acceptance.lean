import Dispatch.Proofs.Progress.Standstill
import Dispatch.Proofs.Workflow.Assembly

namespace Dispatch

namespace Workflow

variable {τ : Type} {g : Workflow τ} {e : LinkError}

def Whole (g : Workflow τ) (family : TaskId × List TaskId) : Prop :=
  g.contains family.1 = true ∧ ∀ c ∈ family.2, g.contains c = true

inductive FirstFault (g : Workflow τ) : LinkError → Prop
  | parent {before after : List (TaskId × List TaskId)} {p : TaskId} {cs : List TaskId}
      (hf : g.families = before ++ (p, cs) :: after) (hb : ∀ f ∈ before, g.Whole f)
      (hp : g.contains p = false) : FirstFault g (.missingParent p)
  | child {before after : List (TaskId × List TaskId)} {p c : TaskId} {known rest : List TaskId}
      (hf : g.families = before ++ (p, known ++ c :: rest) :: after) (hb : ∀ f ∈ before, g.Whole f)
      (hp : g.contains p = true) (hk : ∀ d ∈ known, g.contains d = true)
      (hc : g.contains c = false) : FirstFault g (.missingChild p c)

def fault? (g : Workflow τ) (family : TaskId × List TaskId) : Option LinkError :=
  if g.contains family.1 then (family.2.find? (!g.contains ·)).map (.missingChild family.1)
  else some (.missingParent family.1)

lemma danglingLink?_eq_findSome? (g : Workflow τ) : g.danglingLink? = g.families.findSome? g.fault? := rfl

lemma fault?_eq_none_iff (f : TaskId × List TaskId) : g.fault? f = none ↔ g.Whole f := by
  rw [fault?, Whole]
  by_cases hp : g.contains f.1 = true
  · simp [hp]
  · simp [hp]

def countChildren (g : Workflow τ) (parent : TaskId) : List TaskId → Table ℕ → Except LinkError (Table ℕ)
  | [], counts => .ok counts
  | c :: cs, counts =>
    if g.contains c then g.countChildren parent cs (counts.modify c (· + 1)) else .error (.missingChild parent c)

def countFamilies (g : Workflow τ) : List (TaskId × List TaskId) → Table ℕ → Except LinkError (Table ℕ)
  | [], counts => .ok counts
  | (p, cs) :: families, counts =>
    if g.contains p then (g.countChildren p cs counts).bind (g.countFamilies families) else .error (.missingParent p)

lemma countChildren_eq (p : TaskId) (cs : List TaskId) (counts : Table ℕ) : g.countChildren p cs counts =
    match cs.find? (!g.contains ·) with
    | none => .ok (cs.foldl (fun counts c => counts.modify c (· + 1)) counts)
    | some c => .error (.missingChild p c) := by
  induction cs generalizing counts with
  | nil => rfl
  | cons c cs ih =>
    rw [countChildren, ih, List.find?_cons]
    cases g.contains c <;> rfl

lemma countFamilies_eq (families : List (TaskId × List TaskId)) (counts : Table ℕ) :
    g.countFamilies families counts = match families.findSome? g.fault? with
      | none => .ok <|
        families.foldl (fun counts e => e.2.foldl (fun counts c => counts.modify c (· + 1)) counts) counts
      | some e => .error e := by
  induction families generalizing counts with
  | nil => rfl
  | cons f families ih =>
    obtain ⟨p, cs⟩ := f
    rw [countFamilies, countChildren_eq, List.findSome?_cons, fault?]
    by_cases hp : g.contains p = true
    · simp only [hp, if_true]
      cases cs.find? (!g.contains ·) with
      | none => exact ih _
      | some c => rfl
    · simp only [hp, if_false, Bool.false_eq_true]

lemma danglingLink?_eq_some_iff : g.danglingLink? = some e ↔ g.FirstFault e := by
  simp only [danglingLink?_eq_findSome?, List.findSome?_eq_some_iff, fault?_eq_none_iff]
  constructor
  · rintro ⟨before, ⟨p, cs⟩, after, hf, he, hb⟩
    rw [fault?] at he
    split at he
    case isTrue hp =>
      obtain ⟨c, hc, rfl⟩ := Option.map_eq_some_iff.mp he
      obtain ⟨hn, known, rest, rfl, hk⟩ := List.find?_eq_some_iff_append.mp hc
      exact .child hf hb hp (by simpa using hk) (by simpa using hn)
    case isFalse hp =>
      cases he
      exact .parent hf hb (Bool.eq_false_of_not_eq_true hp)
  · intro h
    cases h with
    | parent hf hb hp => exact ⟨_, _, _, hf, by simp [fault?, hp], hb⟩
    | @child before after p c known rest hf hb hp hk hc =>
      have hd : (known ++ c :: rest).find? (!g.contains ·) = some c :=
        List.find?_eq_some_iff_append.mpr ⟨by simp [hc], known, rest, rfl, by simpa using hk⟩
      exact ⟨before, _, after, hf, by simp only [fault?, hp, if_true, hd, Option.map_some], hb⟩

end Workflow

namespace Progress

variable {τ : Type} {r : Progress τ} {g : Workflow τ} {e : LinkError}

def takeOver (g : Workflow τ) : ExceptT LinkError (StateM (Progress τ)) Unit := do
  if (← get).started then throw .alreadyStarted
  let counts ← g.countFamilies g.families (g.tasks.map fun _ _ => 0)
  modify ({ · with workflow := g })
  modify ({ · with status := counts.map fun _ n => ⟨if n = 0 then .ready else .blocked, n⟩ })
  modify ({ · with ready := .ofList (g.preorderAll.filter fun id => counts.get? id == some 0) })
  modify ({ · with submitted := 0 })
  modify ({ · with completed := 0 })
  modify ({ · with started := true })

lemma run_takeOver (r : Progress τ) (g : Workflow τ) : (takeOver g).run.run r = match r.start g with
    | .ok r' => (.ok (), r')
    | .error e => (.error e, r) := by
  obtain ⟨w, status, ready, submitted, completed, started⟩ := r
  cases started with
  | true => rfl
  | false =>
    rw [takeOver, Workflow.countFamilies_eq, start, Workflow.danglingLink?_eq_findSome?]
    cases g.families.findSome? g.fault? with
    | some e => rfl
    | none => rfl

inductive Request (τ : Type) where
  | start (g : Workflow τ)
  | call (c : Call)

def Request.call? : Request τ → Option Call
  | .start _ => none
  | .call c => some c

def serve (r : Progress τ) : Request τ → Progress τ
  | .start g => ((takeOver g).run.run r).2
  | .call c => r.call c

def serveAll (r : Progress τ) (requests : List (Request τ)) : Progress τ := requests.foldl serve r

lemma exists_start_iff : (∃ r', r.start g = .ok r') ↔ r.started = false ∧ g.Closed := by
  constructor
  · rintro ⟨r', h⟩
    exact ⟨(start_eq_ok h).1, (start_eq_ok h).2.1⟩
  · rintro ⟨hr, hg⟩
    exact ⟨_, start_of_closed hr hg⟩

lemma start_of_started (hr : r.started = true) : r.start g = .error .alreadyStarted := by
  rw [start, if_pos hr]

lemma start_eq_error_iff_firstFault (hr : r.started = false) : r.start g = .error e ↔ g.FirstFault e := by
  rw [← Workflow.danglingLink?_eq_some_iff, start, hr, if_neg Bool.false_ne_true]
  cases g.danglingLink? <;> simp

lemma start_eq_error_iff : r.start g = .error e ↔
    r.started = true ∧ e = .alreadyStarted ∨ r.started = false ∧ g.FirstFault e := by
  cases hr : r.started with
  | true => simp [start_of_started hr, eq_comm]
  | false => simp [start_eq_error_iff_firstFault hr]

lemma serve_start_of_error (h : r.start g = .error e) : r.serve (.start g) = r := by
  rw [serve, run_takeOver, h]

lemma serve_start_of_not_closed (hg : ¬ g.Closed) : r.serve (.start g) = r := by
  cases h : r.start g with
  | ok r' => exact (hg (start_eq_ok h).2.1).elim
  | error e => exact serve_start_of_error h

lemma start_eq_start_empty (hr : r.started = false) : r.start g = empty.start g := by
  rw [start, start, hr]
  rfl

lemma call_empty (c : Call) : (empty : Progress τ).call c = empty := by
  cases c with
  | next => rfl
  | complete id =>
    have hp : (empty : Progress τ).phase? id ≠ some .submitted := by simp
    obtain ⟨reason, hc⟩ := complete_of_ne hp
    rw [call, hc]

-- before a workflow is taken over nothing that is asked has an effect
lemma serveAll_empty {requests : List (Request τ)} (h : ∀ g, .start g ∈ requests → ¬ g.Closed) :
    empty.serveAll requests = empty := by
  induction requests with
  | nil => rfl
  | cons request requests ih =>
    have hs : (empty : Progress τ).serve request = empty := by
      cases request with
      | start g => exact serve_start_of_not_closed (h g List.mem_cons_self)
      | call c => exact call_empty c
    rw [serveAll, List.foldl_cons, hs]
    exact ih fun g hg => h g (List.mem_cons_of_mem request hg)

-- and afterwards no other workflow is taken over
lemma serveAll_of_started (hr : r.started = true) (requests : List (Request τ)) :
    r.serveAll requests = r.callAll (requests.filterMap Request.call?) := by
  induction requests generalizing r with
  | nil => rfl
  | cons request requests ih =>
    rw [serveAll, List.foldl_cons, ← serveAll]
    cases request with
    | start g =>
      rw [serve_start_of_error (start_of_started hr), ih hr]
      rfl
    | call c =>
      rw [serve, ih ((started_call r c).trans hr)]
      rfl

/-- A workflow is taken over just when none was before and both ends of each of its links are tasks. Otherwise the
counting ends before a field is set and the progress stays as it was, so that a workflow that is offered later finds it
as good as new, and what is reported is the first fault in the order of the families, in which the parents stand as they
were first linked. -/
theorem start_outcome (r : Progress τ) (g : Workflow τ) :
    ((∃ r', r.start g = .ok r') ↔ r.started = false ∧ g.Closed) ∧
    (∀ e, r.start g = .error e ↔
      r.started = true ∧ e = .alreadyStarted ∨ r.started = false ∧ g.FirstFault e) ∧
    ((takeOver g).run.run r = match r.start g with
      | .ok r' => (.ok (), r')
      | .error e => (.error e, r)) ∧
    (∀ e, r.start g = .error e → r.serve (.start g) = r) ∧
    (r.started = false → r.start g = empty.start g) ∧
    (∀ before after : List (Request τ), (∀ h, .start h ∈ before → ¬ h.Closed) →
      empty.serveAll before = empty ∧
      ∀ r', empty.start g = .ok r' →
        empty.serveAll (before ++ .start g :: after) = r'.callAll (after.filterMap Request.call?)) ∧
    ∀ additions, ((additions.filterMap Workflow.Addition.task?).map Task.id).Nodup →
      Workflow.assemble? additions = some g →
        g.families = Workflow.grouped (additions.filterMap Workflow.Addition.pair?) := by
  refine ⟨exists_start_iff, fun e => start_eq_error_iff, run_takeOver r g, fun e => serve_start_of_error,
    start_eq_start_empty, fun before after hb => ⟨serveAll_empty hb, fun r' hg => ?_⟩, fun additions hn ha => ?_⟩
  · have hs : r'.started = true := by rw [(start_eq_ok hg).2.2]; rfl
    calc empty.serveAll (before ++ .start g :: after)
        = (empty.serveAll before).serveAll (.start g :: after) := List.foldl_append
      _ = (empty.serve (.start g)).serveAll after := by rw [serveAll_empty hb]; rfl
      _ = r'.serveAll after := by rw [serve, run_takeOver, hg]
      _ = r'.callAll (after.filterMap Request.call?) := serveAll_of_started hs after
  · obtain ⟨g', hg, hs⟩ := Workflow.exists_assembled hn
    obtain rfl := Option.some.inj (ha.symm.trans hg)
    exact hs.families

theorem start_outcome_broken :
    let broken := (Workflow.knot.link 9 0).link 2 5
    empty.start broken = .error (.missingChild 2 5) ∧
      (begun broken).start Workflow.knot = .error .alreadyStarted ∧
      empty.serveAll [.start broken, .call .next, .start Workflow.knot, .start broken, .call .next] =
        (begun Workflow.knot).callAll [.next] := by
  intro broken
  have hf : broken.families = [(0, [1])] ++ (2, [2] ++ 5 :: []) :: [(9, [0])] := by decide +kernel
  have hb : broken.FirstFault (.missingChild 2 5) :=
    .child hf (by simp only [Workflow.Whole]; decide +kernel) (by decide +kernel) (by decide +kernel)
      (by decide +kernel)
  have hk : empty.start Workflow.knot = .ok (begun Workflow.knot) :=
    start_of_closed rfl (Workflow.knot.danglingLink?_eq_none_iff.mp (by decide +kernel))
  have hn : ¬ broken.Closed := fun hc => absurd ((hc 2 5 (by decide +kernel)).2) (by decide +kernel)
  refine ⟨((start_outcome empty broken).2.1 _).mpr (.inr ⟨rfl, hb⟩),
    ((start_outcome (begun broken) Workflow.knot).2.1 _).mpr (.inl ⟨rfl, rfl⟩), ?_⟩
  obtain ⟨-, ha⟩ := (start_outcome empty Workflow.knot).2.2.2.2.2.1 [.start broken, .call .next]
    [.start broken, .call .next] fun h hm => by
      have hh : h = broken := by simpa using hm
      exact hh ▸ hn
  exact ha _ hk

end Progress

end Dispatch
