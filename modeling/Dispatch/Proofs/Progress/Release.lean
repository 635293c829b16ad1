import Dispatch.Proofs.Workflow.Preorder

namespace Dispatch

def Status.lower (s : Status) : Status :=
  if s.pending = 1 then ⟨.ready, 0⟩ else ⟨s.phase, s.pending - 1⟩

namespace Workflow

variable {τ : Type} (g : Workflow τ) (id k : TaskId) (f : Task τ → Task τ) (hf : ∀ t, (f t).id = t.id)

@[simp] lemma contains_modifyTask : (g.modifyTask id f hf).contains k = g.contains k :=
  Table.contains_modify ..

variable {g} in
lemma Closed.modifyTask (h : g.Closed) : (g.modifyTask id f hf).Closed := by
  intro p c hc
  rw [contains_modifyTask, contains_modifyTask]
  exact h p c hc

lemma task?_modifyTask : (g.modifyTask id f hf).task? k =
    if id = k then (g.task? id).map f else g.task? k :=
  Table.get?_modify ..

end Workflow

structure Workflow.Alike {τ : Type} (g h : Workflow τ) : Prop where
  links : h.links = g.links
  keys : h.tasks.keys = g.tasks.keys
  job : ∀ id, (h.task? id).map Task.job = (g.task? id).map Task.job

namespace Workflow.Alike

variable {τ : Type} {g h : Workflow τ}

lemma refl (g : Workflow τ) : g.Alike g := ⟨rfl, rfl, fun _ => rfl⟩

lemma children (a : g.Alike h) (id : TaskId) : h.children id = g.children id := by
  rw [Workflow.children, a.links, Workflow.children]

lemma contains (a : g.Alike h) (id : TaskId) : h.contains id = g.contains id := by
  rw [Bool.eq_iff_iff, Workflow.contains, Table.contains_iff, a.keys, Workflow.contains,
    Table.contains_iff]

lemma modifyTask (a : g.Alike h) (id : TaskId) (f : Task τ → Task τ) (hf : ∀ t, (f t).id = t.id)
    (hj : ∀ t, (f t).job = t.job) : g.Alike (h.modifyTask id f hf) where
  links := a.links
  keys := a.keys
  job k := by
    rw [task?_modifyTask, ← a.job]
    split
    · rename_i hk
      rw [← hk, Option.map_map]
      exact congrArg (fun f => (h.task? id).map f) (funext hj)
    · rfl

end Workflow.Alike

namespace Progress

variable {τ : Type} {r r' : Progress τ} {g : Workflow τ} {id k : TaskId}

lemma phase?_eq_some {s : Phase} :
    r.phase? id = some s ↔ ∃ n, r.status.get? id = some ⟨s, n⟩ := by
  rw [phase?]
  rw [Option.map_eq_some_iff]
  constructor
  · rintro ⟨⟨_, n⟩, h, rfl⟩
    exact ⟨n, h⟩
  · rintro ⟨n, h⟩
    exact ⟨_, h, rfl⟩

lemma countIn_eq (r : Progress τ) (s : Phase) :
    r.countIn s = r.status.keys.toList.countP fun k => r.phase? k == some s := by
  rw [countIn, Table.countP_values]
  apply List.countP_congr
  intro k _
  rw [phase?]
  cases r.status.get? k <;> simp

lemma status_setPhase (r : Progress τ) (id : TaskId) (s : Phase) (k : TaskId) :
    (r.setPhase id s).status.get? k =
      if id = k then (r.status.get? k).map fun t => ⟨s, t.pending⟩ else r.status.get? k := by
  rw [setPhase, Table.get?_modify]
  split
  · rename_i h
    rw [h]
  · rfl

def begun (g : Workflow τ) : Progress τ where
  workflow := g
  status := g.parentCounts.map fun _ n => ⟨if n = 0 then .ready else .blocked, n⟩
  ready := .ofList (g.preorderAll.filter fun id => g.parentCounts.get? id == some 0)
  started := true

lemma start_eq_ok (h : r.start g = .ok r') : r.started = false ∧ g.Closed ∧ r' = begun g := by
  rw [start] at h
  split at h
  · cases h
  · rename_i hr
    rw [← g.danglingLink?_eq_none_iff]
    split at h
    · cases h
    · rename_i hd
      cases h
      exact ⟨by simpa using hr, hd, rfl⟩

lemma start_of_closed (hr : r.started = false) (hg : g.Closed) : r.start g = .ok (begun g) := by
  rw [start, hr, (g.danglingLink?_eq_none_iff).mpr hg]
  rfl

lemma status_begun (g : Workflow τ) (id : TaskId) : (begun g).status.get? id =
    (g.task? id).map fun _ =>
      ⟨if (g.parents id).length = 0 then .ready else .blocked, (g.parents id).length⟩ := by
  rw [begun, Table.get?_map, g.get?_parentCounts, Option.map_map]
  rfl

lemma phase?_begun (g : Workflow τ) (id : TaskId) : (begun g).phase? id =
    (g.task? id).map fun _ => if (g.parents id).length = 0 then .ready else .blocked := by
  rw [phase?, status_begun, Option.map_map]
  rfl

lemma phase?_begun_ne (g : Workflow τ) (id : TaskId) :
    (begun g).phase? id ≠ some .submitted ∧ (begun g).phase? id ≠ some .completed := by
  rw [phase?_begun]
  cases g.task? id with
  | none => simp
  | some t => by_cases hz : (g.parents id).length = 0 <;> simp [hz]

@[simp] lemma phase?_empty (id : TaskId) : (empty : Progress τ).phase? id = none := by
  simp [empty, phase?]

structure Taken (r : Progress τ) (id : TaskId) (r' : Progress τ) : Prop where
  ready : r.ready.toList = id :: r'.ready.toList
  status : r'.status = (r.setPhase id .submitted).status
  workflow : r'.workflow = r.workflow
  submitted : r'.submitted = r.submitted + 1
  completed : r'.completed = r.completed
  started : r'.started = r.started

lemma Taken.task? (h : r.Taken id r') (k : TaskId) : r'.task? k = r.task? k :=
  congrArg (fun g => g.task? k) h.workflow

lemma taken_of_next? (h : r.next? = some (id, r')) : r.Taken id r' := by
  obtain ⟨⟨a, q⟩, hq, he⟩ := Option.map_eq_some_iff.mp h
  cases he
  exact ⟨Queue.toList_of_dequeue? hq, rfl, rfl, rfl, rfl, rfl⟩

lemma next?_eq_none_iff : r.next? = none ↔ r.ready.toList = [] := by
  rw [next?, Option.map_eq_none_iff, Queue.dequeue?_eq_none_iff]

lemma keys_releaseChild (t : Table Status) (rel : Array TaskId) (c : TaskId) :
    (releaseChild t rel c).1.keys = t.keys := by
  rw [releaseChild]
  split
  · rename_i h
    rw [Table.keys_insert, if_pos ((t.mem_keys_iff c).mpr ⟨_, h⟩)]
  · rename_i h
    rw [Table.keys_insert, if_pos ((t.mem_keys_iff c).mpr ⟨_, h⟩)]
  · rfl

lemma get?_releaseChild (t : Table Status) (rel : Array TaskId) (c k : TaskId) :
    (releaseChild t rel c).1.get? k =
      if c = k then (t.get? k).map Status.lower else t.get? k := by
  rw [releaseChild]
  by_cases hc : c = k
  · subst hc
    rw [if_pos rfl]
    split
    · rename_i h
      simp [Table.get?_insert, h, Status.lower]
    · rename_i h
      simp [Table.get?_insert, h, Status.lower]
    · rename_i h₁ h₂
      cases h : t.get? c with
      | none => rfl
      | some s =>
        obtain ⟨p, n⟩ := s
        rcases n with _ | _ | n
        · rfl
        · exact (h₁ p h).elim
        · exact (h₂ p n h).elim
  · rw [if_neg hc]
    split <;> simp [Table.get?_insert, hc]

lemma released_releaseChild (t : Table Status) (rel : Array TaskId) (c : TaskId) :
    (releaseChild t rel c).2.toList =
      rel.toList ++ [c].filter fun c => (t.get? c).any (·.pending == 1) := by
  rw [releaseChild]
  split
  · rename_i h
    simp [h]
  · rename_i h
    simp [h]
  · rename_i h₁ h₂
    rcases h : t.get? c with _ | ⟨p, n⟩
    · simp [h]
    · rcases n with _ | _ | n
      · simp [h]
      · exact (h₁ p h).elim
      · exact (h₂ p n h).elim

/-- Children are released one after another; as none of them stands twice in the list, each of
them is judged by the table at the outset. -/
lemma foldl_releaseChild (cs : List TaskId) (hc : cs.Nodup) (t : Table Status)
    (rel : Array TaskId) :
    let result := cs.foldl (fun (t, rel) c => releaseChild t rel c) (t, rel)
    result.1.keys = t.keys ∧
      (∀ k, result.1.get? k = if k ∈ cs then (t.get? k).map Status.lower else t.get? k) ∧
      result.2.toList = rel.toList ++ cs.filter fun c => (t.get? c).any (·.pending == 1) := by
  induction cs generalizing t rel with
  | nil => simp
  | cons c cs ih =>
    obtain ⟨hn, hc⟩ := List.nodup_cons.mp hc
    obtain ⟨hk, hg, hr⟩ := ih hc (releaseChild t rel c).1 (releaseChild t rel c).2
    refine ⟨hk.trans (keys_releaseChild t rel c), fun k => ?_, ?_⟩
    · rw [List.foldl_cons, hg k, get?_releaseChild]
      by_cases hck : c = k
      · subst hck
        simp [hn]
      · simp [hck, Ne.symm hck]
    · have hf : cs.filter (fun d => ((releaseChild t rel c).1.get? d).any (·.pending == 1)) =
          cs.filter fun d => (t.get? d).any (·.pending == 1) := by
        apply List.filter_congr
        intro d hd
        rw [get?_releaseChild, if_neg (by rintro rfl; exact hn hd)]
      rw [List.foldl_cons, hr, hf, released_releaseChild, List.append_assoc, ← List.filter_append]
      rfl

lemma task?_assign (r : Progress τ) (id : TaskId) (a : Assignment τ) (k : TaskId) :
    (r.assign id a).task? k =
      if id = k then (r.task? id).map ({ · with assignment := some a }) else r.task? k :=
  r.workflow.task?_modifyTask id k ({ · with assignment := some a }) fun _ => rfl

def freed (r : Progress τ) (id : TaskId) : List TaskId :=
  (r.workflow.children id).filter fun c => ((r.status.get? c).any (·.pending == 1))

lemma toList_foldl_enqueue (l : List TaskId) (q : Queue TaskId) :
    (l.foldl (·.enqueue ·) q).toList = q.toList ++ l := by
  induction l generalizing q with
  | nil => simp
  | cons a l ih => rw [List.foldl_cons, ih, Queue.toList_enqueue, List.append_assoc]; rfl

section finish

variable (r id)

lemma task?_finish (k : TaskId) : (r.finish id).1.task? k =
    if id = k then (r.task? id).map ({ · with done := true }) else r.task? k :=
  r.workflow.task?_modifyTask id k ({ · with done := true }) fun _ => rfl

lemma finish_released : (r.finish id).2.toList = r.freed id := by
  have hf := (foldl_releaseChild (r.workflow.children id) (r.workflow.nodup_children id)
    (r.setPhase id .completed).status #[]).2.2
  apply hf.trans
  simp only [List.nil_append, freed]
  apply List.filter_congr
  intro c _
  rw [status_setPhase]
  split <;> cases r.status.get? c <;> rfl

lemma finish_status (k : TaskId) : (r.finish id).1.status.get? k =
    if k ∈ r.workflow.children id then ((r.setPhase id .completed).status.get? k).map Status.lower
    else (r.setPhase id .completed).status.get? k :=
  (foldl_releaseChild (r.workflow.children id) (r.workflow.nodup_children id)
    (r.setPhase id .completed).status #[]).2.1 k

lemma finish_keys : (r.finish id).1.status.keys = r.status.keys :=
  (foldl_releaseChild (r.workflow.children id) (r.workflow.nodup_children id)
    (r.setPhase id .completed).status #[]).1

lemma finish_ready : (r.finish id).1.ready.toList = r.ready.toList ++ r.freed id := by
  rw [← finish_released, ← toList_foldl_enqueue, Array.foldl_toList]
  rfl

end finish

lemma complete_of_submitted (h : r.phase? id = some .submitted) :
    r.complete id = ((r.finish id).1, .effective (r.finish id).2) := by
  rw [complete, h]

lemma complete_of_ne (h : r.phase? id ≠ some .submitted) :
    ∃ reason, r.complete id = (r, .refused reason) := by
  rw [complete]
  split
  · exact ⟨_, rfl⟩
  · contradiction
  · exact ⟨_, rfl⟩
  · exact ⟨_, rfl⟩

end Progress

end Dispatch
