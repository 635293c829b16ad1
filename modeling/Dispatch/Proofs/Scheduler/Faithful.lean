import Dispatch.Proofs.Scheduler.Moves

/-! A scheduler keeps to its workflow: after any events its progress is sound and that of the workflow it
was given, no ready task is left over, and it has finished when every task is completed. -/

namespace Dispatch

namespace Progress

variable {τ : Type} {r r' : Progress τ} {id : TaskId} {t : Task τ}

lemma task?_of_peek? (hp : r.peek? = some t) (hn : r.Taken id r') :
    r.task? id = some t ∧ t.id = id := by
  rw [peek?, Queue.head?_eq, hn.ready, List.head?_cons, Option.bind_some] at hp
  exact ⟨hp, r.workflow.id_of_get? id t hp⟩

lemma Sound.peek?_eq_none_iff (h : r.Sound) : r.peek? = none ↔ r.ready.toList = [] := by
  rw [peek?, Queue.head?_eq]
  cases hr : r.ready.toList with
  | nil => simp
  | cons id q =>
    have hi : r.phase? id = some .ready := (h.mem_ready id).mp (by simp [hr])
    obtain ⟨t, ht⟩ := r.workflow.contains_iff_task?.mp (h.contains_of_phase hi)
    simp [task?, ht]

end Progress

namespace Scheduler

open Relation

variable {σ τ : Type} [Policy σ τ] {g : Workflow τ} {c : Scheduler σ τ} {time : τ} {event : Event τ}
  {s s' : Scheduler σ τ × Array (Action τ)}

structure Faithful (g : Workflow τ) (c : Scheduler σ τ) : Prop where
  sound : c.progress.Sound
  waiting : ∀ h, c.workflow? = some h → h = g ∧ c.progress.started = false
  begun : c.workflow? = none → c.error? = none → c.progress.started = true
  unstarted : c.progress.started = false → c.progress = .empty
  alike : c.progress.started = true → g.Alike c.progress.workflow

omit [Policy σ τ] in
lemma Faithful.started (h : Faithful g c) {id : TaskId} {p : Phase}
    (hp : c.progress.phase? id = some p) : c.progress.started = true := by
  by_contra hs
  rw [h.unstarted (by simpa using hs), Progress.phase?_empty] at hp
  cases hp

omit [Policy σ τ] in
lemma Faithful.mem_ids (h : Faithful g c) {id : TaskId} {p : Phase}
    (hp : c.progress.phase? id = some p) : id ∈ g.ids := by
  rw [g.mem_ids, ← (h.alike (h.started hp)).contains]
  exact h.sound.contains_of_phase hp

omit [Policy σ τ] in
lemma Faithful.countIn_eq_total (h : Faithful g c) (s : Phase) :
    c.progress.countIn s = total (fun id => (c.progress.phase? id == some s).toNat) g.ids := by
  rw [Progress.countIn_eq, countP_eq_total]
  refine total_subset c.progress.nodup_status g.nodup_ids (fun id hm => ?_) fun id _ hm => ?_
  · obtain ⟨⟨s, n⟩, hs⟩ := (Table.mem_keys_iff _ id).mp (Array.mem_toList_iff.mp hm)
    exact h.mem_ids (Progress.phase?_eq_some.mpr ⟨n, hs⟩)
  · rw [beq_eq_false_iff_ne.mpr fun hs => hm (Progress.mem_keys_of_phase hs)]
    rfl

omit [Policy σ τ] in
lemma Faithful.completed_of_parent (h : Faithful g c) {id q : TaskId} {p : Phase}
    (hp : c.progress.phase? id = some p) (hb : p ≠ .blocked) (hq : id ∈ g.children q) :
    c.progress.phase? q = some .completed := by
  rw [← (h.alike (h.started hp)).children] at hq
  exact h.sound.completed_of_mem_parents hp hb hq

omit [Policy σ τ] in
lemma faithful_ofWorkflow (g : Workflow τ) (policy : σ) : Faithful g (ofWorkflow g policy) where
  sound := Progress.sound_empty
  waiting h hh := ⟨(Option.some.inj hh).symm, rfl⟩
  begun h := by cases h
  unstarted _ := rfl
  alike h := by cases h

lemma Opening.faithful (h : Opening c time event s) (hc : Faithful g c) : Faithful g s.1 := by
  cases h with
  | quiet => exact hc
  | ignored => exact hc
  | start he hw hs =>
    obtain ⟨_, hg, rfl⟩ := Progress.start_eq_ok hs
    obtain ⟨rfl, _⟩ := hc.waiting _ hw
    exact ⟨Progress.sound_begun hg, fun h hh => (by cases hh), fun _ _ => rfl,
      fun hh => (by cases hh), fun _ => .refl _⟩
  | malformed he hw hs =>
    exact ⟨hc.sound, fun h hh => (by cases hh), fun _ hh => (by cases hh), hc.unstarted, hc.alike⟩
  | refuse => exact hc
  | @finish id u policy fault he hs hp hr =>
    refine ⟨hc.sound.finish hp, fun h hh => ?_, fun _ _ => hs, fun hh => ?_, fun _ => ?_⟩
    · have hw : c.progress.started = false := (hc.waiting h hh).2
      rw [hs] at hw
      cases hw
    · have hw : c.progress.started = false := hh
      rw [hs] at hw
      cases hw
    · exact (hc.alike hs).modifyTask id ({ · with done := true }) (fun _ => rfl) fun _ => rfl

lemma Move.faithful (h : Move time s s') (hc : Faithful g s.1) : Faithful g s'.1 := by
  cases h with
  | finish => exact ⟨hc.sound, hc.waiting, hc.begun, hc.unstarted, hc.alike⟩
  | fail => exact ⟨hc.sound, hc.waiting, fun _ hh => (by cases hh), hc.unstarted, hc.alike⟩
  | @submit c acts t u policy id progress he ht hp hn =>
    have hk := Progress.taken_of_next? hn
    have hs : c.progress.started = true := hc.started (hc.sound.phase?_of_taken hk)
    have hs' : progress.started = true := hk.started.trans hs
    refine ⟨(hc.sound.taken hk).assign id _, fun h hh => ?_, fun _ _ => hs',
      fun hh => absurd hs' (by simp [show progress.started = false from hh]), fun _ => ?_⟩
    · have hw : c.progress.started = false := (hc.waiting h hh).2
      rw [hs] at hw
      cases hw
    · have ha := hc.alike hs
      rw [← hk.workflow] at ha
      exact ha.modifyTask id ({ · with assignment := some ⟨u, time⟩ }) (fun _ => rfl) fun _ => rfl

lemma faithful_handle (hc : Faithful g c) : Faithful g (c.handle time event).1 :=
  handle_induction (P := fun s => Faithful g s.1) (fun _ h => h.faithful hc) fun _ _ h => h.faithful

structure AtRest (c : Scheduler σ τ) : Prop where
  ready : c.error? = none → c.progress.ready.toList = []
  finished : c.finished = c.progress.isFinished

omit [Policy σ τ] in
lemma atRest_ofWorkflow (g : Workflow τ) (policy : σ) : AtRest (ofWorkflow g policy) where
  ready _ := rfl
  finished := rfl

def Honest (c : Scheduler σ τ) : Prop := c.finished = true → c.progress.isFinished = true

lemma Opening.honest (h : Opening c time event s) (hc : Faithful g c) (hh : c.Honest) :
    s.1.Honest := by
  intro hf
  cases h with
  | quiet => exact hh hf
  | ignored => exact hh hf
  | malformed => exact hh hf
  | start he hw hs =>
    have hn := hh hf
    simp [Progress.isFinished, (hc.waiting _ hw).2] at hn
  | refuse => exact hh hf
  | finish he hs hp => cases hc.sound.phase?_of_isFinished (hh hf) hp

lemma Move.honest (h : Move time s s') (hc : Faithful g s.1) (hh : s.1.Honest) : s'.1.Honest := by
  intro hf
  cases h with
  | finish _ hi => exact hi
  | fail => exact hh hf
  | @submit c acts t u policy id progress he ht hp hn =>
    cases hc.sound.phase?_of_isFinished (hh hf)
      (hc.sound.phase?_of_taken (Progress.taken_of_next? hn))

lemma honest_handle (hc : Faithful g c) (hh : c.Honest) : (c.handle time event).1.Honest := by
  refine (handle_induction (P := fun s => Faithful g s.1 ∧ s.1.Honest) (fun s h => ?_)
    fun s s' h hs => ?_).2
  · exact ⟨h.faithful hc, h.honest hc hh⟩
  · exact ⟨h.faithful hs.1, h.honest hs.1 hs.2⟩

lemma submitUpTo_ready (n : ℕ) (acts : Array (Action τ)) (hs : c.progress.Sound)
    (hn : c.progress.ready.toList.length ≤ n) (he : (submitUpTo time n c acts).1.error? = none) :
    (submitUpTo time n c acts).1.progress.ready.toList = [] := by
  induction n generalizing c acts with
  | zero => exact List.length_eq_zero_iff.mp (Nat.le_zero.mp hn)
  | succ n ih =>
    cases ht : c.progress.peek? with
    | none =>
      rw [submitUpTo_of_none ht]
      exact hs.peek?_eq_none_iff.mp ht
    | some t =>
      obtain ⟨p, hk⟩ := Progress.exists_next? ht
      rcases hc : Policy.choose c.policy t with ⟨e | u, q⟩
      · rw [submitUpTo_of_error ht hc] at he
        cases he
      · rw [submitUpTo_of_ok ht hc hk] at he ⊢
        have hd := Progress.taken_of_next? hk
        refine ih _ ((hs.taken hd).assign t.id _) ?_ he
        rw [hd.ready, List.length_cons] at hn
        exact Nat.le_of_succ_le_succ hn

omit [Policy σ τ] in
lemma noteFinish_progress (c : Scheduler σ τ) (time : τ) (acts : Array (Action τ)) :
    (c.noteFinish time acts).1.progress = c.progress ∧
      (c.noteFinish time acts).1.error? = c.error? := by
  rw [noteFinish]
  split
  · exact ⟨rfl, rfl⟩
  · exact ⟨rfl, rfl⟩

omit [Policy σ τ] in
lemma finished_noteFinish (acts : Array (Action τ)) (hf : c.progress.isFinished = true) :
    (c.noteFinish time acts).1.finished = true := by
  rw [noteFinish]
  cases hc : c.finished <;> simp [hc, hf]

lemma atRest_advance (acts : Array (Action τ)) (hs : c.progress.Sound)
    (hh : (c.advance time acts).1.Honest) : AtRest (c.advance time acts).1 := by
  obtain ⟨hp, he⟩ := noteFinish_progress (submitUpTo time c.progress.readySize c acts).1 time
    (submitUpTo time c.progress.readySize c acts).2
  refine ⟨fun hn => ?_, Bool.eq_iff_iff.mpr ⟨hh, fun hf => ?_⟩⟩
  · refine (congrArg (fun r => r.ready.toList) hp).trans (submitUpTo_ready _ _ hs ?_ (he.symm.trans hn))
    rw [Progress.readySize, Queue.length_toList]
  · apply finished_noteFinish _
    rw [← hp]
    exact hf

lemma atRest_handle (hc : Faithful g c) (hs : AtRest c) :
    AtRest (c.handle time event).1 := by
  have hh : (c.handle time event).1.Honest := honest_handle hc fun hf => hs.finished ▸ hf
  cases event with
  | provisioned u => exact hs
  | arrived d u => exact hs
  | ready =>
    simp only [handle, whenReady] at hh ⊢
    split at hh
    · rename_i hb
      rwa [if_pos hb]
    · rename_i hb
      rw [if_neg hb]
      split at hh
      · exact atRest_advance _ hc.sound hh
      · rename_i g' hw
        split at hh
        · exact ⟨fun he => (by cases he), hs.finished⟩
        · rename_i progress hp
          obtain ⟨_, hg, rfl⟩ := Progress.start_eq_ok hp
          exact atRest_advance _ (Progress.sound_begun hg) hh
  | completed id u =>
    simp only [handle, whenCompleted] at hh ⊢
    split at hh
    · rename_i hb
      rwa [if_pos hb]
    · rename_i hb
      rw [if_neg hb]
      exact atRest_advance _ (hc.sound.complete id) hh

end Scheduler

end Dispatch
