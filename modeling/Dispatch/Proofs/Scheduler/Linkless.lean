import Dispatch.Proofs.Scheduler.Conservation
import Dispatch.Proofs.Scheduler.Independence
import Dispatch.Proofs.Turns

/-! A workflow without links is dealt out to the units all at once, before any of them is released, so that
both named policies place each of its tasks on the same unit. -/

namespace Dispatch

namespace Workflow

variable {τ : Type} {g : Workflow τ}

def Linkless (g : Workflow τ) : Prop := ∀ p, g.children p = []

lemma Linkless.closed (h : g.Linkless) : g.Closed := fun p c hc => by
  rw [h p] at hc
  exact absurd hc List.not_mem_nil

lemma Linkless.length_parents (h : g.Linkless) (id : TaskId) : (g.parents id).length = 0 := by
  rw [List.length_eq_zero_iff, List.eq_nil_iff_forall_not_mem]
  intro p hp
  rw [mem_parents, h p] at hp
  exact List.not_mem_nil hp

lemma atOnce_of_closed (h : g.Closed) : g.atOnce = (Progress.begun g).ready.toList := by
  rw [atOnce, Progress.start_of_closed rfl h]

lemma Linkless.atOnce_perm (h : g.Linkless) : g.atOnce.Perm g.ids := by
  have hs := Progress.sound_begun h.closed
  rw [atOnce_of_closed h.closed, List.perm_ext_iff_of_nodup hs.nodup_ready g.nodup_ids]
  intro id
  rw [hs.mem_ready, Progress.phase?_begun, h.length_parents, mem_ids, contains, Table.contains_eq_isSome, task?]
  cases g.tasks.get? id <;> simp

end Workflow

namespace Progress

variable {τ : Type} {r : Progress τ} {id : TaskId}

lemma ready_complete (h : r.workflow.Linkless) (id : TaskId) :
    (r.complete id).1.ready.toList = r.ready.toList := by
  by_cases hs : r.phase? id = some .submitted
  · have hf : (r.finish id).2 = #[] := by
      rw [finish, h id]
      rfl
    rw [complete_of_submitted hs, finish_ready, ← finish_released, hf]
    exact List.append_nil _
  · obtain ⟨reason, hc⟩ := complete_of_ne hs
    rw [hc]

end Progress

namespace Scheduler

def withPolicy {σ τ : Type} (c : Scheduler σ τ) (p : σ) : Scheduler σ τ := { c with policy := p }

section idle

variable {σ τ : Type} [Policy σ τ] {c : Scheduler σ τ} {time : τ} {acts : Array (Action τ)}

omit [Policy σ τ] in
lemma noteFinish_withPolicy (c : Scheduler σ τ) (p : σ) (time : τ) (acts : Array (Action τ)) :
    (c.withPolicy p).noteFinish time acts =
      ((c.noteFinish time acts).1.withPolicy p, (c.noteFinish time acts).2) := by
  rw [noteFinish, noteFinish, withPolicy]
  split <;> rfl

omit [Policy σ τ] in
lemma policy_noteFinish (c : Scheduler σ τ) (time : τ) (acts : Array (Action τ)) :
    (c.noteFinish time acts).1.policy = c.policy := by
  rw [noteFinish]
  split <;> rfl

lemma advance_of_idle (h : c.progress.ready.toList = []) :
    c.advance time acts = c.noteFinish time acts := by
  rw [advance, Progress.readySize, ← Queue.length_toList, h]
  rfl

end idle

variable {τ : Type} {g : Workflow τ} {c c' : Scheduler NamedPolicy τ} {time : τ} {event : Event τ}
  {acts : Array (Action τ)} {n k : ℕ} {l : List TaskId} {q : NamedPolicy}

structure Dealing (n : ℕ) (l : List TaskId) (k : ℕ) (c : Scheduler NamedPolicy τ) : Prop where
  policy : c.policy = .leastLoaded ⟨.dealt n k⟩
  error : c.error? = none
  sound : c.progress.Sound
  ready : c.progress.ready.toList = l.drop k
  placed : ∀ i < k, ∀ id, l[i]? = some id → c.unitFor? id = some (i % n)

lemma Dealing.submit (h : Dealing n l k c) (hl : l.Nodup) {id : TaskId} {p : Progress τ}
    (hk : c.progress.Taken id p) : Dealing n l (k + 1)
      { c with policy := .leastLoaded ⟨.dealt n (k + 1)⟩, progress := p.assign id ⟨k % n, time⟩ } := by
  have hd : id :: p.ready.toList = l.drop k := hk.ready.symm.trans h.ready
  have hi : l[k]? = some id := by rw [← List.head?_drop, ← hd, List.head?_cons]
  refine ⟨rfl, h.error, (h.sound.taken hk).assign id _, ?_, fun i hi' j hj => ?_⟩
  · rw [← List.tail_drop, ← hd]
    rfl
  · rw [unitFor?_submit hk h.sound]
    by_cases hlt : i < k
    · have hne : id ≠ j := by
        rintro rfl
        have hb : i < l.length := (List.getElem?_eq_some_iff.mp hj).1
        exact hlt.ne ((List.getElem?_inj hb hl).mp (hj.trans hi.symm))
      rw [if_neg hne]
      exact h.placed i hlt j hj
    · obtain rfl : i = k := by omega
      rw [hi] at hj
      exact if_pos (Option.some.inj hj)

lemma Dealing.submitUpTo (h : Dealing n l k c) (hn : 0 < n) (hl : l.Nodup) (m : ℕ) (time : τ)
    (acts : Array (Action τ)) : ∃ k', Dealing n l k' (submitUpTo time m c acts).1 ∧
      Scheduler.submitUpTo time m (c.withPolicy (.roundRobin ⟨.dealt n k, k % n⟩)) acts =
        ((Scheduler.submitUpTo time m c acts).1.withPolicy (.roundRobin ⟨.dealt n k', k' % n⟩),
          (Scheduler.submitUpTo time m c acts).2) := by
  induction m generalizing c acts k with
  | zero => exact ⟨k, h, rfl⟩
  | succ m ih =>
    cases ht : c.progress.peek? with
    | none =>
      rw [submitUpTo_of_none ht, submitUpTo_of_none (by exact ht)]
      exact ⟨k, h, rfl⟩
    | some t =>
      obtain ⟨p, hp⟩ := Progress.exists_next? ht
      have hc : Policy.choose c.policy t = (.ok (k % n), .leastLoaded ⟨.dealt n (k + 1)⟩) := by
        rw [h.policy]
        exact NamedPolicy.choose_leastLoaded hn k t
      have hc' := NamedPolicy.choose_roundRobin (p := ⟨.dealt n k, k % n⟩) hn (Loads.size_dealt n k) t
      rw [Loads.charge_dealt, Nat.mod_add_mod] at hc'
      rw [submitUpTo_of_ok ht hc hp, submitUpTo_of_ok (by exact ht) (by exact hc') (by exact hp)]
      exact ih (h.submit hl (Progress.taken_of_next? hp)) _

lemma Dealing.length_le (h : Dealing n l k c) (hr : c.progress.ready.toList = []) : l.length ≤ k := by
  rw [h.ready] at hr
  exact List.drop_eq_nil_iff.mp hr

def Mirrors (s s' : Scheduler NamedPolicy τ × Array (Action τ)) : Prop :=
  ∃ q : NamedPolicy, q.table = s.1.policy.table ∧ s' = (s.1.withPolicy q, s.2)

lemma Mirrors.noteFinish {acts' : Array (Action τ)} (h : Mirrors (c, acts) (c', acts')) (time : τ) :
    Mirrors (c.noteFinish time acts) (c'.noteFinish time acts') := by
  obtain ⟨q, ht, he⟩ := h
  obtain ⟨rfl, rfl⟩ := Prod.mk.inj he
  refine ⟨q, ?_, noteFinish_withPolicy c q time _⟩
  rw [policy_noteFinish]
  exact ht

lemma mirrors_submitUpTo_of_noUnits (hq : q.table = c.policy.table) (hz : c.policy.table.size = 0) (m : ℕ) :
    Mirrors (submitUpTo time m c acts) (submitUpTo time m (c.withPolicy q) acts) := by
  cases m with
  | zero => exact ⟨q, hq, rfl⟩
  | succ m =>
    cases ht : c.progress.peek? with
    | none =>
      rw [submitUpTo_of_none ht, submitUpTo_of_none (by exact ht)]
      exact ⟨q, hq, rfl⟩
    | some t =>
      have hc := NamedPolicy.choose_of_size_eq_zero hz t
      have hc' := NamedPolicy.choose_of_size_eq_zero (hq ▸ hz) t
      rw [submitUpTo_of_error ht hc, submitUpTo_of_error (by exact ht) (by exact hc')]
      exact ⟨q, hq, rfl⟩

lemma freeUnit_eq {p q : NamedPolicy} (h : q.table = p.table) (u? : Option UnitId) :
    (freeUnit (τ := τ) q u?).1.table = (freeUnit (τ := τ) p u?).1.table ∧
      (freeUnit (τ := τ) q u?).2 = (freeUnit (τ := τ) p u?).2 := by
  cases u? with
  | none => exact ⟨h, rfl⟩
  | some u =>
    obtain ⟨ht, hf⟩ := p.release_eq (τ := τ) u
    obtain ⟨ht', hf'⟩ := q.release_eq (τ := τ) u
    rw [h] at ht' hf'
    exact ⟨ht'.trans ht.symm, hf'.trans hf.symm⟩

structure Settled (c : Scheduler NamedPolicy τ) : Prop where
  linkless : c.progress.workflow.Linkless
  ready : c.error? = none → c.progress.ready.toList = []

lemma Settled.ready_complete (h : Settled c) (hb : (c.halted || !c.progress.started) = false) (id : TaskId) :
    (c.progress.complete id).1.ready.toList = [] :=
  (Progress.ready_complete h.linkless id).trans
    (h.ready (halted_eq_false_iff.mp (Bool.or_eq_false_iff.mp hb).1))

lemma Settled.mirrors_whenCompleted (h : Settled c) (hq : q.table = c.policy.table) (id : TaskId) :
    Mirrors (c.whenCompleted time id acts) ((c.withPolicy q).whenCompleted time id acts) := by
  cases hb : c.halted || !c.progress.started with
  | true =>
    rw [whenCompleted_of_idle hb, whenCompleted_of_idle (by exact hb)]
    exact ⟨q, hq, rfl⟩
  | false =>
    have hr := h.ready_complete hb id
    obtain ⟨ht, hf⟩ := freeUnit_eq (τ := τ) hq (c.unitToFree? id)
    have hu : (c.withPolicy q).unitToFree? id = c.unitToFree? id := rfl
    have hp : (c.withPolicy q).policy = q := rfl
    rw [whenCompleted_of_running hb, whenCompleted_of_running (by exact hb), hu, hp, hf,
      advance_of_idle (by exact hr), advance_of_idle (by exact hr)]
    exact Mirrors.noteFinish ⟨_, ht, rfl⟩ time

lemma Settled.unitFor?_whenCompleted (h : Settled c) (id k : TaskId) :
    (c.whenCompleted time id acts).1.unitFor? k = c.unitFor? k := by
  cases hb : c.halted || !c.progress.started with
  | true => rw [whenCompleted_of_idle hb]
  | false =>
    have hr := h.ready_complete hb id
    rw [whenCompleted_of_running hb, advance_of_idle (by exact hr), unitFor?, (noteFinish_progress _ _ _).1]
    by_cases hs : c.progress.phase? id = some .submitted
    · rw [Progress.complete_of_submitted hs]
      exact unitFor?_finish c c.policy id k
    · obtain ⟨reason, hc⟩ := Progress.complete_of_ne hs
      rw [hc]
      rfl

lemma mirrors_start (hg : g.Linkless) (hc : c.policy = .leastLoaded ⟨.ofSize n⟩)
    (hp : c.progress = Progress.begun g) (he : c.error? = none) (time : τ) (acts : Array (Action τ)) :
    Mirrors (c.advance time acts) ((c.withPolicy (.roundRobin ⟨.ofSize n, 0⟩)).advance time acts) ∧
      (0 < n → ∀ k id, g.atOnce[k]? = some id → (c.advance time acts).1.unitFor? id = some (k % n)) := by
  have hs : c.progress.Sound := hp ▸ Progress.sound_begun hg.closed
  have hl : g.atOnce = c.progress.ready.toList := by rw [Workflow.atOnce_of_closed hg.closed, hp]
  rcases Nat.eq_zero_or_pos n with rfl | hn
  · have hz : c.policy.table.size = 0 := by
      rw [hc]
      exact Loads.size_ofSize 0
    refine ⟨Mirrors.noteFinish (mirrors_submitUpTo_of_noUnits ?_ hz _) time, fun hn => absurd hn (Nat.lt_irrefl 0)⟩
    rw [hc]
    rfl
  · have hd : Dealing n g.atOnce 0 c :=
      ⟨by rw [hc, Loads.dealt_zero], he, hs, hl.symm, fun i hi => absurd hi (Nat.not_lt_zero i)⟩
    obtain ⟨k', hd', hm⟩ := hd.submitUpTo hn (hl ▸ hs.nodup_ready) c.progress.readySize time acts
    rw [Nat.zero_mod, Loads.dealt_zero] at hm
    have hm' : Mirrors (submitUpTo time c.progress.readySize c acts)
        (submitUpTo time c.progress.readySize (c.withPolicy (.roundRobin ⟨.ofSize n, 0⟩)) acts) := by
      refine ⟨_, ?_, hm⟩
      rw [hd'.policy]
      rfl
    refine ⟨hm'.noteFinish time, fun _ k id hk => ?_⟩
    have hr := submitUpTo_ready c.progress.readySize acts hs (Queue.length_toList _).le hd'.error
    rw [advance, unitFor?, (noteFinish_progress _ _ _).1]
    exact hd'.placed k ((List.getElem?_eq_some_iff.mp hk).1.trans_le (hd'.length_le hr)) id hk

structure Begun (g : Workflow τ) (n : ℕ) (c c' : Scheduler NamedPolicy τ) : Prop where
  mirrors : Mirrors (c, #[]) (c', #[])
  workflow : c.workflow? = none
  faithful : Faithful g c
  atRest : AtRest c
  placed : 0 < n → ∀ k id, g.atOnce[k]? = some id → c.unitFor? id = some (k % n)

lemma Begun.settled (h : Begun g n c c') (hg : g.Linkless) : Settled c := by
  refine ⟨?_, h.atRest.ready⟩
  cases hs : c.progress.started with
  | false =>
    rw [h.faithful.unstarted hs]
    exact fun p => by simp [Progress.empty, Workflow.empty, Workflow.children]
  | true => exact fun p => ((h.faithful.alike hs).children p).trans (hg p)

lemma Begun.handle (h : Begun g n c c') (hg : g.Linkless) (time : τ) (event : Event τ) :
    Mirrors (c.handle time event) (c'.handle time event) ∧
      ∀ k, (c.handle time event).1.unitFor? k = c.unitFor? k := by
  obtain ⟨q, hq, he⟩ := h.mirrors
  obtain ⟨rfl, _⟩ := Prod.mk.inj he
  cases event with
  | provisioned u => exact ⟨⟨q, hq, rfl⟩, fun _ => rfl⟩
  | arrived d u => exact ⟨⟨q, hq, rfl⟩, fun _ => rfl⟩
  | completed id u =>
    exact ⟨(h.settled hg).mirrors_whenCompleted hq id, (h.settled hg).unitFor?_whenCompleted id⟩
  | ready =>
    rw [Scheduler.handle, Scheduler.handle]
    cases hh : c.halted with
    | true =>
      rw [whenReady_of_halted hh, whenReady_of_halted (by exact hh)]
      exact ⟨⟨q, hq, rfl⟩, fun _ => rfl⟩
    | false =>
      have hr := h.atRest.ready (halted_eq_false_iff.mp hh)
      rw [whenReady_of_none hh h.workflow, whenReady_of_none (by exact hh) (by exact h.workflow),
        advance_of_idle hr, advance_of_idle (by exact hr)]
      have hm : Mirrors (c, #[.forward .ready]) (c.withPolicy q, #[.forward .ready]) := ⟨q, hq, rfl⟩
      refine ⟨hm.noteFinish time, fun k => ?_⟩
      rw [unitFor?, (noteFinish_progress _ _ _).1, unitFor?]

def Paired (g : Workflow τ) (n : ℕ) (c c' : Scheduler NamedPolicy τ) : Prop :=
  c = ofWorkflow g (.leastLoaded ⟨.ofSize n⟩) ∧ c' = ofWorkflow g (.roundRobin ⟨.ofSize n, 0⟩) ∨ Begun g n c c'

lemma begun_ofWorkflow (hg : g.Linkless) (n : ℕ) (time : τ) :
    let s := (ofWorkflow g (.leastLoaded ⟨.ofSize n⟩ : NamedPolicy)).handle time .ready
    let s' := (ofWorkflow g (.roundRobin ⟨.ofSize n, 0⟩ : NamedPolicy)).handle time .ready
    s'.2 = s.2 ∧ Begun g n s.1 s'.1 := by
  intro s s'
  have hs : Progress.empty.start g = .ok (Progress.begun g) := Progress.start_of_closed rfl hg.closed
  have hf := faithful_ofWorkflow g (.leastLoaded ⟨.ofSize n⟩ : NamedPolicy)
  have hw : s.1.workflow? = none := (within_handle _ time .ready).workflow?_of_ready hf (stopped_of_error? rfl)
  have hm : Mirrors s s' ∧ (0 < n → ∀ k id, g.atOnce[k]? = some id → s.1.unitFor? id = some (k % n)) := by
    simp only [s, s', Scheduler.handle]
    rw [whenReady_of_ok rfl rfl hs, whenReady_of_ok rfl rfl hs]
    exact mirrors_start hg rfl rfl rfl time _
  obtain ⟨⟨q, hq, he⟩, hp⟩ := hm
  exact ⟨by rw [he], ⟨q, hq, by rw [he]⟩, hw, faithful_handle hf, atRest_handle hf (atRest_ofWorkflow g _), hp⟩

lemma Paired.handle (h : Paired g n c c') (hg : g.Linkless) (time : τ) (event : Event τ) :
    (c'.handle time event).2 = (c.handle time event).2 ∧
      Paired g n (c.handle time event).1 (c'.handle time event).1 := by
  rcases h with ⟨rfl, rfl⟩ | h
  · cases event with
    | ready => exact (begun_ofWorkflow hg n time).imp id .inr
    | _ => exact ⟨rfl, .inl ⟨rfl, rfl⟩⟩
  · obtain ⟨⟨q, hq, he⟩, hu⟩ := h.handle hg time event
    refine ⟨by rw [he], .inr ⟨⟨q, hq, by rw [he]⟩, (within_handle c time event).workflow?_of_none h.workflow,
      faithful_handle h.faithful, atRest_handle h.faithful h.atRest, fun hn k id hk => ?_⟩⟩
    rw [hu]
    exact h.placed hn k id hk

end Scheduler
end Dispatch
