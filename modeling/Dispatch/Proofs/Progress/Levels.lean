import Dispatch.Proofs.Progress.Remaining
import Dispatch.Proofs.Progress.Standstill
import Dispatch.Proofs.Workflow.Depth

/-! A workflow that is played out, each task completed as soon as it is submitted, is worked off level by
level, although no task knows its level. -/

namespace Dispatch.Progress

variable {τ : Type} {r r' s s' : Progress τ} {g : Workflow τ} {id k : TaskId} {ids ids' out : List TaskId}

inductive Plays : Progress τ → List TaskId → Progress τ → Prop
  | rest {r : Progress τ} (h : r.next? = none) : Plays r [] r
  | turn {r r' s : Progress τ} {id : TaskId} {ids : List TaskId} (h : r.next? = some (id, r'))
      (hp : Plays (r'.complete id).1 ids s) : Plays r (id :: ids) s

lemma Plays.unique (h : Plays r ids s) (h' : Plays r ids' s') : ids' = ids ∧ s' = s := by
  induction h generalizing ids' s' with
  | rest h =>
    cases h' with
    | rest => exact ⟨rfl, rfl⟩
    | turn h' => simp [h] at h'
  | turn h _ ih =>
    cases h' with
    | rest h' => simp [h] at h'
    | turn h' hp' =>
      rw [h, Option.some.injEq, Prod.mk.injEq] at h'
      obtain ⟨rfl, rfl⟩ := h'
      obtain ⟨rfl, rfl⟩ := ih hp'
      exact ⟨rfl, rfl⟩

lemma remaining_complete_le (r : Progress τ) (id : TaskId) : (r.complete id).1.remaining ≤ r.remaining := by
  by_cases hs : r.phase? id = some .submitted
  · rw [complete_of_submitted hs]
    exact r.remaining_finish_le id
  · obtain ⟨_, hc⟩ := complete_of_ne hs
    rw [hc]

lemma playFor_plays (n : ℕ) (r : Progress τ) (moves : Array (TaskId × Array TaskId))
    (hr : r.remaining ≤ n) : ∃ more, (playFor n r moves).2.toList = moves.toList ++ more ∧
      Plays r (more.map Prod.fst) (playFor n r moves).1 := by
  induction n generalizing r moves with
  | zero =>
    rw [remaining_eq] at hr
    have hz : r.ready.toList = [] := List.eq_nil_of_length_eq_zero (by omega)
    exact ⟨[], by simp [playFor], .rest (next?_eq_none_iff.mpr hz)⟩
  | succ n ih =>
    cases hn : r.next? with
    | none => exact ⟨[], by simp [playFor, hn], by simpa [playFor, hn] using .rest hn⟩
    | some x =>
      obtain ⟨id, r'⟩ := x
      have ht := (taken_of_next? hn).remaining
      have hc := r'.remaining_complete_le id
      obtain ⟨more, hm, hp⟩ := ih (r'.complete id).1 (moves.push (id, (r'.complete id).2.released))
        (by omega)
      refine ⟨(id, (r'.complete id).2.released) :: more, ?_, ?_⟩
      · simpa [playFor, hn] using hm
      · simpa [playFor, hn] using Plays.turn hn hp

structure Played (g : Workflow τ) (out : List TaskId) (r : Progress τ) : Prop where
  follows : Follows g r
  grounded : Grounded g r
  started : r.started = true
  completed : ∀ id, r.phase? id = some .completed ↔ id ∈ out
  idle : ∀ id, r.phase? id ≠ some .submitted
  nodup : out.Nodup
  levels : (out ++ r.ready.toList).Pairwise fun a b => g.depth a ≤ g.depth b
  first : ∃ later, out ++ r.ready.toList = (begun g).ready.toList ++ later ∧ ∀ k ∈ later, g.depth k ≠ 0

lemma depth_of_mem_ready_begun (hg : g.Closed) (hk : k ∈ (begun g).ready.toList) : g.depth k = 0 := by
  have h := sound_begun hg
  apply Workflow.depth_eq_zero
  intro p hp
  exact (phase?_begun_ne g p).2 (h.completed_of_mem_parents ((h.mem_ready k).mp hk) (by simp) hp)

lemma played_begun (hg : g.Closed) : Played g [] (begun g) where
  follows := follows_begun hg
  grounded := grounded_begun hg
  started := rfl
  completed id := iff_of_false (phase?_begun_ne g id).2 List.not_mem_nil
  idle id := (phase?_begun_ne g id).1
  nodup := List.nodup_nil
  levels := by
    apply List.pairwise_of_forall_mem_list
    intro a ha b _
    rw [depth_of_mem_ready_begun hg ha]
    exact Nat.zero_le _
  first := ⟨[], by simp, by simp⟩

namespace Played

variable (h : Played g out r)

include h

lemma mem_of_precedes {p c : TaskId} {s : Phase} (hp : g.Precedes p c) (hc : r.phase? c = some s)
    (hb : s ≠ .blocked) : p ∈ out := by
  rw [← h.completed]
  apply h.follows.sound.completed_of_mem_parents hc hb
  rw [h.follows.alike.children]
  exact hp

variable (hn : r.Taken id r')

include hn

lemma phase?_front : r.phase? id = some .ready := h.follows.sound.phase?_of_taken hn

lemma submitted_front : r'.phase? id = some .submitted := by
  rw [h.follows.sound.phase?_taken hn, if_pos rfl]

lemma depth_le_of_mem (hk : k ∈ out) : g.depth k ≤ g.depth id := by
  have hl := (List.pairwise_append.mp h.levels).2.2
  exact hl k hk id (by rw [hn.ready]; exact List.mem_cons_self)

lemma depth_le_of_mem_ready (hk : k ∈ r.ready.toList) : g.depth k ≤ g.depth id + 1 := by
  have hr := (h.follows.sound.mem_ready k).mp hk
  apply Workflow.depth_le_of_parents (h.grounded k _ hr (by simp))
  intro p hp
  exact h.depth_le_of_mem hn (h.mem_of_precedes hp hr (by simp))

lemma completed_turn (k : TaskId) :
    (r'.finish id).1.phase? k = some .completed ↔ k ∈ out ++ [id] := by
  rw [(h.follows.taken hn).sound.completed_finish (h.submitted_front hn),
    h.follows.sound.phase?_taken hn, List.mem_append, List.mem_singleton, ← h.completed, or_comm]
  by_cases hk : id = k
  · simp [hk]
  · rw [if_neg hk]

lemma grounded_turn : Grounded g (r'.finish id).1 := by
  have ht := h.follows.taken hn
  exact (h.grounded.taken h.follows.sound h.follows.alike hn).finish ht.sound ht.alike (h.submitted_front hn)

lemma depth_freed (hk : k ∈ r'.freed id) : g.depth k = g.depth id + 1 := by
  have hs := h.submitted_front hn
  have hf := (h.follows.taken hn).finish hs
  have hr : (r'.finish id).1.phase? k = some .ready := by
    rw [← hf.sound.mem_ready, finish_ready]
    exact List.mem_append_right _ hk
  have ha : Acc g.Precedes k := h.grounded_turn hn k _ hr (by simp)
  have hl : g.depth id < g.depth k := by
    apply Workflow.depth_lt ha
    have hc := (((h.follows.taken hn).sound.mem_freed hs).mp hk).1
    rwa [(h.follows.taken hn).alike.children] at hc
  -- every other parent was played earlier and lies no deeper
  have hu : g.depth k ≤ g.depth id + 1 := by
    apply Workflow.depth_le_of_parents ha
    intro p hp
    have hc : (r'.finish id).1.phase? p = some .completed := by
      apply hf.sound.completed_of_mem_parents hr (by simp)
      rw [hf.alike.children]
      exact hp
    rw [h.completed_turn hn, List.mem_append, List.mem_singleton] at hc
    rcases hc with hc | rfl
    · exact h.depth_le_of_mem hn hc
    · exact le_rfl
  omega

lemma turn : Played g (out ++ [id]) (r'.finish id).1 := by
  have hs := h.submitted_front hn
  have ht := h.follows.taken hn
  have hl : (out ++ [id]) ++ (r'.finish id).1.ready.toList = (out ++ r.ready.toList) ++ r'.freed id := by
    rw [finish_ready, hn.ready]
    simp
  refine ⟨ht.finish hs, h.grounded_turn hn, hn.started.trans h.started,
    h.completed_turn hn, fun k hk => ?_, ?_, ?_, ?_⟩
  · rw [ht.sound.submitted_finish hs, h.follows.sound.phase?_taken hn] at hk
    rw [if_neg (Ne.symm hk.1)] at hk
    exact h.idle k hk.2
  · rw [List.nodup_append]
    refine ⟨h.nodup, List.nodup_singleton id, ?_⟩
    rintro a ha b hb rfl
    rw [List.mem_singleton.mp hb, ← h.completed, h.phase?_front hn] at ha
    cases ha
  · rw [hl, List.pairwise_append]
    refine ⟨h.levels, List.pairwise_of_forall_mem_list fun a ha b hb => ?_, fun a ha b hb => ?_⟩
    · rw [h.depth_freed hn ha, h.depth_freed hn hb]
    · rw [h.depth_freed hn hb]
      rcases List.mem_append.mp ha with ha | ha
      · exact Nat.le_succ_of_le (h.depth_le_of_mem hn ha)
      · exact h.depth_le_of_mem_ready hn ha
  · obtain ⟨later, he, hz⟩ := h.first
    refine ⟨later ++ r'.freed id, by rw [hl, he, List.append_assoc], fun k hk => ?_⟩
    rcases List.mem_append.mp hk with hk | hk
    · exact hz k hk
    · rw [h.depth_freed hn hk]
      exact Nat.succ_ne_zero _

end Played

lemma Plays.played (hp : Plays r ids s) (h : Played g out r) :
    Played g (out ++ ids) s ∧ s.ready.toList = [] := by
  induction hp generalizing out with
  | rest hn => exact ⟨by simpa using h, next?_eq_none_iff.mp hn⟩
  | @turn r r' s id ids hn _ ih =>
    have ht := taken_of_next? hn
    have hc : (r'.complete id).1 = (r'.finish id).1 := by
      rw [complete_of_submitted (h.submitted_front ht)]
    obtain ⟨hp, hq⟩ := ih (hc ▸ h.turn ht)
    exact ⟨by simpa using hp, hq⟩

lemma idxOf_lt_of_depth_lt {p c : TaskId} (hl : ids.Pairwise fun a b => g.depth a ≤ g.depth b)
    (hp : p ∈ ids) (hd : g.depth p < g.depth c) : ids.idxOf p < ids.idxOf c := by
  have hi := List.idxOf_lt_length_of_mem hp
  by_contra hn
  have hi' : ids.idxOf c < ids.length := by omega
  have hle : g.depth ids[ids.idxOf c] ≤ g.depth ids[ids.idxOf p] := by
    rcases Nat.lt_or_eq_of_le (Nat.le_of_not_lt hn) with hlt | he
    · exact List.pairwise_iff_getElem.mp hl _ _ hi' hi hlt
    · simp only [he, le_refl]
  rw [List.getElem_idxOf, List.getElem_idxOf] at hle
  omega

/-- A workflow is played out in one way: every task that no cycle keeps waiting has its turn once, a level
after the other, and the first level in the order in which its tasks stood in the queue. -/
theorem played_by_levels (g : Workflow τ) (r₀ r : Progress τ) (hr : r₀.start g = .ok r) :
    let s := r.playOut.1
    let ids := r.playOut.2.toList.map Prod.fst
    (∀ ids' s', Plays r ids' s' ↔ ids' = ids ∧ s' = s) ∧
    ids.Nodup ∧ (∀ id, id ∈ ids ↔ g.contains id = true ∧ g.Clear id) ∧
    (∀ id ∈ ids, IsGreatest {n | g.Path n id} (g.depth id)) ∧
    (ids.Pairwise fun a b => g.depth a ≤ g.depth b) ∧
    ids.filter (fun id => g.depth id = 0) = r.ready.toList ∧
    (∀ p c, g.Precedes p c → c ∈ ids → ids.idxOf p < ids.idxOf c) ∧
    (s.isFinished = true ↔ g.Acyclic) := by
  obtain ⟨_, hg, rfl⟩ := start_eq_ok hr
  intro s ids
  obtain ⟨more, hm, hp⟩ := playFor_plays (begun g).remaining (begun g) #[] le_rfl
  have hp : Plays (begun g) ids s := by
    have he : more = (begun g).playOut.2.toList := hm.symm
    rw [he] at hp
    exact hp
  obtain ⟨h, hq⟩ := hp.played (played_begun hg)
  rw [List.nil_append] at h
  have hs : s.AtStandstill :=
    ⟨fun id hi => by simpa [hq] using (h.follows.sound.mem_ready id).mpr hi, h.idle⟩
  have hmem (id : TaskId) : id ∈ ids ↔ g.contains id = true ∧ g.Clear id :=
    (h.completed id).symm.trans (h.follows.sound.completed_iff h.follows.alike hs h.grounded)
  have hacc (id : TaskId) (hi : id ∈ ids) : Acc g.Precedes id :=
    Workflow.acc_of_clear hg ((hmem id).mp hi).2
  have hl := h.levels
  obtain ⟨later, he, hz⟩ := h.first
  rw [hq, List.append_nil] at hl he
  refine ⟨fun ids' s' => ⟨fun hp' => hp.unique hp', ?_⟩, h.nodup, hmem,
    fun id hi => Workflow.isGreatest_depth (hacc id hi), hl, ?_, fun p c hpc hc => ?_,
    h.follows.sound.isFinished_iff_acyclic h.follows.alike hs h.grounded h.started⟩
  · rintro ⟨rfl, rfl⟩
    exact hp
  · rw [he, List.filter_append, List.filter_eq_self.mpr, List.filter_eq_nil_iff.mpr, List.append_nil]
    · simpa using hz
    · simpa using fun id => depth_of_mem_ready_begun hg
  · refine idxOf_lt_of_depth_lt hl ((hmem p).mpr ⟨(hg p c hpc).1, fun a ha => ?_⟩)
      (Workflow.depth_lt (hacc c hc) hpc)
    exact ((hmem c).mp hc).2 a (ha.tail hpc)

theorem played_by_levels_detour :
    let task (id : TaskId) : Task Rat := .ofCost id "" 0 (.sequential 1 1 1)
    let tasks := [0, 1, 2, 3, 4].foldl (fun g id => g.insertTask (task id)) Workflow.empty
    let g := ((((tasks.link 0 1).link 0 3).link 3 1).link 2 4).link 4 4
    empty.start g = .ok (begun g) ∧ Plays (begun g) [0, 2, 3, 1] (begun g).playOut.1 ∧
      g.depth 3 ≤ g.depth 1 ∧ ¬ g.Clear 4 ∧ ¬ g.Acyclic := by
  intro task tasks g
  have hr : empty.start g = .ok (begun g) :=
    start_of_closed rfl (g.danglingLink?_eq_none_iff.mp (by decide +kernel))
  have hi : (begun g).playOut.2.toList.map Prod.fst = [0, 2, 3, 1] := by decide +kernel
  have hf : (begun g).playOut.1.isFinished = false := by decide +kernel
  have h := played_by_levels g empty _ hr
  simp only [hi, hf] at h
  obtain ⟨hp, _, hc, _, hl, _, _, ha⟩ := h
  refine ⟨hr, (hp _ _).mpr ⟨rfl, rfl⟩, by simp at hl; omega, fun hx => ?_, by simpa using ha⟩
  have hm := (hc 4).mpr ⟨by decide +kernel, hx⟩
  simp at hm

end Dispatch.Progress
