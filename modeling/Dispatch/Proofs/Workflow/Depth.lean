import Dispatch.Proofs.Workflow.Cycles

namespace Dispatch.Workflow

variable {τ : Type} {g : Workflow τ} {p c : TaskId} {n d : ℕ}

inductive Path (g : Workflow τ) : ℕ → TaskId → Prop
  | nil (id : TaskId) : Path g 0 id
  | snoc {n : ℕ} {p c : TaskId} (h : Path g n p) (hp : g.Precedes p c) : Path g (n + 1) c

noncomputable def depth (g : Workflow τ) (id : TaskId) : ℕ := sSup {n | g.Path n id}

lemma Path.exists_parent (h : g.Path n c) (hn : n ≠ 0) :
    ∃ p m, g.Precedes p c ∧ g.Path m p ∧ n = m + 1 := by
  cases h with
  | nil => exact (hn rfl).elim
  | snoc h hp => exact ⟨_, _, hp, h, rfl⟩

lemma bddAbove_path (h : Acc g.Precedes c) : BddAbove {n | g.Path n c} := by
  induction h with
  | intro c _ ih =>
    have hf : {p | g.Precedes p c}.Finite :=
      (List.finite_toSet (g.parents c)).subset fun p hp => (g.mem_parents).mpr hp
    obtain ⟨b, hb⟩ := (hf.bddAbove_biUnion (S := fun p => {n | g.Path n p})).mpr ih
    refine ⟨b + 1, fun n hn => ?_⟩
    by_cases hz : n = 0
    · omega
    · obtain ⟨p, m, hp, hm, rfl⟩ := Path.exists_parent hn hz
      exact Nat.succ_le_succ (hb (Set.mem_biUnion hp hm))

lemma isGreatest_depth (h : Acc g.Precedes c) : IsGreatest {n | g.Path n c} (g.depth c) :=
  ⟨Nat.sSup_mem ⟨0, .nil c⟩ (bddAbove_path h), fun _ hn => le_csSup (bddAbove_path h) hn⟩

lemma depth_lt (h : Acc g.Precedes c) (hp : g.Precedes p c) : g.depth p < g.depth c :=
  (isGreatest_depth h).2 (.snoc (isGreatest_depth (h.inv hp)).1 hp)

lemma depth_le_of_parents (h : Acc g.Precedes c) (hp : ∀ p, g.Precedes p c → g.depth p ≤ d) :
    g.depth c ≤ d + 1 := by
  by_cases hz : g.depth c = 0
  · omega
  · obtain ⟨p, m, hpc, hm, he⟩ := (isGreatest_depth h).1.exists_parent hz
    have hd := (isGreatest_depth (h.inv hpc)).2 hm
    have hl := hp p hpc
    omega

lemma depth_eq_zero (h : ∀ p, ¬ g.Precedes p c) : g.depth c = 0 := by
  by_contra hz
  obtain ⟨p, _, hp, _⟩ := (isGreatest_depth (Acc.intro c fun p hp => (h p hp).elim)).1.exists_parent hz
  exact h p hp

end Dispatch.Workflow
