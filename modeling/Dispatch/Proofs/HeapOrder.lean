import Dispatch.Heap
import Mathlib.Tactic

namespace Dispatch.Heap

variable {α : Type*} {before : α → α → Bool} {a b : α} {h k : Heap α}

structure Sorts (before : α → α → Bool) : Prop where
  asymm : ∀ {a b}, before a b = true → before b a = false
  trans : ∀ {a b c}, before b a = false → before c b = false → before c a = false

def Leads (before : α → α → Bool) (a : α) (h : Heap α) : Prop := ∀ b ∈ h.toList, before b a = false

def Ordered (before : α → α → Bool) : Heap α → Prop
  | .empty => True
  | .node _ a h k => (Leads before a h ∧ Leads before a k) ∧ h.Ordered before ∧ k.Ordered before

lemma Leads.of_perm {m : Heap α} (hh : Leads before a h) (hk : Leads before a k)
    (hp : m.toList.Perm (h.toList ++ k.toList)) : Leads before a m := by
  intro b hb
  rcases List.mem_append.mp (hp.mem_iff.mp hb) with hb | hb
  · exact hh b hb
  · exact hk b hb

lemma Leads.of_not_before (hs : Sorts before) (hh : Leads before b h) (ha : before b a = false) :
    Leads before a h := fun c hc => hs.trans ha (hh c hc)

lemma ordered_make (hl : Leads before a h ∧ Leads before a k) (hh : h.Ordered before)
    (hk : k.Ordered before) : (make a h k).Ordered before := by
  rw [make]
  split
  · exact ⟨hl, hh, hk⟩
  · exact ⟨hl.symm, hk, hh⟩

lemma leads_node (hs : Sorts before) {n : ℕ} (ho : (node n b h k).Ordered before)
    (ha : before b a = false) : Leads before a (node n b h k) := by
  intro c hc
  rcases List.mem_cons.mp hc with rfl | hc
  · exact ha
  · rcases List.mem_append.mp hc with hc | hc
    · exact ho.1.1.of_not_before hs ha c hc
    · exact ho.1.2.of_not_before hs ha c hc

lemma ordered_mergeNode (hs : Sorts before) {n : ℕ} {mergeRight : Heap α → Heap α}
    (ho : (node n a h k).Ordered before)
    (hp : ∀ m, (mergeRight m).toList.Perm (k.toList ++ m.toList))
    (hm : ∀ m, m.Ordered before → (mergeRight m).Ordered before) (m : Heap α)
    (h' : m.Ordered before) : (mergeNode before n a h k mergeRight m).Ordered before := by
  induction m with
  | empty => exact ho
  | node i b l r _ ihr =>
    rw [mergeNode]
    split
    · rename_i hb
      have hr := toList_mergeNode_perm before n a h k mergeRight hp r
      refine ordered_make ⟨h'.1.1, ?_⟩ h'.2.1 (ihr h'.2.2)
      exact (leads_node hs ho (hs.asymm hb)).of_perm h'.1.2 hr
    · rename_i hb
      refine ordered_make ⟨ho.1.1, ?_⟩ ho.2.1 (hm _ h')
      exact ho.1.2.of_perm (leads_node hs h' (by simpa using hb)) (hp _)

lemma ordered_merge (hs : Sorts before) (hh : h.Ordered before) (hk : k.Ordered before) :
    (merge before h k).Ordered before := by
  induction h generalizing k with
  | empty => exact hk
  | node n a l r _ ih =>
    exact ordered_mergeNode hs hh (toList_merge_perm before r) (fun m hm => ih hh.2.2 hm) k hk

lemma ordered_insert (hs : Sorts before) (hh : h.Ordered before) (a : α) :
    (h.insert before a).Ordered before := by
  refine ordered_merge hs ⟨⟨?_, ?_⟩, trivial, trivial⟩ hh
  · exact fun b hb => (List.not_mem_nil hb).elim
  · exact fun b hb => (List.not_mem_nil hb).elim

lemma ordered_deleteMin? (hs : Sorts before) (hh : h.Ordered before)
    (hd : h.deleteMin? before = some (a, k)) : Leads before a k ∧ k.Ordered before := by
  cases h with
  | empty => cases hd
  | node n b l r =>
    cases hd
    exact ⟨hh.1.1.of_perm hh.1.2 (toList_merge_perm before l r), ordered_merge hs hh.2.1 hh.2.2⟩

lemma exists_min? (hh : h.Ordered before) (hb : b ∈ h.toList) :
    ∃ a, h.min? = some a ∧ a ∈ h.toList ∧ (b = a ∨ before b a = false) := by
  cases h with
  | empty => cases hb
  | node n a l r =>
    refine ⟨a, rfl, List.mem_cons_self, ?_⟩
    rcases List.mem_cons.mp hb with rfl | hm
    · exact .inl rfl
    · rcases List.mem_append.mp hm with hm | hm
      · exact .inr (hh.1.1 b hm)
      · exact .inr (hh.1.2 b hm)

end Dispatch.Heap
