import Dispatch.Proofs.Workflow.Exploration

/-! Trees of calls that make two more or none, their numbering two by two, and workflows that read as such a tree. -/

namespace Dispatch

inductive CallTree (α : Type*) where
  | leaf (a : α)
  | node (a : α) (left right : CallTree α)

namespace CallTree

variable {α β γ : Type*}

def top : CallTree α → α
  | .leaf a => a
  | .node a _ _ => a

def map (f : α → β) : CallTree α → CallTree β
  | .leaf a => .leaf (f a)
  | .node a l r => .node (f a) (l.map f) (r.map f)

def preorder : CallTree α → List α
  | .leaf a => [a]
  | .node a l r => a :: (l.preorder ++ r.preorder)

def size : CallTree α → ℕ
  | .leaf _ => 1
  | .node _ l r => l.size + r.size + 1

def leaves : CallTree α → ℕ
  | .leaf _ => 1
  | .node _ l r => l.leaves + r.leaves

-- everything but the top, the two calls that a call makes before those that they make
def descendants : CallTree α → List α
  | .leaf _ => []
  | .node _ l r => l.top :: r.top :: (l.descendants ++ r.descendants)

def pairs : CallTree α → List (α × α)
  | .leaf _ => []
  | .node a l r => (a, l.top) :: (a, r.top) :: (l.pairs ++ r.pairs)

def number : CallTree α → ℕ → ℕ → CallTree (ℕ × α)
  | .leaf a, id, _ => .leaf (id, a)
  | .node a l r, id, next =>
    .node (id, a) (l.number next (next + 2)) (r.number (next + 1) (next + 2 + l.descendants.length))

def Reads (children : α → List α) : CallTree α → Prop
  | .leaf a => children a = []
  | .node a l r => children a = [l.top, r.top] ∧ l.Reads children ∧ r.Reads children

variable {t u : CallTree α} {a p : α} {id next : ℕ} {children : α → List α}

@[simp] lemma top_map (f : α → β) (t : CallTree α) : (t.map f).top = f t.top := by
  cases t <;> rfl

@[simp] lemma top_number (t : CallTree α) (id next : ℕ) : (t.number id next).top = (id, t.top) := by
  cases t <;> rfl

lemma map_map (f : α → β) (f' : β → γ) (t : CallTree α) : (t.map f).map f' = t.map (f' ∘ f) := by
  induction t with
  | leaf a => rfl
  | node a l r ihl ihr => rw [map, map, ihl, ihr]; rfl

lemma map_congr {f f' : α → β} (h : ∀ a ∈ t.preorder, f a = f' a) : t.map f = t.map f' := by
  induction t with
  | leaf a => rw [map, map, h a List.mem_cons_self]
  | node a l r ihl ihr =>
    rw [map, map, h a List.mem_cons_self, ihl fun b hb => h b (List.mem_cons_of_mem a (List.mem_append_left _ hb)),
      ihr fun b hb => h b (List.mem_cons_of_mem a (List.mem_append_right _ hb))]

lemma descendants_map (f : α → β) (t : CallTree α) : (t.map f).descendants = t.descendants.map f := by
  induction t with
  | leaf a => rfl
  | node a l r ihl ihr => simp [map, descendants, ihl, ihr]

lemma pairs_map (f : α → β) (t : CallTree α) : (t.map f).pairs = t.pairs.map (Prod.map f f) := by
  induction t with
  | leaf a => rfl
  | node a l r ihl ihr => simp [map, pairs, ihl, ihr]

lemma cons_descendants_perm (t : CallTree α) : (t.top :: t.descendants).Perm t.preorder := by
  induction t with
  | leaf a => exact .refl _
  | node a l r ihl ihr =>
    refine List.Perm.cons a ?_
    have hm : (l.top :: r.top :: (l.descendants ++ r.descendants)).Perm
        ((l.top :: l.descendants) ++ (r.top :: r.descendants)) := .cons l.top List.perm_middle.symm
    exact hm.trans (ihl.append ihr)

lemma size_eq (t : CallTree α) : t.size = t.descendants.length + 1 := by
  induction t with
  | leaf a => rfl
  | node a l r ihl ihr =>
    simp only [size, descendants, List.length_cons, List.length_append]
    omega

lemma size_add_one (t : CallTree α) : t.size + 1 = 2 * t.leaves := by
  induction t with
  | leaf a => rfl
  | node a l r ihl ihr =>
    rw [size, leaves]
    omega

lemma map_snd_pairs (t : CallTree α) : t.pairs.map Prod.snd = t.descendants := by
  induction t with
  | leaf a => rfl
  | node a l r ihl ihr => simp [pairs, descendants, ihl, ihr]

lemma fst_mem_preorder {e : α × α} (h : e ∈ t.pairs) : e.1 ∈ t.preorder := by
  induction t with
  | leaf a => cases h
  | node a l r ihl ihr =>
    simp only [pairs, List.mem_cons, List.mem_append] at h
    rcases h with rfl | rfl | h | h
    · exact List.mem_cons_self
    · exact List.mem_cons_self
    · exact List.mem_cons_of_mem a (List.mem_append_left _ (ihl h))
    · exact List.mem_cons_of_mem a (List.mem_append_right _ (ihr h))

section number

lemma map_snd_number (t : CallTree α) (id next : ℕ) : (t.number id next).map Prod.snd = t := by
  induction t generalizing id next with
  | leaf a => rfl
  | node a l r ihl ihr => rw [number, map, ihl, ihr]

lemma map_fst_descendants_number (t : CallTree α) (id next : ℕ) :
    (t.number id next).descendants.map Prod.fst = List.range' next t.descendants.length := by
  induction t generalizing id next with
  | leaf a => rfl
  | node a l r ihl ihr =>
    simp only [number, descendants, top_number, List.map_cons, List.map_append, List.length_cons, List.length_append,
      ihl, ihr, List.range'_succ]
    rw [List.range'_append_1]

lemma preorder_number_perm (t : CallTree α) : ((t.number 0 1).map Prod.fst).preorder.Perm (List.range t.size) := by
  have hp := ((t.number 0 1).map Prod.fst).cons_descendants_perm
  rw [top_map, top_number, descendants_map, map_fst_descendants_number] at hp
  rw [size_eq, List.range_eq_range', List.range'_succ]
  exact hp.symm

-- whoever calls has a smaller number than the one that is called
lemma lt_of_mem_pairs_number (t : CallTree α) (h : id < next) {e : (ℕ × α) × (ℕ × α)}
    (he : e ∈ (t.number id next).pairs) : e.1.1 < e.2.1 := by
  induction t generalizing id next with
  | leaf a => cases he
  | node a l r ihl ihr =>
    simp only [number, pairs, top_number, List.mem_cons, List.mem_append] at he
    rcases he with rfl | rfl | he | he
    · exact h
    · exact h.trans (Nat.lt_succ_self next)
    · exact ihl (by omega) he
    · exact ihr (by omega) he

end number

section reads

lemma filter_pairs_of_notMem [DecidableEq α] (h : p ∉ t.preorder) : t.pairs.filter (·.1 = p) = [] := by
  rw [List.filter_eq_nil_iff]
  intro e he
  rw [decide_eq_true_eq]
  rintro rfl
  exact h (fst_mem_preorder he)

lemma reads_of_pairs [DecidableEq α] (hn : t.preorder.Nodup)
    (h : ∀ p ∈ t.preorder, children p = (t.pairs.filter (·.1 = p)).map Prod.snd) : t.Reads children := by
  induction t with
  | leaf a => exact h a List.mem_cons_self
  | node a l r ihl ihr =>
    obtain ⟨ha, hn⟩ := List.nodup_cons.mp hn
    obtain ⟨hl, hr, hd⟩ := List.nodup_append.mp hn
    rw [List.mem_append, not_or] at ha
    refine ⟨?_, ihl hl fun p hp => ?_, ihr hr fun p hp => ?_⟩
    · rw [h a List.mem_cons_self]
      simp [pairs, filter_pairs_of_notMem ha.1, filter_pairs_of_notMem ha.2]
    · have hr : p ∉ r.preorder := fun hm => hd p hp p hm rfl
      have hp' : a ≠ p := by rintro rfl; exact ha.1 hp
      rw [h p (List.mem_cons_of_mem a (List.mem_append_left _ hp))]
      simp [pairs, hp', filter_pairs_of_notMem hr]
    · have hl : p ∉ l.preorder := fun hm => hd p hm p hp rfl
      have hp' : a ≠ p := by rintro rfl; exact ha.2 hp
      rw [h p (List.mem_cons_of_mem a (List.mem_append_right _ hp))]
      simp [pairs, hp', filter_pairs_of_notMem hl]

lemma Reads.unique (ht : t.Reads children) (hu : u.Reads children) (h : t.top = u.top) : t = u := by
  induction t generalizing u with
  | leaf a =>
    cases u with
    | leaf b => exact congrArg _ h
    | node b l r =>
      obtain rfl : a = b := h
      cases (show children a = [] from ht).symm.trans hu.1
  | node a l r ihl ihr =>
    obtain ⟨hc, hl, hr⟩ := ht
    cases u with
    | leaf b =>
      obtain rfl : a = b := h
      cases hc.symm.trans (show children a = [] from hu)
    | node b l' r' =>
      obtain rfl : a = b := h
      obtain ⟨hc', hl', hr'⟩ := hu
      obtain ⟨hlt, hrt, -⟩ : l.top = l'.top ∧ r.top = r'.top ∧ True := by simpa using hc.symm.trans hc'
      rw [ihl hl hl' hlt, ihr hr hr' hrt]

end reads

end CallTree

namespace Workflow

variable {τ : Type} {g : Workflow τ} {t : CallTree TaskId} {seen : Finset TaskId}

lemma explore_of_reads (h : t.Reads g.children) (hn : t.preorder.Nodup)
    (hc : ∀ id ∈ t.preorder, g.contains id = true ∧ id ∉ seen) : g.explore [t.top] seen = t.preorder := by
  induction t generalizing seen with
  | leaf a =>
    obtain ⟨hi, hs⟩ := hc a List.mem_cons_self
    rw [CallTree.top, explore_of_fresh hi hs, show g.children a = [] from h]
    simp [CallTree.preorder]
  | node a l r ihl ihr =>
    obtain ⟨hl, hr⟩ := h.2
    obtain ⟨ha, hn⟩ := List.nodup_cons.mp hn
    obtain ⟨hln, hrn, hd⟩ := List.nodup_append.mp hn
    rw [List.mem_append, not_or] at ha
    obtain ⟨hi, hs⟩ := hc a List.mem_cons_self
    have hel : g.explore [l.top] (insert a seen) = l.preorder := ihl hl hln fun id hid => by
      obtain ⟨hc, hs⟩ := hc id (List.mem_cons_of_mem a (List.mem_append_left _ hid))
      refine ⟨hc, fun hm => ?_⟩
      rcases Finset.mem_insert.mp hm with rfl | hm
      · exact ha.1 hid
      · exact hs hm
    have her : g.explore [r.top] (g.explored [l.top] (insert a seen)) = r.preorder := ihr hr hrn fun id hid => by
      obtain ⟨hc, hs⟩ := hc id (List.mem_cons_of_mem a (List.mem_append_right _ hid))
      refine ⟨hc, fun hm => ?_⟩
      rw [explored, hel, Finset.mem_union, Finset.mem_insert, List.mem_toFinset] at hm
      rcases hm with (rfl | hm) | hm
      · exact ha.2 hid
      · exact hs hm
      · exact hd id hm id hid rfl
    rw [CallTree.top, explore_of_fresh hi hs, h.1, explore_nil, List.append_nil, CallTree.preorder,
      show [l.top, r.top] = [l.top] ++ [r.top] from rfl, explore_append, hel, her]

end Workflow

end Dispatch
