import Dispatch.Proofs.Workflow.Preorder

namespace Dispatch.Workflow

open Relation

variable {τ : Type} (g : Workflow τ) {id p c : TaskId}

def Precedes (p c : TaskId) : Prop := c ∈ g.children p

def Acyclic : Prop := ∀ id, ¬ TransGen g.Precedes id id

def Clear (id : TaskId) : Prop := ∀ a, ReflTransGen g.Precedes a id → ¬ TransGen g.Precedes a a

variable {g}

lemma Closed.mem_ids (h : g.Closed) (hp : g.Precedes p c) : p ∈ g.ids ∧ c ∈ g.ids := by
  rw [g.mem_ids, g.mem_ids]
  exact h p c hp

lemma acyclic_iff_clear (h : g.Closed) : g.Acyclic ↔ ∀ id, g.contains id = true → g.Clear id := by
  refine ⟨fun ha _ _ a _ => ha a, fun hc id hi => ?_⟩
  obtain ⟨c, hp, _⟩ := TransGen.head'_iff.mp hi
  exact hc id (h id c hp).1 id .refl hi

lemma acyclic_of_increasing (h : ∀ e ∈ g.families, ∀ c ∈ e.2, e.1 < c) : g.Acyclic := by
  have hp {p c : TaskId} (hc : g.Precedes p c) : p < c := by
    refine h (p, g.children p) ?_ c hc
    rw [families_eq]
    exact List.mem_map_of_mem (Array.mem_toList_iff.mpr (g.mem_links_of_mem_children hc))
  have ht {a b : TaskId} (h : TransGen g.Precedes a b) : a < b := by
    induction h with
    | single h => exact hp h
    | tail _ h ih => exact ih.trans (hp h)
  exact fun id hi => lt_irrefl id (ht hi)

lemma not_transGen_of_acc (h : Acc g.Precedes id) : ¬ TransGen g.Precedes id id := by
  have ht := h.transGen
  clear h
  induction ht with
  | intro id _ ih => exact fun hi => ih id hi hi

lemma clear_of_acc (h : Acc g.Precedes id) : g.Clear id := by
  intro a ha
  apply not_transGen_of_acc
  induction ha with
  | refl => exact h
  | tail _ hp ih => exact ih (h.inv hp)

lemma acc_of_clear (h : g.Closed) (hc : g.Clear id) : Acc g.Precedes id := by
  let S := {a : TaskId // a ∈ g.ids ∧ ReflTransGen g.Precedes a id}
  have : Finite S := ((List.finite_toSet g.ids).subset fun _ ha => ha.1).to_subtype
  have : IsTrans S fun a b => TransGen g.Precedes a.1 b.1 := ⟨fun _ _ _ => TransGen.trans⟩
  have : Std.Irrefl fun a b : S => TransGen g.Precedes a.1 b.1 := ⟨fun a => hc a.1 a.2.2⟩
  have hw := Finite.wellFounded_of_trans_of_irrefl fun a b : S => TransGen g.Precedes a.1 b.1
  have ha (a : S) : Acc g.Precedes a.1 := by
    induction a using hw.induction with
    | _ a ih =>
      apply Acc.intro
      intro p hp
      exact ih ⟨p, (h.mem_ids hp).1, .head hp a.2.2⟩ (.single hp)
  apply Acc.intro
  intro p hp
  exact ha ⟨p, (h.mem_ids hp).1, .single hp⟩

end Dispatch.Workflow
