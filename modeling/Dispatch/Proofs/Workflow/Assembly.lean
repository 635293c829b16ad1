import Dispatch.Proofs.Workflow.Insertion
import Dispatch.Proofs.Workflow.Ledger

namespace Dispatch

section firsts

variable {α : Type*} [DecidableEq α]

lemma eraseDups_concat (l : List α) (a : α) :
    (l ++ [a]).eraseDups = if a ∈ l then l.eraseDups else l.eraseDups ++ [a] := by
  rw [List.eraseDups_append]
  by_cases h : a ∈ l <;> simp [List.removeAll, List.eraseDups_cons, h]

lemma eraseDups_of_nodup {l : List α} (h : l.Nodup) : l.eraseDups = l := by
  induction l using List.reverseRecOn with
  | nil => rfl
  | append_singleton l a ih =>
    have hl := List.nodup_append.mp h
    rw [eraseDups_concat, if_neg fun ha => hl.2.2 a ha a (List.mem_singleton_self a) rfl, ih hl.1]

end firsts

namespace Workflow

variable {τ : Type}

def pairs (g : Workflow τ) : List (TaskId × TaskId) := g.families.flatMap fun e => e.2.map (e.1, ·)

def grouped (pairs : List (TaskId × TaskId)) : List (TaskId × List TaskId) :=
  (pairs.map Prod.fst).eraseDups.map fun p => (p, ((pairs.filter (·.1 = p)).map Prod.snd).eraseDups)

variable {g : Workflow τ} {p c : TaskId} {t : Task τ} {tasks roots : List (Task τ)}
  {pairs : List (TaskId × TaskId)} {additions : List (Addition τ)}

lemma mem_pairs : (p, c) ∈ g.pairs ↔ c ∈ g.children p := by
  rw [pairs, families_eq, List.mem_flatMap]
  constructor
  · rintro ⟨e, he, hc⟩
    obtain ⟨k, _, rfl⟩ := List.mem_map.mp he
    obtain ⟨d, hd, hp⟩ := List.mem_map.mp hc
    cases hp
    exact hd
  · intro hc
    have hk := Array.mem_toList_iff.mpr (g.mem_links_of_mem_children hc)
    exact ⟨_, List.mem_map_of_mem hk, List.mem_map_of_mem hc⟩

lemma nodup_pairs (g : Workflow τ) : g.pairs.Nodup := by
  rw [pairs, families_eq, List.flatMap_map, List.nodup_flatMap]
  refine ⟨fun p _ => (g.nodup_children p).map fun a b h => congrArg Prod.snd h, ?_⟩
  refine g.links.nodup.imp fun {p q} hpq e hp hq => ?_
  obtain ⟨c, _, rfl⟩ := List.mem_map.mp hp
  obtain ⟨d, _, hd⟩ := List.mem_map.mp hq
  exact hpq (congrArg Prod.fst hd).symm

lemma children_link (g : Workflow τ) (p c q : TaskId) : (g.link p c).children q =
    if p = q ∧ c ∉ g.children q then g.children q ++ [c] else g.children q := by
  rw [link]
  by_cases hc : c ∈ g.children p
  · rw [dif_pos hc, if_neg]
    rintro ⟨rfl, hn⟩
    exact hn hc
  · rw [dif_neg hc, children, Table.get?_insert]
    by_cases hp : p = q
    · subst hp
      rw [if_pos rfl, if_pos ⟨rfl, hc⟩, Option.getD_some]
    · rw [if_neg hp, if_neg fun h => hp h.1, children]

lemma keys_link (g : Workflow τ) (p c : TaskId) : (g.link p c).links.keys.toList =
    if p ∈ g.links.keys.toList then g.links.keys.toList else g.links.keys.toList ++ [p] := by
  rw [link]
  by_cases hc : c ∈ g.children p
  · rw [dif_pos hc, if_pos (Array.mem_toList_iff.mpr (g.mem_links_of_mem_children hc))]
  · rw [dif_neg hc, Table.keys_insert]
    simp only [Array.mem_toList_iff]
    split_ifs <;> simp

@[simp] lemma tasks_link (g : Workflow τ) (p c : TaskId) : (g.link p c).tasks = g.tasks := by
  rw [link]
  split <;> rfl

@[simp] lemma root?_link (g : Workflow τ) (p c : TaskId) : (g.link p c).root? = g.root? := by
  rw [link]
  split <;> rfl

structure Shows (g : Workflow τ) (tasks roots : List (Task τ)) (pairs : List (TaskId × TaskId)) : Prop where
  entries : g.tasks.toList = tasks.map fun t => (t.id, t)
  root : g.root? = roots.getLast?.map Task.id
  among : ∀ t ∈ roots, t ∈ tasks
  keys : g.links.keys.toList = (pairs.map Prod.fst).eraseDups
  children : ∀ p, g.children p = ((pairs.filter (·.1 = p)).map Prod.snd).eraseDups

lemma shows_empty : (empty : Workflow τ).Shows [] [] [] where
  entries := rfl
  root := rfl
  among := by simp
  keys := rfl
  children p := by simp [empty, Workflow.children]

namespace Shows

variable (h : g.Shows tasks roots pairs)

include h

lemma ids : g.ids = tasks.map Task.id := by
  rw [Workflow.ids, ← Table.map_fst_toList, h.entries, List.map_map]
  rfl

lemma values : g.tasks.values = tasks := by
  rw [← Table.map_snd_toList, h.entries, List.map_map]
  exact List.map_id _

lemma task?_eq_some_iff : g.task? p = some t ↔ t ∈ tasks ∧ t.id = p := by
  rw [Workflow.task?, ← Table.mem_toList, h.entries, List.mem_map]
  constructor
  · rintro ⟨u, hu, he⟩
    cases he
    exact ⟨hu, rfl⟩
  · rintro ⟨ht, rfl⟩
    exact ⟨t, ht, rfl⟩

lemma rootTask? : g.rootTask? = roots.getLast? := by
  rw [Workflow.rootTask?, h.root]
  cases hr : roots.getLast? with
  | none => rfl
  | some t => exact h.task?_eq_some_iff.mpr ⟨h.among _ (List.mem_of_getLast? hr), rfl⟩

lemma mem_children : c ∈ g.children p ↔ (p, c) ∈ pairs := by
  rw [h.children, List.mem_eraseDups, List.mem_map]
  simp

lemma families : g.families = grouped pairs := by
  rw [families_eq, h.keys]
  exact List.map_congr_left fun p _ => congrArg (Prod.mk p) (h.children p)

lemma insertTask (ht : t.id ∉ g.ids) : (g.insertTask t).Shows (tasks ++ [t]) roots pairs where
  entries := by
    have hk : t.id ∉ g.tasks.keys := fun hi => ht (Array.mem_toList_iff.mpr hi)
    rw [Workflow.insertTask, Table.toList_insert_of_notMem hk, h.entries, List.map_append]
    rfl
  root := h.root
  among u hu := List.mem_append_left [t] (h.among u hu)
  keys := h.keys
  children := h.children

lemma insertRoot (ht : t.id ∉ g.ids) : (g.insertRoot t).Shows (tasks ++ [t]) (roots ++ [t]) pairs where
  entries := (h.insertTask ht).entries
  root := by simp [Workflow.insertRoot]
  among u hu := by
    rcases List.mem_append.mp hu with hu | hu
    · exact List.mem_append_left [t] (h.among u hu)
    · exact List.mem_append_right tasks hu
  keys := h.keys
  children := h.children

lemma link (p c : TaskId) : (g.link p c).Shows tasks roots (pairs ++ [(p, c)]) where
  entries := (congrArg Table.toList (g.tasks_link p c)).trans h.entries
  root := (g.root?_link p c).trans h.root
  among := h.among
  keys := by
    rw [keys_link, h.keys, List.map_append, List.map_singleton, eraseDups_concat]
    simp only [List.mem_eraseDups]
  children q := by
    rw [children_link, h.children]
    by_cases hp : p = q
    · simp [hp, eraseDups_concat, List.filter_append]
    · simp [hp, List.filter_append]

end Shows

lemma insertTask?_of_notMem (ht : t.id ∉ g.ids) : g.insertTask? t = some (g.insertTask t) := by
  rw [insertTask?, if_neg (mt g.mem_ids.mpr ht)]

lemma insertRoot?_of_notMem (ht : t.id ∉ g.ids) : g.insertRoot? t = some (g.insertRoot t) := by
  rw [insertRoot?, if_neg (mt g.mem_ids.mpr ht)]

lemma Shows.exists_add? (h : g.Shows tasks roots pairs) (a : Addition τ) (ht : ∀ t, a.task? = some t → t.id ∉ g.ids) :
    ∃ g', g.add? a = some g' ∧
      g'.Shows (tasks ++ a.task?.toList) (roots ++ a.root?.toList) (pairs ++ a.pair?.toList) := by
  cases a with
  | task t =>
    refine ⟨_, insertTask?_of_notMem (ht t rfl), ?_⟩
    simpa [Addition.task?, Addition.root?, Addition.pair?] using h.insertTask (ht t rfl)
  | root t =>
    refine ⟨_, insertRoot?_of_notMem (ht t rfl), ?_⟩
    simpa [Addition.task?, Addition.root?, Addition.pair?] using h.insertRoot (ht t rfl)
  | link p c => exact ⟨_, rfl, by simpa [Addition.task?, Addition.root?, Addition.pair?] using h.link p c⟩

lemma filterMap_concat {α β : Type*} (f : α → Option β) (l : List α) (a : α) :
    (l ++ [a]).filterMap f = l.filterMap f ++ (f a).toList := by
  rw [List.filterMap_append]
  cases h : f a <;> simp [h]

-- as long as no identifier comes twice everything can be added
lemma exists_assembled (h : ((additions.filterMap Addition.task?).map Task.id).Nodup) :
    ∃ g, assemble? additions = some g ∧ g.Shows (additions.filterMap Addition.task?)
      (additions.filterMap Addition.root?) (additions.filterMap Addition.pair?) := by
  induction additions using List.reverseRecOn with
  | nil => exact ⟨empty, rfl, shows_empty⟩
  | append_singleton additions a ih =>
    rw [filterMap_concat, List.map_append, List.nodup_append] at h
    obtain ⟨hn, -, hd⟩ := h
    obtain ⟨g, hg, hs⟩ := ih hn
    obtain ⟨g', ha, hs'⟩ := hs.exists_add? a fun t ht hi =>
      hd t.id (hs.ids ▸ hi) t.id (List.mem_map_of_mem (Option.mem_toList.mpr ht)) rfl
    refine ⟨g', ?_, by simpa only [filterMap_concat] using hs'⟩
    rw [assemble?, List.foldlM_append, ← assemble?, hg]
    simpa using ha

/-- In whatever order tasks and links were added, a workflow lists every pair that was linked once, parents in the
order of their first link and the children of each in the order in which they were first linked to it. Children and
parents are read from the same pairs, the sources are the tasks without parents, and the tasks stand as they were
added, the last root among them. A ledger with a set of pairs beside its lists holds the same pairs in both and answers
all of this alike. -/
theorem assembled_shows (additions : List (Addition τ))
    (h : ((additions.filterMap Addition.task?).map Task.id).Nodup) :
    let tasks := additions.filterMap Addition.task?
    let pairs := additions.filterMap Addition.pair?
    ∃ g l, assemble? additions = some g ∧
      g.families = grouped pairs ∧
      (g.pairs.Nodup ∧ ∀ e, e ∈ g.pairs ↔ e ∈ pairs) ∧
      (∀ p, g.children p = ((pairs.filter (·.1 = p)).map Prod.snd).eraseDups) ∧
      (∀ p c, (c ∈ g.children p ↔ (p, c) ∈ pairs) ∧ (p ∈ g.parents c ↔ (p, c) ∈ pairs)) ∧
      (∀ c, (g.parents c).Nodup) ∧
      g.sources = (tasks.map Task.id).filter (fun id => g.parents id = []) ∧
      g.tasks.values = tasks ∧
      g.rootTask? = (additions.filterMap Addition.root?).getLast? ∧
      Ledger.assemble? additions = some l ∧ l.Agrees g ∧
      (∀ e, e ∈ l.known ↔ e ∈ pairs) ∧
      l.families = g.families ∧ l.children = g.children ∧ l.parents = g.parents ∧ l.sources = g.sources ∧
      l.rootTask? = g.rootTask? := by
  intro tasks pairs
  obtain ⟨g, hg, hs⟩ := exists_assembled h
  obtain ⟨l, hl, ha⟩ := Ledger.exists_of_assemble? hg
  refine ⟨g, l, hg, hs.families, ⟨g.nodup_pairs, ?_⟩, hs.children, ?_, g.nodup_parents, ?_, hs.values, hs.rootTask?,
    hl, ha, ?_, ha.families, funext ha.children, funext ha.parents, ha.sources, ha.rootTask?⟩
  · rintro ⟨p, c⟩
    exact mem_pairs.trans hs.mem_children
  · exact fun p c => ⟨hs.mem_children, g.mem_parents.trans hs.mem_children⟩
  · rw [sources_eq, hs.ids]
  · rintro ⟨p, c⟩
    rw [ha.known, ha.children, hs.mem_children]

theorem assembled_shows_entangled :
    let task (id : TaskId) : Task Rat := .ofCost id "" 0 (.sequential 1 1 1)
    let additions := [.link 2 0, .root (task 0), .link 9 2, .link 2 2, .root (task 2), .link 2 0, .link 0 7,
      .task (task 1), .link 9 0]
    ((additions.filterMap Addition.task?).map Task.id).Nodup ∧ ∃ g l, assemble? additions = some g ∧
      g.families = [(2, [0, 2]), (9, [2, 0]), (0, [7])] ∧ g.tasks.values = [task 0, task 2, task 1] ∧
      g.rootTask? = some (task 2) ∧ (9 ∈ g.parents 0 ∧ 0 ∉ g.parents 2) ∧ Ledger.assemble? additions = some l ∧
      l.families = [(2, [0, 2]), (9, [2, 0]), (0, [7])] ∧ ((9, 0) ∈ l.known ∧ (0, 9) ∉ l.known) ∧
      l.sources = [1] := by
  intro task additions
  have hn : ((additions.filterMap Addition.task?).map Task.id).Nodup := by decide +kernel
  obtain ⟨g, l, hg, hf, -, -, hp, -, hs, ht, hr, hl, -, hk, hf', -, -, hs', -⟩ := assembled_shows additions hn
  replace hf := hf.trans (by decide +kernel : _ = [(2, [0, 2]), (9, [2, 0]), (0, [7])])
  refine ⟨hn, g, l, hg, hf, ht, hr, ⟨?_, ?_⟩, hl, hf'.trans hf, ⟨?_, ?_⟩, ?_⟩
  · exact (hp 9 0).2.mpr (by decide +kernel)
  · exact fun h => absurd ((hp 0 2).2.mp h) (by decide +kernel)
  · exact (hk (9, 0)).mpr (by decide +kernel)
  · exact fun h => absurd ((hk (0, 9)).mp h) (by decide +kernel)
  · have h₀ : g.parents 0 ≠ [] := List.ne_nil_of_mem ((hp 9 0).2.mpr (by decide +kernel))
    have h₂ : g.parents 2 ≠ [] := List.ne_nil_of_mem ((hp 9 2).2.mpr (by decide +kernel))
    have h₁ : g.parents 1 = [] := by
      refine List.eq_nil_iff_forall_not_mem.mpr fun p h => ?_
      simpa [additions, Addition.pair?] using (hp p 1).2.mp h
    rw [hs', hs]
    change [0, 2, 1].filter _ = _
    simp [h₀, h₁, h₂]

end Workflow

end Dispatch
