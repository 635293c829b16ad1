import Dispatch.Proofs.Scheduler.Conservation
import Dispatch.Proofs.Scheduler.Independence

namespace Dispatch

lemma Policy.Reaches.leastLoaded {τ : Type} {p : LeastLoaded} {q : NamedPolicy}
    (h : Policy.Reaches τ (.leastLoaded p : NamedPolicy) q) : ∃ p', q = .leastLoaded p' := by
  induction h with
  | refl => exact ⟨p, rfl⟩
  | choose t _ ih =>
    obtain ⟨p', rfl⟩ := ih
    exact ⟨_, rfl⟩
  | release u _ ih =>
    obtain ⟨p', rfl⟩ := ih
    exact ⟨_, rfl⟩

lemma LeastLoaded.lightest_of_choose {τ : Type} {p : LeastLoaded} {q : NamedPolicy} {t : Task τ} {u : UnitId}
    (h : Policy.choose (.leastLoaded p : NamedPolicy) t = (.ok u, q)) : p.loads.lightest? = some u := by
  cases hl : p.loads.lightest? with
  | none => simp [Policy.choose, hl] at h
  | some v =>
    simp only [Policy.choose, hl, Prod.map_apply, id, Prod.mk.injEq, Except.ok.injEq] at h
    rw [h.1]

namespace Scheduler

open Relation

section reaches

variable {σ τ : Type} [Policy σ τ] {c : Scheduler σ τ} {time : τ} {event : Event τ}
  {s s' : Scheduler σ τ × Array (Action τ)} {p : σ}

lemma Opening.reaches (h : Opening c time event s) (hp : Policy.Reaches τ p c.policy) :
    Policy.Reaches τ p s.1.policy := by
  cases h with
  | @finish id u policy fault _ _ _ hr =>
    obtain rfl : (freeUnit (τ := τ) c.policy (c.unitFor? id)).1 = policy := congrArg Prod.fst hr
    cases c.unitFor? id with
    | none => exact hp
    | some u => exact .release u hp
  | _ => exact hp

lemma Move.reaches (h : Move time s s') (hp : Policy.Reaches τ p s.1.policy) :
    Policy.Reaches τ p s'.1.policy := by
  cases h with
  | finish => exact hp
  | @fail c acts t e policy _ _ hc =>
    have hr := Policy.Reaches.choose t hp
    rwa [hc] at hr
  | @submit c acts t u policy id progress _ _ hc _ =>
    have hr := Policy.Reaches.choose t hp
    rwa [hc] at hr

lemma Within.reaches (h : Within c time event s) (hp : Policy.Reaches τ p c.policy) :
    Policy.Reaches τ p s.1.policy :=
  h.induction (P := fun s => Policy.Reaches τ p s.1.policy) (fun _ h => h.reaches hp) fun _ _ h => h.reaches

lemma reaches_hearAll (g : Workflow τ) (p : σ) (events : List (τ × Event τ)) :
    Policy.Reaches τ p ((ofWorkflow g p).hearAll events).1.policy :=
  hearAll_induction (P := fun _ c _ => Policy.Reaches τ p c.policy) .refl
    (fun _ c _ time event h => (within_handle c time event).reaches h) events

end reaches

section moment

variable {σ τ : Type} [Policy σ τ] {c : Scheduler σ τ} {time : τ} {event : Event τ}
  {s₀ s : Scheduler σ τ × Array (Action τ)} {before after : List (Job τ × UnitId)} {d : Job τ} {u : UnitId}

structure Submits (time : τ) (before : List (Job τ × UnitId)) (d : Job τ) (u : UnitId)
    (b s : Scheduler σ τ × Array (Action τ)) : Prop where
  earlier : submissions b.2 = before
  task : ∃ t policy, b.1.progress.peek? = some t ∧ t.job = d ∧ Policy.choose b.1.policy t = (.ok u, policy)
  next : ∃ b', Move time b b' ∧ submissions b'.2 = before ++ [(d, u)] ∧ ReflTransGen (Move time) b' s

lemma Submits.tail {b s' : Scheduler σ τ × Array (Action τ)} (h : Submits time before d u b s)
    (hm : Move time s s') : Submits time before d u b s' := by
  obtain ⟨b', hb, hd, hs⟩ := h.next
  exact ⟨h.earlier, h.task, b', hb, hd, hs.tail hm⟩

lemma exists_submits (h : ReflTransGen (Move time) s₀ s) (h₀ : submissions s₀.2 = [])
    (hs : submissions s.2 = before ++ (d, u) :: after) :
    ∃ b, ReflTransGen (Move time) s₀ b ∧ Submits time before d u b s := by
  induction h generalizing after with
  | refl => simp [h₀] at hs
  | @tail s s' h hm ih =>
    cases hm with
    | finish hf hd =>
      rw [submissions_note] at hs
      obtain ⟨b, hb, hu⟩ := ih hs
      exact ⟨b, hb, hu.tail (.finish hf hd)⟩
    | fail he ht hc =>
      rw [submissions_note] at hs
      obtain ⟨b, hb, hu⟩ := ih hs
      exact ⟨b, hb, hu.tail (.fail he ht hc)⟩
    | @submit c acts t v policy id progress he ht hc hn =>
      rw [submissions_submit, submissions_note] at hs
      -- the submission is the last one, or it was made before
      rcases List.eq_nil_or_concat after with rfl | ⟨after, x, rfl⟩
      · obtain ⟨hb, hx⟩ := List.append_inj' hs rfl
        obtain ⟨rfl, rfl⟩ := Prod.mk.inj (List.singleton_inj.mp hx)
        refine ⟨(c, acts), h, hb, ⟨t, policy, ht, rfl, hc⟩, _, .submit he ht hc hn, ?_, .refl⟩
        rw [submissions_submit, submissions_note]
        exact hs
      · rw [List.concat_eq_append, ← List.cons_append, ← List.append_assoc] at hs
        obtain ⟨b, hb, hu⟩ := ih (List.append_inj' hs rfl).1
        exact ⟨b, hb, hu.tail (.submit he ht hc hn)⟩

lemma exists_within_submits (h : submissions (c.handle time event).2 = before ++ (d, u) :: after) :
    ∃ b, Within c time event b ∧ Submits time before d u b (c.handle time event) := by
  obtain ⟨s₀, ho, hm⟩ := handle_moves c time event
  obtain ⟨b, hb, hu⟩ := exists_submits hm ho.submissions h
  exact ⟨b, ⟨s₀, ho, hb⟩, hu⟩

end moment

variable {τ : Type} {g : Workflow τ} {c : Scheduler NamedPolicy τ} {time : τ} {event : Event τ}
  {s : Scheduler NamedPolicy τ × Array (Action τ)} {n : ℕ} {u : UnitId}

lemma Within.balanced (h : Within c time event s) (hf : Faithful g c) (hb : Balanced n c) :
    Faithful g s.1 ∧ Balanced n s.1 :=
  h.induction (P := fun s => Faithful g s.1 ∧ Balanced n s.1)
    (fun _ h => ⟨h.faithful hf, (h.balanced hf hb).1⟩) fun _ _ h hs => ⟨h.faithful hs.1, h.balanced hs.1 hs.2⟩

lemma balanced_hearAll {name : String} {policy : NamedPolicy} (g : Workflow τ)
    (hp : NamedPolicy.ofName? name n = some policy) (events : List (τ × Event τ)) :
    Faithful g ((ofWorkflow g policy).hearAll events).1 ∧
      Balanced n ((ofWorkflow g policy).hearAll events).1 :=
  hearAll_induction (P := fun _ c _ => Faithful g c ∧ Balanced n c)
    ⟨faithful_ofWorkflow g policy, balanced_ofWorkflow g hp⟩
    (fun _ _ _ time event h => ⟨faithful_handle h.1, (balanced_handle time event h.1 h.2).1⟩) events

lemma Balanced.fewest (h : Balanced n c) {p : LeastLoaded} (hp : c.policy = .leastLoaded p)
    (hu : p.loads.lightest? = some u) :
    u < n ∧ ∀ v < n, c.inFlight u ≤ c.inFlight v ∧ (v < u → c.inFlight u < c.inFlight v) := by
  have ht : c.policy.table = p.loads := by rw [hp]; rfl
  have hs : p.loads.size = n := ht ▸ h.size
  have hl {v : UnitId} (hv : v < n) : p.loads.load v = c.inFlight v :=
    Loads.load_of_get? (ht ▸ h.load v hv)
  obtain ⟨hu, hm⟩ := Loads.lightest?_eq_some_iff.mp hu
  rw [hs] at hu hm
  refine ⟨hu, fun v hv => ?_⟩
  rw [← hl hu, ← hl hv]
  exact hm v hv

/-- Whatever the events so far, each task goes to the unit with the fewest tasks in flight at the moment of its
submission, and to the first of them if there are several. -/
theorem placed_where_fewest (g : Workflow τ) (n : ℕ) (events : List (τ × Event τ)) (time : τ)
    (event : Event τ) (before after : List (Job τ × UnitId)) (d : Job τ) (u : UnitId) :
    let c := ((ofWorkflow g (NamedPolicy.leastLoaded ⟨.ofSize n⟩)).hearAll events).1
    submissions (c.handle time event).2 = before ++ (d, u) :: after →
      ∃ b, Within c time event b ∧ Submits time before d u b (c.handle time event) ∧
        u < n ∧ ∀ v < n, b.1.inFlight u ≤ b.1.inFlight v ∧ (v < u → b.1.inFlight u < b.1.inFlight v) := by
  intro c hs
  obtain ⟨b, hb, hu⟩ := exists_within_submits hs
  have hn : NamedPolicy.ofName? "LeastLoaded" n = some (.leastLoaded ⟨.ofSize n⟩) := rfl
  obtain ⟨hf, hl⟩ := balanced_hearAll g hn events
  obtain ⟨p, hp⟩ := (hb.reaches (reaches_hearAll g _ events)).leastLoaded
  obtain ⟨t, policy, ht, hd, hc⟩ := hu.task
  rw [hp] at hc
  exact ⟨b, hb, hu, (hb.balanced hf hl).2.fewest hp (LeastLoaded.lightest_of_choose hc)⟩

theorem placed_where_fewest_knot :
    let c := ((ofWorkflow Workflow.knot (NamedPolicy.leastLoaded ⟨.ofSize 2⟩)).hearAll [(0, .ready)]).1
    submissions (c.handle 0 (.completed 0 5)).2 = [(⟨1, 1, 1, 1, 0⟩, 0)] ∧
      ∃ b, Within c 0 (.completed 0 5) b ∧ b.1.inFlight 0 ≤ b.1.inFlight 1 := by
  intro c
  have hs : submissions (c.handle 0 (.completed 0 5)).2 = [(⟨1, 1, 1, 1, 0⟩, 0)] := by decide +kernel
  obtain ⟨b, hb, _, _, hu⟩ := placed_where_fewest Workflow.knot 2 [(0, .ready)] 0 (.completed 0 5) [] []
    ⟨1, 1, 1, 1, 0⟩ 0 hs
  exact ⟨hs, b, hb, (hu 1 (by decide)).1⟩

end Scheduler
end Dispatch
