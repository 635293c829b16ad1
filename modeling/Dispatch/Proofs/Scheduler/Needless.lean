import Dispatch.Proofs.Scheduler.Halting

/-! Events that tell a scheduler nothing: it passes them on and stays as it was, so that they can be left
out or put in anywhere. -/

namespace Dispatch

namespace Scheduler

variable {σ τ : Type} {g : Workflow τ} {c : Scheduler σ τ} {time : τ} {event : Event τ}
  {earlier : List (τ × Event τ)} {s : Scheduler σ τ × Array (Action τ)}

/-- The event is neither the first report that the units are ready, nor the completion of a submitted task
in a scheduler that still works. -/
def Needless (earlier : List (τ × Event τ)) (c : Scheduler σ τ) : Event τ → Prop
  | .ready => .ready ∈ earlier.map Prod.snd
  | .completed id _ => c.halted = true ∨ c.progress.phase? id ≠ some .submitted
  | .provisioned _ => True
  | .arrived _ _ => True

instance [DecidableEq τ] (earlier : List (τ × Event τ)) (c : Scheduler σ τ) (event : Event τ) :
    Decidable (Needless earlier c event) :=
  match event with
  | .ready => inferInstanceAs (Decidable (.ready ∈ earlier.map Prod.snd))
  | .completed id _ =>
    inferInstanceAs (Decidable (c.halted = true ∨ c.progress.phase? id ≠ some .submitted))
  | .provisioned _ => .isTrue trivial
  | .arrived _ _ => .isTrue trivial

def Opened (earlier : List (τ × Event τ)) (c : Scheduler σ τ) : Prop :=
  .ready ∈ earlier.map Prod.snd → c.workflow? = none

variable [Policy σ τ]

lemma opened_handle (hf : Faithful g c) (hs : Stopped g c) (ho : Opened earlier c) :
    Opened (earlier ++ [(time, event)]) (c.handle time event).1 := by
  intro hm
  rw [List.map_append, List.mem_append, List.map_singleton, List.mem_singleton] at hm
  rcases hm with hm | rfl
  · exact (within_handle c time event).workflow?_of_none (ho hm)
  · exact (within_handle c time .ready).workflow?_of_ready hf hs

lemma AtRest.not_move (h : AtRest c) (acts : Array (Action τ)) : ¬ Move time (c, acts) s := by
  have hp (he : c.error? = none) : c.progress.peek? = none := by
    rw [Progress.peek?, Queue.head?_eq, h.ready he]
    rfl
  intro hm
  cases hm with
  | submit he ht => cases (hp he).symm.trans ht
  | fail he ht => cases (hp he).symm.trans ht
  | finish hn hd => cases hn.symm.trans (h.finished.trans hd)

lemma Opening.eq_of_needless (h : Opening c time event s) (ho : Opened earlier c)
    (hn : Needless earlier c event) : s.1 = c := by
  cases h with
  | quiet => rfl
  | ignored => rfl
  | refuse => rfl
  | start _ hw => cases (ho hn).symm.trans hw
  | malformed _ hw => cases (ho hn).symm.trans hw
  | finish he _ hp =>
    rcases hn with hh | hp'
    · rw [halted_eq_false_iff.mpr he] at hh
      cases hh
    · exact absurd hp hp'

lemma handle_of_needless (hr : AtRest c) (ho : Opened earlier c) (time : τ) (hn : Needless earlier c event) :
    (c.handle time event).1 = c ∧ submissions (c.handle time event).2 = [] := by
  refine handle_induction (P := fun s => s.1 = c ∧ submissions s.2 = []) (fun s h => ?_)
    fun s s' h hs => ?_
  · exact ⟨h.eq_of_needless ho hn, h.submissions⟩
  · obtain ⟨c', acts⟩ := s
    obtain ⟨rfl, _⟩ := hs
    exact absurd h (hr.not_move acts)

lemma opened_hearAll (g : Workflow τ) (policy : σ) (events : List (τ × Event τ)) :
    Opened events ((ofWorkflow g policy).hearAll events).1 := by
  refine (hearAll_induction (P := fun events c _ => Faithful g c ∧ Stopped g c ∧ Opened events c)
    ?_ ?_ events).2.2
  · exact ⟨faithful_ofWorkflow g policy, stopped_of_error? rfl, fun h => (by cases h)⟩
  · intro events c answers time event ⟨hf, hs, ho⟩
    exact ⟨faithful_handle hf, (within_handle c time event).stopped hf hs, opened_handle hf hs ho⟩

def NeedlessMarked (c : Scheduler σ τ) (marked : List ((τ × Event τ) × Bool)) : Prop :=
  ∀ k (h : k < marked.length), marked[k].2 = false →
    Needless ((marked.take k).map Prod.fst) (c.hearAll ((marked.take k).map Prod.fst)).1 marked[k].1.2

instance [DecidableEq τ] (marked : List ((τ × Event τ) × Bool)) : Decidable (NeedlessMarked c marked) :=
  inferInstanceAs (Decidable (∀ k (h : k < marked.length), marked[k].2 = false →
    Needless ((marked.take k).map Prod.fst) (c.hearAll ((marked.take k).map Prod.fst)).1 marked[k].1.2))

lemma NeedlessMarked.of_append {marked : List ((τ × Event τ) × Bool)} {x : (τ × Event τ) × Bool}
    (h : NeedlessMarked c (marked ++ [x])) : NeedlessMarked c marked ∧
      (x.2 = false → Needless (marked.map Prod.fst) (c.hearAll (marked.map Prod.fst)).1 x.1.2) := by
  refine ⟨fun k hk hx => ?_, fun hx => ?_⟩
  · have hn := h k (by simp; omega)
    rw [List.getElem_append_left hk, List.take_append_of_le_length hk.le] at hn
    exact hn hx
  · have hn := h marked.length (by simp)
    rw [List.getElem_concat_length rfl, List.take_left] at hn
    exact hn hx

/-- An event that tells nothing leaves a scheduler as it is, and any of them can be left out of what a
scheduler is told. -/
theorem needless_events_harmless (g : Workflow τ) (policy : σ) (events : List (τ × Event τ)) :
    (∀ time event,
      let c := ((ofWorkflow g policy).hearAll events).1
      (c.handle time event).2.toList.head? = some (.forward event) ∧
        forwards (c.handle time event).2 = [event] ∧
        (Needless events c event → (c.handle time event).1 = c ∧
          submissions (c.handle time event).2 = [])) ∧
      ∀ marked : List ((τ × Event τ) × Bool), marked.map Prod.fst = events →
        NeedlessMarked (ofWorkflow g policy) marked →
        (ofWorkflow g policy).hearAll ((marked.filter Prod.snd).map Prod.fst) =
          (((ofWorkflow g policy).hearAll events).1,
            ((marked.zip ((ofWorkflow g policy).hearAll events).2).filter (·.1.2)).map Prod.snd) := by
  have hn (events : List (τ × Event τ)) (time : τ) (event : Event τ)
      (h : Needless events ((ofWorkflow g policy).hearAll events).1 event) :=
    handle_of_needless (settled_hearAll g policy events).2 (opened_hearAll g policy events) time h
  refine ⟨fun time event => ?_, fun marked hm h => ?_⟩
  · obtain ⟨hh, hf⟩ := forwards_handle ((ofWorkflow g policy).hearAll events).1 time event
    exact ⟨hh, hf, hn events time event⟩
  · subst hm
    induction marked using List.reverseRecOn with
    | nil => rfl
    | append_singleton marked x ih =>
      obtain ⟨⟨time, event⟩, kept⟩ := x
      have hl : marked.length = ((ofWorkflow g policy).hearAll (marked.map Prod.fst)).2.length := by
        rw [length_hearAll, List.length_map]
      rw [List.map_append, List.map_singleton, hearAll_append, List.zip_append hl, List.filter_append,
        List.filter_append, List.map_append, List.map_append]
      cases kept with
      | true => simp [hearAll_append, ih h.of_append.1]
      | false =>
        obtain ⟨hc, _⟩ := hn _ time event (h.of_append.2 rfl)
        simp [ih h.of_append.1, hc]

theorem needless_events_harmless_knot :
    let c : Scheduler NamedPolicy Rat := ofWorkflow Workflow.knot (.roundRobin ⟨.ofSize 2, 0⟩)
    let events : List (Rat × Event Rat) :=
      [(0, .completed 0 0), (1, .ready), (1, .ready), (2, .completed 0 0), (3, .completed 0 0)]
    (c.hearAll [(1, .ready), (2, .completed 0 0)]).1 = (c.hearAll events).1 ∧
      submissions ((c.hearAll events).1.handle 4 (.completed 2 0)).2 = [] := by
  intro c events
  let marked := events.zip [false, true, false, true, false]
  have hm : NeedlessMarked c marked := by decide +kernel
  have hn : Needless events (c.hearAll events).1 (.completed 2 0) := by decide +kernel
  have hk : (marked.filter Prod.snd).map Prod.fst = [(1, .ready), (2, .completed 0 0)] := rfl
  obtain ⟨h, hd⟩ := needless_events_harmless Workflow.knot
    (NamedPolicy.roundRobin ⟨.ofSize 2, 0⟩) events
  have hs := hd marked rfl hm
  rw [hk] at hs
  exact ⟨by rw [hs], ((h 4 (.completed 2 0)).2.2 hn).2⟩

end Scheduler

end Dispatch
