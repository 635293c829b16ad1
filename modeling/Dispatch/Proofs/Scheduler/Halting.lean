import Dispatch.Proofs.Scheduler.Precedence

/-! A scheduler that meets a fatal error stops there for good. A malformed workflow stops it before anything
is submitted; a policy that finds no unit stops it in front of the task that was to be placed. -/

namespace Dispatch

namespace Progress

variable {τ : Type} {r : Progress τ} {g : Workflow τ} {t : Task τ} {id k : TaskId}

lemma danglingLink?_of_start {e : LinkError} (h : r.start g = .error e) (hr : r.started = false) :
    g.danglingLink? = some e := by
  rw [start, hr] at h
  cases hd : g.danglingLink? with
  | none => simp [hd] at h
  | some e' =>
    rw [hd] at h
    exact congrArg some (Except.error.inj h)

lemma Sound.of_peek? (h : r.Sound) (ht : r.peek? = some t) : (∃ rest, r.ready.toList = t.id :: rest) ∧
    r.phase? t.id = some .ready ∧ r.task? t.id = some t := by
  obtain ⟨id, hi, ht⟩ := Option.bind_eq_some_iff.mp ht
  obtain rfl := r.workflow.id_of_get? id t ht
  rw [Queue.head?_eq, List.head?_eq_some_iff] at hi
  obtain ⟨rest, hr⟩ := hi
  refine ⟨⟨rest, hr⟩, (h.mem_ready t.id).mp ?_, ht⟩
  rw [hr]
  exact List.mem_cons_self

lemma Sound.waiting_of_finish (h : r.Sound) (hs : r.phase? id = some .submitted)
    (hk : (r.finish id).1.phase? k = some .blocked ∨ (r.finish id).1.phase? k = some .ready) :
    id ≠ k ∧ (r.phase? k = some .blocked ∨ r.phase? k = some .ready) := by
  rw [h.phase?_finish hs] at hk
  by_cases hi : id = k
  · simp [hi] at hk
  · rw [if_neg hi] at hk
    split at hk
    · rename_i hf
      exact ⟨hi, .inl (Progress.phase?_eq_some.mpr ⟨1, ((h.mem_freed hs).mp hf).2⟩)⟩
    · exact ⟨hi, hk⟩

end Progress

namespace Scheduler

open Relation

variable {σ τ : Type} [Policy σ τ] {g : Workflow τ} {p₀ : σ} {c : Scheduler σ τ} {time : τ}
  {event : Event τ} {s s' : Scheduler σ τ × Array (Action τ)} {sent : List (Job τ × UnitId)}

def Within (c : Scheduler σ τ) (time : τ) (event : Event τ) (s : Scheduler σ τ × Array (Action τ)) : Prop :=
  ∃ s₀, Opening c time event s₀ ∧ ReflTransGen (Move time) s₀ s

lemma within_handle (c : Scheduler σ τ) (time : τ) (event : Event τ) :
    Within c time event (c.handle time event) := handle_moves c time event

lemma Within.induction {P : Scheduler σ τ × Array (Action τ) → Prop} (h : Within c time event s)
    (opening : ∀ s, Opening c time event s → P s) (move : ∀ s s', Move time s s' → P s → P s') : P s := by
  obtain ⟨s₀, ho, hm⟩ := h
  induction hm with
  | refl => exact opening s₀ ho
  | tail _ hm ih => exact move _ _ hm ih

lemma Within.faithful (h : Within c time event s) (hf : Faithful g c) : Faithful g s.1 :=
  h.induction (P := fun s => Faithful g s.1) (fun _ h => h.faithful hf) fun _ _ h => h.faithful

lemma Opening.submissions (h : Opening c time event s) : submissions s.2 = [] := by
  cases h with
  | @finish id u policy fault => cases fault <;> rfl
  | _ => rfl

lemma forwards_handle (c : Scheduler σ τ) (time : τ) (event : Event τ) :
    (c.handle time event).2.toList.head? = some (.forward event) ∧
      forwards (c.handle time event).2 = [event] := by
  refine (within_handle c time event).induction
    (P := fun s => s.2.toList.head? = some (.forward event) ∧ forwards s.2 = [event]) ?_ ?_
  · intro s h
    cases h with
    | @finish id u policy fault => cases fault <;> exact ⟨rfl, rfl⟩
    | _ => exact ⟨rfl, rfl⟩
  · rintro ⟨c, acts⟩ s' h ⟨hh, hw⟩
    cases h <;> simp_all

section halted

lemma handle_of_halted (h : c.halted = true) (time : τ) (event : Event τ) :
    (c.handle time event).1 = c ∧ submissions (c.handle time event).2 = [] := by
  cases event with
  | provisioned u => exact ⟨rfl, rfl⟩
  | arrived d u => exact ⟨rfl, rfl⟩
  | ready =>
    simp only [handle, whenReady, h, if_true]
    exact ⟨trivial, rfl⟩
  | completed id u =>
    simp only [handle, whenCompleted, h, Bool.true_or, if_true]
    exact ⟨trivial, rfl⟩

lemma hearAll_of_halted (h : c.halted = true) (more : List (τ × Event τ)) : (c.hearAll more).1 = c ∧
    List.Forall₂ (fun x answer => forwards answer = [x.2] ∧ submissions answer = []) more
      (c.hearAll more).2 := by
  induction more with
  | nil => exact ⟨rfl, .nil⟩
  | cons x more ih =>
    obtain ⟨hc, hs⟩ := handle_of_halted h x.1 x.2
    rw [hearAll_cons, hc]
    exact ⟨ih.1, .cons ⟨(forwards_handle c x.1 x.2).2, hs⟩ ih.2⟩

end halted

structure Stopped (g : Workflow τ) (c : Scheduler σ τ) : Prop where
  link : ∀ e, c.error? = some (.link e) →
    g.danglingLink? = some e ∧ c.progress = .empty ∧ c.workflow? = none
  policy : ∀ e, c.error? = some (.policy e) → ∃ t, c.progress.peek? = some t

omit [Policy σ τ] in
lemma stopped_of_error? (h : c.error? = none) : Stopped g c :=
  ⟨fun e he => (by cases h.symm.trans he), fun e he => (by cases h.symm.trans he)⟩

lemma Opening.stopped (h : Opening c time event s) (hf : Faithful g c) (hc : Stopped g c) :
    Stopped g s.1 := by
  cases h with
  | quiet => exact hc
  | ignored => exact hc
  | refuse => exact hc
  | start he => exact stopped_of_error? he
  | finish he => exact stopped_of_error? he
  | malformed he hw hs =>
    obtain ⟨rfl, hn⟩ := hf.waiting _ hw
    have hd := Progress.danglingLink?_of_start hs hn
    refine ⟨fun e h => ?_, fun e h => (by cases h)⟩
    cases h
    exact ⟨hd, hf.unstarted hn, rfl⟩

lemma Move.stopped (h : Move time s s') (hc : Stopped g s.1) : Stopped g s'.1 := by
  cases h with
  | submit he => exact stopped_of_error? he
  | fail _ ht => exact ⟨fun e h => (by cases h), fun e h => ⟨_, ht⟩⟩
  | finish => exact ⟨hc.link, hc.policy⟩

lemma Within.stopped (h : Within c time event s) (hf : Faithful g c) (hc : Stopped g c) : Stopped g s.1 :=
  h.induction (P := fun s => Stopped g s.1) (fun _ h => h.stopped hf hc) fun _ _ h => h.stopped

section stopped

omit [Policy σ τ]

variable (h : Stopped g c) (hf : Faithful g c)

include h hf

lemma Stopped.isFinished (he : c.error? ≠ none) : c.progress.isFinished = false := by
  obtain ⟨fault, hc⟩ := Option.ne_none_iff_exists'.mp he
  cases fault with
  | link e =>
    rw [(h.link e hc).2.1]
    rfl
  | policy e =>
    obtain ⟨t, ht⟩ := h.policy e hc
    have hr := (hf.sound.of_peek? ht).2.1
    rw [← Bool.not_eq_true]
    intro hd
    cases hf.sound.phase?_of_isFinished hd hr

lemma Stopped.workflow? (he : c.error? ≠ none) : c.workflow? = none := by
  obtain ⟨fault, hc⟩ := Option.ne_none_iff_exists'.mp he
  cases fault with
  | link e => exact (h.link e hc).2.2
  | policy e =>
    obtain ⟨t, ht⟩ := h.policy e hc
    have hs := hf.started (hf.sound.of_peek? ht).2.1
    rw [Option.eq_none_iff_forall_ne_some]
    intro g' hw
    rw [(hf.waiting g' hw).2] at hs
    cases hs

end stopped

lemma Within.workflow?_of_ready (h : Within c time .ready s) (hf : Faithful g c) (hs : Stopped g c) :
    s.1.workflow? = none := by
  refine h.induction (P := fun s => s.1.workflow? = none) (fun s ho => ?_) fun s s' hm hw => ?_
  · by_cases he : c.error? = none
    · exact ho.workflow?_of_ready he
    · exact ho.workflow?_of_none (hs.workflow? hf he)
  · cases hm <;> exact hw

lemma Within.workflow?_of_none (h : Within c time event s) (hw : c.workflow? = none) :
    s.1.workflow? = none := by
  refine h.induction (P := fun s => s.1.workflow? = none) (fun s ho => ho.workflow?_of_none hw)
    fun s s' hm hw => ?_
  cases hm <;> exact hw

lemma Within.halting (h : Within c time event s) (hf : Faithful g c) (he : c.error? = none)
    {fault : Fault} (hs : s.1.error? = some fault) :
    Opening c time event s ∨ ∃ b t e, Within c time event b ∧ b.1.error? = none ∧
      fault = .policy e ∧ b.1.progress.peek? = some t ∧
      Policy.choose b.1.policy t = (.error e, s.1.policy) ∧
      s = ({ b.1 with policy := s.1.policy, error? := some (.policy e) },
        b.2.push (.note (.scheduler time (.placingFailed t.id e)))) := by
  have hc : Stopped g c := stopped_of_error? he
  obtain ⟨s₀, ho, hm⟩ := h
  rcases ReflTransGen.cases_tail hm with rfl | ⟨b, hb, hm⟩
  · exact .inl ho
  · have hw : Within c time event b := ⟨s₀, ho, hb⟩
    right
    cases hm with
    | submit hn =>
      cases hn.symm.trans hs
    | @fail b acts t e policy hn ht hp =>
      cases hs
      exact ⟨(b, acts), t, e, hw, hn, rfl, ht, hp, rfl⟩
    | finish _ hd =>
      have hn := (hw.stopped hf hc).isFinished (hw.faithful hf) (Option.ne_none_iff_exists'.mpr ⟨_, hs⟩)
      rw [hd] at hn
      cases hn

structure Noted (g : Workflow τ) (p₀ : σ) (sent : List (Job τ × UnitId)) (c : Scheduler σ τ) : Prop where
  idle : c.progress.started = false → c.policy = p₀ ∧ sent = []
  untouched : ∀ id, c.progress.phase? id = some .blocked ∨ c.progress.phase? id = some .ready →
    c.progress.task? id = g.task? id
  placed : ∀ id, c.progress.phase? id = some .submitted ∨ c.progress.phase? id = some .completed →
    ∃ t a, c.progress.task? id = some t ∧ t.assignment = some a ∧ (t.job, a.unit) ∈ sent

omit [Policy σ τ] in
lemma noted_ofWorkflow (g : Workflow τ) (p₀ : σ) : Noted g p₀ [] (ofWorkflow g p₀) :=
  ⟨fun _ => ⟨rfl, rfl⟩, fun id h => (by simp [ofWorkflow] at h), fun id h => (by simp [ofWorkflow] at h)⟩

section noted

variable (hn : Noted g p₀ sent c) (hf : Faithful g c)

include hn hf

omit [Policy σ τ] in
lemma Noted.finish {id : TaskId} {policy : σ} (hs : c.progress.started = true)
    (hp : c.progress.phase? id = some .submitted) :
    Noted g p₀ sent { c with policy := policy, progress := (c.progress.finish id).1 } := by
  have ht (k : TaskId) (hk : id ≠ k) : (c.progress.finish id).1.task? k = c.progress.task? k := by
    rw [Progress.task?_finish, if_neg hk]
  refine ⟨fun h => ?_, fun k hk => ?_, fun k hk => ?_⟩
  · have hn : c.progress.started = false := h
    rw [hs] at hn
    cases hn
  · have hk := hf.sound.waiting_of_finish hp hk
    exact (ht k hk.1).trans (hn.untouched k hk.2)
  · by_cases hi : id = k
    · subst hi
      obtain ⟨t, a, ht, ha, hm⟩ := hn.placed id (.inl hp)
      refine ⟨{ t with done := true }, a, ?_, ha, hm⟩
      rw [Progress.task?_finish, if_pos rfl, ht]
      rfl
    · rw [ht k hi]
      refine hn.placed k (hk.imp (fun h => ((hf.sound.submitted_finish hp k).mp h).2) fun h => ?_)
      exact ((hf.sound.completed_finish hp k).mp h).resolve_left (Ne.symm hi)

omit [Policy σ τ] in
lemma Noted.submit {t : Task τ} {u : UnitId} {policy : σ} {progress : Progress τ}
    (ht : c.progress.task? t.id = some t) (hk : c.progress.Taken t.id progress) :
    Noted g p₀ (sent ++ [(t.job, u)])
      { c with policy := policy, progress := progress.assign t.id ⟨u, time⟩ } := by
  have hph (k : TaskId) : (progress.assign t.id ⟨u, time⟩).phase? k =
      if t.id = k then some .submitted else c.progress.phase? k := hf.sound.phase?_taken hk k
  have htk (k : TaskId) : (progress.assign t.id ⟨u, time⟩).task? k =
      if t.id = k then (c.progress.task? t.id).map ({ · with assignment := some ⟨u, time⟩ })
      else c.progress.task? k := by
    rw [Progress.task?_assign, hk.task?, hk.task?]
  refine ⟨fun h => ?_, fun k hw => ?_, fun k hw => ?_⟩
  · have hs : progress.started = true := hk.started.trans (hf.started (hf.sound.phase?_of_taken hk))
    rw [show progress.started = false from h] at hs
    cases hs
  · dsimp only at hw ⊢
    rw [hph] at hw
    rw [htk]
    split at hw
    · simp at hw
    · rename_i hne
      rw [if_neg hne]
      exact hn.untouched k hw
  · dsimp only at hw ⊢
    rw [hph] at hw
    rw [htk]
    split at hw
    · rename_i hki
      rw [if_pos hki, ht]
      exact ⟨_, _, rfl, rfl, List.mem_append_right _ (List.mem_singleton_self _)⟩
    · rename_i hne
      rw [if_neg hne]
      obtain ⟨t', a, h₁, h₂, hm⟩ := hn.placed k hw
      exact ⟨t', a, h₁, h₂, List.mem_append_left _ hm⟩

end noted

lemma Opening.noted (h : Opening c time event s) (hf : Faithful g c) (hn : Noted g p₀ sent c) :
    Noted g p₀ sent s.1 := by
  cases h with
  | quiet => exact hn
  | ignored => exact hn
  | refuse => exact hn
  | malformed => exact ⟨hn.idle, hn.untouched, hn.placed⟩
  | finish _ hs hp => exact hn.finish hf hs hp
  | start he hw hs =>
    obtain ⟨_, _, rfl⟩ := Progress.start_eq_ok hs
    obtain ⟨rfl, _⟩ := hf.waiting _ hw
    refine ⟨fun h => (by cases h), fun _ _ => rfl, fun id h => ?_⟩
    rcases h with h | h
    · exact absurd h (Progress.phase?_begun_ne _ id).1
    · exact absurd h (Progress.phase?_begun_ne _ id).2

lemma Move.noted {acts₀ : List (Job τ × UnitId)} (h : Move time s s') (hf : Faithful g s.1)
    (hn : Noted g p₀ (acts₀ ++ submissions s.2) s.1) : Noted g p₀ (acts₀ ++ submissions s'.2) s'.1 := by
  cases h with
  | finish =>
    rw [submissions_note]
    exact ⟨hn.idle, hn.untouched, hn.placed⟩
  | fail _ ht =>
    rw [submissions_note]
    refine ⟨fun h => ?_, hn.untouched, hn.placed⟩
    have hs := hf.started (hf.sound.of_peek? ht).2.1
    rw [show _ = false from h] at hs
    cases hs
  | submit he ht hp hn' =>
    have hk := Progress.taken_of_next? hn'
    obtain ⟨hi, rfl⟩ := Progress.task?_of_peek? ht hk
    rw [submissions_submit, submissions_note, ← List.append_assoc]
    exact hn.submit hf hi hk

lemma noted_handle (time : τ) (event : Event τ) (hf : Faithful g c) (hn : Noted g p₀ sent c) :
    Noted g p₀ (sent ++ submissions (c.handle time event).2) (c.handle time event).1 := by
  refine (handle_induction (P := fun s => Faithful g s.1 ∧ Noted g p₀ (sent ++ submissions s.2) s.1)
    (fun s h => ?_) fun s s' h hs => ?_).2
  · rw [h.submissions, List.append_nil]
    exact ⟨h.faithful hf, h.noted hf hn⟩
  · exact ⟨h.faithful hs.1, h.noted hs.1 hs.2⟩

lemma noted_hearAll (g : Workflow τ) (policy : σ) (events : List (τ × Event τ)) :
    Stopped g ((ofWorkflow g policy).hearAll events).1 ∧
      Noted g policy (((ofWorkflow g policy).hearAll events).2.flatMap submissions)
        ((ofWorkflow g policy).hearAll events).1 := by
  refine (hearAll_induction (P := fun _ c answers => Faithful g c ∧ Stopped g c ∧
    Noted g policy (answers.flatMap submissions) c) ?_ ?_ events).2
  · exact ⟨faithful_ofWorkflow g policy, stopped_of_error? rfl, noted_ofWorkflow g policy⟩
  · intro events c answers time event ⟨hf, hs, hn⟩
    rw [List.flatMap_append, List.flatMap_singleton]
    exact ⟨faithful_handle hf, (within_handle c time event).stopped hf hs, noted_handle time event hf hn⟩

structure StoppedAtStart (g : Workflow τ) (policy : σ) (c : Scheduler σ τ)
    (answers : List (Array (Action τ))) (e : LinkError) : Prop where
  link : g.danglingLink? = some e
  progress : c.progress = .empty
  quiet : ∀ answer ∈ answers, submissions answer = []
  policy : c.policy = policy

/-- A scheduler that has stopped in front of a task, from the state before it asked for a unit. -/
structure StoppedAt (g : Workflow τ) (before c : Scheduler σ τ) (answers : List (Array (Action τ)))
    (t : Task τ) (e : PolicyError) : Prop where
  closed : g.danglingLink? = none
  failed : Policy.choose before.policy t = (.error e, c.policy)
  progress : c.progress = before.progress
  loads : c.loads = before.loads
  front : ∃ rest, c.progress.ready.toList = t.id :: rest
  ready : c.progress.phase? t.id = some .ready
  task : c.progress.task? t.id = some t
  untouched : g.task? t.id = some t
  unassigned : t.assignment = (g.task? t.id).bind Task.assignment
  placed : ∀ id, c.progress.phase? id = some .submitted ∨ c.progress.phase? id = some .completed →
    ∃ t a, c.progress.task? id = some t ∧ t.assignment = some a ∧
      (t.job, a.unit) ∈ answers.flatMap submissions

omit [Policy σ τ] in
lemma Stopped.atStart {answers : List (Array (Action τ))} {e : LinkError} (h : Stopped g c)
    (hn : Noted g p₀ (answers.flatMap submissions) c) (he : c.error? = some (.link e)) :
    StoppedAtStart g p₀ c answers e := by
  obtain ⟨hd, hp, _⟩ := h.link e he
  obtain ⟨hi, hq⟩ := hn.idle (by rw [hp]; rfl)
  exact ⟨hd, hp, List.flatMap_eq_nil_iff.mp hq, hi⟩

omit [Policy σ τ] in
lemma Faithful.closed (h : Faithful g c) (hs : c.progress.started = true) : g.Closed := by
  intro p k hk
  have ha := h.alike hs
  rw [← ha.children] at hk
  rw [← ha.contains, ← ha.contains]
  exact h.sound.closed p k hk

lemma stoppedAt_of_handle {answers : List (Array (Action τ))} {e : PolicyError}
    (hp : ∀ (p q : σ) (t : Task τ) (e : PolicyError),
      Policy.choose p t = (.error e, q) → Policy.loads τ q = Policy.loads τ p)
    (hf : Faithful g c) (hn : Noted g p₀ (answers.flatMap submissions) (c.handle time event).1)
    (hc : c.error? = none) (he : (c.handle time event).1.error? = some (.policy e)) :
    ∃ b t, Within c time event b ∧ StoppedAt g b.1 (c.handle time event).1 answers t e := by
  rcases (within_handle c time event).halting hf hc he with ho | ⟨b, t, e, hw, _, hb, ht, hx, hs⟩
  · generalize c.handle time event = s at ho he
    cases ho <;> simp_all
  · cases hb
    have hf' : Faithful g (c.handle time event).1 := faithful_handle hf
    have hk : (c.handle time event).1.progress = b.1.progress := congrArg (fun s => s.1.progress) hs
    rw [← hk] at ht
    obtain ⟨hr, hph, hta⟩ := hf'.sound.of_peek? ht
    have hu : g.task? t.id = some t := (hn.untouched t.id (.inr hph)).symm.trans hta
    exact ⟨b, t, hw, g.danglingLink?_eq_none_iff.mpr (hf'.closed (hf'.started hph)), hx, hk,
      hp _ _ t e hx, hr, hph, hta, hu, by rw [hu, Option.bind_some], hn.placed⟩

/-- A fatal error is final, and until then nothing was done that was not told to the cluster. -/
theorem fatal_error_halts (g : Workflow τ) (policy : σ)
    (hp : ∀ (p q : σ) (t : Task τ) (e : PolicyError),
      Policy.choose p t = (.error e, q) → Policy.loads τ q = Policy.loads τ p)
    (events : List (τ × Event τ)) :
    let c := ((ofWorkflow g policy).hearAll events).1
    let answers := ((ofWorkflow g policy).hearAll events).2
    (c.finished = true → c.error? = none) ∧
      (c.error? ≠ none → ∀ more, ∃ later,
        (ofWorkflow g policy).hearAll (events ++ more) = (c, answers ++ later) ∧
          List.Forall₂ (fun x answer => forwards answer = [x.2] ∧ submissions answer = []) more later) ∧
      ∀ time event fault, c.error? = none → (c.handle time event).1.error? = some fault →
        (∃ e, fault = .link e ∧
          StoppedAtStart g policy (c.handle time event).1 (answers ++ [(c.handle time event).2]) e) ∨
        ∃ e b t, fault = .policy e ∧ Within c time event b ∧
          StoppedAt g b.1 (c.handle time event).1 (answers ++ [(c.handle time event).2]) t e := by
  obtain ⟨hf, hr⟩ := settled_hearAll g policy events
  obtain ⟨hs, hn⟩ := noted_hearAll g policy events
  refine ⟨fun hd => ?_, fun he more => ?_, fun time event fault hc he => ?_⟩
  · by_contra he
    have hi := hs.isFinished hf he
    rw [← hr.finished, hd] at hi
    cases hi
  · obtain ⟨hc, hl⟩ := hearAll_of_halted (Option.isSome_iff_ne_none.mpr he) more
    exact ⟨_, by rw [hearAll_append_list, hc], hl⟩
  · have hn' := noted_handle time event hf hn
    rw [← List.flatMap_singleton submissions, ← List.flatMap_append] at hn'
    cases fault with
    | link e => exact .inl ⟨e, rfl, ((within_handle _ time event).stopped hf hs).atStart hn' he⟩
    | policy e =>
      obtain ⟨b, t, hb⟩ := stoppedAt_of_handle hp hf hn' hc he
      exact .inr ⟨e, b, t, rfl, hb⟩

structure Allowance where
  left : ℕ
  load : ℕ := 0

instance (τ : Type) : Policy Allowance τ where
  choose p _ :=
    match p.left with
    | 0 => (.error .noUnits, p)
    | n + 1 => (.ok 0, ⟨n, p.load + 1⟩)
  release p _ := (⟨p.left, p.load - 1⟩, none)
  loads p := #[p.load]
  size _ := 1

lemma Allowance.loads_of_choose_error (p q : Allowance) (t : Task τ) (e : PolicyError)
    (h : Policy.choose p t = (.error e, q)) : Policy.loads τ q = Policy.loads τ p := by
  obtain ⟨n, l⟩ := p
  cases n <;> cases h
  rfl

theorem fatal_error_halts_allowance :
    let task (id : TaskId) : Task Rat := .ofCost id "" 0 (.sequential 1 1 1)
    let g := (Workflow.empty.insertTask (task 4)).insertTask (task 3)
    let s := (ofWorkflow g (Allowance.mk 1 0)).handle 0 .ready
    submissions s.2 = [((task 4).job, 0)] ∧ s.1.loads = #[1] ∧
      ∃ e b t, t.id = 3 ∧ t.assignment = none ∧ StoppedAt g b s.1 [s.2] t e := by
  intro task g s
  have he : s.1.error? = some (.policy .noUnits) := by decide +kernel
  have hs : submissions s.2 = [((task 4).job, 0)] := by decide +kernel
  have hi : s.1.progress.ready.toList = [3] := by decide +kernel
  obtain ⟨_, _, h⟩ := fatal_error_halts g (Allowance.mk 1 0) Allowance.loads_of_choose_error []
  refine ⟨hs, by decide +kernel, ?_⟩
  rcases h 0 .ready _ rfl he with ⟨e, hl, _⟩ | ⟨e, b, t, _, _, ht⟩
  · cases hl
  · replace ht : StoppedAt g b.1 s.1 [s.2] t e := ht
    obtain ⟨rest, hr⟩ := ht.front
    have hk : t.id = 3 := (List.cons.inj (hi.symm.trans hr)).1.symm
    refine ⟨e, b.1, t, hk, ?_, ht⟩
    rw [ht.unassigned, hk]
    decide +kernel

/-- A workflow whose tasks were placed before brings their assignments with it: a scheduler stops in front of a task
that has one. -/
theorem assignment_of_used_workflow :
    let g : Workflow Rat := Workflow.empty.insertTask (.ofCost 3 "" 0 (.sequential 1 1 1))
    let used := ((ofWorkflow g (Allowance.mk 1 0)).handle 0 .ready).1.progress.workflow
    let c := ((ofWorkflow used (Allowance.mk 0 0)).handle 0 .ready).1
    (∀ (p q : Allowance) (t : Task Rat) (e : PolicyError),
      Policy.choose p t = (.error e, q) → Policy.loads Rat q = Policy.loads Rat p) ∧
    c.error? = some (.policy .noUnits) ∧ c.progress.ready.toList = [3] ∧ c.progress.phase? 3 = some .ready ∧
      (c.progress.task? 3).bind Task.assignment = some ⟨0, 0⟩ := by
  intro g used c
  exact ⟨Allowance.loads_of_choose_error, by decide +kernel, by decide +kernel, by decide +kernel, by decide +kernel⟩

end Scheduler

end Dispatch
