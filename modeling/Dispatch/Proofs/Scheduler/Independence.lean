import Dispatch.Proofs.Placement
import Dispatch.Proofs.Scheduler.Halting

namespace Dispatch

def Task.unassigned {τ : Type} (t : Task τ) : Task τ := { t with assignment := none }

namespace Progress

variable {τ : Type} {r r' p : Progress τ} {id : TaskId}

structure Twin (r r' : Progress τ) : Prop where
  root : r'.workflow.root? = r.workflow.root?
  links : r'.workflow.links = r.workflow.links
  keys : r'.workflow.tasks.keys = r.workflow.tasks.keys
  task : ∀ id, (r'.task? id).map Task.unassigned = (r.task? id).map Task.unassigned
  status : r'.status = r.status
  ready : r'.ready = r.ready
  submitted : r'.submitted = r.submitted
  completed : r'.completed = r.completed
  started : r'.started = r.started

namespace Twin

lemma refl (r : Progress τ) : r.Twin r := ⟨rfl, rfl, rfl, fun _ => rfl, rfl, rfl, rfl, rfl, rfl⟩

variable (h : r.Twin r')

include h

lemma start (g : Workflow τ) : r'.start g = r.start g := by
  rw [Progress.start, Progress.start, h.started]

lemma phase? (id : TaskId) : r'.phase? id = r.phase? id := by
  rw [Progress.phase?, h.status, Progress.phase?]

lemma readySize : r'.readySize = r.readySize := by
  rw [Progress.readySize, h.ready, Progress.readySize]

lemma isFinished : r'.isFinished = r.isFinished := by
  rw [Progress.isFinished, h.started, h.completed, Workflow.size, Table.size, h.keys]
  rfl

lemma peek? : (r'.peek?).map Task.unassigned = (r.peek?).map Task.unassigned := by
  rw [Progress.peek?, Progress.peek?, h.ready]
  cases r.ready.head? with
  | none => rfl
  | some id => exact h.task id

lemma next? (hn : r.next? = some (id, p)) : ∃ p', r'.next? = some (id, p') ∧ p.Twin p' := by
  obtain ⟨⟨_, q⟩, hq, he⟩ := Option.map_eq_some_iff.mp hn
  cases he
  refine ⟨{ r'.setPhase id .submitted with ready := q, submitted := r'.submitted + 1 }, ?_, ?_⟩
  · rw [Progress.next?, h.ready, hq]
    rfl
  · refine ⟨h.root, h.links, h.keys, h.task, ?_, rfl, ?_, h.completed, h.started⟩
    · rw [setPhase, h.status]
      rfl
    · rw [h.submitted]

lemma assign (id : TaskId) (a a' : Assignment τ) : (r.assign id a).Twin (r'.assign id a') where
  root := h.root
  links := h.links
  keys := h.keys
  task k := by
    rw [task?_assign, task?_assign]
    split
    · rw [Option.map_map, Option.map_map]
      exact h.task id
    · exact h.task k
  status := h.status
  ready := h.ready
  submitted := h.submitted
  completed := h.completed
  started := h.started

lemma finish (id : TaskId) : (r.finish id).1.Twin (r'.finish id).1 ∧ (r'.finish id).2 = (r.finish id).2 := by
  have hs : (r'.setPhase id .completed).status = (r.setPhase id .completed).status := by
    rw [setPhase, h.status]
    rfl
  have hc : r'.workflow.children id = r.workflow.children id := by
    rw [Workflow.children, h.links]
    rfl
  have hr : (r'.finish id).2 = (r.finish id).2 := by
    rw [Progress.finish, Progress.finish, hc, hs]
  refine ⟨⟨h.root, h.links, h.keys, fun k => ?_, ?_, ?_, ?_, ?_, h.started⟩, hr⟩
  · rw [task?_finish, task?_finish]
    split
    · have ht := congrArg (Option.map fun t : Task τ => { t with done := true }) (h.task id)
      rw [Option.map_map, Option.map_map] at ht ⊢
      exact ht
    · exact h.task k
  · rw [Progress.finish, Progress.finish, hc, hs]
  · have hq : (r'.finish id).1.ready = (r'.finish id).2.foldl (·.enqueue ·) r'.ready := rfl
    rw [hq, hr, h.ready]
    rfl
  · exact congrArg (· - 1) h.submitted
  · exact congrArg (· + 1) h.completed

lemma complete (id : TaskId) :
    (r.complete id).1.Twin (r'.complete id).1 ∧ (r'.complete id).2 = (r.complete id).2 := by
  rw [Progress.complete, Progress.complete, h.phase?]
  split
  · exact ⟨h, rfl⟩
  · obtain ⟨ht, hr⟩ := h.finish id
    exact ⟨ht, congrArg Completion.effective hr⟩
  · exact ⟨h, rfl⟩
  · exact ⟨h, rfl⟩

end Twin

end Progress

inductive Policy.Reaches {σ : Type} (τ : Type) [Policy σ τ] (p : σ) : σ → Prop
  | refl : Reaches τ p p
  | choose {q : σ} (t : Task τ) : Reaches τ p q → Reaches τ p (Policy.choose q t).2
  | release {q : σ} (u : UnitId) : Reaches τ p q → Reaches τ p (Policy.release τ q u).1

def Policy.Unfailing {σ : Type} (τ : Type) [Policy σ τ] (p : σ) : Prop :=
  ∀ q, Policy.Reaches τ p q → ∀ t : Task τ, ∃ u, (Policy.choose q t).1 = .ok u

namespace Policy.Unfailing

variable {σ τ : Type} [Policy σ τ] {p q : σ}

lemma of_reaches (h : Unfailing τ p) (hq : Reaches τ p q) : Unfailing τ q := by
  intro s hs t
  refine h s ?_ t
  induction hs with
  | refl => exact hq
  | choose t _ ih => exact .choose t ih
  | release u _ ih => exact .release u ih

lemma choose (h : Unfailing τ p) (t : Task τ) :
    ∃ u q, Policy.choose p t = (.ok u, q) ∧ Unfailing τ q := by
  obtain ⟨u, hu⟩ := h p .refl t
  exact ⟨u, _, Prod.ext hu rfl, h.of_reaches (.choose t .refl)⟩

lemma freeUnit (h : Unfailing τ p) (u? : Option UnitId) :
    Unfailing τ (Scheduler.freeUnit (τ := τ) p u?).1 := by
  cases u? with
  | none => exact h
  | some u => exact h.of_reaches (.release u .refl)

end Policy.Unfailing

lemma NamedPolicy.unfailing {p : NamedPolicy} (τ : Type) (hp : p.InTurn) (hs : 0 < p.table.size) :
    Policy.Unfailing τ p := by
  have reached {q : NamedPolicy} (hq : Policy.Reaches τ p q) : q.InTurn ∧ 0 < q.table.size := by
    induction hq with
    | refl => exact ⟨hp, hs⟩
    | @choose q t _ ih =>
      rcases choose_cases ih.1 t with ⟨hz, _⟩ | ⟨u, r, hc, _, ht, hr⟩
      · exact absurd hz ih.2.ne'
      · rw [hc]
        exact ⟨hr, by rw [ht, Loads.size_charge]; exact ih.2⟩
    | @release q u _ ih =>
      obtain ⟨hr, ht⟩ := inTurn_release (τ := τ) ih.1 u
      exact ⟨hr, ht ▸ ih.2⟩
  intro q hq t
  obtain ⟨hi, hz⟩ := reached hq
  rcases choose_cases hi t with ⟨hn, _⟩ | ⟨u, r, hc, _⟩
  · exact absurd hn hz.ne'
  · exact ⟨u, congrArg Prod.fst hc⟩

def Workflow.atOnce {τ : Type} (g : Workflow τ) : List TaskId :=
  match Progress.empty.start g with
  | .ok r => r.ready.toList
  | .error _ => []

namespace Scheduler

variable {σ σ' τ : Type} [Policy σ τ] [Policy σ' τ] {g : Workflow τ} {c : Scheduler σ τ}
  {c' : Scheduler σ' τ} {time time' : τ} {acts acts' : Array (Action τ)}

def jobs (answer : Array (Action τ)) : List (Job τ) := (submissions answer).map Prod.fst

omit [Policy σ τ] [Policy σ' τ] in
@[simp] lemma jobs_note (n : Notice τ) : jobs (acts.push (.note n)) = jobs acts := by
  rw [jobs, submissions_note, jobs]

omit [Policy σ τ] [Policy σ' τ] in
@[simp] lemma jobs_submit (d : Job τ) (u : UnitId) : jobs (acts.push (.submit d u)) = jobs acts ++ [d] := by
  rw [jobs, submissions_submit, List.map_append, jobs]
  rfl

omit [Policy σ τ] [Policy σ' τ] in
@[simp] lemma jobs_notes {α : Type} (o : Option α) (f : α → Notice τ) :
    jobs (acts ++ (o.map fun x => .note (f x)).toArray) = jobs acts := by
  cases o with
  | none => simp
  | some x => exact jobs_note (f x)

structure Abreast (s : Scheduler σ τ × Array (Action τ)) (s' : Scheduler σ' τ × Array (Action τ)) :
    Prop where
  workflow : s'.1.workflow? = s.1.workflow?
  progress : s.1.progress.Twin s'.1.progress
  finished : s'.1.finished = s.1.finished
  error : s'.1.error? = s.1.error?
  policy : Policy.Unfailing τ s.1.policy
  policy' : Policy.Unfailing τ s'.1.policy
  jobs : jobs s'.2 = jobs s.2

namespace Abreast

lemma submitUpTo (n : ℕ) (h : Abreast (c, acts) (c', acts')) :
    Abreast (submitUpTo time n c acts) (submitUpTo time' n c' acts') := by
  induction n generalizing c c' acts acts' with
  | zero => exact h
  | succ n ih =>
    have hp := h.progress.peek?
    cases ht : c.progress.peek? with
    | none =>
      rw [ht, Option.map_none, Option.map_eq_none_iff] at hp
      rw [submitUpTo_of_none ht, submitUpTo_of_none hp]
      exact h
    | some t =>
      rw [ht, Option.map_some, Option.map_eq_some_iff] at hp
      obtain ⟨t', ht', hb⟩ := hp
      have hj : t'.job = t.job := (congrArg Task.job hb :)
      have hi : t'.id = t.id := (congrArg Task.id hb :)
      obtain ⟨u, q, hu, hq⟩ := h.policy.choose t
      obtain ⟨u', q', hu', hq'⟩ := h.policy'.choose t'
      obtain ⟨p, hn⟩ := Progress.exists_next? ht
      obtain ⟨p', hn', hp⟩ := h.progress.next? hn
      rw [submitUpTo_of_ok ht hu hn, submitUpTo_of_ok ht' hu' (hi ▸ hn')]
      refine ih ⟨h.workflow, ?_, h.finished, h.error, hq, hq', ?_⟩
      · rw [hi]
        exact hp.assign t.id _ _
      · simp [h.jobs, hj]

lemma noteFinish (h : Abreast (c, acts) (c', acts')) :
    Abreast (c.noteFinish time acts) (c'.noteFinish time' acts') := by
  rw [Scheduler.noteFinish, Scheduler.noteFinish, h.finished, h.progress.isFinished]
  split
  · exact ⟨h.workflow, h.progress, rfl, h.error, h.policy, h.policy', by simp [h.jobs]⟩
  · exact h

lemma advance (h : Abreast (c, acts) (c', acts')) :
    Abreast (c.advance time acts) (c'.advance time' acts') := by
  rw [Scheduler.advance, Scheduler.advance, h.progress.readySize]
  exact (h.submitUpTo _).noteFinish

lemma halted (h : Abreast (c, acts) (c', acts')) : c'.halted = c.halted := by
  rw [Scheduler.halted, h.error, Scheduler.halted]

lemma whenReady (h : Abreast (c, acts) (c', acts')) :
    Abreast (c.whenReady time acts) (c'.whenReady time' acts') := by
  cases hh : c.halted with
  | true =>
    rw [whenReady_of_halted hh, whenReady_of_halted (h.halted.trans hh)]
    exact h
  | false =>
    have hh' := h.halted.trans hh
    cases hw : c.workflow? with
    | none =>
      rw [whenReady_of_none hh hw, whenReady_of_none hh' (h.workflow.trans hw)]
      exact h.advance
    | some g =>
      have hs := h.progress.start g
      cases hp : c.progress.start g with
      | error e =>
        rw [whenReady_of_error hh hw hp, whenReady_of_error hh' (h.workflow.trans hw) (hs.trans hp)]
        exact ⟨rfl, h.progress, h.finished, rfl, h.policy, h.policy', by simp [h.jobs]⟩
      | ok p =>
        rw [whenReady_of_ok hh hw hp, whenReady_of_ok hh' (h.workflow.trans hw) (hs.trans hp)]
        apply advance
        exact ⟨rfl, .refl p, h.finished, h.error, h.policy, h.policy', by simp [h.jobs]⟩

lemma whenCompleted (h : Abreast (c, acts) (c', acts')) (id : TaskId) :
    Abreast (c.whenCompleted time id acts) (c'.whenCompleted time' id acts') := by
  have hi : (c'.halted || !c'.progress.started) = (c.halted || !c.progress.started) := by
    rw [h.halted, h.progress.started]
  cases hh : c.halted || !c.progress.started with
  | true =>
    rw [whenCompleted_of_idle hh, whenCompleted_of_idle (hi.trans hh)]
    exact ⟨h.workflow, h.progress, h.finished, h.error, h.policy, h.policy', by simp [h.jobs]⟩
  | false =>
    rw [whenCompleted_of_running hh, whenCompleted_of_running (hi.trans hh)]
    obtain ⟨hp, hc⟩ := h.progress.complete id
    apply advance
    refine ⟨h.workflow, hp, h.finished, h.error, h.policy.freeUnit _, h.policy'.freeUnit _, ?_⟩
    rw [jobs_note, jobs_notes, jobs_notes, jobs_note, jobs_notes, jobs_notes]
    exact h.jobs

lemma handle (h : Abreast (c, #[]) (c', #[])) (event : Event τ) :
    Abreast (c.handle time event) (c'.handle time' event) := by
  have ho : Abreast (c, #[.forward event]) (c', #[.forward event]) :=
    ⟨h.workflow, h.progress, h.finished, h.error, h.policy, h.policy', rfl⟩
  cases event with
  | provisioned u => exact ho
  | arrived d u => exact ho
  | ready => exact ho.whenReady
  | completed id u => exact ho.whenCompleted id

lemma hearAll {events events' : List (τ × Event τ)} (h : Abreast (c, #[]) (c', #[]))
    (he : events'.map Prod.snd = events.map Prod.snd) :
    Abreast ((c.hearAll events).1, #[]) ((c'.hearAll events').1, #[]) ∧
      (c'.hearAll events').2.map Scheduler.jobs = (c.hearAll events).2.map Scheduler.jobs := by
  induction events generalizing c c' events' with
  | nil =>
    rw [List.map_eq_nil_iff.mp he]
    exact ⟨h, rfl⟩
  | cons x events ih =>
    obtain ⟨x', events', rfl, hx, he⟩ := List.map_eq_cons_iff.mp he
    have hh : Abreast (c.handle x.1 x.2) (c'.handle x'.1 x.2) := h.handle x.2
    obtain ⟨ha, hj⟩ := ih ⟨hh.workflow, hh.progress, hh.finished, hh.error, hh.policy, hh.policy', rfl⟩ he
    rw [hearAll_cons, hearAll_cons, hx]
    exact ⟨ha, congrArg₂ List.cons hh.jobs hj⟩

end Abreast

def releasedBy (c : Scheduler σ τ) : Event τ → List TaskId
  | .completed id _ => if c.halted then [] else (c.progress.complete id).2.released.toList
  | _ => []

def releases (c : Scheduler σ τ) : List (τ × Event τ) → List TaskId
  | [] => []
  | (time, event) :: events => c.releasedBy event ++ (c.handle time event).1.releases events

lemma taskIds_submitUpTo (n : ℕ) (hs : c.progress.Sound) (hu : Policy.Unfailing τ c.policy) :
    (jobs (submitUpTo time n c acts).2).map Job.taskId =
      (jobs acts).map Job.taskId ++ c.progress.ready.toList.take n := by
  induction n generalizing c acts with
  | zero => simp [submitUpTo]
  | succ n ih =>
    cases ht : c.progress.peek? with
    | none => simp [submitUpTo_of_none ht, hs.peek?_eq_none_iff.mp ht]
    | some t =>
      obtain ⟨u, q, hc, hq⟩ := hu.choose t
      obtain ⟨p, hn⟩ := Progress.exists_next? ht
      have hk := Progress.taken_of_next? hn
      rw [submitUpTo_of_ok ht hc hn, ih ((hs.taken hk).assign t.id _) hq, hk.ready]
      simp [Task.job, Progress.assign]

lemma taskIds_advance (hs : c.progress.Sound) (hu : Policy.Unfailing τ c.policy) :
    (jobs (c.advance time acts).2).map Job.taskId =
      (jobs acts).map Job.taskId ++ c.progress.ready.toList := by
  have hn (c : Scheduler σ τ) (acts : Array (Action τ)) : jobs (c.noteFinish time acts).2 = jobs acts := by
    rw [noteFinish]
    split
    · exact jobs_note _
    · rfl
  rw [advance, hn, taskIds_submitUpTo _ hs hu, Progress.readySize, ← Queue.length_toList, List.take_length]

lemma taskIds_handle {event : Event τ} (hf : Faithful g c) (hr : AtRest c)
    (hu : Policy.Unfailing τ c.policy) (hw : c.workflow? = none) :
    (jobs (c.handle time event).2).map Job.taskId = c.releasedBy event := by
  cases event with
  | provisioned u => rfl
  | arrived d u => rfl
  | ready =>
    rw [handle]
    cases hh : c.halted with
    | true =>
      rw [whenReady_of_halted hh]
      rfl
    | false =>
      rw [whenReady_of_none hh hw, taskIds_advance hf.sound hu, hr.ready (halted_eq_false_iff.mp hh)]
      rfl
  | completed id u =>
    rw [handle, releasedBy]
    cases hh : c.halted with
    | true =>
      rw [whenCompleted_of_idle (by rw [hh]; rfl)]
      rfl
    | false =>
      have he := halted_eq_false_iff.mp hh
      rw [whenCompleted_of_running (by rw [hh, hf.begun hw he]; rfl),
        taskIds_advance (hf.sound.complete id) (hu.freeUnit _), jobs_note, jobs_notes, jobs_notes]
      by_cases hp : c.progress.phase? id = some .submitted
      · rw [Progress.complete_of_submitted hp, Progress.finish_ready, hr.ready he,
          ← Progress.finish_released]
        rfl
      · obtain ⟨reason, hc⟩ := Progress.complete_of_ne hp
        rw [hc, hr.ready he]
        rfl

lemma unfailing_handle (hu : Policy.Unfailing τ c.policy) (time : τ) (event : Event τ) :
    Policy.Unfailing τ (c.handle time event).1.policy := by
  have hc : Abreast (c, #[]) (c, #[]) := ⟨rfl, .refl _, rfl, rfl, hu, hu, rfl⟩
  have hh : Abreast (c.handle time event) (c.handle time event) := hc.handle event
  exact hh.policy

lemma taskIds_hearAll {events : List (τ × Event τ)} (hf : Faithful g c) (hr : AtRest c)
    (hu : Policy.Unfailing τ c.policy) (hw : c.workflow? = none) :
    ((c.hearAll events).2.flatMap jobs).map Job.taskId = c.releases events := by
  induction events generalizing c with
  | nil => rfl
  | cons x events ih =>
    obtain ⟨time, event⟩ := x
    have hu' := unfailing_handle hu time event
    rw [hearAll_cons, List.flatMap_cons, List.map_append, taskIds_handle hf hr hu hw, releases,
      ih (faithful_handle hf) (atRest_handle hf hr) hu' ((within_handle c time event).workflow?_of_none hw)]

lemma hearAll_of_unready {events : List (τ × Event τ)} {policy : σ}
    (h : .ready ∉ events.map Prod.snd) :
    ((ofWorkflow g policy).hearAll events).1 = ofWorkflow g policy ∧
      ((ofWorkflow g policy).hearAll events).2.flatMap jobs = [] := by
  induction events with
  | nil => exact ⟨rfl, rfl⟩
  | cons x events ih =>
    obtain ⟨time, event⟩ := x
    rw [List.map_cons, List.mem_cons, not_or] at h
    have hx : ((ofWorkflow g policy).handle time event).1 = ofWorkflow g policy ∧
        jobs ((ofWorkflow g policy).handle time event).2 = [] := by
      cases event with
      | ready => exact absurd rfl h.1
      | _ => exact ⟨rfl, rfl⟩
    rw [hearAll_cons, List.flatMap_cons, hx.1, hx.2]
    exact ih h.2

lemma taskIds_ofWorkflow {policy : σ} (hu : Policy.Unfailing τ policy) (g : Workflow τ) (time : τ) :
    (jobs ((ofWorkflow g policy).handle time .ready).2).map Job.taskId = g.atOnce := by
  rw [handle, Workflow.atOnce]
  cases hs : Progress.empty.start g with
  | error e =>
    rw [whenReady_of_error rfl rfl hs]
    rfl
  | ok r =>
    obtain ⟨_, hg, rfl⟩ := Progress.start_eq_ok hs
    rw [whenReady_of_ok rfl rfl hs, taskIds_advance (Progress.sound_begun hg) hu]
    rfl

/-- Where no policy fails, which tasks are submitted when and in which order does not depend on the policy:
first those that are ready at once, then those that each completion releases. -/
theorem submissions_independent (g : Workflow τ) (p : σ) (p' : σ') (hp : Policy.Unfailing τ p)
    (hp' : Policy.Unfailing τ p') (events events' : List (τ × Event τ))
    (he : events'.map Prod.snd = events.map Prod.snd) :
    let c := ((ofWorkflow g p).hearAll events).1
    let c' := ((ofWorkflow g p').hearAll events').1
    let answers := ((ofWorkflow g p).hearAll events).2
    let answers' := ((ofWorkflow g p').hearAll events').2
    answers'.map jobs = answers.map jobs ∧ c.progress.Twin c'.progress ∧ c'.finished = c.finished ∧
      c'.error? = c.error? ∧ (.ready ∉ events.map Prod.snd → answers.flatMap jobs = []) ∧
      (∀ before time later, events = before ++ (time, .ready) :: later →
        .ready ∉ before.map Prod.snd → (answers.flatMap jobs).map Job.taskId =
          g.atOnce ++ ((ofWorkflow g p).hearAll (before ++ [(time, .ready)])).1.releases later) ∧
      (c.error? = none → ∀ id, c.progress.phase? id ≠ some .ready) := by
  have hi : Abreast (ofWorkflow g p, #[]) (ofWorkflow g p', #[]) :=
    ⟨rfl, .refl _, rfl, rfl, hp, hp', rfl⟩
  obtain ⟨ha, hj⟩ := hi.hearAll he
  obtain ⟨hf, hr⟩ := settled_hearAll g p events
  refine ⟨hj, ha.progress, ha.finished, ha.error, fun h => (hearAll_of_unready h).2, ?_, fun hn id => ?_⟩
  · rintro before time later rfl hb
    obtain ⟨hc, hq⟩ := hearAll_of_unready (g := g) (σ := σ) hb
    have hf := faithful_ofWorkflow g p
    have hu : Policy.Unfailing τ ((ofWorkflow g p).handle time .ready).1.policy :=
      unfailing_handle hp time .ready
    have hw := (within_handle (ofWorkflow g p) time .ready).workflow?_of_ready hf (stopped_of_error? rfl)
    rw [hearAll_append_list, hearAll_append, hc, hearAll_cons, List.flatMap_append, hq, List.nil_append,
      List.flatMap_cons, List.map_append, taskIds_ofWorkflow hp, taskIds_hearAll (faithful_handle hf)
      (atRest_handle hf (atRest_ofWorkflow g p)) hu hw]
  · rw [ne_eq, ← hf.sound.mem_ready, hr.ready hn]
    exact List.not_mem_nil

theorem submissions_independent_knot :
    let events : List (Rat × Event Rat) := [(0, .ready), (2, .completed 0 1), (5, .completed 1 0)]
    let c := (ofWorkflow Workflow.knot (.leastLoaded ⟨.ofSize 2⟩ : NamedPolicy)).hearAll events
    let c' := (ofWorkflow Workflow.knot (.roundRobin ⟨.ofSize 3, 0⟩ : NamedPolicy)).hearAll events
    c'.2.map jobs = c.2.map jobs ∧ (c.2.flatMap jobs).map Job.taskId = [0, 1] := by
  intro events c c'
  have hp : Policy.Unfailing Rat (.leastLoaded ⟨.ofSize 2⟩ : NamedPolicy) :=
    NamedPolicy.unfailing Rat trivial (by decide)
  have hp' : Policy.Unfailing Rat (.roundRobin ⟨.ofSize 3, 0⟩ : NamedPolicy) :=
    NamedPolicy.unfailing Rat (fun _ => by decide) (by decide)
  obtain ⟨hj, _, _, _, _, ho, _⟩ := submissions_independent Workflow.knot _ _ hp hp' events events rfl
  exact ⟨hj, (ho [] 0 _ rfl (by simp)).trans (by decide +kernel)⟩

end Scheduler

end Dispatch
