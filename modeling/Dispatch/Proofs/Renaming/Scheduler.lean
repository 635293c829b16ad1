import Dispatch.Proofs.Renaming.Progress
import Dispatch.Proofs.Scheduler.Moves

namespace Dispatch

section rename

variable {τ : Type} (ρ : TaskId → TaskId)

def Job.rename (d : Job τ) : Job τ := { d with taskId := ρ d.taskId }

def Event.rename : Event τ → Event τ
  | .provisioned u => .provisioned u
  | .ready => .ready
  | .arrived d u => .arrived (d.rename ρ) u
  | .completed id u => .completed (ρ id) u

def Fault.rename : Fault → Fault
  | .link e => .link (e.rename ρ)
  | .policy e => .policy e

def SchedulerReport.rename : SchedulerReport → SchedulerReport
  | .malformedWorkflow e => .malformedWorkflow (e.rename ρ)
  | .startedWorkflow tasks units => .startedWorkflow tasks units
  | .ignoredCompletion id => .ignoredCompletion (ρ id)
  | .completedTask id n => .completedTask (ρ id) n
  | .placingFailed id e => .placingFailed (ρ id) e
  | .submittedTask id u => .submittedTask (ρ id) u
  | .finishedWorkflow => .finishedWorkflow
  | .unfinishedWorkflow counts => .unfinishedWorkflow counts

def ClusterReport.rename : ClusterReport τ → ClusterReport τ
  | .delivered event => .delivered (event.rename ρ)
  | .provisioned u ready total => .provisioned u ready total
  | .allReady total => .allReady total
  | .startedTask id u duration => .startedTask (ρ id) u duration
  | .unexpectedCompletion id => .unexpectedCompletion (ρ id)
  | .unknownUnit id u => .unknownUnit (ρ id) u

def Notice.rename : Notice τ → Notice τ
  | .cluster time report => .cluster time (report.rename ρ)
  | .scheduler time report => .scheduler time (report.rename ρ)
  | .progress id reason => .progress (ρ id) reason
  | .policy fault => .policy fault

def Action.rename : Action τ → Action τ
  | .forward event => .forward (event.rename ρ)
  | .submit d u => .submit (d.rename ρ) u
  | .note n => .note (n.rename ρ)

end rename

lemma NamedPolicy.choose_rename {τ : Type} (ρ : TaskId → TaskId) (p : NamedPolicy) (t : Task τ) :
    Policy.choose p (t.rename ρ) = Policy.choose p t := by cases p <;> rfl

namespace Scheduler

variable {τ : Type} {ρ : TaskId → TaskId} {c c' : Scheduler NamedPolicy τ} {time : τ}
  {acts acts' : Array (Action τ)} {g g' : Workflow τ}

structure Renamed (ρ : TaskId → TaskId) (c c' : Scheduler NamedPolicy τ) : Prop where
  workflow : Option.Rel (Workflow.Renamed ρ) c.workflow? c'.workflow?
  progress : c.progress.Renamed ρ c'.progress
  policy : c'.policy = c.policy
  finished : c'.finished = c.finished
  error : c'.error? = c.error?.map (Fault.rename ρ)

structure Echoes (ρ : TaskId → TaskId) (s s' : Scheduler NamedPolicy τ × Array (Action τ)) : Prop where
  scheduler : Renamed ρ s.1 s'.1
  answer : s'.2 = s.2.map (Action.rename ρ)

lemma renamed_ofWorkflow (hg : g.Renamed ρ g') (policy : NamedPolicy) :
    Renamed ρ (ofWorkflow g policy) (ofWorkflow g' policy) := ⟨.some hg, .empty, rfl, rfl, rfl⟩

namespace Renamed

variable (h : Renamed ρ c c')

include h

lemma halted : c'.halted = c.halted := by
  rw [Scheduler.halted, h.error, Option.isSome_map, Scheduler.halted]

lemma unitFor? (id : TaskId) : c'.unitFor? (ρ id) = c.unitFor? id := by
  rw [Scheduler.unitFor?, h.progress.task?, Scheduler.unitFor?]
  cases c.progress.task? id <;> rfl

lemma unitToFree? (id : TaskId) : c'.unitToFree? (ρ id) = c.unitToFree? id := by
  rw [Scheduler.unitToFree?, h.progress.phase?, h.unitFor?, Scheduler.unitToFree?]

end Renamed

namespace Echoes

lemma note (h : Renamed ρ c c') (n : Notice τ) : Echoes ρ (c, acts.push (.note n))
    (c', (acts.map (Action.rename ρ)).push (.note (n.rename ρ))) := by
  refine ⟨h, ?_⟩
  rw [Array.map_push]
  rfl

lemma submitUpTo (hρ : Function.Injective ρ) (n : ℕ) (h : Echoes ρ (c, acts) (c', acts')) :
    Echoes ρ (submitUpTo time n c acts) (submitUpTo time n c' acts') := by
  induction n generalizing c c' acts acts' with
  | zero => exact h
  | succ n ih =>
    have hs : Renamed ρ c c' := h.scheduler
    obtain rfl : acts' = acts.map (Action.rename ρ) := h.answer
    have hp := hs.progress.peek?
    cases ht : c.progress.peek? with
    | none =>
      rw [ht, Option.map_none] at hp
      rw [submitUpTo_of_none ht, submitUpTo_of_none hp]
      exact h
    | some t =>
      rw [ht, Option.map_some] at hp
      have hc : Policy.choose c'.policy (t.rename ρ) = Policy.choose c.policy t := by
        rw [hs.policy, NamedPolicy.choose_rename]
      obtain ⟨p, hn⟩ := Progress.exists_next? ht
      obtain ⟨p', hn', hk⟩ := hs.progress.next? hρ hn
      rcases hx : Policy.choose c.policy t with ⟨e | u, q⟩
      · rw [submitUpTo_of_error ht hx, submitUpTo_of_error hp (hc.trans hx)]
        refine note ?_ (.scheduler time (.placingFailed t.id e))
        exact ⟨hs.workflow, hs.progress, rfl, hs.finished, rfl⟩
      · rw [submitUpTo_of_ok ht hx hn, submitUpTo_of_ok hp (hc.trans hx) hn']
        refine ih ⟨⟨hs.workflow, hk.assign hρ t.id _, rfl, hs.finished, hs.error⟩, ?_⟩
        rw [Array.map_push, Array.map_push]
        rfl

lemma noteFinish (h : Echoes ρ (c, acts) (c', acts')) :
    Echoes ρ (c.noteFinish time acts) (c'.noteFinish time acts') := by
  have hs : Renamed ρ c c' := h.scheduler
  obtain rfl : acts' = acts.map (Action.rename ρ) := h.answer
  rw [Scheduler.noteFinish, Scheduler.noteFinish, hs.finished, hs.progress.isFinished]
  split
  · refine note ?_ (.scheduler time .finishedWorkflow)
    exact ⟨hs.workflow, hs.progress, hs.policy, rfl, hs.error⟩
  · exact h

lemma advance (hρ : Function.Injective ρ) (h : Echoes ρ (c, acts) (c', acts')) :
    Echoes ρ (c.advance time acts) (c'.advance time acts') := by
  rw [Scheduler.advance, Scheduler.advance, h.scheduler.progress.readySize]
  exact (h.submitUpTo hρ _).noteFinish

lemma whenReady (hρ : Function.Injective ρ) (h : Echoes ρ (c, acts) (c', acts')) :
    Echoes ρ (c.whenReady time acts) (c'.whenReady time acts') := by
  have hs : Renamed ρ c c' := h.scheduler
  obtain rfl : acts' = acts.map (Action.rename ρ) := h.answer
  cases hh : c.halted with
  | true =>
    rw [whenReady_of_halted hh, whenReady_of_halted (hs.halted.trans hh)]
    exact h
  | false =>
    have hh' := hs.halted.trans hh
    have hw := hs.workflow
    generalize hg : c.workflow? = w, hg' : c'.workflow? = w' at hw
    cases hw with
    | none =>
      rw [whenReady_of_none hh hg, whenReady_of_none hh' hg']
      exact h.advance hρ
    | @some g g' hw =>
      obtain ⟨he, ho⟩ := hs.progress.start hρ hw
      cases hp : c.progress.start g with
      | error e =>
        rw [whenReady_of_error hh hg hp, whenReady_of_error hh' hg' (he e hp)]
        refine note ?_ (.scheduler time (.malformedWorkflow e))
        exact ⟨.none, hs.progress, hs.policy, hs.finished, rfl⟩
      | ok p =>
        obtain ⟨p', hp', hr⟩ := ho p hp
        rw [whenReady_of_ok hh hg hp, whenReady_of_ok hh' hg' hp', hw.size, hs.policy]
        refine advance hρ (note ?_ (.scheduler time (.startedWorkflow g.size (Policy.size τ c.policy))))
        exact ⟨.none, hr, rfl, hs.finished, hs.error⟩

lemma whenCompleted (hρ : Function.Injective ρ) (h : Echoes ρ (c, acts) (c', acts')) (id : TaskId) :
    Echoes ρ (c.whenCompleted time id acts) (c'.whenCompleted time (ρ id) acts') := by
  have hs : Renamed ρ c c' := h.scheduler
  obtain rfl : acts' = acts.map (Action.rename ρ) := h.answer
  have hi : (c'.halted || !c'.progress.started) = (c.halted || !c.progress.started) := by
    rw [hs.halted, hs.progress.started]
  cases hh : c.halted || !c.progress.started with
  | true =>
    rw [whenCompleted_of_idle hh, whenCompleted_of_idle (hi.trans hh)]
    exact note hs (.scheduler time (.ignoredCompletion id))
  | false =>
    rw [whenCompleted_of_running hh, whenCompleted_of_running (hi.trans hh)]
    obtain ⟨hp, hc⟩ := hs.progress.complete hρ id
    rw [hs.unitToFree?, hs.policy, hc]
    refine advance hρ ⟨⟨hs.workflow, hp, rfl, hs.finished, hs.error⟩, ?_⟩
    rw [Array.map_push, Array.map_append, Array.map_append]
    cases (freeUnit (τ := τ) c.policy (c.unitToFree? id)).2 <;> cases (c.progress.complete id).2 <;>
      simp [Completion.rename, Completion.released, Completion.refusal?, Action.rename, Notice.rename,
        SchedulerReport.rename]

lemma handle (hρ : Function.Injective ρ) (h : Renamed ρ c c') (event : Event τ) :
    Echoes ρ (c.handle time event) (c'.handle time (event.rename ρ)) := by
  have ho : Echoes ρ (c, #[.forward event]) (c', #[.forward (event.rename ρ)]) :=
    ⟨h, by rw [Array.map_singleton]; rfl⟩
  cases event with
  | provisioned u => exact ho
  | arrived d u => exact ho
  | ready => exact ho.whenReady hρ
  | completed id u => exact ho.whenCompleted hρ id

end Echoes

end Scheduler

end Dispatch
