import Dispatch.Proofs.Totals
import Dispatch.Proofs.Trace.Expansion

namespace Dispatch.Trace

namespace Source

variable {τ : Type} {i : Source τ} {r : Reading τ} {bytes : List UInt8}

structure Unread (i : Source τ) : Prop where
  tasks : i.tasks? = none
  tally : i.tally = {}

structure Keeps (i : Source τ) (r : Reading τ) : Prop where
  tasks : i.tasks? = some r.tasks
  tally : i.tally = r.tally

variable [Time τ]

def reading (i : Source τ) (bytes : List UInt8) : Reading τ := Trace.read i.format.cost i.settings (i.format.rows bytes)

lemma workflow_fst (i : Source τ) (file? : Option (List UInt8)) :
    (i.workflow file?).1 = (i.read file?).2.1.map toWorkflow := rfl

lemma read_of_keeps (h : i.Keeps r) (file? : Option (List UInt8)) : i.read file? = (i, .ok r.tasks, #[]) := by
  simp only [read, h.tasks]

lemma read_of_gone (h : i.Unread) : i.read none = (i, .error .unreadable, #[]) := by
  simp only [read, h.tasks]

lemma read_of_found (h : i.Unread) (bytes : List UInt8) :
    (i.read (some bytes)).2 = (.ok (i.reading bytes).tasks, (i.reading bytes).warnings) ∧
      (i.read (some bytes)).1.Keeps (i.reading bytes) := by
  simp only [read, h.tasks]
  exact ⟨rfl, rfl, rfl⟩

end Source

variable {τ : Type} [Time τ]

structure Reader (τ : Type) where
  file? : Option (List UInt8)
  source : Source τ

namespace Reader

inductive Event where
  | read
  | tally
  | write (bytes : List UInt8)
  | delete

inductive Answer (τ : Type) where
  | tasks (result : Except Source.Error (Array (Task τ)))
  | tally (t : Tally)

def handle (s : Reader τ) : Event → Reader τ
  | .read => { s with source := (s.source.read s.file?).1 }
  | .tally => s
  | .write bytes => { s with file? := some bytes }
  | .delete => { s with file? := none }

def answers (s : Reader τ) : Event → List (Answer τ)
  | .read => [.tasks (s.source.read s.file?).2.1]
  | .tally => [.tally s.source.tally]
  | .write _ => []
  | .delete => []

def handleAll (s : Reader τ) (events : List Event) : Reader τ := events.foldl handle s

def allAnswers (s : Reader τ) (events : List Event) : List (Answer τ) := gathered handle answers s events

def Unopened (s : Reader τ) (events : List Event) : Prop :=
  ∀ before after, events = before ++ .read :: after → (s.handleAll before).file? = none

variable {s : Reader τ} {r : Reading τ} {event : Event} {events before after : List Event} {bytes : List UInt8}
  {a : Answer τ}

lemma unopened_nil (s : Reader τ) : s.Unopened [] := by
  intro before after h
  simp at h

lemma unopened_cons : s.Unopened (event :: events) ↔
    (event = .read → s.file? = none) ∧ (s.handle event).Unopened events := by
  constructor
  · exact fun h => ⟨fun he => h [] events (he ▸ rfl), fun before after hb => h (event :: before) after (hb ▸ rfl)⟩
  · rintro ⟨he, hs⟩ before after hb
    cases before with
    | nil => exact he (List.cons.inj hb).1
    | cons b before =>
      obtain ⟨rfl, hc⟩ := List.cons.inj hb
      exact hs before after hc

section unread

variable (h : s.source.Unread)

include h

lemma source_handle_of_unread (he : event = .read → s.file? = none) : (s.handle event).source = s.source := by
  cases event with
  | read => rw [handle, he rfl, Source.read_of_gone h]
  | tally => rfl
  | write => rfl
  | delete => rfl

lemma answers_of_unread (he : event = .read → s.file? = none) (ha : a ∈ s.answers event) :
    a = .tasks (.error .unreadable) ∨ a = .tally {} := by
  cases event with
  | read =>
    rw [answers, he rfl, Source.read_of_gone h] at ha
    exact Or.inl (List.mem_singleton.mp ha)
  | tally =>
    rw [answers, h.tally] at ha
    exact Or.inr (List.mem_singleton.mp ha)
  | write => cases ha
  | delete => cases ha

lemma source_of_unopened (hu : s.Unopened events) : (s.handleAll events).source = s.source := by
  induction events generalizing s with
  | nil => rfl
  | cons event events ih =>
    obtain ⟨he, hu⟩ := unopened_cons.mp hu
    have hs := source_handle_of_unread h he
    exact (ih (hs ▸ h) hu).trans hs

lemma answers_of_unopened (hu : s.Unopened events) :
    ∀ a ∈ s.allAnswers events, a = .tasks (.error .unreadable) ∨ a = .tally {} := by
  refine forall_mem_gathered (P := fun s events => s.source.Unread ∧ s.Unopened events) ?_ ⟨h, hu⟩
  rintro s event events ⟨h, hu⟩
  obtain ⟨he, hu⟩ := unopened_cons.mp hu
  exact ⟨fun a => answers_of_unread h he, source_handle_of_unread h he ▸ h, hu⟩

end unread

section kept

variable (h : s.source.Keeps r)

include h

lemma source_handle_of_keeps (event : Event) : (s.handle event).source = s.source := by
  cases event with
  | read => rw [handle, Source.read_of_keeps h]
  | tally => rfl
  | write => rfl
  | delete => rfl

lemma answers_of_keeps (ha : a ∈ s.answers event) : a = .tasks (.ok r.tasks) ∨ a = .tally r.tally := by
  cases event with
  | read =>
    rw [answers, Source.read_of_keeps h] at ha
    exact Or.inl (List.mem_singleton.mp ha)
  | tally =>
    rw [answers, h.tally] at ha
    exact Or.inr (List.mem_singleton.mp ha)
  | write => cases ha
  | delete => cases ha

lemma source_handleAll_of_keeps (events : List Event) : (s.handleAll events).source = s.source := by
  induction events generalizing s with
  | nil => rfl
  | cons event events ih =>
    have hs := source_handle_of_keeps h event
    exact (ih (hs ▸ h)).trans hs

lemma allAnswers_of_keeps (events : List Event) :
    ∀ a ∈ s.allAnswers events, a = .tasks (.ok r.tasks) ∨ a = .tally r.tally := by
  refine forall_mem_gathered (P := fun s _ => s.source.Keeps r) (fun s event events h => ?_) h
  exact ⟨fun a => answers_of_keeps h, source_handle_of_keeps h event ▸ h⟩

lemma workflow_of_keeps (file? : Option (List UInt8)) : (s.source.workflow file?).1 = .ok (toWorkflow r.tasks) := by
  rw [Source.workflow_fst, Source.read_of_keeps h]
  rfl

end kept

lemma opened_of_found (h : s.source.Unread) (hf : s.file? = some bytes) :
    s.answers .read = [.tasks (.ok (s.source.reading bytes).tasks)] ∧
      (s.handle .read).source.Keeps (s.source.reading bytes) := by
  obtain ⟨ha, hk⟩ := Source.read_of_found h bytes
  rw [answers, handle, hf, ha]
  exact ⟨rfl, hk⟩

lemma workflow_of_unread (h : s.source.Unread) (file? : Option (List UInt8)) :
    (s.source.workflow file?).1 = match file? with
      | some bytes => .ok (toWorkflow (s.source.reading bytes).tasks)
      | none => .error .unreadable := by
  rw [Source.workflow_fst]
  cases file? with
  | none => rw [Source.read_of_gone h]; rfl
  | some bytes => rw [(Source.read_of_found h bytes).1]; rfl

-- either the file is always gone when it is needed, or there is a first time when it is not
lemma unopened_or_exists_opening (s : Reader τ) (events : List Event) : s.Unopened events ∨
    ∃ before after bytes, events = before ++ .read :: after ∧ s.Unopened before ∧
      (s.handleAll before).file? = some bytes := by
  induction events generalizing s with
  | nil => exact Or.inl s.unopened_nil
  | cons event events ih =>
    by_cases he : event = .read → s.file? = none
    · rcases ih (s.handle event) with hu | ⟨before, after, bytes, rfl, hu, hf⟩
      · exact Or.inl (unopened_cons.mpr ⟨he, hu⟩)
      · exact Or.inr ⟨event :: before, after, bytes, rfl, unopened_cons.mpr ⟨he, hu⟩, hf⟩
    · rw [Classical.not_imp] at he
      obtain ⟨bytes, hf⟩ := Option.ne_none_iff_exists'.mp he.2
      exact Or.inr ⟨[], events, bytes, by rw [he.1]; rfl, s.unopened_nil, hf⟩

-- after the first opening the file is there, so that there is no second one
lemma opening_unique {before' after' : List Event} {bytes' : List UInt8}
    (h : before ++ .read :: after = before' ++ .read :: after') (hu : s.Unopened before)
    (hu' : s.Unopened before') (hf : (s.handleAll before).file? = some bytes)
    (hf' : (s.handleAll before').file? = some bytes') : before = before' := by
  rcases List.append_eq_append_iff.mp h with ⟨rest, rfl, hr⟩ | ⟨rest, rfl, hr⟩
  · cases rest with
    | nil => rw [List.append_nil]
    | cons event rest =>
      rw [← (List.cons.inj hr).1] at hu'
      cases hf.symm.trans (hu' before rest rfl)
  · cases rest with
    | nil => rw [List.append_nil]
    | cons event rest =>
      rw [← (List.cons.inj hr).1] at hu
      cases hf'.symm.trans (hu before' rest rfl)

end Reader

-- tasks that were read have numbers of their own, so that none of them replaces another
lemma values_toWorkflow_read (cost : String → UInt64 → Cost) (settings : Settings)
    (results : List (Except RowFault (Array String))) :
    let tasks : Array (Task τ) := (read cost settings results).tasks
    (toWorkflow tasks).tasks.values = tasks.toList ∧ (toWorkflow tasks).families = [] := by
  intro tasks
  have hn : (tasks.toList.map Task.id).Nodup := ids_read (τ := τ) cost settings results ▸ List.nodup_range
  obtain ⟨ht, hf, -⟩ := toWorkflow_tasks hn
  refine ⟨?_, hf⟩
  rw [← Table.map_snd_toList, ht, List.map_map]
  exact List.map_id _

/-- Whatever becomes of the file, a source gives no tasks and counts nothing until it is asked for its tasks while the
file is there. It then gives what the file holds at that moment, and from then on always the same tasks, the same tally
and the workflow of the same tasks. Its two fields are unset until then, and afterwards those of the one reading. -/
theorem read_once (format : Format) (settings : Settings) (path : String) (content : List UInt8)
    (events : List Reader.Event) :
    ∃ source : Source τ, Source.ofPath path (some content) settings format = .ok source ∧
    let s : Reader τ := ⟨some content, source⟩
    let reading (bytes : List UInt8) : Reading τ := read format.cost settings (format.rows bytes)
    let failing (a : Reader.Answer τ) : Prop := a = .tasks (.error .unreadable) ∨ a = .tally {}
    let last := s.handleAll events
    let outcome := (last.source.workflow last.file?).1
    (∀ bytes, (toWorkflow (reading bytes).tasks).tasks.values = (reading bytes).tasks.toList ∧
      (toWorkflow (reading bytes).tasks).families = []) ∧
    ((s.Unopened events ∧ (∀ a ∈ s.allAnswers events, failing a) ∧ last.source.Unread ∧
      outcome = match last.file? with
        | some bytes => .ok (toWorkflow (reading bytes).tasks)
        | none => .error .unreadable) ∨
    ∃ before after bytes, events = before ++ .read :: after ∧
      s.Unopened before ∧ (s.handleAll before).file? = some bytes ∧ (s.handleAll before).source.Unread ∧
      (∀ a ∈ s.allAnswers before, failing a) ∧
      ∃ later, s.allAnswers events = s.allAnswers before ++ .tasks (.ok (reading bytes).tasks) :: later ∧
        (∀ a ∈ later, a = .tasks (.ok (reading bytes).tasks) ∨ a = .tally (reading bytes).tally) ∧
        last.source.Keeps (reading bytes) ∧ outcome = .ok (toWorkflow (reading bytes).tasks)) := by
  refine ⟨{ settings := settings, format := format }, rfl, ?_⟩
  intro s reading failing last outcome
  refine ⟨fun bytes => values_toWorkflow_read format.cost settings (format.rows bytes), ?_⟩
  have hn : s.source.Unread := ⟨rfl, rfl⟩
  rcases s.unopened_or_exists_opening events with hu | ⟨before, after, bytes, rfl, hu, hf⟩
  · have hs : last.source = s.source := Reader.source_of_unopened hn hu
    refine Or.inl ⟨hu, Reader.answers_of_unopened hn hu, hs ▸ hn, ?_⟩
    exact (Reader.workflow_of_unread (hs ▸ hn) last.file?).trans (by rw [hs]; rfl)
  · have hs : (s.handleAll before).source = s.source := Reader.source_of_unopened hn hu
    obtain ⟨ha, ho⟩ := Reader.opened_of_found (hs ▸ hn) hf
    rw [hs] at ha ho
    have hl : last = ((s.handleAll before).handle .read).handleAll after := List.foldl_append
    have hk : last.source.Keeps (reading bytes) := by
      rw [hl, Reader.source_handleAll_of_keeps ho]
      exact ho
    refine Or.inr ⟨before, after, bytes, rfl, hu, hf, hs ▸ hn, Reader.answers_of_unopened hn hu,
      ((s.handleAll before).handle .read).allAnswers after, ?_, Reader.allAnswers_of_keeps ho after, hk,
      Reader.workflow_of_keeps hk _⟩
    calc s.allAnswers (before ++ .read :: after)
        = s.allAnswers before ++ ((s.handleAll before).answers .read ++
            ((s.handleAll before).handle .read).allAnswers after) := gathered_append s before _
      _ = _ := by rw [ha]; rfl

theorem read_once_retried :
    let cell (m : ℕ) : String := if m = 7 then "2" else "0"
    let format : Format := { rows := List.map fun _ => .ok (record "f" cell) }
    let events := [.delete, .read, .tally, .write [2], .read, .write [3, 3], .read, .tally, .delete, .read]
    let first : Reading ℚ := read format.cost {} (format.rows [2])
    let second : Reading ℚ := read format.cost {} (format.rows [3, 3])
    (first.tasks.size = 2 ∧ second.tasks.size = 4) ∧
    ∃ source : Source ℚ, Source.ofPath "trace.csv" (some []) {} format = .ok source ∧
    let s : Reader ℚ := ⟨some [], source⟩
    ∃ later, s.allAnswers events = [.tasks (.error .unreadable), .tally {}] ++ .tasks (.ok first.tasks) :: later ∧
      later.length = 3 ∧ (∀ a ∈ later, a = .tasks (.ok first.tasks) ∨ a = .tally first.tally) ∧
      (s.handleAll events).source.Keeps first := by
  intro cell format events first second
  have hc : invocations 1000 (record "f" cell) = [("f", 7), ("f", 7)] := by
    rw [invocations_record]
    decide +kernel
  have hr := record?_record "f" cell
  have hf : first.tasks.size = 2 := by
    rw [← Array.length_toList, tasks_read, List.length_mapIdx]
    change (List.flatMap (invocations 1000) ([.ok (record "f" cell)].filterMap record?)).length = 2
    rw [List.filterMap_cons_some hr, List.filterMap_nil, List.flatMap_singleton, hc]
    rfl
  have hs : second.tasks.size = 4 := by
    rw [← Array.length_toList, tasks_read, List.length_mapIdx]
    change (List.flatMap (invocations 1000)
      ([.ok (record "f" cell), .ok (record "f" cell)].filterMap record?)).length = 4
    rw [List.filterMap_cons_some hr, List.filterMap_cons_some hr, List.filterMap_nil, List.flatMap_cons,
      List.flatMap_singleton, hc]
    rfl
  obtain ⟨source, ho, -, h⟩ := read_once (τ := ℚ) format {} "trace.csv" [] events
  refine ⟨⟨hf, hs⟩, source, ho, ?_⟩
  cases ho
  intro s
  have hu : s.Unopened [.delete, .read, .tally, .write [2]] := by
    simp only [Reader.unopened_cons, Reader.unopened_nil, reduceCtorEq, false_implies, true_implies, and_true,
      true_and]
    rfl
  have hf : (s.handleAll [.delete, .read, .tally, .write [2]]).file? = some [2] := rfl
  rcases h with ⟨hn, -⟩ | ⟨before, after, bytes, he, hb, hf', -, -, later, ha, hl, hk, -⟩
  · cases hn [.delete, .read, .tally, .write [2]] _ rfl
  · obtain rfl := Reader.opening_unique he.symm hb hu hf' hf
    cases hf'.symm.trans hf
    refine ⟨later, ha, ?_, hl, hk⟩
    have hn : 6 = 2 + (later.length + 1) := (congrArg List.length ha).trans List.length_append
    omega

end Dispatch.Trace
