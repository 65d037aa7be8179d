import Mathlib.Data.List.Forall2
import Questionnaire.Proofs.Instance.Soundness

/-!
# Instances that cannot be told apart

Twins differ in their identity, in the handles on their subscriptions and in the times of
what they recorded since they parted.  Whoever sends both the same events sees the same.
-/

namespace Questionnaire

/-- A passage without its time. -/
def Passage.untimed (passage : Passage) : String × String × String :=
  (passage.source, passage.target, passage.event)

/-- A delivery without the identity of its source. -/
def Delivery.unsourced {κ : Type} (delivery : Delivery κ) : κ × String × Signal :=
  (delivery.outlet, delivery.envelope.machine, delivery.envelope.signal)

/-- Two histories that begin with the passages of `shared` and go on alike but for the
times. -/
def History.SameSince (shared left right : History) : Prop :=
  ∃ lefts rights : List Passage,
    left.passages = shared.passages ++ lefts ∧ right.passages = shared.passages ++ rights ∧
      lefts.map Passage.untimed = rights.map Passage.untimed

namespace History.SameSince

variable {shared left right : History}

theorem refl (shared : History) : SameSince shared shared shared :=
  ⟨[], [], (List.append_nil _).symm, (List.append_nil _).symm, rfl⟩

theorem record
    {first second : Passage}
    (same : SameSince shared left right)
    (alike : first.untimed = second.untimed) :
    SameSince shared (left.record first) (right.record second) := by
  obtain ⟨lefts, rights, leftEq, rightEq, sameNews⟩ := same
  refine ⟨lefts ++ [first], rights ++ [second], ?_, ?_, ?_⟩
  · rw [History.record, leftEq, List.append_assoc]
  · rw [History.record, rightEq, List.append_assoc]
  · rw [List.map_append, List.map_append, sameNews, List.map_singleton, List.map_singleton,
      alike]

end History.SameSince

namespace Instance

variable {κ : Type}

/-! ## What a host sees -/

/-- What a host sees of one event: the answer, the instance after it and what was sent. -/
structure Report (κ : Type) where
  result : Except DispatchError Outcome
  snapshot : Snapshot
  history : History
  sent : List (Delivery κ)

/-- What a host sees of a sequence of events, each at its time. -/
def transcript (machine : Instance κ) : List (Timestamp × Event) → List (Report κ)
  | [] => []
  | (now, event) :: later =>
    let turn := machine.dispatch now event
    ⟨turn.result, turn.next.snapshot, turn.next.history, turn.sent⟩ ::
      transcript turn.next later

/-- Two reports that differ in nothing but the source of the signals and the times of the
passages since `shared`. -/
structure Report.Agree (shared : History) (left right : Report κ) : Prop where
  result : left.result = right.result
  snapshot : left.snapshot = right.snapshot
  history : History.SameSince shared left.history right.history
  sent : left.sent.map Delivery.unsourced = right.sent.map Delivery.unsourced

/-- The subscribers, without the handles on their subscriptions. -/
def outlets (machine : Instance κ) : List κ :=
  machine.subscribers.map Prod.snd

/-- The instance with further subscribers, one after the other. -/
def attach (outlets : List κ) (machine : Instance κ) : Instance κ :=
  outlets.foldl (fun machine outlet => (machine.subscribe outlet).2) machine

/-! ## Twins -/

/-- Two instances that agree but for who subscribed, since they had the history `shared`. -/
structure Alike (shared : History) (left right : Instance κ) : Prop where
  definition : right.definition = left.definition
  transitions : right.transitions = left.transitions
  current : right.current = left.current
  context : right.context = left.context
  status : right.status = left.status
  output : right.output = left.output
  history : History.SameSince shared left.history right.history

/-- Two instances that agree and have the same subscribers. -/
structure Twins (shared : History) (left right : Instance κ) : Prop
    extends Alike shared left right where
  outlets : right.outlets = left.outlets

variable {shared : History} {left right : Instance κ}

namespace Alike

theorem subscribe_left
    (alike : Alike shared left right)
    (outlet : κ) :
    Alike shared (left.subscribe outlet).2 right :=
  ⟨alike.definition, alike.transitions, alike.current, alike.context, alike.status,
    alike.output, alike.history⟩

theorem subscribe_right
    (alike : Alike shared left right)
    (outlet : κ) :
    Alike shared left (right.subscribe outlet).2 :=
  ⟨alike.definition, alike.transitions, alike.current, alike.context, alike.status,
    alike.output, alike.history⟩

theorem attach_left
    (alike : Alike shared left right)
    (outlets : List κ) :
    Alike shared (left.attach outlets) right := by
  induction outlets generalizing left with
  | nil => exact alike
  | cons outlet rest ih => exact ih (alike.subscribe_left outlet)

theorem attach_right
    (alike : Alike shared left right)
    (outlets : List κ) :
    Alike shared left (right.attach outlets) := by
  induction outlets generalizing right with
  | nil => exact alike
  | cons outlet rest ih => exact ih (alike.subscribe_right outlet)

theorem node? (alike : Alike shared left right) : right.node? = left.node? := by
  rw [Instance.node?, Instance.node?, alike.definition, alike.current]

theorem builtOutput (alike : Alike shared left right) :
    right.builtOutput = left.builtOutput := by
  rw [Instance.builtOutput, Instance.builtOutput, alike.node?, alike.context]

theorem input (alike : Alike shared left right) (event : Event) :
    right.input event = left.input event := by
  rw [Instance.input, Instance.input, alike.current, alike.context]

theorem transition? (alike : Alike shared left right) (kind : String) :
    right.transition? kind = left.transition? kind := by
  rw [Instance.transition?, Instance.transition?, alike.transitions, alike.current]

theorem snapshot (alike : Alike shared left right) : left.snapshot = right.snapshot := by
  simp only [Instance.snapshot, presentation, nextEvents, isDone, alike.node?,
    alike.definition, alike.current, alike.context, alike.status, alike.output]

end Alike

theorem outlets_attach (outlets : List κ) (machine : Instance κ) :
    (machine.attach outlets).outlets = machine.outlets ++ outlets := by
  induction outlets generalizing machine with
  | nil => exact (List.append_nil _).symm
  | cons outlet rest ih =>
    have subscribed : (machine.subscribe outlet).2.outlets = machine.outlets ++ [outlet] := by
      simp [Instance.outlets, subscribe]
    calc
      (machine.attach (outlet :: rest)).outlets
        = (machine.subscribe outlet).2.outlets ++ rest := ih (machine.subscribe outlet).2
      _ = machine.outlets ++ outlet :: rest := by
        rw [subscribed, List.append_assoc, List.singleton_append]

namespace Twins

/-! ## One event -/

variable {event : Event} {transition : ResolvedTransition} {target : String}

theorem emit (twins : Twins shared left right) (signal : Signal) :
    (left.emit signal).map Delivery.unsourced =
      (right.emit signal).map Delivery.unsourced := by
  have sends (machine : Instance κ) : (machine.emit signal).map Delivery.unsourced =
      machine.outlets.map fun outlet => (outlet, machine.definition.id, signal) := by
    simp [Instance.emit, Instance.outlets, Delivery.unsourced, envelope]
  rw [sends left, sends right, twins.outlets, twins.definition]

theorem notified (twins : Twins shared left right) :
    (left.notified event transition).map Delivery.unsourced =
      (right.notified event transition).map Delivery.unsourced := by
  unfold Instance.notified
  rw [List.map_flatMap, List.map_flatMap, twins.input event]
  simp only [twins.emit]

/-- Twins that leave the state alone stay twins. -/
theorem stayed (twins : Twins shared left right) :
    Twins shared
      { left with context := transition.update (left.input event) }
      { right with context := transition.update (right.input event) } where
  definition := twins.definition
  transitions := twins.transitions
  current := twins.current
  context := by rw [twins.input event]
  status := twins.status
  output := twins.output
  history := twins.history
  outlets := twins.outlets

/-- Twins that enter a state stay twins, whenever each of them enters it. -/
theorem landed
    (twins : Twins shared left right)
    (now later : Timestamp) :
    Twins shared (left.landed now event transition target)
      (right.landed later event transition target) where
  definition := twins.definition
  transitions := twins.transitions
  current := rfl
  context := by simp only [Instance.landed, entering, twins.input event]
  status := twins.status
  output := twins.output
  history := by
    apply History.SameSince.record twins.history
    simp only [Passage.untimed, twins.current]
  outlets := twins.outlets

theorem finished (twins : Twins shared left right) :
    Twins shared left.finished right.finished where
  definition := twins.definition
  transitions := twins.transitions
  current := twins.current
  context := twins.context
  status := rfl
  output := congrArg some twins.builtOutput
  history := twins.history
  outlets := twins.outlets

/-- The turns of twins: the answers and the signals agree, and what is left are twins. -/
structure Turned (shared : History) (left right : Turn (Instance κ) κ Outcome) : Prop where
  next : Twins shared left.next right.next
  result : left.result = right.result
  sent : left.sent.map Delivery.unsourced = right.sent.map Delivery.unsourced

theorem follow
    (twins : Twins shared left right)
    (now later : Timestamp) :
    Turned shared (left.follow now event transition) (right.follow later event transition) := by
  have same := twins.definition
  cases leads : transition.target with
  | none =>
    rw [follow_stay leads, follow_stay leads]
    exact ⟨twins.stayed, by rw [twins.current], twins.notified⟩
  | some target =>
    have landed : Twins shared (left.landed now event transition target)
        (right.landed later event transition target) := twins.landed now later
    cases terminal : left.definition.isTerminal target with
    | true =>
      rw [follow_end leads terminal, follow_end leads (same ▸ terminal)]
      refine ⟨landed.finished, by rw [landed.builtOutput], ?_⟩
      rw [List.map_append, List.map_append, twins.notified, landed.builtOutput, landed.emit]
    | false =>
      rw [follow_enter leads terminal, follow_enter leads (same ▸ terminal)]
      exact ⟨landed, by rw [twins.current], twins.notified⟩

/-- Twins answer an event alike and stay twins, whenever each of them gets it. -/
theorem dispatch
    (twins : Twins shared left right)
    (now later : Timestamp)
    (event : Event) :
    Turned shared (left.dispatch now event) (right.dispatch later event) := by
  have same := twins.status
  unfold Instance.dispatch
  cases status : left.status with
  | idle =>
    simp only [same, status]
    exact ⟨twins, by rw [twins.definition], rfl⟩
  | done =>
    simp only [same, status]
    exact ⟨twins, by rw [twins.definition, twins.current], rfl⟩
  | running =>
    simp only [same, status, twins.transition?]
    cases left.transition? event.kind with
    | none => exact ⟨twins, rfl, rfl⟩
    | some transition => exact twins.follow now later

/-! ## Many events -/

/-- Twins tell the same story about the same events, whatever the times. -/
theorem transcript
    (twins : Twins shared left right)
    (events : List (Event × Timestamp × Timestamp)) :
    List.Forall₂ (Report.Agree shared)
      (left.transcript (events.map fun (event, now, _) => (now, event)))
      (right.transcript (events.map fun (event, _, later) => (later, event))) := by
  induction events generalizing left right with
  | nil => exact .nil
  | cons first rest ih =>
    obtain ⟨event, now, later⟩ := first
    have turned := twins.dispatch now later event
    exact .cons ⟨turned.result, turned.next.snapshot, turned.next.history, turned.sent⟩
      (ih turned.next)

end Twins
end Instance
end Questionnaire
