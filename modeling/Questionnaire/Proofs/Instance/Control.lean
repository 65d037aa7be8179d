import Questionnaire.Proofs.Instance.Ending

/-!
# Data never steers

Which state an instance is in, whether it runs or has ended, what it records but for the
times, and how it answers but for its output: all this follows from its definition and from
the types of the events that it was sent.  Contexts, payloads, effects and subscribers have
no part in it.
-/

namespace Questionnaire

/-! ## Answers without data -/

/-- What a machine did with an event, without the output. -/
inductive Reaction where
  | ignored
  | stayed (state : String)
  | transitioned (source target : String)
  | terminated (state : String)
  deriving DecidableEq

/-- What is left of an outcome without the output. -/
def Outcome.reaction : Outcome → Reaction
  | .ignored => .ignored
  | .stayed state => .stayed state
  | .transitioned source target => .transitioned source target
  | .terminated state _ => .terminated state

/-- The steps of a history: its passages without their times. -/
def History.steps (history : History) : List (String × String × String) :=
  history.passages.map Passage.untimed

theorem History.steps_record (history : History) (passage : Passage) :
    (history.record passage).steps = history.steps ++ [passage.untimed] :=
  List.map_append

namespace Instance

variable {κ ι : Type} {definition : Definition} {effects : EffectTable} {machine : Instance κ}

/-! ## The control of an instance -/

/-- What an action is to the control of an instance. -/
inductive Stimulus where
  | start
  | event (kind : String)
  | registration
  deriving DecidableEq

/-- The stimulus of an action. -/
def Action.stimulus : Action κ → Stimulus
  | .start => .start
  | .dispatch _ event => .event event.kind
  | .subscribe _ => .registration
  | .unsubscribe _ => .registration

/-- Where an instance stands, apart from its data: its state, whether it runs, and the steps
that led it there. -/
structure Position where
  current : String
  status : Status
  passed : List (String × String × String)
  deriving DecidableEq

/-- The position of an instance. -/
def position (machine : Instance κ) : Position where
  current := machine.current
  status := machine.status
  passed := machine.history.steps

namespace Position

/-- Whether an instance that enters a state runs there or ends. -/
def statusIn (definition : Definition) (state : String) : Status :=
  if definition.isTerminal state then .done else .running

/-- The position once a transition led into `target`. -/
def entering
    (definition : Definition)
    (kind target : String)
    (position : Position) :
    Position where
  current := target
  status := statusIn definition target
  passed := position.passed ++ [(position.current, target, kind)]

/-- The position after a stimulus. -/
def after (definition : Definition) (stimulus : Stimulus) (position : Position) : Position :=
  match stimulus, position.status with
  | .start, .idle => { position with status := statusIn definition position.current }
  | .event kind, .running =>
    ((definition.transition? position.current kind).bind Transition.target).elim position
      fun target => position.entering definition kind target
  | _, _ => position

/-- The reaction of a running instance to an event type. -/
def reactionTo (definition : Definition) (kind : String) (position : Position) : Reaction :=
  match definition.transition? position.current kind with
  | none => .ignored
  | some transition =>
    match transition.target with
    | none => .stayed position.current
    | some target =>
      if definition.isTerminal target then .terminated target
      else .transitioned position.current target

/-- The answer to a stimulus, without the output; none if it is no event. -/
def answer?
    (definition : Definition)
    (stimulus : Stimulus)
    (position : Position) :
    Option (Except DispatchError Reaction) :=
  match stimulus with
  | .event kind => some <|
    match position.status with
    | .idle => .error (.protocol (.notStarted definition.id))
    | .done => .error (.protocol (.alreadyTerminated definition.id position.current))
    | .running => .ok (position.reactionTo definition kind)
  | _ => none

variable {kind target : String} {transition : Transition}

theorem answer?_of_running
    (position : Position)
    (running : position.status = .running) :
    position.answer? definition (.event kind) =
      some (.ok (position.reactionTo definition kind)) := by
  simp [answer?, running]

theorem event_ignored
    (position : Position)
    (running : position.status = .running)
    (unknown : definition.transition? position.current kind = none) :
    position.after definition (.event kind) = position ∧
      position.reactionTo definition kind = .ignored := by
  simp [after, reactionTo, running, unknown]

/-- A transition without a target leaves an instance where it is. -/
theorem event_stays
    (position : Position)
    (running : position.status = .running)
    (known : definition.transition? position.current kind = some transition)
    (nowhere : transition.target = none) :
    position.after definition (.event kind) = position ∧
      position.reactionTo definition kind = .stayed position.current := by
  simp [after, reactionTo, running, known, nowhere]

theorem event_enters
    (position : Position)
    (running : position.status = .running)
    (known : definition.transition? position.current kind = some transition)
    (somewhere : transition.target = some target) :
    position.after definition (.event kind) = position.entering definition kind target ∧
      position.reactionTo definition kind =
        if definition.isTerminal target then .terminated target
        else .transitioned position.current target := by
  simp [after, reactionTo, running, known, somewhere]

end Position

/-! ## Following the control -/

theorem position_start (machine : Instance κ) :
    machine.start.next.position = machine.position.after machine.definition .start := by
  cases status : machine.status with
  | idle =>
    cases terminal : machine.definition.isTerminal machine.current <;>
      simp [start, atTerminal, Position.after, Position.statusIn, position, finished, status,
        terminal]
  | running => simp [start, Position.after, position, status]
  | done => simp [start, Position.after, position, status]

section Dispatching

variable {transition : ResolvedTransition} {target : String}

theorem position_landed
    (running : machine.status = .running)
    (proper : machine.definition.isTerminal target = false)
    (now : Timestamp)
    (event : Event) :
    (machine.landed now event transition target).position =
      machine.position.entering machine.definition event.kind target := by
  simp [position, landed, Instance.entering, Position.entering, Position.statusIn,
    History.steps_record, Passage.untimed, running, proper]

theorem position_finished
    (terminal : machine.definition.isTerminal target = true)
    (now : Timestamp)
    (event : Event) :
    (machine.landed now event transition target).finished.position =
      machine.position.entering machine.definition event.kind target := by
  simp [position, landed, finished, Instance.entering, Position.entering, Position.statusIn,
    History.steps_record, Passage.untimed, terminal]

namespace Sound

/-- A transition leads an instance where its definition declares, and the answer says so. -/
theorem control_follow
    {event : Event}
    (sound : machine.Sound effects)
    (running : machine.status = .running)
    (found : machine.transition? event.kind = some transition)
    (now : Timestamp) :
    let turn := machine.follow now event transition
    turn.next.position = machine.position.after machine.definition (.event event.kind) ∧
      turn.result.map Outcome.reaction =
        .ok (machine.position.reactionTo machine.definition event.kind) := by
  obtain ⟨declared, known, resolved⟩ := sound.exists_declared found
  have same : transition.target = declared.target :=
    (Definition.resolveTransition_eq_ok_iff.1 resolved).1
  cases leads : transition.target with
  | none =>
    obtain ⟨stays, tells⟩ := machine.position.event_stays running known (same.symm.trans leads)
    rw [follow_stay leads, stays, tells]
    exact ⟨rfl, rfl⟩
  | some target =>
    obtain ⟨enters, tells⟩ := machine.position.event_enters running known (same.symm.trans leads)
    rw [enters, tells]
    cases terminal : machine.definition.isTerminal target with
    | true =>
      rw [follow_end leads terminal]
      exact ⟨position_finished terminal now event, rfl⟩
    | false =>
      rw [follow_enter leads terminal]
      exact ⟨position_landed running terminal now event, rfl⟩

theorem control_dispatch
    (sound : machine.Sound effects)
    (now : Timestamp)
    (event : Event) :
    let turn := machine.dispatch now event
    turn.next.position = machine.position.after machine.definition (.event event.kind) ∧
      some (turn.result.map Outcome.reaction) =
        machine.position.answer? machine.definition (.event event.kind) := by
  cases status : machine.status with
  | idle =>
    rw [dispatch_of_idle status]
    simp [Position.after, Position.answer?, position, status, Except.map]
  | done =>
    rw [dispatch_of_done status]
    simp [Position.after, Position.answer?, position, status, Except.map]
  | running =>
    cases found : machine.transition? event.kind with
    | none =>
      have undeclared : machine.definition.transition? machine.current event.kind = none := by
        have related := sound.transition? event.kind
        rw [found] at related
        generalize machine.definition.transition? _ _ = declared? at related ⊢
        cases related
        rfl
      obtain ⟨stays, tells⟩ := machine.position.event_ignored status undeclared
      rw [sound.dispatch_of_undeclared status undeclared now, stays,
        machine.position.answer?_of_running status, tells]
      exact ⟨rfl, rfl⟩
    | some transition =>
      obtain ⟨next, result⟩ := sound.control_follow status found now
      rw [dispatch_eq_follow status found, machine.position.answer?_of_running status]
      exact ⟨next, congrArg some result⟩

end Sound
end Dispatching

/-- The answer to a call, without the output. -/
def Leg.reaction? (leg : Leg κ) : Option (Except DispatchError Reaction) :=
  leg.answer?.map fun answer => answer.map Outcome.reaction

theorem Sound.position_perform
    (sound : machine.Sound effects)
    (action : Action κ) :
    (perform action machine).position =
      machine.position.after machine.definition action.stimulus := by
  cases action with
  | start => exact position_start machine
  | dispatch now event => exact (sound.control_dispatch now event).1
  | subscribe outlet => rfl
  | unsubscribe subscription => rfl

theorem Sound.reaction?_leg
    (sound : machine.Sound effects)
    (action : Action κ) :
    (⟨machine, action⟩ : Leg κ).reaction? =
      machine.position.answer? machine.definition action.stimulus := by
  cases action with
  | start => rfl
  | dispatch now event => exact (sound.control_dispatch now event).2
  | subscribe outlet => rfl
  | unsubscribe subscription => rfl

/-! ## The calls of a run -/

/-- The stimuli of some actions, but for registrations. -/
def stimuli (actions : List (Action κ)) : List Stimulus :=
  (actions.map Action.stimulus).filter (· ≠ .registration)

/-- The calls of a run that are no registrations. -/
def steering (calls : List (Leg κ)) : List (Leg κ) :=
  calls.filter (·.action.stimulus ≠ .registration)

/-- What a call is to the control: where the instance stood, and the stimulus. -/
def Leg.control (leg : Leg κ) : Position × Stimulus :=
  (leg.before.position, leg.action.stimulus)

/-- The stimuli, each with the position in which it is met. -/
def Position.trail (definition : Definition) :
    List Stimulus → Position → List (Position × Stimulus)
  | [], _ => []
  | stimulus :: later, position =>
    (position, stimulus) :: trail definition later (position.after definition stimulus)

namespace Held

theorem before_legs
    (held : machine.Held definition effects given)
    (actions : List (Action κ)) :
    ∀ leg ∈ legs actions machine, leg.before.Held definition effects given := by
  induction actions generalizing machine with
  | nil =>
    intro leg member
    cases member
  | cons action actions ih => exact List.forall_mem_cons.2 ⟨held, ih (held.perform action)⟩

/-- Registrations apart, the control of a run depends on its beginning and its stimuli. -/
theorem control_steering
    (held : machine.Held definition effects given)
    (actions : List (Action κ)) :
    (steering (legs actions machine)).map Leg.control =
      machine.position.trail definition (stimuli actions) := by
  induction actions generalizing machine with
  | nil => rfl
  | cons action actions ih =>
    have later := ih (held.perform action)
    have moved := held.sound.position_perform action
    rw [held.runs] at moved
    unfold steering stimuli at later ⊢
    rw [legs, List.map_cons, List.filter_cons, List.filter_cons]
    by_cases registration : action.stimulus = .registration
    -- A registration is in neither list and leaves the position as it is.
    · have still : (Instance.perform action machine).position = machine.position := by
        rw [moved, registration]
        rfl
      simpa [registration, still] using later
    · rw [moved] at later
      simpa [registration, Position.trail, Leg.control] using later

end Held

/-! ## Two runs -/

/-- Two calls after which two instances stand alike: they have the same status, state and
presentation, accept the same events, have the same history but for the times, and gave the
same answer but for the output. -/
structure Leg.StandAlike (left : Leg κ) (right : Leg ι) : Prop where
  status : left.after.status = right.after.status
  current : left.after.current = right.after.current
  presentation : left.after.snapshot.presentation = right.after.snapshot.presentation
  nextEvents : left.after.snapshot.nextEvents = right.after.snapshot.nextEvents
  history : left.after.history.steps = right.after.history.steps
  reaction : left.reaction? = right.reaction?

section Runs

variable {leftEffects rightEffects : EffectTable} {leftGiven rightGiven : Option Fields}
  {left : Instance κ} {right : Instance ι}

/-- In one position of one definition, two instances stand alike after the same stimulus. -/
theorem Held.standAlike
    {action : Action κ}
    {other : Action ι}
    (leftHeld : left.Held definition leftEffects leftGiven)
    (rightHeld : right.Held definition rightEffects rightGiven)
    (together : left.position = right.position)
    (same : action.stimulus = other.stimulus) :
    Leg.StandAlike ⟨left, action⟩ ⟨right, other⟩ := by
  have positions : (Instance.perform action left).position =
      (Instance.perform other right).position := by
    rw [leftHeld.sound.position_perform, rightHeld.sound.position_perform, leftHeld.runs,
      rightHeld.runs, together, same]
  have current := congrArg Position.current positions
  have nodes : (Instance.perform action left).node? = (Instance.perform other right).node? := by
    rw [node?, node?, (leftHeld.perform action).runs, (rightHeld.perform other).runs]
    exact congrArg definition.state? current
  refine ⟨congrArg Position.status positions, current, ?_, ?_,
    congrArg Position.passed positions, ?_⟩
  · exact congrArg (·.elim .null StateNode.presentation) nodes
  · exact congrArg (·.elim [] StateNode.nextEvents) nodes
  · rw [leftHeld.sound.reaction?_leg, rightHeld.sound.reaction?_leg, leftHeld.runs,
      rightHeld.runs, together, same]

theorem Held.standAlike_steering
    {actions : List (Action κ)}
    {others : List (Action ι)}
    (leftHeld : left.Held definition leftEffects leftGiven)
    (rightHeld : right.Held definition rightEffects rightGiven)
    (together : left.position = right.position)
    (same : stimuli actions = stimuli others) :
    List.Forall₂ Leg.StandAlike (steering (legs actions left))
      (steering (legs others right)) := by
  have trails : (steering (legs actions left)).map Leg.control =
      (steering (legs others right)).map Leg.control := by
    rw [leftHeld.control_steering, rightHeld.control_steering, together, same]
  rw [← List.forall₂_eq_eq_eq, List.forall₂_map_left_iff, List.forall₂_map_right_iff,
    List.forall₂_iff_zip] at trails
  -- Calls that are paired are met in the same position by the same stimulus.
  obtain ⟨equallyMany, controls⟩ := trails
  rw [List.forall₂_iff_zip]
  refine ⟨equallyMany, ?_⟩
  intro leg other paired
  obtain ⟨onLeft, onRight⟩ := List.of_mem_zip paired
  have legHeld := leftHeld.before_legs actions leg (List.mem_of_mem_filter onLeft)
  have otherHeld := rightHeld.before_legs others other (List.mem_of_mem_filter onRight)
  have control : leg.control = other.control := controls paired
  exact legHeld.standAlike otherHeld (congrArg Prod.fst control) (congrArg Prod.snd control)

/-- Two instances of a definition, with whatever contexts and effects they were built, stand
alike after each of the same calls, whatever the payloads and the times of the events are,
and whoever subscribes to the one or the other in between, or leaves. -/
theorem standAlike_of_run
    {leftId rightId : InstanceId}
    {leftContext rightContext : Fields}
    (leftCreated : create leftId definition leftEffects leftContext = .ok left)
    (rightCreated : create rightId definition rightEffects rightContext = .ok right)
    {leftActions : List (Action κ)}
    {rightActions : List (Action ι)}
    (same : stimuli leftActions = stimuli rightActions) :
    List.Forall₂ Leg.StandAlike (steering (legs leftActions left))
      (steering (legs rightActions right)) := by
  have together : left.position = right.position := by
    obtain ⟨_, _, _, rfl⟩ := create_eq_ok_iff.1 leftCreated
    obtain ⟨_, _, _, rfl⟩ := create_eq_ok_iff.1 rightCreated
    rfl
  exact (Obtained.built leftCreated).held.standAlike_steering (Obtained.built rightCreated).held
    together same

end Runs

/-- What a host does with a tally: it starts it, adds, sends what the tally ignores, stops it
and adds again.  Events come with a payload `note`, and `between` is done after the first. -/
def counted (between : List (Action Unit)) (note : Json) : List (Action Unit) :=
  let event (kind : String) : Action Unit :=
    .dispatch .epoch ((Event.ofKind kind).withField "note" note)
  [.start, event "ADD"] ++ between ++ [event "SUBTRACT", event "STOP", event "ADD"]

/-- What is done with a tally that nobody subscribes to, and with one to which two subscribe,
of whom one leaves. -/
def unwatchedAndWatched : List (Action Unit) × List (Action Unit) :=
  (counted [] .null, .subscribe () :: counted [.subscribe (), .unsubscribe ⟨0⟩] (.int 7))

/-- A table under which the tally does not count but notifies. -/
def noticeEffects : EffectTable :=
  ({} : EffectTable).notify "add" fun input => some input.event

/-- A tally that counts unwatched and one that notifies, with different contexts and payloads,
stand alike throughout, though their outputs differ. -/
theorem standAlike_of_counted :
    ∃ left right : Instance Unit,
      create tallyIds.1 tally tallyEffects ∅ = .ok left ∧
      create tallyIds.2 tally noticeEffects (.singleton "total" (.int 41)) = .ok right ∧
      stimuli unwatchedAndWatched.1 = stimuli unwatchedAndWatched.2 ∧
      (legs unwatchedAndWatched.1 left).map (fun leg => leg.reaction?.bind Except.toOption) =
        [none, some (.transitioned "counting" "counting"), some .ignored,
          some (.terminated "stopped"), none] ∧
      (run unwatchedAndWatched.1 left).output = some (.ofFields [("total", .int 1)]) ∧
      (run unwatchedAndWatched.2 right).output = some (.ofFields [("total", .int 41)]) ∧
      List.Forall₂ Leg.StandAlike (steering (legs unwatchedAndWatched.1 left))
        (steering (legs unwatchedAndWatched.2 right)) := by
  have leftChecked : (create tallyIds.1 tally tallyEffects ∅).toOption.any
      (fun left : Instance Unit =>
        decide ((legs unwatchedAndWatched.1 left).map
            (fun leg => leg.reaction?.bind Except.toOption) =
          [none, some (.transitioned "counting" "counting"), some .ignored,
            some (.terminated "stopped"), none]) &&
        decide ((run unwatchedAndWatched.1 left).output =
          some (.ofFields [("total", .int 1)]))) = true := by
    decide +kernel
  have rightChecked :
      (create tallyIds.2 tally noticeEffects (.singleton "total" (.int 41))).toOption.any
        (fun right => decide ((run unwatchedAndWatched.2 right).output =
          some (.ofFields [("total", .int 41)]))) = true := by
    decide +kernel
  obtain ⟨left, leftBuilt, leftPassed⟩ := (Option.any_eq_true _ _).1 leftChecked
  obtain ⟨right, rightBuilt, rightPassed⟩ := (Option.any_eq_true _ _).1 rightChecked
  obtain ⟨reactions, counts⟩ := Bool.and_eq_true_iff.1 leftPassed
  have leftCreated := toOption_eq_some_iff.1 leftBuilt
  have rightCreated := toOption_eq_some_iff.1 rightBuilt
  have same : stimuli unwatchedAndWatched.1 = stimuli unwatchedAndWatched.2 := rfl
  exact ⟨left, right, leftCreated, rightCreated, same, of_decide_eq_true reactions,
    of_decide_eq_true counts, of_decide_eq_true rightPassed,
    standAlike_of_run leftCreated rightCreated same⟩

end Instance
end Questionnaire
