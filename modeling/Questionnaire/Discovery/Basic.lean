import Questionnaire.Discovery.Machine
import Questionnaire.Flow.Basic

/-!
# The discovery journey

The root of the machines.  It has one child at a time: the machine that establishes
the user while it is loading, and a question flow while it asks the questions.  An
event from outside goes to the machine that the present phase is waiting for, so
the children's completion cannot be forged.
-/

namespace Questionnaire

/-- A discovery journey. -/
structure Discovery where
  /-- The journey's own machine, which nobody subscribes to. -/
  machine : Instance Empty
  pods : List Definition
  establish : ChildSlot Instance Unit
  questions : ChildSlot Flow Unit
  mailbox : Mailbox
  /-- How many children were spawned. -/
  spawned : Nat

namespace Discovery

/-- A journey that is not started, over pods that are all usable, with answers from
before. -/
def create (id : InstanceId) (pods : List Definition) (answers : Fields) :
    Except BuildError Discovery := do
  Pod.checkAll pods
  let context : Fields := .singleton answersKey (.object answers)
  let machine ← Instance.create id definition effects context
  return { machine, pods, establish := .empty, questions := .empty, mailbox := {}, spawned := 0 }

/-! ## Observations -/

/-- The present phase. -/
def phase (journey : Discovery) : Phase :=
  (NamedState.ofName? journey.machine.current).getD .error

/-- The user, once established. -/
def user (journey : Discovery) : Option Json :=
  journey.machine.context.get? userKey

/-- The answers: those from before until the questions are done. -/
def answers (journey : Discovery) : Fields :=
  Flow.fieldsOf journey.machine.context answersKey

/-- What went wrong, once the journey has failed. -/
def error (journey : Discovery) : Option Json :=
  journey.machine.context.get? errorKey

/-- Whether the journey has ended. -/
def isDone (journey : Discovery) : Bool :=
  journey.machine.isDone

/-- The output with which the journey ended. -/
def output (journey : Discovery) : Option Json :=
  journey.machine.output

/-- The view of the journey's machine. -/
def snapshot (journey : Discovery) : Snapshot :=
  journey.machine.snapshot

/-! ## Running -/

/-- A step of a journey. -/
abbrev Step (α : Type) := Call Discovery Empty α

/-- Call the journey's own machine. -/
def onMachine {α : Type} (call : Instance Empty → Turn (Instance Empty) Empty α) : Step α :=
  .within Discovery.machine (fun journey machine sent => ({ journey with machine }, sent))
    fun machine => some (call machine)

/-- Call the slot of the machine that establishes the user. -/
def onEstablish {α : Type} (call : Call (ChildSlot Instance Unit) Unit α) : Step α :=
  .within Discovery.establish
    (fun journey establish sent =>
      ({ journey with establish, mailbox := journey.mailbox.deliver sent }, []))
    call

/-- Call the slot of the question flow. -/
def onQuestions {α : Type} (call : Call (ChildSlot Flow Unit) Unit α) : Step α :=
  .within Discovery.questions
    (fun journey questions sent =>
      ({ journey with questions, mailbox := journey.mailbox.deliver sent }, []))
    call

/-- Drop the children. -/
def dropChildren : Step Unit :=
  .change fun journey =>
    { journey with
      establish := journey.establish.clear.2
      questions := journey.questions.clear.2 }

/-- The identity of the next child. -/
def newChildId : Step InstanceId :=
  fun journey =>
    some ⟨{ journey with spawned := journey.spawned + 1 },
      .ok (.child journey.machine.id journey.spawned), []⟩

/-- Spawn the machine that establishes the user. -/
def spawnEstablish (now : Timestamp) : Step Unit := do
  let id ← newChildId
  match Instance.create id EstablishUser.definition EstablishUser.effects ∅ with
  | .error error => .fail (.spawn error)
  | .ok child =>
    let _ ← onEstablish (ChildSlot.install now child ())

/-- Spawn a question flow with the present answers. -/
def spawnQuestions (now : Timestamp) : Step Unit := do
  let id ← newChildId
  let journey ← .present
  match Flow.create id journey.pods journey.answers with
  | .error error => .fail (.spawn error)
  | .ok flow =>
    let _ ← onQuestions (ChildSlot.install now flow ())

/-- Move on to the error phase with a cause. -/
def escalate (now : Timestamp) (cause : DispatchError) : Step Outcome := do
  let error : Json := .obj [("msg", .str cause.message)]
  let event := (Event.ofKind errorEvent).withField errorKey error
  let outcome ← onMachine (Instance.dispatch now event)
  match outcome with
  | .terminated .. => dropChildren
  | _ => pure ()
  return outcome

/-- Spawn the child that a phase needs, in place of the one before. -/
def enter (now : Timestamp) (phase : Phase) : Step Unit := do
  dropChildren
  match phase with
  | .loading =>
    (spawnEstablish now).orElse fun cause => do
      let _ ← escalate now cause
  | .questions => spawnQuestions now
  | _ => pure ()

/-- Follow up on what the journey's machine did. -/
def react (now : Timestamp) (outcome : Outcome) : Step Unit :=
  match outcome with
  | .transitioned _ target =>
    match NamedState.ofName? target with
    | some phase => enter now phase
    | none => pure ()
  | .terminated .. => dropChildren
  | _ => pure ()

/-- Give an event to the journey's machine. -/
def dispatch (now : Timestamp) (event : Event) : Step Outcome := do
  let outcome ← onMachine (Instance.dispatch now event)
  react now outcome
  return outcome

/-- The event that an envelope stands for: only the output of a present child counts. -/
def eventOf? (journey : Discovery) (envelope : Envelope) : Option Event :=
  match envelope.signal with
  | .notify _ => none
  | .done output =>
    if journey.establish.isCurrent envelope.source then
      some ((Event.ofKind userEstablishedEvent).withField userKey output)
    else if journey.questions.isCurrent envelope.source then
      some ((Event.ofKind questionsDoneEvent).withField answersKey output)
    else none

/-- Open the oldest envelope. -/
def nextEnvelope : Step (Option Envelope) :=
  fun journey =>
    match journey.mailbox.next? with
    | none => some ⟨journey, .ok none, []⟩
    | some (envelope, mailbox) => some ⟨{ journey with mailbox }, .ok (some envelope), []⟩

/-- Act on an envelope of the mailbox. -/
def handle (now : Timestamp) (envelope : Envelope) : Step Unit := do
  let journey ← .present
  match journey.eventOf? envelope with
  | none => return ()
  | some event =>
    let _ ← dispatch now event

/-- Act on envelopes until the mailbox is empty, at most `fuel` times. -/
def pump (now : Timestamp) : (fuel : Nat) → Step Unit
  | 0 => .stuck
  | fuel + 1 => do
    match ← nextEnvelope with
    | none => return ()
    | some envelope =>
      handle now envelope
      pump now fuel

/-- Act on envelopes until the mailbox is empty.  A child that is spawned on the way
may end at once and send one more. -/
def settle (now : Timestamp) : Step Unit := do
  let journey ← .present
  pump now (2 * journey.mailbox.queue.length + 2)

/-- Start the journey; one that was started is left as it is. -/
def start (now : Timestamp) : Step Unit := do
  let journey ← .present
  if journey.machine.status ≠ .idle then
    return ()
  else
    onMachine Instance.start
    enter now .loading
    settle now

/-- Give an event to the machine that the present phase is waiting for. -/
def route (now : Timestamp) (event : Event) : Step Outcome := do
  let journey ← .present
  if journey.phase = .loading ∧ journey.machine.status = .running ∧ event.kind ≠ errorEvent then
    (onEstablish (ChildSlot.send machineId now event)).orElse (escalate now)
  else if journey.phase = .questions ∧ journey.isDone = false then
    onQuestions (ChildSlot.send machineId now event)
  else dispatch now event

/-- Deliver an event from outside. -/
def send (now : Timestamp) (event : Event) : Step Outcome := do
  let outcome ← route now event
  settle now
  return outcome

end Discovery
end Questionnaire
