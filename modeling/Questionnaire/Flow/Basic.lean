import Questionnaire.Child.Mailbox
import Questionnaire.Child.Slot
import Questionnaire.Flow.Machine

/-!
# Question flows

A flow asks an ordered list of pods, one live pod at a time.  Whenever its machine
enters `playing`, the pod at the present progress is spawned afresh, and once the pods
run out the flow ends with the answers.  What a pod signals becomes an event of the
flow's machine; what a replaced pod had signalled is dropped.
-/

namespace Questionnaire

/-- A question flow. -/
structure Flow (κ : Type) where
  /-- The flow's own machine. -/
  machine : Instance κ
  pods : List Definition
  /-- The pod being asked, whose signals go to the mailbox. -/
  active : ChildSlot Instance Unit
  mailbox : Mailbox
  /-- How many pods were spawned. -/
  spawned : Nat

namespace Flow

variable {κ : Type}

/-- A flow that is not started, over pods that are all usable, with answers from
before. -/
def create (id : InstanceId) (pods : List Definition) (answers : Fields) :
    Except BuildError (Flow κ) := do
  Pod.checkAll pods
  let machine ← Instance.create id definition (effects pods) (contextOf 0 answers ∅)
  return { machine, pods, active := .empty, mailbox := {}, spawned := 0 }

/-! ## Observations -/

/-- The index of the pod being asked. -/
def progress (flow : Flow κ) : Nat :=
  progressOf flow.machine.context

/-- The answers given so far. -/
def answers (flow : Flow κ) : Fields :=
  fieldsOf flow.machine.context answersKey

/-- For each answer, the index of the pod that gave it. -/
def owners (flow : Flow κ) : Fields :=
  fieldsOf flow.machine.context ownersKey

/-- The pod being asked. -/
def question? (flow : Flow κ) : Option (Instance Unit) :=
  flow.active.child?

/-- Whether the flow has ended. -/
def isDone (flow : Flow κ) : Bool :=
  flow.machine.isDone

/-- The answers with which the flow ended. -/
def output (flow : Flow κ) : Option Json :=
  flow.machine.output

/-- The view of the flow's machine. -/
def snapshot (flow : Flow κ) : Snapshot :=
  flow.machine.snapshot

/-- Whether a pod is being asked that has not ended. -/
def isAsking (flow : Flow κ) : Bool :=
  flow.question?.any fun question => !question.isDone

/-! ## Subscribers -/

/-- Register a subscriber of the flow's machine. -/
def subscribe (outlet : κ) (flow : Flow κ) : Subscription × Flow κ :=
  let (subscription, machine) := flow.machine.subscribe outlet
  (subscription, { flow with machine })

/-- Remove a subscription, and tell whether it was registered. -/
def unsubscribe (subscription : Subscription) (flow : Flow κ) : Bool × Flow κ :=
  let (registered, machine) := flow.machine.unsubscribe subscription
  (registered, { flow with machine })

/-! ## Running -/

/-- Call the active pod's slot; what the pod sends goes to the mailbox. -/
def onActive {α : Type} (call : Call (ChildSlot Instance Unit) Unit α) :
    Call (Flow κ) κ α :=
  .within Flow.active
    (fun flow active sent => ({ flow with active, mailbox := flow.mailbox.deliver sent }, []))
    call

/-- Call the flow's own machine; what it sends goes to its subscribers. -/
def onMachine {α : Type} (call : Instance κ → Turn (Instance κ) κ α) :
    Call (Flow κ) κ α :=
  .within Flow.machine (fun flow machine sent => ({ flow with machine }, sent))
    fun machine => some (call machine)

/-- Drop the active pod. -/
def dropActive : Call (Flow κ) κ Unit :=
  .change fun flow => { flow with active := flow.active.clear.2 }

/-- Open the oldest envelope. -/
def nextEnvelope : Call (Flow κ) κ (Option Envelope) :=
  fun flow =>
    match flow.mailbox.next? with
    | none => some ⟨flow, .ok none, []⟩
    | some (envelope, mailbox) => some ⟨{ flow with mailbox }, .ok (some envelope), []⟩

/-- Spawn a fresh instance of a pod and make it the active one. -/
def spawn (now : Timestamp) (pod : Definition) : Call (Flow κ) κ Unit := do
  let flow ← .present
  match Instance.create (.child flow.machine.id flow.spawned) pod Pod.bindings ∅ with
  | .error error => .fail (.spawn error)
  | .ok question =>
    .change fun flow => { flow with spawned := flow.spawned + 1 }
    let _ ← onActive (ChildSlot.install now question ())

/-- Ask the pod at the present progress, or end the flow if there is none. -/
def enterPlaying (now : Timestamp) : Call (Flow κ) κ Unit := do
  dropActive
  let flow ← .present
  match flow.pods[flow.progress]? with
  | some pod => spawn now pod
  | none =>
    let outcome ← onMachine (Instance.dispatch now (.ofKind doneEvent))
    match outcome with
    | .terminated .. => dropActive
    | _ => pure ()

/-- Follow up on what the flow's machine did. -/
def react (now : Timestamp) (outcome : Outcome) : Call (Flow κ) κ Unit :=
  match outcome with
  | .transitioned _ target => if target = playing then enterPlaying now else pure ()
  | .terminated .. => dropActive
  | _ => pure ()

/-- Give an event to the flow's machine. -/
def dispatch (now : Timestamp) (event : Event) : Call (Flow κ) κ Outcome := do
  let outcome ← onMachine (Instance.dispatch now event)
  react now outcome
  return outcome

/-- The event that a signal of the active pod stands for. -/
def eventOf : Signal → Event
  | .notify event => event
  | .done output =>
    match Pod.Ending.ofOutput output with
    | .advance => .ofKind nextEvent
    | .retreat => .ofKind previousEvent

/-- Whether an event steps back before the first question while that is being asked. -/
def retreatsBeforeFirst (flow : Flow κ) (event : Event) : Bool :=
  event.kind = previousEvent && flow.progress = 0 && flow.isAsking

/-- Act on an envelope of the mailbox: one of a replaced pod is dropped, and so is a
step back before the first question. -/
def handle (now : Timestamp) (envelope : Envelope) : Call (Flow κ) κ Unit := do
  let flow ← .present
  let event := eventOf envelope.signal
  if !flow.active.isCurrent envelope.source || flow.retreatsBeforeFirst event then
    return ()
  else
    let _ ← dispatch now event

/-- Act on envelopes until the mailbox is empty, at most `fuel` times. -/
def pump (now : Timestamp) : (fuel : Nat) → Call (Flow κ) κ Unit
  | 0 => .stuck
  | fuel + 1 => do
    match ← nextEnvelope with
    | none => return ()
    | some envelope =>
      handle now envelope
      pump now fuel

/-- Act on envelopes until the mailbox is empty.  Every envelope in it, and one from
each pod that is spawned on the way, can be acted on; pods that send one another
further than that do so for ever. -/
def settle (now : Timestamp) : Call (Flow κ) κ Unit := do
  let flow ← .present
  pump now (flow.mailbox.queue.length + flow.pods.length + 2)

/-- Start the flow and ask the first pod; a flow that was started is left as it is. -/
def start (now : Timestamp) : Call (Flow κ) κ Unit := do
  let flow ← .present
  if flow.machine.status ≠ .idle then
    return ()
  else
    onMachine Instance.start
    enterPlaying now
    settle now

/-- Deliver an event: starting again is up to the flow, and everything else goes to the
active pod. -/
def send (now : Timestamp) (event : Event) : Call (Flow κ) κ Outcome := do
  let flow ← .present
  let outcome ←
    if event.kind = startFreshEvent ∨ flow.machine.status ≠ .running then dispatch now event
    else onActive (ChildSlot.send machineId now event)
  settle now
  return outcome

end Flow

instance : Child Flow where
  id flow := flow.machine.id
  machine _ := Flow.machineId
  start := Flow.start
  send := Flow.send
  subscribe := Flow.subscribe
  unsubscribe := Flow.unsubscribe
  isDone := Flow.isDone

end Questionnaire
