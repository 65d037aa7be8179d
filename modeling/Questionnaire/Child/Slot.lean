import Questionnaire.Instance.Dispatch

/-!
# Child slots

A parent holds at most one live child in a slot.  It shares no context with the
child: it sends events down, and the child's signals come back through a
subscription.  A child that is replaced or cleared is unsubscribed first, so that it
is never heard of again, and what it had sent before is recognised by its identity.
-/

namespace Questionnaire

/-- What a parent can spawn and talk to. -/
class Child (χ : Type → Type) where
  id {κ : Type} : χ κ → InstanceId
  /-- The name of the definition that the child runs. -/
  machine {κ : Type} : χ κ → String
  start {κ : Type} : Timestamp → Call (χ κ) κ Unit
  send {κ : Type} : Timestamp → Event → Call (χ κ) κ Outcome
  subscribe {κ : Type} : κ → χ κ → Subscription × χ κ
  unsubscribe {κ : Type} : Subscription → χ κ → Bool × χ κ
  isDone {κ : Type} : χ κ → Bool

instance : Child Instance where
  id := Instance.id
  machine child := child.definition.id
  start _ := fun child => some child.start
  send now event := fun child => some (child.dispatch now event)
  subscribe := Instance.subscribe
  unsubscribe := Instance.unsubscribe
  isDone := Instance.isDone

/-- A child with the subscription through which its parent hears of it. -/
structure AttachedChild (χ : Type → Type) (κ : Type) where
  child : χ κ
  subscription : Subscription

/-- A place for one child. -/
structure ChildSlot (χ : Type → Type) (κ : Type) where
  attached? : Option (AttachedChild χ κ) := none

namespace ChildSlot

variable {χ : Type → Type} {κ : Type}

/-- The slot without a child. -/
def empty : ChildSlot χ κ := {}

/-- The child in the slot. -/
def child? (slot : ChildSlot χ κ) : Option (χ κ) :=
  slot.attached?.map AttachedChild.child

variable [Child χ]

/-- Whether the child in the slot has an identity. -/
def isCurrent (slot : ChildSlot χ κ) (id : InstanceId) : Bool :=
  slot.child?.any (Child.id · = id)

/-- Unsubscribe the child and take it out. -/
def clear (slot : ChildSlot χ κ) : Option (χ κ) × ChildSlot χ κ :=
  (slot.attached?.map fun attached =>
    (Child.unsubscribe attached.subscription attached.child).2, empty)

/-- Call the child of a slot that holds one. -/
def calling {α : Type} (attached : AttachedChild χ κ) (call : Call (χ κ) κ α) :
    Option (Turn (ChildSlot χ κ) κ α) :=
  (call attached.child).map fun turn =>
    ⟨⟨some { attached with child := turn.next }⟩, turn.result, turn.sent⟩

/-- Put a child in place of the one before, which is dropped, and start it. -/
def install (now : Timestamp) (child : χ κ) (outlet : κ) :
    Call (ChildSlot χ κ) κ InstanceId :=
  fun _ =>
    let (subscription, subscribed) := Child.subscribe outlet child
    (calling ⟨subscribed, subscription⟩ (Child.start now)).map fun turn =>
      { next := turn.next, result := turn.result.map fun _ => Child.id child, sent := turn.sent }

/-- Pass an event to the child; `parent` is named in the error if there is none. -/
def send (parent : String) (now : Timestamp) (event : Event) :
    Call (ChildSlot χ κ) κ Outcome :=
  fun slot =>
    match slot.attached? with
    | some attached => calling attached (Child.send now event)
    | none => some ⟨slot, .error (.protocol (.noActiveChild parent event.kind)), []⟩

end ChildSlot
end Questionnaire
