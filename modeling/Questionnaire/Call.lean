import Questionnaire.BuildError
import Questionnaire.Signal

/-!
# Calls

Driving a machine changes its state, yields a result or an error, and sends
signals.  A machine that drives others may also keep them busy for ever, in which
case its call does not return.
-/

namespace Questionnaire

/-- Misuse of a machine. -/
inductive ProtocolViolation where
  | alreadyTerminated (machine state : String)
  | notStarted (machine : String)
  | noActiveChild (machine event : String)
  deriving DecidableEq

namespace ProtocolViolation

/-- What is wrong, in words. -/
def message : ProtocolViolation → String
  | .alreadyTerminated machine state =>
    "'" ++ machine ++ "' already terminated in '" ++ state ++ "'"
  | .notStarted machine => "'" ++ machine ++ "' has not been started"
  | .noActiveChild machine event =>
    "'" ++ machine ++ "' has no active child to receive '" ++ event ++ "'"

end ProtocolViolation

/-- Why a machine, or one of those it drives, refused an event. -/
inductive DispatchError where
  | protocol (violation : ProtocolViolation)
  | spawn (error : BuildError)
  deriving DecidableEq

namespace DispatchError

/-- What is wrong, in words. -/
def message : DispatchError → String
  | .protocol violation => "Protocol violation: " ++ violation.message
  | .spawn error => "Failed to spawn child: " ++ error.message

/-- Whether the caller broke the protocol. -/
def isProtocolViolation : DispatchError → Bool
  | .protocol _ => true
  | .spawn _ => false

end DispatchError

/-- What a machine did with an event. -/
inductive Outcome where
  /-- The state has no transition for it. -/
  | ignored
  /-- A transition without target ran its effects. -/
  | stayed (state : String)
  /-- Another state was entered, or the same one again. -/
  | transitioned (source target : String)
  /-- A terminal state was entered. -/
  | terminated (state : String) (output : Json)
  deriving DecidableEq

/-- What a call left behind: the state after it, its result, and the signals sent. -/
structure Turn (σ κ α : Type) where
  next : σ
  result : Except DispatchError α
  sent : List (Delivery κ)

/-- A call on a state, which may not return. -/
def Call (σ κ α : Type) : Type :=
  σ → Option (Turn σ κ α)

namespace Call

variable {σ τ κ ι α β : Type}

/-- A call that does nothing and yields `value`. -/
protected def pure (value : α) : Call σ κ α :=
  fun state => some ⟨state, .ok value, []⟩

/-- One call after another; the second is left out if the first one fails. -/
protected def bind (first : Call σ κ α) (second : α → Call σ κ β) : Call σ κ β :=
  fun state =>
    match first state with
    | none => none
    | some ⟨next, .error error, sent⟩ => some ⟨next, .error error, sent⟩
    | some ⟨next, .ok value, sent⟩ =>
      (second value next).map fun turn => { turn with sent := sent ++ turn.sent }

instance : Monad (Call σ κ) where
  pure := Call.pure
  bind := Call.bind

/-- The present state. -/
def present : Call σ κ σ :=
  fun state => some ⟨state, .ok state, []⟩

/-- Change the state. -/
def change (f : σ → σ) : Call σ κ Unit :=
  fun state => some ⟨f state, .ok (), []⟩

/-- Fail. -/
def fail (error : DispatchError) : Call σ κ α :=
  fun state => some ⟨state, .error error, []⟩

/-- Never return. -/
def stuck : Call σ κ α :=
  fun _ => none

@[simp] theorem pure_apply (value : α) (state : σ) :
    (pure value : Call σ κ α) state = some ⟨state, .ok value, []⟩ := rfl

theorem bind_apply (first : Call σ κ α) (second : α → Call σ κ β) (state : σ) :
    (first >>= second) state =
      match first state with
      | none => none
      | some ⟨next, .error error, sent⟩ => some ⟨next, .error error, sent⟩
      | some ⟨next, .ok value, sent⟩ =>
        (second value next).map fun turn => { turn with sent := sent ++ turn.sent } := rfl

@[simp] theorem present_apply (state : σ) :
    (present : Call σ κ σ) state = some ⟨state, .ok state, []⟩ := rfl

@[simp] theorem change_apply (f : σ → σ) (state : σ) :
    (change f : Call σ κ Unit) state = some ⟨f state, .ok (), []⟩ := rfl

@[simp] theorem fail_apply (error : DispatchError) (state : σ) :
    (fail error : Call σ κ α) state = some ⟨state, .error error, []⟩ := rfl

@[simp] theorem stuck_apply (state : σ) : (stuck : Call σ κ α) state = none := rfl

instance : LawfulMonad (Call σ κ) := LawfulMonad.mk' (Call σ κ)
  (fun call => funext fun state => by
    show Call.bind call Call.pure state = call state
    simp only [Call.bind, Call.pure]
    rcases call state with _ | ⟨next, _ | value, sent⟩ <;> simp)
  (fun value call => funext fun state => by
    simp only [bind_apply, pure_apply]
    rcases call value state with _ | ⟨next, result, sent⟩ <;> simp)
  (fun first second third => funext fun state => by
    simp only [bind_apply]
    rcases first state with _ | ⟨next, _ | value, sent⟩ <;> simp only
    rcases second value next with _ | ⟨later, _ | other, more⟩ <;>
      simp [Function.comp_def])

/-- Go on after a failure. -/
def orElse (first : Call σ κ α) (handler : DispatchError → Call σ κ α) :
    Call σ κ α :=
  fun state =>
    match first state with
    | some ⟨next, .error error, sent⟩ =>
      (handler error next).map fun turn => { turn with sent := sent ++ turn.sent }
    | turn => turn

/-- Call a part of the state.  `focus` selects the part, and `settle` puts it back and
takes in what it sent. -/
def within (focus : σ → τ) (settle : σ → τ → List (Delivery ι) → σ × List (Delivery κ))
    (call : Call τ ι α) : Call σ κ α :=
  fun state =>
    (call (focus state)).map fun turn =>
      let (next, sent) := settle state turn.next turn.sent
      ⟨next, turn.result, sent⟩

end Call
end Questionnaire
