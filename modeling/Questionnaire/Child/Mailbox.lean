import Questionnaire.Signal

/-!
# Mailboxes

A parent hears of its children through a queue of envelopes, which it opens one at a
time and in the order in which they were sent.
-/

namespace Questionnaire

/-- The envelopes that a parent has not opened yet, the oldest first. -/
structure Mailbox where
  queue : List Envelope := []
  deriving DecidableEq

namespace Mailbox

/-- The mailbox with more envelopes at its end. -/
def receive (mailbox : Mailbox) (envelopes : List Envelope) : Mailbox :=
  ⟨mailbox.queue ++ envelopes⟩

/-- The mailbox with what was delivered to it at its end. -/
def deliver {κ : Type} (mailbox : Mailbox) (deliveries : List (Delivery κ)) : Mailbox :=
  mailbox.receive (deliveries.map Delivery.envelope)

/-- Take out the oldest envelope. -/
def next? (mailbox : Mailbox) : Option (Envelope × Mailbox) :=
  match mailbox.queue with
  | [] => none
  | envelope :: rest => some (envelope, ⟨rest⟩)

end Mailbox
end Questionnaire
