import Questionnaire.Json.Raw
import Questionnaire.Timestamp.Text

/-!
# Transition history

An instance keeps a record of every transition that entered a state, in order.
A history is a value: recording returns a longer one and leaves the first as it was.
-/

namespace Questionnaire

open Json (Raw)

/-- A transition that was taken: the states it led from and to, which may be the
same, the type of the event, and the time. -/
structure Passage where
  source : String
  target : String
  event : String
  timestamp : Timestamp
  deriving DecidableEq

namespace Passage

/-- A passage as an object. -/
def toJson (passage : Passage) : Json :=
  .ofFields [
    ("from", .str passage.source),
    ("to", .str passage.target),
    ("event", .str passage.event),
    ("timestamp", .str passage.timestamp.text)]

/-- Read a passage. -/
def ofRaw? (raw : Raw) : Option Passage := do
  let [source, target, event, timestamp] ← raw.record? ["from", "to", "event", "timestamp"] 4
    | none
  return {
    source := ← source.bind Raw.text?
    target := ← target.bind Raw.text?
    event := ← event.bind Raw.text?
    timestamp := ← (← timestamp.bind Raw.text?) |> Timestamp.ofText? }

end Passage

/-- The passages of an instance, the oldest first. -/
structure History where
  passages : List Passage := []
  deriving DecidableEq

namespace History

/-- The history with one more passage. -/
def record (history : History) (passage : Passage) : History :=
  ⟨history.passages ++ [passage]⟩

/-- The number of passages. -/
def length (history : History) : Nat :=
  history.passages.length

/-- Whether there was no passage yet. -/
def isEmpty (history : History) : Bool :=
  history.passages.isEmpty

/-- The states visited: where the first passage began, then where each one led. -/
def path (history : History) : List String :=
  (history.passages.take 1).map Passage.source ++ history.passages.map Passage.target

/-- The event types of the passages. -/
def events (history : History) : List String :=
  history.passages.map Passage.event

/-- A history as an object. -/
def toJson (history : History) : Json :=
  .ofFields [("transitions", .arr (history.passages.map Passage.toJson))]

/-- Read a history. -/
def ofRaw? (raw : Raw) : Option History := do
  let [passages] ← raw.record? ["transitions"] 1
    | none
  return ⟨← passages.bind (·.list? Passage.ofRaw?)⟩

end History
end Questionnaire
