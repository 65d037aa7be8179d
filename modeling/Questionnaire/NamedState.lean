import Questionnaire.Json.Raw

/-!
# Typed views of machine states

Definitions name their states by strings.  A host that drives a fixed definition
may use a type of its own for the states instead, and go from one to the other by
name.
-/

namespace Questionnaire

open Json (Raw)

/-- A finite type of states.  Each has the name that definitions use, and a label
under which it is written as data. -/
class NamedState (σ : Type) where
  all : List σ
  name : σ → String
  label : σ → String
  isFinal : σ → Bool
  isError : σ → Bool

namespace NamedState

variable {σ : Type} [NamedState σ]

/-- The state with a name. -/
def ofName? (given : String) : Option σ :=
  all.find? fun state : σ => name state = given

/-- The state with a label. -/
def ofLabel? (given : String) : Option σ :=
  all.find? fun state : σ => label state = given

/-- A state as data. -/
def toJson (state : σ) : Json :=
  .str (label state)

/-- Read a state. -/
def ofRaw? (raw : Raw) : Option σ :=
  raw.choice?.bind ofLabel?

end NamedState
end Questionnaire
