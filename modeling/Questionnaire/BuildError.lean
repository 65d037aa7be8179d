import Questionnaire.Definition.Validity

/-!
# Why a machine cannot be built

A definition may be incomplete or invalid, and an instance needs every effect
that its definition names.
-/

namespace Questionnaire

/-- Why a definition or an instance cannot be built. -/
inductive BuildError where
  | missingInitialState (machine : String)
  | duplicateState (machine state : String)
  | invalidDefinition (machine : String) (violations : List Violation)
  | unknownEffect (machine effect : String)
  deriving DecidableEq

namespace BuildError

/-- What is wrong, in words. -/
def message : BuildError → String
  | .missingInitialState machine =>
    "Initial state not specified for '" ++ machine
      ++ "'. Call .initial(state) before .build()"
  | .duplicateState machine state =>
    "State '" ++ state ++ "' is defined twice in '" ++ machine ++ "'"
  | .invalidDefinition machine violations =>
    "Definition '" ++ machine ++ "' is invalid: "
      ++ String.intercalate "; " (violations.map Violation.message)
  | .unknownEffect machine effect =>
    "Definition '" ++ machine ++ "' references unknown effect '" ++ effect ++ "'"

end BuildError

/-- Require a definition to be valid. -/
def Definition.check (definition : Definition) : Except BuildError Unit :=
  match definition.violations with
  | [] => .ok ()
  | violations => .error (.invalidDefinition definition.id violations)

end Questionnaire
