import Questionnaire.Checkpoint.Binary
import Questionnaire.Checkpoint.Text
import Questionnaire.Config.Sample
import Questionnaire.Description.Basic
import Questionnaire.Effect.Script
import Questionnaire.Instance.Resumption
import Questionnaire.Json.Ordered
import Questionnaire.KeyMap.Lemmas
import Questionnaire.Proofs.Definition.Resolution
import Questionnaire.Proofs.Instance.Soundness
import Questionnaire.Proofs.Flow.Board
import Questionnaire.Proofs.Flow.Machine
import Questionnaire.Proofs.Flow.Question
import Questionnaire.Proofs.Flow.Run
import Questionnaire.Proofs.Flow.Invariant
import Questionnaire.Proofs.Flow.Retreat
import Questionnaire.Proofs.Flow.Scopes
import Questionnaire.Proofs.Json.RoundTrip
import Questionnaire.Proofs.Json.Record
import Questionnaire.Proofs.Checkpoint.Text
import Questionnaire.Proofs.Checkpoint.Binary
import Questionnaire.Proofs.Instance.Resumption
import Questionnaire.Proofs.Flow.Reply
import Questionnaire.Proofs.Call
import Questionnaire.Proofs.Flow.Report
import Questionnaire.Proofs.Discovery.Machine
import Questionnaire.Proofs.Discovery.Run
import Questionnaire.Proofs.Flow.Twins
import Questionnaire.Proofs.Discovery.Course
import Questionnaire.Proofs.Discovery.Embedding
import Questionnaire.Proofs.Flow.Restart
import Questionnaire.Proofs.Flow.Termination
import Questionnaire.Proofs.Flow.Direction
import Questionnaire.Proofs.Flow.Survival
import Questionnaire.Proofs.Flow.Completion
import Questionnaire.Proofs.Flow.Fuel
import Questionnaire.Proofs.Flow.Provenance
import Questionnaire.Proofs.Instance.Run
import Questionnaire.Proofs.Instance.Semantics
import Questionnaire.Proofs.Instance.Admission
import Questionnaire.Proofs.Instance.Ending
import Questionnaire.Proofs.Discovery.Twins
import Questionnaire.Proofs.Discovery.FreshStart
import Questionnaire.Proofs.Checkpoint.Delimited
import Questionnaire.Proofs.Instance.Control
import Questionnaire.Proofs.Instance.Walk
import Questionnaire.Proofs.Instance.Delivery
import Questionnaire.Proofs.Timestamp
import Questionnaire.Proofs.Checkpoint.Formats
import Questionnaire.Proofs.Definition.RoundTrip
import Questionnaire.Proofs.Definition.Faults
import Questionnaire.Proofs.Config
import Questionnaire.Proofs.Child.Guest
import Questionnaire.Proofs.Child.Household
import Questionnaire.Proofs.Discovery.SignIn
import Questionnaire.Proofs.Discovery.Alongside
import Questionnaire.Proofs.Definition.Violations
import Questionnaire.Proofs.Definition.Binding
import Questionnaire.Proofs.Instance.Advertisement
import Questionnaire.Proofs.Definition.Builder
import Questionnaire.Proofs.Event
import Questionnaire.Proofs.Definition.Grammar
import Questionnaire.Proofs.Flow.Log
import Questionnaire.Proofs.Instance.Snapshot
