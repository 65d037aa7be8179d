import Questionnaire.Flow.Machine
import Questionnaire.Json.Ordered

/-!
# The board of a flow

What the machine of a question flow keeps is a board: the progress, the answers, and
for each answer the index of the pod that gave it.  The machine's context is the board
written down, and each effect of the machine is a move on the board.
-/

namespace Questionnaire
namespace KeyMap

variable {α β : Type}

theorem map_insert (f : α → β) (source : KeyMap α) (key : String) (value : α) :
    (source.insert key value).map f = (source.map f).insert key (f value) := by
  apply ext_get?
  intro other
  simp only [get?_map, get?_insert]
  split <;> rfl

theorem map_eraseAll (f : α → β) (source : KeyMap α) (keys : List String) :
    (source.eraseAll keys).map f = (source.map f).eraseAll keys := by
  apply ext_get?
  intro other
  simp only [get?_map, get?_eraseAll]
  split <;> rfl

@[simp] theorem map_empty (f : α → β) : (∅ : KeyMap α).map f = ∅ := rfl

end KeyMap

namespace Json

@[simp] theorem nat?_ofNat (value : Nat) : (ofNat value).nat? = some value := rfl

theorem ofNat_injective {left right : Nat} (same : ofNat left = ofNat right) :
    left = right :=
  Int.ofNat.inj (Json.int.inj same)

end Json

namespace Flow

/-- What a flow keeps: the progress, the answers, and the pod that gave each. -/
@[ext]
structure Board where
  progress : Nat
  answers : Fields
  owners : KeyMap Nat

/-- A step of a flow: an answer is recorded, the next pod is asked, the previous one
is asked again, or the flow starts again. -/
inductive Move where
  | save (question : String) (answer : Json)
  | advance
  | retreat
  | restart
  deriving DecidableEq

namespace Board

/-- The owners of the answers as JSON values. -/
def ownerFields (board : Board) : Fields :=
  board.owners.map .ofNat

/-- The board written down. -/
def context (board : Board) : Fields :=
  contextOf board.progress board.answers board.ownerFields

/-- The questions that a step back makes stale. -/
def stale (pods : List Definition) (board : Board) : List String :=
  staleQuestions pods board.progress board.ownerFields

/-- The board after a move. -/
def after (pods : List Definition) (board : Board) : Move → Board
  | .save question answer => {
      progress := board.progress
      answers := board.answers.insert question answer
      owners := board.owners.insert question board.progress }
  | .advance => { board with progress := board.progress + 1 }
  | .retreat => {
      progress := board.progress - 1
      answers := board.answers.eraseAll (board.stale pods)
      owners := board.owners.eraseAll (board.stale pods) }
  | .restart => ⟨0, ∅, ∅⟩

/-! ## Reading a context -/

variable {board : Board} {pods : List Definition}

theorem get?_answerFields (answers owners : Fields) (key : String) :
    (answerFields answers owners).get? key =
      if key = ownersKey then some (.object owners)
      else if key = answersKey then some (.object answers) else none := by
  rw [answerFields, KeyMap.get?_ofList]
  simp only [List.reverse_cons, List.reverse_nil, List.nil_append, List.cons_append,
    KeyMap.lookup_cons_if, List.lookup_nil]

theorem get?_context (board : Board) (key : String) :
    board.context.get? key =
      if key = progressKey then some (.ofNat board.progress)
      else if key = ownersKey then some (.object board.ownerFields)
      else if key = answersKey then some (.object board.answers) else none := by
  rw [context, contextOf, KeyMap.get?_insert, get?_answerFields]

@[simp] theorem progressOf_context : progressOf board.context = board.progress := by
  simp [progressOf, get?_context]

theorem get?_context_answers (board : Board) :
    board.context.get? answersKey = some (.object board.answers) := by
  rw [get?_context]
  rfl

@[simp] theorem answers_context : fieldsOf board.context answersKey = board.answers := by
  simp [fieldsOf, get?_context_answers]

@[simp] theorem owners_context : fieldsOf board.context ownersKey = board.ownerFields := by
  have notProgress : ownersKey ≠ progressKey := by decide
  simp [fieldsOf, get?_context, notProgress]

theorem get?_ownerFields (board : Board) (question : String) :
    board.ownerFields.get? question = (board.owners.get? question).map .ofNat :=
  KeyMap.get?_map _ _ _

/-- The context of a board has the keys of the three things it keeps. -/
theorem keys_context (board : Board) :
    board.context.keys = [answersKey, ownersKey, progressKey] := by
  have answersBeforeOwners : ¬ownersKey < answersKey ∧ ownersKey ≠ answersKey := by decide
  have answersBeforeProgress : ¬progressKey < answersKey ∧ progressKey ≠ answersKey := by
    decide
  have ownersBeforeProgress : ¬progressKey < ownersKey ∧ progressKey ≠ ownersKey := by decide
  simp only [context, contextOf, answerFields, KeyMap.ofList, KeyMap.insertAll_cons,
    KeyMap.insertAll_nil, KeyMap.insert, KeyMap.entries_empty, KeyMap.insertEntry, KeyMap.keys,
    answersBeforeOwners, answersBeforeProgress, ownersBeforeProgress, if_false,
    List.map_cons, List.map_nil]

/-! ## Effects as moves -/

/-- Of the fields of an answer and its owner, all are put over those of a context. -/
theorem context_merge_answerFields (board : Board) (answers : Fields) (owners : KeyMap Nat) :
    board.context.merge (answerFields answers (owners.map .ofNat)) =
      (⟨board.progress, answers, owners⟩ : Board).context := by
  apply KeyMap.ext_get?
  intro key
  have distinct : ownersKey ≠ progressKey ∧ answersKey ≠ progressKey := by decide
  simp only [KeyMap.get?_merge, get?_answerFields, get?_context, ownerFields]
  split
  · simp_all
  · split <;> simp_all

theorem context_merge_progress (board : Board) (progress : Nat) :
    board.context.merge (.singleton progressKey (.ofNat progress)) =
      ({ board with progress } : Board).context := by
  apply KeyMap.ext_get?
  intro key
  simp only [KeyMap.get?_merge, KeyMap.get?_singleton, get?_context, ownerFields]
  split <;> simp

theorem context_merge_context (board other : Board) :
    board.context.merge other.context = other.context := by
  apply KeyMap.ext_get?
  intro key
  simp only [KeyMap.get?_merge, get?_context]
  split
  · rfl
  · split
    · rfl
    · split <;> rfl

theorem ownerFields_insert (board : Board) (question : String) (owner : Nat) :
    board.ownerFields.insert question (.ofNat owner) =
      (board.owners.insert question owner).map .ofNat :=
  (KeyMap.map_insert _ _ _ _).symm

/-- Recording an answer is a move on the board. -/
theorem merge_savedAnswer
    {input : Effect.Input}
    {question : String}
    (shown : input.context = board.context)
    (named : input.event.text? Pod.questionKey = some question) :
    board.context.merge (savedAnswer input) =
      (board.after pods
        (.save question ((input.event.get? Pod.answerKey).getD .null))).context := by
  rw [savedAnswer, named, shown]
  simp only [answers_context, owners_context, progressOf_context, ownerFields_insert]
  exact context_merge_answerFields _ _ _

/-- Going on is a move on the board. -/
theorem merge_advanced
    {input : Effect.Input}
    (shown : input.context = board.context) :
    board.context.merge (advanced input) = (board.after pods .advance).context := by
  rw [advanced, shown, progressOf_context]
  exact context_merge_progress _ _

/-- Stepping back is a move on the board. -/
theorem merge_retreated
    {input : Effect.Input}
    (shown : input.context = board.context) :
    board.context.merge (retreated pods input) = (board.after pods .retreat).context := by
  have written : retreated pods input = (board.after pods .retreat).context := by
    rw [retreated, shown]
    simp only [answers_context, owners_context, progressOf_context]
    rw [context, ownerFields, ownerFields, after]
    simp only [KeyMap.map_eraseAll]
    rfl
  rw [written, context_merge_context]

/-- Starting again is a move on the board. -/
theorem merge_restarted (board : Board) :
    board.context.merge (contextOf 0 ∅ ∅) = (board.after pods .restart).context :=
  context_merge_context board ⟨0, ∅, ∅⟩

/-! ## Stale questions -/

theorem mem_unwound_iff {progress index : Nat} :
    index ∈ unwound progress ↔ index = progress ∨ index = progress - 1 := by
  unfold unwound
  split
  · subst progress
    simp
  · simp

/-- A step back makes stale what an unwound pod has answered or can ask. -/
theorem mem_stale_iff {question : String} :
    question ∈ board.stale pods ↔
      (∃ index ∈ unwound board.progress, board.owners.get? question = some index) ∨
        ∃ index ∈ unwound board.progress, ∃ pod,
          pods[index]? = some pod ∧ question ∈ pod.questionIds := by
  have owned : question ∈ (board.ownerFields.filter fun _ owner =>
      ownedBy (unwound board.progress) owner).keys ↔
        ∃ index ∈ unwound board.progress, board.owners.get? question = some index := by
    rw [KeyMap.mem_keys_iff]
    simp only [KeyMap.get?_filter, get?_ownerFields]
    cases board.owners.get? question with
    | none => simp
    | some owner => simp [ownedBy, Option.filter]
  have asked : question ∈ ((unwound board.progress).flatMap fun index =>
      pods[index]?.elim [] Definition.questionIds) ↔
        ∃ index ∈ unwound board.progress, ∃ pod,
          pods[index]? = some pod ∧ question ∈ pod.questionIds := by
    rw [List.mem_flatMap]
    apply exists_congr
    intro index
    apply and_congr_right
    intro _
    cases pods[index]? <;> simp
  rw [stale, staleQuestions, List.mem_append, owned, asked]

end Board
end Flow
end Questionnaire
