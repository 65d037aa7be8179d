import Questionnaire.Proofs.Flow.Retreat

/-!
# Answers in scopes

The flat answer set of a flow stands for a stack of scopes, one for each pod up to the
progress, over the answers from before.  An answer belongs to the scope of the pod that
gave it; going on opens a scope, and stepping back closes one and empties the next.
When the pods ask different questions, the answers are the disjoint union of all scopes
and the base, and the owners tell the scope of each answer.
-/

namespace Questionnaire
namespace Flow

variable {κ : Type} {pods : List Definition} {board : Board} {pod : Definition}
  {question : Instance Unit} {flow : Flow κ} {now : Timestamp}

/-- The questions of the pod at an index. -/
def questionsAt (pods : List Definition) (index : Nat) : List String :=
  pods[index]?.elim [] Definition.questionIds

/-- No two pods can ask the same question. -/
def AskApart (pods : List Definition) : Prop :=
  pods.Pairwise fun left right => left.questionIds.Disjoint right.questionIds

/-- Answers from before, and those that each pod up to the progress has given. -/
structure Scopes where
  base : Fields
  layers : List Fields

namespace Scopes

/-- The index of the last layer. -/
def top (scopes : Scopes) : Nat :=
  scopes.layers.length - 1

/-- What a layer answers to a question. -/
def answer? (scopes : Scopes) (index : Nat) (name : String) : Option Json :=
  scopes.layers[index]?.bind (·.get? name)

/-- The scopes after a move. -/
def after (pods : List Definition) (scopes : Scopes) : Move → Scopes
  | .save name answer => {
      base := scopes.base.erase name
      layers := scopes.layers.modify scopes.top (·.insert name answer) }
  | .advance => { scopes with layers := scopes.layers ++ [∅] }
  | .retreat =>
    if scopes.top = 0 then {
      base := scopes.base.eraseAll (questionsAt pods 0)
      layers := [∅] }
    else {
      base := (scopes.base.eraseAll (questionsAt pods scopes.top)).eraseAll
        (questionsAt pods (scopes.top - 1))
      layers := scopes.layers.take (scopes.top - 1) ++ [∅] }
  | .restart => ⟨∅, [∅]⟩

/-- The scopes after several moves. -/
def afterAll (pods : List Definition) (scopes : Scopes) (moves : List Move) : Scopes :=
  moves.foldl (Scopes.after pods) scopes

/-- A board is what the scopes stand for when they are laid flat. -/
structure Represents (pods : List Definition) (scopes : Scopes) (board : Board) : Prop where
  depth : scopes.layers.length = board.progress + 1
  base : ∀ name, scopes.base.get? name =
    if board.owners.get? name = none then board.answers.get? name else none
  layer : ∀ index name, scopes.answer? index name =
    if board.owners.get? name = some index then board.answers.get? name else none
  answered : ∀ name index, board.owners.get? name = some index →
    (board.answers.get? name).isSome = true
  named : ∀ name index, board.owners.get? name = some index → name ∈ questionsAt pods index
  bounded : board.Bounded

variable {scopes : Scopes}

theorem Represents.top_eq (represents : Represents pods scopes board) :
    scopes.top = board.progress := by
  rw [top, represents.depth, Nat.add_sub_cancel]

/-- Two pods that can ask the same question are the same. -/
theorem index_eq_of_mem
    {left right : Nat}
    {name : String}
    (apart : AskApart pods)
    (inLeft : name ∈ questionsAt pods left)
    (inRight : name ∈ questionsAt pods right) :
    left = right := by
  unfold questionsAt at inLeft inRight
  cases foundLeft : pods[left]? with
  | none => simp [foundLeft] at inLeft
  | some first =>
    cases foundRight : pods[right]? with
    | none => simp [foundRight] at inRight
    | some second =>
      rw [foundLeft, Option.elim_some] at inLeft
      rw [foundRight, Option.elim_some] at inRight
      obtain ⟨leftInside, rfl⟩ := List.getElem?_eq_some_iff.1 foundLeft
      obtain ⟨rightInside, rfl⟩ := List.getElem?_eq_some_iff.1 foundRight
      have pairwise := List.pairwise_iff_getElem.1 apart
      rcases Nat.lt_trichotomy left right with less | same | more
      · exact absurd inRight (pairwise left right leftInside rightInside less inLeft)
      · exact same
      · exact absurd inLeft (pairwise right left rightInside leftInside more inRight)

/-! ## What each layer answers after a move -/

theorem answer?_save
    (filled : scopes.layers ≠ [])
    (name : String)
    (given : Json)
    (index : Nat)
    (other : String) :
    (scopes.after pods (.save name given)).answer? index other =
      if index = scopes.top ∧ other = name then some given else scopes.answer? index other := by
  have inside : scopes.top < scopes.layers.length := by
    have := List.length_pos_of_ne_nil filled
    unfold top
    omega
  simp only [after, answer?, List.getElem?_modify]
  by_cases here : index = scopes.top
  · subst here
    simp [List.getElem?_eq_getElem inside, KeyMap.get?_insert]
  · simp [here, Ne.symm here]

theorem answer?_advance (index : Nat) (name : String) :
    (scopes.after pods .advance).answer? index name = scopes.answer? index name := by
  simp only [after, answer?, List.getElem?_append]
  split
  · rfl
  · rename_i beyond
    rw [List.getElem?_eq_none (Nat.le_of_not_lt beyond)]
    cases index - scopes.layers.length <;> simp

theorem layers_retreat (pods : List Definition) (scopes : Scopes) :
    (scopes.after pods .retreat).layers = scopes.layers.take (scopes.top - 1) ++ [∅] := by
  simp only [after]
  split
  · rename_i bottom
    simp [bottom]
  · rfl

theorem answer?_retreat (index : Nat) (name : String) :
    (scopes.after pods .retreat).answer? index name =
      if index < scopes.top - 1 then scopes.answer? index name else none := by
  have short : scopes.top - 1 ≤ scopes.layers.length := by
    unfold top
    omega
  rw [answer?, layers_retreat, List.getElem?_append, List.length_take, Nat.min_eq_left short]
  split
  · rename_i below
    rw [List.getElem?_take_of_lt below, answer?]
  · cases index - (scopes.top - 1) <;> simp

theorem base_retreat (name : String) :
    (scopes.after pods .retreat).base.get? name =
      if name ∈ questionsAt pods scopes.top ∨ name ∈ questionsAt pods (scopes.top - 1) then none
      else scopes.base.get? name := by
  simp only [after]
  split
  · rename_i bottom
    simp [bottom, KeyMap.get?_eraseAll]
  · simp only [KeyMap.get?_eraseAll]
    by_cases here : name ∈ questionsAt pods scopes.top <;> simp [here]

end Scopes

/-- What a step back drops: what an unwound pod has given, and what it can ask. -/
theorem Board.mem_stale_iff_questionsAt {name : String} :
    name ∈ board.stale pods ↔
      (board.owners.get? name = some board.progress ∨
        board.owners.get? name = some (board.progress - 1)) ∨
      name ∈ questionsAt pods board.progress ∨
        name ∈ questionsAt pods (board.progress - 1) := by
  have asks (index : Nat) : name ∈ questionsAt pods index ↔
      ∃ pod, pods[index]? = some pod ∧ name ∈ pod.questionIds := by
    unfold questionsAt
    cases pods[index]? <;> simp
  simp only [mem_stale_iff, mem_unwound_iff, or_and_right, exists_or, exists_eq_left, asks]

namespace Scopes

variable {scopes : Scopes}

/-! ## Each move keeps what the scopes stand for -/

theorem Represents.filled (represents : Represents pods scopes board) : scopes.layers ≠ [] :=
  List.ne_nil_of_length_pos (by rw [represents.depth]; omega)

/-- An answer to a question of the pod at the progress goes to the last scope. -/
theorem Represents.save
    {name : String}
    (represents : Represents pods scopes board)
    (apart : AskApart pods)
    (asks : name ∈ questionsAt pods board.progress)
    (given : Json) :
    Represents pods (scopes.after pods (.save name given))
      (board.after pods (.save name given)) where
  depth := by simpa [after, Board.after] using represents.depth
  base other := by
    simp only [after, Board.after, KeyMap.get?_erase, KeyMap.get?_insert, represents.base other]
    split <;> simp
  layer index other := by
    rw [answer?_save represents.filled, represents.top_eq, represents.layer]
    simp only [Board.after, KeyMap.get?_insert]
    by_cases same : other = name
    · subst same
      by_cases here : index = board.progress
      · simp [here]
      · have elsewhere : board.owners.get? other ≠ some index := fun owned =>
          here (index_eq_of_mem apart (represents.named other index owned) asks)
        simp [here, Ne.symm here, elsewhere]
    · simp [same]
  answered other index owned := by
    simp only [Board.after, KeyMap.get?_insert] at owned ⊢
    split
    · rfl
    · rename_i different
      rw [if_neg different] at owned
      exact represents.answered other index owned
  named other index owned := by
    simp only [Board.after, KeyMap.get?_insert] at owned
    split at owned
    · rename_i same
      rw [same, ← Option.some.inj owned]
      exact asks
    · exact represents.named other index owned
  bounded := represents.bounded.after _

/-- Going on opens a scope. -/
theorem Represents.advance (represents : Represents pods scopes board) :
    Represents pods (scopes.after pods .advance) (board.after pods .advance) where
  depth := by
    simpa [after, Board.after] using represents.depth
  base := represents.base
  layer index name := by
    rw [answer?_advance]
    exact represents.layer index name
  answered := represents.answered
  named := represents.named
  bounded := represents.bounded.after _

/-- Stepping back does not reach the answers of the pods before the previous one. -/
theorem Represents.notMem_stale
    {index : Nat}
    {name : String}
    (represents : Represents pods scopes board)
    (apart : AskApart pods)
    (owned : board.owners.get? name = some index)
    (below : index < board.progress - 1) :
    name ∉ board.stale pods := by
  intro stale
  have asks := represents.named name index owned
  rcases Board.mem_stale_iff_questionsAt.1 stale with (gave | gave) | other | other
  · have same := Option.some.inj (owned.symm.trans gave)
    omega
  · have same := Option.some.inj (owned.symm.trans gave)
    omega
  · have same := index_eq_of_mem apart asks other
    omega
  · have same := index_eq_of_mem apart asks other
    omega

/-- Stepping back closes the last scope and empties the one before it. -/
theorem Represents.retreat
    (represents : Represents pods scopes board)
    (apart : AskApart pods) :
    Represents pods (scopes.after pods .retreat) (board.after pods .retreat) where
  depth := by
    have depth := represents.depth
    rw [layers_retreat, represents.top_eq, List.length_append, List.length_take,
      List.length_singleton]
    simp only [Board.after]
    omega
  base name := by
    rw [base_retreat, represents.top_eq, represents.base]
    simp only [Board.after, KeyMap.get?_eraseAll, Board.mem_stale_iff_questionsAt]
    by_cases asks : name ∈ questionsAt pods board.progress ∨
        name ∈ questionsAt pods (board.progress - 1)
    · simp [asks]
    · cases owned : board.owners.get? name with
      | none => simp [asks]
      | some owner =>
        by_cases unwinds : owner = board.progress ∨ owner = board.progress - 1 <;>
          simp [asks, unwinds]
  layer index name := by
    rw [answer?_retreat, represents.top_eq, represents.layer]
    by_cases below : index < board.progress - 1
    · rw [if_pos below]
      simp only [Board.after, KeyMap.get?_eraseAll]
      by_cases stale : name ∈ board.stale pods
      · have elsewhere : board.owners.get? name ≠ some index := by
          intro owned
          exact represents.notMem_stale apart owned below stale
        simp [stale, elsewhere]
      · simp [stale]
    · have closed : (board.after pods .retreat).owners.get? name ≠ some index := by
        intro owned
        obtain ⟨before, notHere, notPrevious⟩ := Board.owner_after_retreat owned
        have := represents.bounded name index before
        omega
      rw [if_neg below, if_neg closed]
  answered name index owned := by
    obtain ⟨before, fresh⟩ := Board.notMem_stale_of_owner owned
    simp only [Board.after, KeyMap.get?_eraseAll, fresh, if_false]
    exact represents.answered name index before
  named name index owned :=
    represents.named name index (Board.owner_after_retreat owned).1
  bounded := represents.bounded.after _

theorem represents_restart (pods : List Definition) (scopes : Scopes) (board : Board) :
    Represents pods (scopes.after pods .restart) (board.after pods .restart) where
  depth := rfl
  base name := by simp [after, Board.after]
  layer index name := by cases index <;> simp [after, Board.after, answer?]
  answered name index owned := by simp [Board.after] at owned
  named name index owned := by simp [Board.after] at owned
  bounded := fun name owner owned => by simp [Board.after] at owned

/-! ## Runs -/

theorem afterAll_append (first second : List Move) :
    scopes.afterAll pods (first ++ second) =
      (scopes.afterAll pods first).afterAll pods second :=
  List.foldl_append

theorem Represents.after_steps
    {steps : List Move}
    (represents : Represents pods scopes board)
    (apart : AskApart pods)
    (each : ∀ move ∈ steps, move = .advance ∨ move = .retreat) :
    Represents pods (scopes.afterAll pods steps) (board.afterAll pods steps) := by
  induction steps generalizing scopes board with
  | nil => exact represents
  | cons move steps ih =>
    have later (other : Move) (member : other ∈ steps) :=
      each other (List.mem_cons_of_mem _ member)
    rcases each move List.mem_cons_self with rfl | rfl
    · exact ih represents.advance later
    · exact ih (represents.retreat apart) later

theorem Represents.after_saves
    {saves : List Move}
    {name : String}
    (represents : Represents pods scopes board)
    (apart : AskApart pods)
    (asks : name ∈ questionsAt pods board.progress)
    (each : ∀ move ∈ saves, ∃ answer, move = .save name answer) :
    Represents pods (scopes.afterAll pods saves) (board.afterAll pods saves) := by
  induction saves generalizing scopes board with
  | nil => exact represents
  | cons move saves ih =>
    obtain ⟨given, rfl⟩ := each move List.mem_cons_self
    exact ih (represents.save apart asks given) asks
      fun other member => each other (List.mem_cons_of_mem _ member)

end Scopes

/-- An action that names a question by a text names one of the pod being asked. -/
def Action.NamesOwn (flow : Flow κ) : Action κ → Prop
  | .send _ event => ∀ name ∈ event.text? Pod.questionKey, ∀ question ∈ flow.question?,
      name ∈ question.definition.questionIds
  | _ => True

instance (flow : Flow κ) : (action : Action κ) → Decidable (action.NamesOwn flow)
  | .send _ event => inferInstanceAs (Decidable (∀ name ∈ event.text? Pod.questionKey,
      ∀ question ∈ flow.question?, name ∈ question.definition.questionIds))
  | .start _ | .subscribe _ | .unsubscribe _ => .isTrue trivial

/-- Every action of a run that names a question names one of the pod being asked. -/
def NameOwn : List (Action κ) → Flow κ → Prop
  | [], _ => True
  | action :: rest, flow =>
    action.NamesOwn flow ∧ ∀ next ∈ perform action flow, NameOwn rest next

instance decidableNameOwn :
    (actions : List (Action κ)) → (flow : Flow κ) → Decidable (NameOwn actions flow)
  | [], _ => .isTrue trivial
  | action :: rest, flow =>
    have (next : Flow κ) : Decidable (NameOwn rest next) := decidableNameOwn rest next
    inferInstanceAs (Decidable (action.NamesOwn flow ∧
      ∀ next ∈ perform action flow, NameOwn rest next))

/-- The question that an event answers is one of the pod being asked. -/
theorem Asking.answeredName_mem
    {event : Event}
    (asking : Asking pods board pod question [] flow)
    (own : (Action.send now event).NamesOwn flow) :
    answeredName event question ∈ questionsAt pods board.progress := by
  have asked : flow.question? = some question := by
    rw [question?, asking.active]
    rfl
  rw [questionsAt, asking.found, Option.elim_some, answeredName]
  cases named : event.text? Pod.questionKey with
  | none => exact asking.asked.current_mem_questionIds asking.question_running
  | some name =>
    have mine := own name named question asked
    rwa [asking.asked.definition] at mine

namespace Scopes

variable {scopes : Scopes}

/-- Whatever an action does to the board, it does to the scopes. -/
theorem Represents.perform
    {started : Bool}
    {action : Action κ}
    {next : Flow κ}
    (represents : Represents pods scopes board)
    (rest : AtRest pods board started flow)
    (apart : AskApart pods)
    (own : action.NamesOwn flow)
    (returned : perform action flow = some next) :
    Represents pods (scopes.afterAll pods (movesOf action flow))
      (board.afterAll pods (movesOf action flow)) := by
  cases action with
  | start now =>
    obtain ⟨turn, startReturned, rfl⟩ := Option.map_eq_some_iff.1 returned
    cases started with
    | false =>
      have unstarted : Unstarted pods board flow := rest
      rw [movesOf_start unstarted.idle]
      exact represents.after_steps apart (unstarted.start startReturned).2
    | true =>
      rw [movesOf_start_of_begun (Resting.begun rest)]
      exact represents
  | send now event =>
    obtain ⟨turn, sendReturned, rfl⟩ := Option.map_eq_some_iff.1 returned
    by_cases running : flow.machine.status = .running
    · obtain ⟨pod, question, asking⟩ := rest.asking_of_running running
      by_cases kind : event.kind = startFreshEvent
      · rw [movesOf_restart kind running]
        exact (represents_restart pods scopes board).after_steps apart
          (asking.restart kind sendReturned).2
      · obtain ⟨saves, steps, moves, answering, _, _⟩ :=
          asking.send rest.quiet kind sendReturned
        have asks := asking.answeredName_mem own
        rw [movesOf_send fun both => kind both.1, moves, afterAll_append, Board.afterAll_append]
        exact (represents.after_saves apart asks answering.saves).after_steps apart
          answering.steps
    · rw [movesOf_send fun both => running both.2, (send_of_not_running running sendReturned).2]
      exact represents
  | subscribe outlet => exact represents
  | unsubscribe subscription => exact represents

theorem Represents.run
    {started : Bool}
    {actions : List (Action κ)}
    {last : Flow κ}
    (represents : Represents pods scopes board)
    (rest : AtRest pods board started flow)
    (apart : AskApart pods)
    (own : NameOwn actions flow)
    (returned : Flow.run actions flow = some last) :
    Represents pods (scopes.afterAll pods (runMoves actions flow))
      (board.afterAll pods (runMoves actions flow)) := by
  induction actions generalizing scopes board started flow with
  | nil => exact represents
  | cons action actions ih =>
    obtain ⟨next, performed, later⟩ := Option.bind_eq_some_iff.1 returned
    have moved := ih (represents.perform rest apart own.1 performed) (rest.perform performed)
      (own.2 next performed) later
    rw [runMoves, performed, Option.elim_some, afterAll_append, Board.afterAll_append]
    exact moved

/-- Two sets of answers have no question in common. -/
def Apart (left right : Fields) : Prop :=
  ∀ name, left.get? name = none ∨ right.get? name = none

/-- The answers of a flow are the disjoint union of the base and all layers, and its
owners tell the layer of each answer that is not in the base. -/
structure Refines (scopes : Scopes) (flow : Flow κ) : Prop where
  depth : scopes.layers.length = flow.progress + 1
  baseApart : ∀ layer ∈ scopes.layers, Apart scopes.base layer
  layersApart : scopes.layers.Pairwise Apart
  answers : ∀ name value, flow.answers.get? name = some value ↔
    scopes.base.get? name = some value ∨
      ∃ layer ∈ scopes.layers, layer.get? name = some value
  owners : ∀ name owner, flow.owners.get? name = some owner ↔
    ∃ index layer value, scopes.layers[index]? = some layer ∧
      layer.get? name = some value ∧ owner = .ofNat index

theorem answer?_eq_some_iff {index : Nat} {name : String} {value : Json} :
    scopes.answer? index name = some value ↔
      ∃ layer, scopes.layers[index]? = some layer ∧ layer.get? name = some value :=
  Option.bind_eq_some_iff

/-- What is in a layer is an answer of the board, and the layer is its owner. -/
theorem Represents.of_layer
    {index : Nat}
    {layer : Fields}
    {name : String}
    {value : Json}
    (represents : Represents pods scopes board)
    (found : scopes.layers[index]? = some layer)
    (answers : layer.get? name = some value) :
    board.owners.get? name = some index ∧ board.answers.get? name = some value := by
  have told := answer?_eq_some_iff.2 ⟨layer, found, answers⟩
  rw [represents.layer] at told
  split at told
  · rename_i owned
    exact ⟨owned, told⟩
  · simp at told

/-- An answer that has an owner is in the owner's layer. -/
theorem Represents.exists_layer
    {index : Nat}
    {name : String}
    (represents : Represents pods scopes board)
    (owned : board.owners.get? name = some index) :
    ∃ layer value, scopes.layers[index]? = some layer ∧ layer.get? name = some value ∧
      board.answers.get? name = some value := by
  obtain ⟨value, answered⟩ := Option.isSome_iff_exists.1 (represents.answered name index owned)
  have told : scopes.answer? index name = some value := by
    simp [represents.layer, owned, answered]
  obtain ⟨layer, found, inLayer⟩ := answer?_eq_some_iff.1 told
  exact ⟨layer, value, found, inLayer, answered⟩

theorem Represents.baseApart
    {layer : Fields}
    (represents : Represents pods scopes board)
    (member : layer ∈ scopes.layers) :
    Apart scopes.base layer := by
  intro name
  obtain ⟨index, found⟩ := List.getElem?_of_mem member
  cases answered : layer.get? name with
  | none => exact .inr rfl
  | some value =>
    have owned := (represents.of_layer found answered).1
    exact .inl (by simp [represents.base, owned])

theorem Represents.layersApart (represents : Represents pods scopes board) :
    scopes.layers.Pairwise Apart := by
  rw [List.pairwise_iff_getElem]
  intro left right leftInside rightInside less name
  cases answeredLeft : scopes.layers[left].get? name with
  | none => exact .inl rfl
  | some value =>
    cases answeredRight : scopes.layers[right].get? name with
    | none => exact .inr rfl
    | some other =>
      have first := represents.of_layer (List.getElem?_eq_getElem leftInside) answeredLeft
      have second := represents.of_layer (List.getElem?_eq_getElem rightInside) answeredRight
      have same := Option.some.inj (first.1.symm.trans second.1)
      omega

/-- What the board answers is in the base or in a layer. -/
theorem Represents.answers_iff
    (represents : Represents pods scopes board)
    (name : String)
    (value : Json) :
    board.answers.get? name = some value ↔
      scopes.base.get? name = some value ∨
        ∃ layer ∈ scopes.layers, layer.get? name = some value := by
  constructor
  · intro answered
    cases owned : board.owners.get? name with
    | none => exact .inl (by simp [represents.base, owned, answered])
    | some index =>
      obtain ⟨layer, other, found, inLayer, told⟩ := represents.exists_layer owned
      have same : other = value := Option.some.inj (told.symm.trans answered)
      exact .inr ⟨layer, List.mem_of_getElem? found, same ▸ inLayer⟩
  · rintro (before | ⟨layer, member, inLayer⟩)
    · rw [represents.base] at before
      split at before
      · exact before
      · simp at before
    · obtain ⟨index, found⟩ := List.getElem?_of_mem member
      exact (represents.of_layer found inLayer).2

theorem Represents.refines
    (represents : Represents pods scopes board)
    (keeps : Keeps pods board flow.machine) :
    Refines scopes flow where
  depth := by rw [represents.depth, keeps.progress_eq]
  baseApart := fun _ => represents.baseApart
  layersApart := represents.layersApart
  answers := by
    rw [keeps.answers_eq]
    exact represents.answers_iff
  owners := by
    intro name owner
    rw [keeps.owners_eq, Board.get?_ownerFields]
    constructor
    · intro owned
      obtain ⟨index, owns, rfl⟩ := Option.map_eq_some_iff.1 owned
      obtain ⟨layer, value, found, inLayer, _⟩ := represents.exists_layer owns
      exact ⟨index, layer, value, found, inLayer, rfl⟩
    · rintro ⟨index, layer, value, found, inLayer, rfl⟩
      rw [(represents.of_layer found inLayer).1]
      rfl

end Scopes

/-- When the pods of a flow ask different questions, and every event that names a
question names one of the pod being asked, then after every run the answers and owners
are the scopes laid flat that the moves of the run lead to. -/
theorem refines_scopes_of_run
    {id : InstanceId}
    {seeds : Fields}
    {first last : Flow κ}
    {actions : List (Action κ)}
    (created : Flow.create id pods seeds = .ok first)
    (apart : AskApart pods)
    (own : NameOwn actions first)
    (returned : Flow.run actions first = some last) :
    ((⟨seeds, [∅]⟩ : Scopes).afterAll pods (runMoves actions first)).Refines last := by
  have unstarted := unstarted_of_create created
  have represents : Scopes.Represents pods ⟨seeds, [∅]⟩ ⟨0, seeds, ∅⟩ := {
    depth := rfl
    base := by simp
    layer := fun index name => by cases index <;> simp [Scopes.answer?]
    answered := by simp
    named := by simp
    bounded := fun _ _ owned => by simp at owned }
  have rest : AtRest pods ⟨0, seeds, ∅⟩ false first := unstarted
  exact (represents.run rest apart own returned).refines (atRest_of_run created returned).keeps

/-- Two questions, one after the other. -/
def interview : List Definition :=
  [questionPod "name", questionPod "colour"]

/-- The first question is answered, asked again and answered anew. -/
def secondThoughts : List (Action Unit) :=
  [.start default, .send default (.ofKind Pod.submit), .send default (.ofKind Pod.goBack),
    .send default ((Event.ofKind Pod.submit).withField Pod.questionKey (.str "name"))]

theorem askApart_interview : AskApart interview := by
  have first : (questionPod "name").questionIds = ["name"] := by decide +kernel
  have second : (questionPod "colour").questionIds = ["colour"] := by decide +kernel
  unfold AskApart interview
  rw [List.pairwise_pair, first, second]
  simp

/-- An answer from before that is given again, withdrawn and given anew is in the scope
of the pod that gave it. -/
theorem refines_scopes_of_secondThoughts :
    ∃ first last : Flow Unit,
      Flow.create hostId interview (.singleton "name" (.str "before")) = .ok first ∧
      Flow.run secondThoughts first = some last ∧ last.progress = 1 ∧
      ((⟨.singleton "name" (.str "before"), [∅]⟩ : Scopes).afterAll interview
        (runMoves secondThoughts first)).Refines last := by
  obtain ⟨first, last, created, returned, passed⟩ :=
    exists_run_of_check hostId interview (.singleton "name" (.str "before")) secondThoughts
      (fun first last => decide (last.progress = 1) && decide (NameOwn secondThoughts first))
      (by decide +kernel)
  rw [Bool.and_eq_true, decide_eq_true_eq, decide_eq_true_eq] at passed
  exact ⟨first, last, created, returned, passed.1,
    refines_scopes_of_run created askApart_interview passed.2 returned⟩

end Flow
end Questionnaire
