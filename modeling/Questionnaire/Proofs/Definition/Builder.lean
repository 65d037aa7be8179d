import Mathlib.Data.List.Induction
import Mathlib.Data.List.Nodup
import Questionnaire.Definition.Builder
import Questionnaire.Proofs.Definition.Violations

/-!
# What is built

A caller puts a definition together by a sequence of requests.  Which definition the requests
describe is said here without building anything: of several requests for one thing the last
one counts, and states may be added in any order, but none twice.  What is described is what is
built, if it is valid; and every valid definition can be described.
-/

namespace Questionnaire

/-- A list of bindings with distinct keys has the bindings of its map. -/
theorem KeyMap.get?_ofList_eq_some_iff
    {α : Type}
    {entries : List (String × α)}
    {key : String}
    {value : α}
    (distinct : (entries.map Prod.fst).Nodup) :
    (ofList entries).get? key = some value ↔ (key, value) ∈ entries := by
  constructor
  · intro found
    rw [get?_ofList] at found
    exact List.mem_reverse.1 (mem_of_lookup_eq_some found)
  · intro member
    obtain ⟨other, found⟩ := mem_keys_iff.1 (mem_keys_ofList_iff.2 ⟨value, member⟩)
    have listed : (key, other) ∈ entries := by
      rw [get?_ofList] at found
      exact List.mem_reverse.1 (mem_of_lookup_eq_some found)
    cases List.inj_on_of_nodup_map distinct listed member rfl
    exact found

/-! ## The last value -/

section Latest

variable {α β : Type} (value? : α → Option β)

/-- The value of the last item that has one. -/
def latest? (items : List α) : Option β :=
  items.reverse.findSome? value?

theorem latest?_append (earlier later : List α) :
    latest? value? (earlier ++ later) = (latest? value? later).or (latest? value? earlier) := by
  rw [latest?, List.reverse_append, List.findSome?_append]
  rfl

@[simp] theorem latest?_singleton (item : α) : latest? value? [item] = value? item := by
  simp [latest?]

theorem latest?_cons (item : α) (items : List α) :
    latest? value? (item :: items) = (latest? value? items).or (value? item) := by
  rw [← List.singleton_append, latest?_append, latest?_singleton]

theorem latest?_concat (items : List α) (item : α) :
    latest? value? (items ++ [item]) = (value? item).or (latest? value? items) := by
  rw [latest?_append, latest?_singleton]

theorem exists_of_latest?_eq_some
    {value? : α → Option β}
    {items : List α}
    {value : β}
    (found : latest? value? items = some value) :
    ∃ item ∈ items, value? item = some value := by
  obtain ⟨item, member, valued⟩ := List.exists_of_findSome?_eq_some found
  exact ⟨item, List.mem_reverse.1 member, valued⟩

theorem latest?_eq_none_iff
    {value? : α → Option β}
    {items : List α} :
    latest? value? items = none ↔ ∀ item ∈ items, value? item = none := by
  simp [latest?]

end Latest

/-- The transition that is put together from a target, if there is one, and effects. -/
def Transition.assembled (target : Option String) (effects : List String) : Transition :=
  effects.foldl withEffect (target.elim internal goingTo)

theorem Transition.assembled_eq (target : Option String) (effects : List String) :
    assembled target effects = ⟨target, effects⟩ := by
  induction effects using List.reverseRecOn with
  | nil => cases target <;> rfl
  | append_singleton effects effect ih =>
    have step : assembled target (effects ++ [effect]) =
        (assembled target effects).withEffect effect := List.foldl_concat ..
    rw [step, ih]
    rfl

/-! ## States -/

namespace StateBuilder

/-- What a caller asks of a state in the making. -/
inductive Request where
  | on (event : String) (target : Option String) (effects : List String)
  | goto (event target : String)
  | terminal
  | output (output : OutputBuilder)
  | presented (presentation : Json)

/-- The state after a request. -/
def perform (state : StateBuilder) : Request → StateBuilder
  | .on event target effects => state.on event (.assembled target effects)
  | .goto event target => state.goto event target
  | .terminal => state.terminal
  | .output output => state.output output
  | .presented presentation => state.presented presentation

/-- The state after several requests. -/
def assembled (id : String) (requests : List Request) : StateBuilder :=
  requests.foldl perform { id }

namespace Request

/-- The transition that is asked for on an event type. -/
def transition? (event : String) : Request → Option Transition
  | .on other target effects => if other = event then some ⟨target, effects⟩ else none
  | .goto other target => if other = event then some ⟨some target, []⟩ else none
  | _ => none

/-- Whether the state is asked to end the machine. -/
def ends : Request → Bool
  | .terminal => true
  | .output _ => true
  | _ => false

/-- The output that is asked for. -/
def output? : Request → Option OutputBuilder
  | .output given => some given
  | _ => none

/-- The presentation data that is asked for. -/
def presentation? : Request → Option Json
  | .presented given => some given
  | _ => none

end Request

/-- The state that some requests ask for: it reacts to an event as the last request on the event
says, ends the machine if any request says so, and has the output and the presentation data of
the last request for one. -/
structure Describes (requests : List Request) (node : StateNode) : Prop where
  on : ∀ event, node.on.get? event = latest? (Request.transition? event) requests
  terminal : node.terminal = requests.any Request.ends
  output : node.output = latest? Request.output? requests
  presentation : node.presentation = (latest? Request.presentation? requests).getD .null

variable {requests : List Request} {node other : StateNode}

theorem Describes.unique (describes : Describes requests node)
    (describesOther : Describes requests other) : node = other := by
  obtain ⟨on, terminal, output, presentation⟩ := node
  obtain ⟨otherOn, otherTerminal, otherOutput, otherPresentation⟩ := other
  congr 1
  · exact KeyMap.ext_get? fun event => (describes.on event).trans (describesOther.on event).symm
  · exact describes.terminal.trans describesOther.terminal.symm
  · exact describes.output.trans describesOther.output.symm
  · exact describes.presentation.trans describesOther.presentation.symm

theorem get?_on_node
    (state : StateBuilder)
    (kind event : String)
    (transition : Transition) :
    (state.on kind transition).node.on.get? event =
      (if kind = event then some transition else none).or (state.node.on.get? event) := by
  simp only [StateBuilder.on, KeyMap.get?_insert, eq_comm (a := event)]
  split <;> simp

/-- Every request does to a state what it says. -/
theorem Describes.perform
    {state : StateBuilder}
    (describes : Describes requests state.node)
    (request : Request) :
    Describes (requests ++ [request]) (state.perform request).node := by
  constructor
  · intro event
    rw [latest?_concat, ← describes.on event]
    cases request with
    | on kind target effects =>
      rw [StateBuilder.perform, Transition.assembled_eq, get?_on_node]
      rfl
    | goto kind target => exact state.get?_on_node kind event ⟨some target, []⟩
    | terminal => rfl
    | output given => rfl
    | presented given => rfl
  · rw [List.any_append, ← describes.terminal]
    cases request <;> simp [StateBuilder.perform, StateBuilder.on, StateBuilder.goto,
      StateBuilder.terminal, StateBuilder.output, StateBuilder.presented, Request.ends]
  · rw [latest?_concat, ← describes.output]
    cases request <;> rfl
  · rw [latest?_concat, Option.getD_or, ← describes.presentation]
    cases request <;> rfl

theorem id_assembled (id : String) (requests : List Request) : (assembled id requests).id = id := by
  induction requests using List.reverseRecOn with
  | nil => rfl
  | append_singleton requests request ih =>
    have step : assembled id (requests ++ [request]) =
        (assembled id requests).perform request := List.foldl_concat ..
    rw [step]
    cases request <;> exact ih

theorem describes_assembled (id : String) (requests : List Request) :
    Describes requests (assembled id requests).node := by
  induction requests using List.reverseRecOn with
  | nil => exact ⟨fun _ => rfl, rfl, rfl, rfl⟩
  | append_singleton requests request ih =>
    have step : assembled id (requests ++ [request]) =
        (assembled id requests).perform request := List.foldl_concat ..
    rw [step]
    exact ih.perform request

/-- Whoever asks for an output asks for the end of the machine. -/
theorem Describes.terminal_of_output
    {output : OutputBuilder}
    (describes : Describes requests node)
    (outputs : node.output = some output) :
    node.terminal = true := by
  rw [describes.output] at outputs
  obtain ⟨request, member, given⟩ := exists_of_latest?_eq_some outputs
  rw [describes.terminal, List.any_eq_true]
  refine ⟨request, member, ?_⟩
  cases request with
  | output given => rfl
  | _ => cases given

/-- Requests for a given state. -/
def requestsFor (node : StateNode) : List Request :=
  node.on.entries.map (fun (event, transition) => .on event transition.target transition.effects)
    ++ (if node.terminal then [.terminal] else [])
    ++ node.output.toList.map .output
    ++ [.presented node.presentation]

theorem latest?_transition?_map_on (event : String) (entries : List (String × Transition)) :
    latest? (Request.transition? event)
        (entries.map fun (event, transition) =>
          .on event transition.target transition.effects) =
      entries.reverse.lookup event := by
  rw [latest?, ← List.map_reverse, List.findSome?_map, List.lookup_eq_findSome?]
  congr 1
  funext ⟨kind, transition⟩
  by_cases same : kind = event <;> simp [Request.transition?, same, Ne.symm]

theorem latest?_output?_map_on (entries : List (String × Transition)) :
    latest? Request.output?
        (entries.map fun (event, transition) =>
          .on event transition.target transition.effects) = none := by
  rw [latest?_eq_none_iff, List.forall_mem_map]
  intro entry _
  rfl

/-- Every state that ends the machine or has no output can be asked for. -/
theorem describes_requestsFor
    (proper : ∀ output, node.output = some output → node.terminal = true) :
    Describes (requestsFor node) node := by
  constructor
  · intro event
    simp only [requestsFor, latest?_append, latest?_singleton, latest?_transition?_map_on,
      KeyMap.lookup_reverse_of_increasing node.on.increasing]
    cases node.terminal <;> cases node.output <;> rfl
  · cases terminal : node.terminal with
    | true => simp [requestsFor, terminal, Request.ends]
    | false =>
      have silent : node.output = none :=
        Option.eq_none_iff_forall_ne_some.2 fun output outputs =>
          Bool.false_ne_true (terminal.symm.trans (proper output outputs))
      simp [requestsFor, terminal, silent, Request.ends]
  · simp only [requestsFor, latest?_append, latest?_singleton, latest?_output?_map_on]
    cases node.terminal <;> cases node.output <;> rfl
  · simp [requestsFor, latest?_append, Request.presentation?]

end StateBuilder

/-! ## Definitions -/

namespace DefinitionBuilder

/-- What a caller asks of a definition in the making. -/
inductive Request where
  | startingIn (initial : String)
  | state (id : String) (requests : List StateBuilder.Request)

/-- The definition in the making after a request. -/
def perform (builder : DefinitionBuilder) : Request → DefinitionBuilder
  | .startingIn initial => builder.startingIn initial
  | .state id requests => builder.state (.assembled id requests)

/-- The definition in the making after several requests. -/
def assembled (id : String) (requests : List Request) : DefinitionBuilder :=
  requests.foldl perform { id }

namespace Request

/-- The initial state that is asked for. -/
def initial? : Request → Option String
  | .startingIn initial => some initial
  | .state _ _ => none

/-- The state that is added, with what is asked of it. -/
def added? : Request → Option (String × List StateBuilder.Request)
  | .startingIn _ => none
  | .state id requests => some (id, requests)

end Request

/-- A state that is added, once it was put together. -/
def assembledState (state : String × List StateBuilder.Request) : StateBuilder :=
  .assembled state.1 state.2

/-- The states that some requests add, in order. -/
def added (requests : List Request) : List (String × List StateBuilder.Request) :=
  requests.filterMap Request.added?

/-- The definition that some requests ask for: it starts in the initial state of the last request
for one, and has the states that are added. -/
structure Describes (id : String) (requests : List Request) (definition : Definition) :
    Prop where
  id : definition.id = id
  initial : latest? Request.initial? requests = some definition.initial
  states : ∀ name node, definition.states.get? name = some node ↔
    ∃ parts, (name, parts) ∈ added requests ∧ StateBuilder.Describes parts node

/-- What building makes of some requests.  Without an initial state it fails, whatever else is
wrong.  A state that was added before is the error otherwise, and the first such state in the
order of the requests.  Then the described definition is built if it is valid, and all its
violations are the error if it is not. -/
inductive Answers (id : String) (requests : List Request) : Except BuildError Definition → Prop
  | incomplete
      (unset : ∀ initial, .startingIn initial ∉ requests) :
      Answers id requests (.error (.missingInitialState id))
  | repeated
      {initial name : String}
      {parts : List StateBuilder.Request}
      {earlier later : List (String × List StateBuilder.Request)}
      (set : .startingIn initial ∈ requests)
      (split : added requests = earlier ++ (name, parts) :: later)
      (distinct : (earlier.map Prod.fst).Nodup)
      (again : name ∈ earlier.map Prod.fst) :
      Answers id requests (.error (.duplicateState id name))
  | invalid
      {definition : Definition}
      (distinct : ((added requests).map Prod.fst).Nodup)
      (describes : Describes id requests definition)
      (broken : definition.violations ≠ []) :
      Answers id requests (.error (.invalidDefinition id definition.violations))
  | built
      {definition : Definition}
      (distinct : ((added requests).map Prod.fst).Nodup)
      (describes : Describes id requests definition)
      (passes : definition.check = .ok ()) :
      Answers id requests (.ok definition)

variable {id initial machine : String} {requests others : List Request}
  {definition other : Definition}

/-! ### Described definitions -/

theorem Describes.unique
    (describes : Describes id requests definition)
    (describesOther : Describes id requests other) :
    definition = other := by
  obtain ⟨name, initial, states⟩ := definition
  obtain ⟨otherName, otherInitial, otherStates⟩ := other
  congr 1
  · exact describes.id.trans describesOther.id.symm
  · exact Option.some.inj (describes.initial.symm.trans describesOther.initial)
  · exact KeyMap.ext_get? fun name => Option.ext fun node =>
      (describes.states name node).trans (describesOther.states name node).symm

/-- In which order states are added is of no account. -/
theorem Describes.congr
    (sameInitial : latest? Request.initial? others = latest? Request.initial? requests)
    (sameStates : (added others).Perm (added requests))
    (describes : Describes id requests definition) :
    Describes id others definition where
  id := describes.id
  initial := sameInitial.trans describes.initial
  states name node := by
    simp only [describes.states name node, sameStates.mem_iff]

/-- A state with an output ends the machine, if it was asked for. -/
theorem Describes.outputOnNonTerminal_notMem
    (describes : Describes id requests definition)
    (state : String) :
    .outputOnNonTerminal state ∉ definition.violations := by
  rw [Definition.mem_violations_iff_afflicts]
  rintro ⟨node, found, goesOn, output, outputs⟩
  obtain ⟨parts, _, asked⟩ := (describes.states state node).1 found
  exact Bool.false_ne_true (goesOn.symm.trans (asked.terminal_of_output outputs))

/-! ### Adding states -/

theorem added_concat (requests : List Request) (request : Request) :
    added (requests ++ [request]) = added requests ++ request.added?.toList := by
  rw [added, List.filterMap_append, ← added]
  cases request <;> rfl

theorem assembled_eq (id : String) (requests : List Request) :
    assembled id requests =
      ⟨id, latest? Request.initial? requests, (added requests).map assembledState⟩ := by
  induction requests using List.reverseRecOn with
  | nil => rfl
  | append_singleton requests request ih =>
    have step : assembled id (requests ++ [request]) =
        (assembled id requests).perform request := List.foldl_concat ..
    rw [step, ih, latest?_concat, added_concat, List.map_append]
    cases request <;>
      simp [DefinitionBuilder.perform, startingIn, DefinitionBuilder.state, assembledState,
        Request.initial?, Request.added?]

theorem addStates_append
    (table : KeyMap StateNode)
    (earlier later : List StateBuilder) :
    addStates machine table (earlier ++ later) = (do
      let table ← addStates machine table earlier
      addStates machine table later) := by
  induction earlier generalizing table with
  | nil => rfl
  | cons state earlier ih =>
    rw [List.cons_append, addStates, addStates]
    split
    · rfl
    · exact ih _

/-- States with names of their own are all added. -/
theorem addStates_of_distinct
    {table : KeyMap StateNode}
    {states : List StateBuilder}
    (distinct : (states.map StateBuilder.id).Nodup)
    (fresh : ∀ state ∈ states, table.get? state.id = none) :
    addStates machine table states =
      .ok (table.insertAll (states.map fun state => (state.id, state.node))) := by
  induction states generalizing table with
  | nil => rfl
  | cons state states ih =>
    rw [List.map_cons, List.nodup_cons] at distinct
    obtain ⟨new, distinct⟩ := distinct
    have absent : table.contains state.id = false := by
      rw [KeyMap.contains, fresh state List.mem_cons_self]
      rfl
    rw [addStates, absent, if_neg Bool.false_ne_true]
    refine ih distinct fun other member => ?_
    have different : other.id ≠ state.id := fun same =>
      new (same ▸ List.mem_map_of_mem member)
    rw [KeyMap.get?_insert, if_neg different]
    exact fresh other (List.mem_cons_of_mem _ member)

/-- The first state that was added before is the error. -/
theorem addStates_of_repeated
    {earlier later : List StateBuilder}
    {state : StateBuilder}
    (distinct : (earlier.map StateBuilder.id).Nodup)
    (again : state.id ∈ earlier.map StateBuilder.id) :
    addStates machine ∅ (earlier ++ state :: later) =
      .error (.duplicateState machine state.id) := by
  obtain ⟨other, member, same⟩ := List.mem_map.1 again
  have taken : (KeyMap.ofList (earlier.map fun state => (state.id, state.node))).contains
      state.id = true := by
    rw [KeyMap.contains_eq_true_iff, ← KeyMap.mem_keys_iff, KeyMap.mem_keys_ofList_iff, ← same]
    exact ⟨other.node, List.mem_map.2 ⟨other, member, rfl⟩⟩
  rw [addStates_append, addStates_of_distinct distinct fun _ _ => rfl]
  show addStates machine (.ofList _) (state :: later) = _
  rw [addStates, if_pos taken]

/-! ### Building -/

/-- The definition that is put together if nothing is in the way. -/
def drafted (id initial : String) (requests : List Request) : Definition where
  id := id
  initial := initial
  states := .ofList ((added requests).map fun state => (state.1, (assembledState state).node))

theorem describes_drafted
    (set : latest? Request.initial? requests = some initial)
    (distinct : ((added requests).map Prod.fst).Nodup) :
    Describes id requests (drafted id initial requests) where
  id := rfl
  initial := set
  states name node := by
    have sameNames : ((added requests).map fun state =>
        (state.1, (assembledState state).node)).map Prod.fst = (added requests).map Prod.fst :=
      List.map_map
    rw [drafted, KeyMap.get?_ofList_eq_some_iff (sameNames ▸ distinct), List.mem_map]
    constructor
    · rintro ⟨⟨other, parts⟩, member, same⟩
      cases same
      exact ⟨parts, member, StateBuilder.describes_assembled _ parts⟩
    · rintro ⟨parts, member, asked⟩
      have same := (StateBuilder.describes_assembled name parts).unique asked
      exact ⟨(name, parts), member, same ▸ rfl⟩

theorem map_id_assembledState (states : List (String × List StateBuilder.Request)) :
    (states.map assembledState).map StateBuilder.id = states.map Prod.fst := by
  rw [List.map_map]
  congr 1
  funext state
  exact StateBuilder.id_assembled state.1 state.2

theorem build_of_unset
    (unset : latest? Request.initial? requests = none) :
    (assembled id requests).build = .error (.missingInitialState id) := by
  rw [assembled_eq, build, unset]
  rfl

theorem build_of_set
    (set : latest? Request.initial? requests = some initial) :
    (assembled id requests).build = (do
      let states ← addStates id ∅ ((added requests).map assembledState)
      let definition := { id, initial, states : Definition }
      definition.check
      return definition) := by
  rw [assembled_eq, build, set]

theorem build_of_repeated
    {name : String}
    {parts : List StateBuilder.Request}
    {earlier later : List (String × List StateBuilder.Request)}
    (set : latest? Request.initial? requests = some initial)
    (split : added requests = earlier ++ (name, parts) :: later)
    (distinct : (earlier.map Prod.fst).Nodup)
    (again : name ∈ earlier.map Prod.fst) :
    (assembled id requests).build = .error (.duplicateState id name) := by
  have named : (assembledState (name, parts)).id = name := StateBuilder.id_assembled name parts
  rw [← map_id_assembledState] at distinct again
  rw [build_of_set set, split, List.map_append, List.map_cons,
    addStates_of_repeated distinct (named.symm ▸ again), named]
  rfl

theorem build_of_distinct
    (set : latest? Request.initial? requests = some initial)
    (distinct : ((added requests).map Prod.fst).Nodup) :
    (assembled id requests).build = (do
      (drafted id initial requests).check
      return drafted id initial requests) := by
  have entries : ((added requests).map assembledState).map
      (fun state => (state.id, state.node)) =
        (added requests).map fun state => (state.1, (assembledState state).node) := by
    rw [List.map_map]
    congr 1
    funext state
    exact congrArg (·, _) (StateBuilder.id_assembled state.1 state.2)
  rw [← map_id_assembledState] at distinct
  rw [build_of_set set, addStates_of_distinct distinct fun _ _ => rfl, entries]
  rfl

/-! ### What building answers -/

/-- The names of some states are distinct, or there is a first one that came before. -/
theorem distinct_or_repeated {α : Type} (states : List (String × α)) :
    (states.map Prod.fst).Nodup ∨
      ∃ earlier name part later, states = earlier ++ (name, part) :: later ∧
        (earlier.map Prod.fst).Nodup ∧ name ∈ earlier.map Prod.fst := by
  -- From the end of the list, as the first repetition stays the first when a state is added.
  induction states using List.reverseRecOn with
  | nil => exact .inl .nil
  | append_singleton states state ih =>
    rcases ih with distinct | ⟨earlier, name, part, later, split, repeated⟩
    · by_cases again : state.1 ∈ states.map Prod.fst
      · exact .inr ⟨states, state.1, state.2, [], rfl, distinct, again⟩
      · refine .inl ?_
        rw [List.map_append, List.nodup_append]
        refine ⟨distinct, List.nodup_singleton _, ?_⟩
        rintro name member _ same rfl
        exact again (List.mem_singleton.1 same ▸ member)
    · refine .inr ⟨earlier, name, part, later ++ [state], ?_, repeated⟩
      rw [split, List.append_assoc, List.cons_append]

theorem latest?_initial?_eq_none_iff :
    latest? Request.initial? requests = none ↔
      ∀ initial, .startingIn initial ∉ requests := by
  rw [latest?_eq_none_iff]
  constructor
  · intro none initial member
    cases none _ member
  · intro unset request member
    cases request with
    | startingIn initial => exact absurd member (unset initial)
    | state _ _ => rfl

theorem exists_startingIn_of_set
    (set : latest? Request.initial? requests = some initial) :
    .startingIn initial ∈ requests := by
  obtain ⟨request, member, given⟩ := exists_of_latest?_eq_some set
  cases request with
  | startingIn _ =>
    cases given
    exact member
  | state _ _ => cases given

/-- Building gives any answer that the requests allow. -/
theorem Answers.build
    {result : Except BuildError Definition}
    (answers : Answers id requests result) :
    (assembled id requests).build = result := by
  cases answers with
  | incomplete unset => exact build_of_unset (latest?_initial?_eq_none_iff.2 unset)
  | repeated set split distinct again =>
    -- That an initial state was chosen is enough here: the error does not depend on which.
    cases found : latest? Request.initial? requests with
    | none => exact absurd set (latest?_initial?_eq_none_iff.1 found _)
    | some initial => exact build_of_repeated found split distinct again
  | invalid distinct describes broken =>
    have same := (describes_drafted describes.initial distinct).unique describes
    rw [build_of_distinct describes.initial distinct, same,
      Definition.check_of_invalid broken, describes.id]
    rfl
  | built distinct describes passes =>
    have same := (describes_drafted describes.initial distinct).unique describes
    rw [build_of_distinct describes.initial distinct, same, passes]
    rfl

/-- Some answer is always allowed. -/
theorem exists_answers (id : String) (requests : List Request) :
    ∃ result, Answers id requests result := by
  cases set : latest? Request.initial? requests with
  | none => exact ⟨_, .incomplete (latest?_initial?_eq_none_iff.1 set)⟩
  | some initial =>
    rcases distinct_or_repeated (added requests) with
      distinct | ⟨earlier, name, parts, later, split, distinct, again⟩
    · have describes : Describes id requests (drafted id initial requests) :=
        describes_drafted set distinct
      by_cases valid : (drafted id initial requests).violations = []
      · exact ⟨_, .built distinct describes (Definition.check_eq_ok_iff.2 valid)⟩
      · exact ⟨_, .invalid distinct describes valid⟩
    · exact ⟨_, .repeated (exists_startingIn_of_set set) split distinct again⟩

theorem build_eq_iff_answers (id : String) (requests : List Request)
    (result : Except BuildError Definition) :
    (assembled id requests).build = result ↔ Answers id requests result := by
  constructor
  · intro built
    obtain ⟨allowed, answers⟩ := exists_answers id requests
    rwa [← built, answers.build]
  · exact Answers.build

/-! ### Requests for a given definition -/

/-- Requests for a given definition. -/
def requestsFor (definition : Definition) : List Request :=
  .startingIn definition.initial ::
    definition.states.entries.map fun (name, node) => .state name (StateBuilder.requestsFor node)

theorem added_requestsFor (definition : Definition) :
    added (requestsFor definition) =
      definition.states.entries.map fun (name, node) => (name, StateBuilder.requestsFor node) := by
  rw [requestsFor, added, List.filterMap_cons_none rfl, List.filterMap_map,
    ← List.filterMap_eq_map]
  rfl

theorem describes_requestsFor (valid : definition.Valid) :
    Describes definition.id (requestsFor definition) definition where
  id := rfl
  initial := by
    have others : latest? Request.initial? (definition.states.entries.map fun (name, node) =>
        .state name (StateBuilder.requestsFor node)) = none := by
      rw [latest?_eq_none_iff, List.forall_mem_map]
      intro state _
      rfl
    rw [requestsFor, latest?_cons, others]
    rfl
  states name node := by
    have asked {name : String} {node : StateNode}
        (found : definition.states.get? name = some node) :
        StateBuilder.Describes (StateBuilder.requestsFor node) node :=
      StateBuilder.describes_requestsFor fun _ => valid.terminal_of_output found
    rw [added_requestsFor]
    constructor
    · intro found
      exact ⟨_, List.mem_map.2 ⟨(name, node), KeyMap.mem_entries_iff.2 found, rfl⟩, asked found⟩
    · rintro ⟨parts, member, describes⟩
      obtain ⟨⟨other, given⟩, listed, same⟩ := List.mem_map.1 member
      cases same
      have found := KeyMap.mem_entries_iff.1 listed
      rwa [← (asked found).unique describes]

theorem distinct_requestsFor (definition : Definition) :
    ((added (requestsFor definition)).map Prod.fst).Nodup := by
  have distinct : definition.states.keys.Nodup := by
    refine definition.states.keys_increasing.imp ?_
    rintro name _ before rfl
    exact String.lt_irrefl name before
  rw [added_requestsFor, List.map_map]
  exact distinct

/-- Building answers as the requests allow, and no other way.  That a state has an output and
does not end the machine is never the error.  What is built stays the same if the states are
added in another order, among whichever other requests.  And every definition that passes the
check is built by some requests. -/
theorem builds_exactly :
    (∀ id requests,
      (∀ result, (assembled id requests).build = result ↔ Answers id requests result) ∧
      (∀ machine violations,
        (assembled id requests).build = .error (.invalidDefinition machine violations) →
          ∀ state, .outputOnNonTerminal state ∉ violations) ∧
      ∀ definition, (assembled id requests).build = .ok definition →
        definition.check = .ok () ∧
        ∀ others, latest? Request.initial? others = latest? Request.initial? requests →
          (added others).Perm (added requests) →
            (assembled id others).build = .ok definition) ∧
    ∀ definition : Definition, definition.check = .ok () →
      ∃ requests, (assembled definition.id requests).build = .ok definition := by
  constructor
  · intro id requests
    refine ⟨build_eq_iff_answers id requests, ?_, ?_⟩
    · intro machine violations built
      cases (build_eq_iff_answers id requests _).1 built with
      | invalid _ describes _ => exact describes.outputOnNonTerminal_notMem
    · intro definition built
      cases (build_eq_iff_answers id requests _).1 built with
      | built distinct describes passes =>
        refine ⟨passes, fun others sameInitial sameStates => ?_⟩
        have sameNames := (sameStates.map Prod.fst).nodup_iff.2 distinct
        exact (Answers.built sameNames (describes.congr sameInitial sameStates) passes).build
  · intro definition passes
    have describes := describes_requestsFor (Definition.check_eq_ok_iff.1 passes)
    exact ⟨_, (Answers.built (distinct_requestsFor definition) describes passes).build⟩

end DefinitionBuilder
end Questionnaire
