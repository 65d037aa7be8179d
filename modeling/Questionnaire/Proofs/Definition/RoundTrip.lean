import Questionnaire.Definition.Codec
import Questionnaire.Definition.Validity
import Questionnaire.Proofs.Json.Record
import Questionnaire.Proofs.Json.RoundTrip

/-!
# Reading back definitions

A definition is written without what equals its default, and read back with the defaults in
place.  What it holds of free-form data, which is the presentation of its states and constant
outputs, has to be such that it is read back itself.
-/

namespace Questionnaire

open Json (Raw)

/-- Free-form data that is read back inside `depth` arrays and objects: it has no reals, its
integers are in the range of the reader and its nesting below the limit, and the fields of
every object in it stand in the order of their keys, as they do in whatever is built or
read. -/
structure Json.Lasting (depth : Nat) (value : Json) : Prop where
  fits : value.Fits depth
  ordered : value.Ordered

theorem Json.list?_ofTexts (texts : List String) :
    (Json.ofTexts texts).toRaw.list? Raw.text? = some texts :=
  Json.list?_arr fun _ _ => rfl

theorem Json.fits_ofTexts
    {depth : Nat}
    (inside : depth < Json.depthLimit)
    (texts : List String) :
    (Json.ofTexts texts).Fits depth := by
  refine ⟨inside, Json.itemsFit_iff.2 ?_⟩
  intro item member
  obtain ⟨text, _, rfl⟩ := List.mem_map.1 member
  trivial

theorem Json.ordered_ofTexts (texts : List String) : (Json.ofTexts texts).Ordered := by
  apply Json.itemsOrdered_iff.2
  intro item member
  obtain ⟨text, _, rfl⟩ := List.mem_map.1 member
  trivial

/-! ## Transitions -/

namespace Transition

variable (transition : Transition)

/-- The fields of a transition, of which some may be left out. -/
def fields : List (String × Option Json) :=
  [("target", transition.target.map .str),
    ("effects", if transition.effects.isEmpty then none else some (.ofTexts transition.effects))]

theorem distinct_fields : (transition.fields.map Prod.fst).Nodup := by
  simp [fields]

theorem toJson_eq : transition.toJson = .ofFields (Json.given transition.fields) := by
  unfold toJson
  congr 1
  simp only [fields, Json.given_cons]
  cases transition.target <;> cases transition.effects <;> rfl

theorem mem_given
    {field : String × Json}
    (member : field ∈ Json.given transition.fields) :
    (∃ target, field = ("target", .str target)) ∨
      field = ("effects", .ofTexts transition.effects) := by
  simp only [fields, Json.given_cons, List.mem_append] at member
  rcases member with target | effects | none
  · cases leads : transition.target with
    | none => simp [leads] at target
    | some name =>
      left
      exact ⟨name, by simpa [leads] using target⟩
  · right
    split at effects
    · simp at effects
    · simpa using effects
  · cases none

/-- The target among the fields that were written. -/
theorem target?_given :
    target? (KeyMap.ofList (Json.given transition.fields)).entries = some transition.target := by
  have found := Json.get?_given transition.distinct_fields "target"
  unfold KeyMap.get? at found
  unfold target?
  rw [Json.filter_key_of_increasing (KeyMap.increasing _), found]
  cases leads : transition.target <;> simp [fields, leads]

/-- The effects among the fields that were written, which are under the first of their two
names. -/
theorem effects?_given :
    effects? (KeyMap.ofList (Json.given transition.fields)).entries =
      some transition.effects := by
  have found := Json.get?_given transition.distinct_fields "effects"
  have absent := Json.get?_given transition.distinct_fields "actions"
  have first : (KeyMap.ofList (Json.given transition.fields)).entries.filter
      (fun field => decide (field.1 = "effects" ∨ field.1 = "actions")) =
        (KeyMap.ofList (Json.given transition.fields)).entries.filter (·.1 = "effects") := by
    apply List.filter_congr
    rintro ⟨key, value⟩ member
    have other : key ≠ "actions" := by
      rintro rfl
      rw [KeyMap.mem_entries_iff, absent] at member
      simp [fields, KeyMap.lookup_cons_if] at member
    simp [other]
  unfold KeyMap.get? at found
  unfold effects?
  rw [first, Json.filter_key_of_increasing (KeyMap.increasing _), found]
  cases named : transition.effects with
  | nil => simp [fields, named, KeyMap.lookup_cons_if]
  | cons name names =>
    have read : List.mapM (Json.text? ∘ Json.str) (name :: names) =
        some ((name :: names).map id) :=
      Json.mapM_eq_some fun _ _ => rfl
    simp only [fields, named, KeyMap.lookup_cons_if]
    simpa [Json.ofTexts] using read

theorem ofRaw?_toJson : ofRaw? transition.toJson.toRaw = some transition := by
  have ordered : Json.FieldsOrdered (KeyMap.ofList (Json.given transition.fields)).entries := by
    apply Json.fieldsOrdered_iff.2
    intro field member
    rcases transition.mem_given (Json.mem_of_mem_ofList member) with ⟨target, rfl⟩ | rfl
    · trivial
    · exact Json.ordered_ofTexts _
  rw [toJson_eq, Json.ofFields, Json.object, Json.toRaw, ofRaw?,
    Json.members?_fieldsToRaw _ ordered]
  simp only [target?_given, effects?_given, Option.bind_eq_bind, Option.bind_some]
  rfl

/-- A transition is an object, at most with an array in it. -/
theorem fits_toJson
    {depth : Nat}
    (inside : depth + 1 < Json.depthLimit) :
    transition.toJson.Fits depth := by
  rw [toJson_eq]
  apply Json.fits_ofFields (by omega)
  intro field member
  rcases transition.mem_given member with ⟨target, rfl⟩ | rfl
  · trivial
  · exact Json.fits_ofTexts inside _

/-- A transition is written without a target that it does not have, and without an empty
list of effects. -/
structure Sparing : Prop where
  target : transition.toJson.field? "target" = transition.target.map .str
  effects : transition.toJson.field? "effects" =
    if transition.effects = [] then none else some (.ofTexts transition.effects)

theorem sparing : transition.Sparing := by
  constructor
  · rw [toJson_eq, Json.field?_given transition.distinct_fields]
    simp [fields]
  · rw [toJson_eq, Json.field?_given transition.distinct_fields]
    simp [fields, KeyMap.lookup_cons_if]

end Transition

/-! ## Outputs -/

namespace OutputBuilder

/-- The value of a constant output lasts, if it is written inside `depth` arrays and
objects. -/
def Lasting (depth : Nat) : OutputBuilder → Prop
  | .constant value => value.Lasting (depth + 1)
  | .field _ => True
  | .pick _ => True

variable {output : OutputBuilder} {depth : Nat}

theorem ofRaw?_toJson (lasting : output.Lasting depth) :
    ofRaw? output.toJson.toRaw = some output := by
  cases output with
  | constant value =>
    rw [toJson, Json.toRaw, Json.fieldsToRaw, Json.fieldsToRaw, ofRaw?,
      Json.value?_toRaw value lasting.ordered]
    rfl
  | field name => rfl
  | pick names =>
    rw [toJson, Json.toRaw, Json.fieldsToRaw, Json.fieldsToRaw, ofRaw?, Json.list?_ofTexts]
    rfl

/-- An output is not taken for an absent one. -/
theorem orNull?_toJson (lasting : output.Lasting depth) :
    output.toJson.toRaw.orNull? ofRaw? = some (some output) := by
  have read := ofRaw?_toJson lasting
  cases output <;> exact congrArg (Option.map some) read

theorem fits_toJson
    (lasting : output.Lasting depth)
    (inside : depth + 1 < Json.depthLimit) :
    output.toJson.Fits depth := by
  cases output with
  | constant value => exact ⟨by omega, lasting.fits, trivial⟩
  | field name => exact ⟨by omega, trivial, trivial⟩
  | pick names => exact ⟨by omega, Json.fits_ofTexts inside names, trivial⟩

end OutputBuilder

/-! ## States -/

namespace StateNode

/-- The free-form data of a state lasts, if the state is written inside `depth` arrays and
objects. -/
structure Lasting (depth : Nat) (node : StateNode) : Prop where
  presentation : node.presentation.Lasting (depth + 1)
  output : ∀ output, node.output = some output → output.Lasting (depth + 1)

/-- The fields of a state, of which some may be left out. -/
def fields (node : StateNode) : List (String × Option Json) :=
  [("on", if node.on.isEmpty then none else some (.object (node.on.map Transition.toJson))),
    ("final", if node.terminal then some (.bool true) else none),
    ("output", node.output.map OutputBuilder.toJson),
    ("meta", if node.presentation = .null then none else some node.presentation)]

variable {node : StateNode} {depth : Nat}

theorem distinct_fields (node : StateNode) : (node.fields.map Prod.fst).Nodup := by
  simp [fields]

theorem toJson_eq (node : StateNode) : node.toJson = .ofFields (Json.given node.fields) := by
  unfold toJson
  congr 1
  simp only [fields, Json.given_cons, List.append_assoc]
  congr 1
  · split <;> rfl
  congr 1
  · split <;> rfl
  congr 1
  · cases node.output <;> rfl
  · split <;> rfl

theorem ofRaw?_toJson (lasting : node.Lasting depth) :
    ofRaw? node.toJson.toRaw = some node := by
  have on : ((if node.on.isEmpty then none
      else some (Json.object (node.on.map Transition.toJson))).map Json.toRaw).elim
        (some ∅) (·.map? Transition.ofRaw?) = some node.on := by
    split
    · rename_i empty
      rw [KeyMap.isEmpty_iff.1 empty]
      rfl
    · exact Json.map?_object fun _ transition _ => transition.ofRaw?_toJson
  have terminal : ((if node.terminal then some (Json.bool true) else none).map Json.toRaw).elim
      (some false) Raw.flag? = some node.terminal := by
    cases node.terminal <;> rfl
  have output : ((node.output.map OutputBuilder.toJson).map Json.toRaw).elim
      (some none) (·.orNull? OutputBuilder.ofRaw?) = some node.output := by
    cases builds : node.output with
    | none => rfl
    | some output => exact OutputBuilder.orNull?_toJson (lasting.output output builds)
  have presentation : ((if node.presentation = .null then none
      else some node.presentation).map Json.toRaw).elim (some .null) Raw.value? =
        some node.presentation := by
    split
    · rename_i null
      rw [null]
      rfl
    · exact Json.value?_toRaw _ lasting.presentation.ordered
  rw [toJson_eq, ofRaw?, Json.record?_given node.distinct_fields]
  simp only [fields, List.map_cons, List.map_nil, KeyMap.lookup_cons_if, String.reduceEq,
    if_true, if_false, Option.join_some, Option.bind_eq_bind, Option.bind_some, on, terminal,
    output, presentation]
  rfl

theorem mem_given
    {field : String × Json}
    (member : field ∈ Json.given node.fields) :
    field.2 = .object (node.on.map Transition.toJson) ∨ field.2 = .bool true ∨
      (∃ output, node.output = some output ∧ field.2 = output.toJson) ∨
      field.2 = node.presentation := by
  simp only [fields, Json.given_cons, List.mem_append] at member
  rcases member with on | terminal | output | presentation | none
  · split at on <;> simp_all
  · split at terminal <;> simp_all
  · cases builds : node.output <;> simp_all
  · split at presentation <;> simp_all
  · cases none

/-- The deepest array that a state always may have in it is that of the effects of a
transition. -/
theorem fits_toJson
    (lasting : node.Lasting depth)
    (inside : depth + 3 < Json.depthLimit) :
    node.toJson.Fits depth := by
  rw [toJson_eq]
  apply Json.fits_ofFields (by omega)
  intro field member
  rcases mem_given member with on | terminal | ⟨output, builds, same⟩ | presentation
  · rw [on]
    refine ⟨by omega, Json.fieldsFit_iff.2 ?_⟩
    intro entry found
    obtain ⟨⟨event, transition⟩, _, rfl⟩ := List.mem_map.1 found
    exact transition.fits_toJson inside
  · rw [terminal]
    trivial
  · rw [same]
    exact OutputBuilder.fits_toJson (lasting.output output builds) (by omega)
  · rw [presentation]
    exact lasting.presentation.fits

/-- A state is written without an empty table of transitions, without saying that it does not
end the machine, without an output that it does not have, and without a presentation that is
null. -/
structure Sparing (node : StateNode) : Prop where
  on : node.toJson.field? "on" =
    if node.on = ∅ then none else some (.object (node.on.map Transition.toJson))
  terminal : node.toJson.field? "final" = if node.terminal then some (.bool true) else none
  output : node.toJson.field? "output" = node.output.map OutputBuilder.toJson
  presentation : node.toJson.field? "meta" =
    if node.presentation = .null then none else some node.presentation
  transitions : ∀ event transition, node.on.get? event = some transition → transition.Sparing

theorem sparing (node : StateNode) : node.Sparing := by
  have field (name : String) :
      node.toJson.field? name = (node.fields.lookup name).join := by
    rw [toJson_eq, Json.field?_given node.distinct_fields]
  constructor
  · rw [field]
    simp [fields]
  · rw [field]
    simp [fields, KeyMap.lookup_cons_if]
  · rw [field]
    simp [fields, KeyMap.lookup_cons_if]
  · rw [field]
    simp [fields, KeyMap.lookup_cons_if]
  · exact fun _ transition _ => transition.sparing

end StateNode

/-! ## Definitions -/

namespace Definition

/-- The free-form data of a definition lasts, if the definition is written inside `depth`
arrays and objects. -/
def Lasting (depth : Nat) (definition : Definition) : Prop :=
  ∀ state node, definition.state? state = some node → node.Lasting (depth + 2)

variable {definition : Definition} {depth : Nat}

theorem lasting_of_ofList
    {states : List (String × StateNode)}
    (listed : definition.states = .ofList states)
    (each : ∀ entry ∈ states, entry.2.Lasting (depth + 2)) :
    definition.Lasting depth := by
  intro state node found
  rw [state?, listed, KeyMap.get?_ofList] at found
  exact each _ (List.mem_reverse.1 (KeyMap.mem_of_lookup_eq_some found))

theorem ofRaw?_toJson (lasting : definition.Lasting depth) :
    ofRaw? definition.toJson.toRaw = some definition := by
  have states : (Json.object (definition.states.map StateNode.toJson)).toRaw.map?
      StateNode.ofRaw? = some definition.states :=
    Json.map?_object fun state node found => StateNode.ofRaw?_toJson (lasting state node found)
  unfold ofRaw? toJson
  rw [Json.record?_ofFields]
  simp [KeyMap.lookup_cons_if, Json.toRaw, Raw.text?, states]

theorem fits_toJson
    (lasting : definition.Lasting depth)
    (inside : depth + 5 < Json.depthLimit) :
    definition.toJson.Fits depth := by
  apply Json.fits_ofFields (by omega)
  simp only [List.forall_mem_cons]
  refine ⟨trivial, trivial, ⟨by omega, Json.fieldsFit_iff.2 ?_⟩, by simp⟩
  intro entry found
  obtain ⟨⟨state, node⟩, member, rfl⟩ := List.mem_map.1 found
  exact StateNode.fits_toJson (lasting state node (KeyMap.mem_entries_iff.1 member)) inside

/-- The states of a definition as they are written. -/
theorem field?_states (definition : Definition) :
    definition.toJson.field? "states" =
      some (.object (definition.states.map StateNode.toJson)) := by
  rw [toJson, Json.ofFields, Json.field?, Json.fields?_object, Option.bind_some,
    KeyMap.get?_ofList]
  simp

/-- A definition is read back from its text, valid or not, if its free-form data lasts; and
yet each of its states and transitions is written without what equals its default. -/
theorem survives_text (lasting : definition.Lasting 0) :
    (Raw.ofText? definition.toJson.text).bind ofRaw? = some definition ∧
    definition.toJson.field? "states" =
      some (.object (definition.states.map StateNode.toJson)) ∧
    ∀ state node, definition.state? state = some node → node.Sparing := by
  refine ⟨?_, definition.field?_states, fun _ node _ => node.sparing⟩
  rw [Json.ofText?_text (fits_toJson lasting (by decide)), Option.bind_some,
    ofRaw?_toJson lasting]

/-- A definition with no name and an unknown initial state: one state has all defaults, one a
transition with nothing to it, one a constant null for its output, which is not final, and
one a presentation. -/
def patchwork : Definition where
  id := ""
  initial := "nowhere"
  states := .ofList [
    ("blank", {}),
    ("busy", { on := .ofList [("GO", ⟨some "gone", ["b", "a", "b"]⟩), ("STAY", ⟨none, []⟩)] }),
    ("null", { output := some (.constant .null) }),
    ("shown", {
      terminal := true
      output := some (.pick ["x"])
      presentation := .obj [("label", .str "é"), ("order", .arr [.int (-1), .null])] })]

/-- The patchwork is not valid, and is read back from its text. -/
theorem survives_text_of_patchwork :
    patchwork.violations ≠ [] ∧ patchwork.Lasting 0 ∧
      (Raw.ofText? patchwork.toJson.text).bind ofRaw? = some patchwork ∧
      ∀ state node, patchwork.state? state = some node → node.Sparing := by
  have invalid : patchwork.violations ≠ [] := by decide
  have lasting : patchwork.Lasting 0 := by
    apply lasting_of_ofList rfl
    simp only [List.forall_mem_cons]
    refine ⟨⟨⟨trivial, trivial⟩, by simp⟩, ⟨⟨trivial, trivial⟩, by simp⟩,
      ⟨⟨trivial, trivial⟩, ?_⟩, ⟨⟨?_, ?_⟩, ?_⟩, by simp⟩
    · rintro output ⟨⟩
      exact ⟨trivial, trivial⟩
    · simp [Json.Fits, Json.FieldsFit, Json.ItemsFit, Json.depthLimit, Json.InRange]
    · exact ⟨by decide, trivial, ⟨trivial, trivial, trivial⟩, trivial⟩
    · rintro output ⟨⟩
      trivial
  obtain ⟨read, _, sparing⟩ := survives_text lasting
  exact ⟨invalid, lasting, read, sparing⟩

end Definition

end Questionnaire
