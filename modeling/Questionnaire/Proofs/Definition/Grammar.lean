import Questionnaire.Proofs.Definition.RoundTrip

/-!
# What transitions and outputs are read from

A transition is read from a string, or from an object of which three fields count; an output
is read from an object with one field.  Both grammars are given here apart from the readers,
which accept every value that is spelled so and refuse every other.
-/

namespace Questionnaire

open Json (Raw)

namespace Json

/-- Of two keys each stands at most once among increasing ones, and in their order. -/
theorem filter_keys_of_increasing
    {fields : List (String × Json)}
    (increasing : fields.Pairwise fun left right => left.1 < right.1)
    {first second : String}
    (inOrder : first < second) :
    fields.filter (fun field => field.1 = second ∨ field.1 = first) =
      ((fields.lookup first).toList.map fun value => (first, value)) ++
        (fields.lookup second).toList.map fun value => (second, value) := by
  induction fields with
  | nil => rfl
  | cons field rest ih =>
    obtain ⟨before, later⟩ := List.pairwise_cons.1 increasing
    obtain ⟨key, value⟩ := field
    have differ : first ≠ second := by
      rintro rfl
      exact String.lt_irrefl _ inOrder
    by_cases isFirst : key = first
    · subst isFirst
      rw [List.filter_cons_of_pos (by simp), ih later, KeyMap.lookup_cons_if,
        KeyMap.lookup_cons_if, if_pos rfl, if_neg differ.symm,
        KeyMap.lookup_eq_none_of_before before]
      rfl
    · by_cases isSecond : key = second
      · subst isSecond
        have noFirst : rest.lookup first = none :=
          KeyMap.lookup_eq_none_of_before fun other member =>
            String.lt_trans inOrder (before other member)
        rw [List.filter_cons_of_pos (by simp), ih later, KeyMap.lookup_cons_if,
          KeyMap.lookup_cons_if, if_neg differ, if_pos rfl, noFirst,
          KeyMap.lookup_eq_none_of_before before]
        rfl
      · rw [List.filter_cons_of_neg (by simp [isFirst, isSecond]), ih later, KeyMap.lookup_cons_if,
          KeyMap.lookup_cons_if, if_neg (Ne.symm isFirst), if_neg (Ne.symm isSecond)]

/-! ## Lists of strings -/

theorem mapM_text?_eq_some_iff {items : List Json} {names : List String} :
    items.mapM Json.text? = some names ↔ items = names.map .str := by
  constructor
  · intro read
    induction items generalizing names with
    | nil =>
      cases read
      rfl
    | cons item items ih =>
      rw [List.mapM_cons] at read
      obtain ⟨name, isText, read⟩ := Option.bind_eq_some_iff.1 read
      obtain ⟨later, readLater, same⟩ := Option.bind_eq_some_iff.1 read
      cases same
      cases item <;> cases isText
      rw [ih readLater, List.map_cons]
  · rintro rfl
    rw [List.mapM_map]
    exact (mapM_eq_some fun _ _ => rfl).trans (congrArg some (List.map_id names))

theorem text?_toRaw (value : Json) : value.toRaw.text? = value.text? := by
  cases value <;> rfl

theorem text?_eq_some_iff {value : Json} {text : String} :
    value.text? = some text ↔ value = .str text := by
  cases value <;> simp [text?]

theorem list?_text?_eq_some_iff {value : Json} {names : List String} :
    value.toRaw.list? Raw.text? = some names ↔ value = .ofTexts names := by
  cases value with
  | arr items =>
    have same : Raw.text? ∘ toRaw = Json.text? := funext text?_toRaw
    rw [toRaw, Raw.list?, itemsToRaw_eq_map, List.mapM_map, same, mapM_text?_eq_some_iff, ofTexts,
      Json.arr.injEq]
  | null | bool _ | int _ | real _ | str _ | obj _ => simp [toRaw, Raw.list?, ofTexts]

end Json

/-! ## Transitions -/

namespace Transition

/-- The target that a field gives: none if the field is absent or null, and otherwise the one
that it names. -/
inductive GivesTarget : Option Json → Option String → Prop
  | absent : GivesTarget none none
  | null : GivesTarget (some .null) none
  | named (target : String) : GivesTarget (some (.str target)) (some target)

/-- The effects that two fields give, of which at most one is there and lists them. -/
inductive GivesEffects : (effects actions : Option Json) → List String → Prop
  | absent : GivesEffects none none []
  | effects (names : List String) : GivesEffects (some (.ofTexts names)) none names
  | actions (names : List String) : GivesEffects none (some (.ofTexts names)) names

/-- The transitions that a value spells. -/
inductive Spells : Json → Transition → Prop
  | short (target : String) : Spells (.str target) ⟨some target, []⟩
  | full
      {fields : Fields}
      {transition : Transition}
      (target : GivesTarget (fields.get? "target") transition.target)
      (effects : GivesEffects (fields.get? "effects") (fields.get? "actions")
        transition.effects) :
      Spells (.object fields) transition

theorem target?_eq_some_iff {fields : Fields} {target : Option String} :
    target? fields.entries = some target ↔ GivesTarget (fields.get? "target") target := by
  unfold target?
  rw [Json.filter_key_of_increasing fields.increasing, KeyMap.get?]
  constructor
  · intro read
    cases found : fields.entries.lookup "target" with
    | none =>
      simp only [found, Option.toList_none, List.map_nil, Option.some.injEq] at read
      exact read ▸ .absent
    | some given =>
      cases given <;> simp only [found, Option.toList_some, List.map_cons, List.map_nil,
        Option.some.injEq, reduceCtorEq] at read
      · exact read ▸ .null
      · exact read ▸ .named _
  · intro gives
    generalize fields.entries.lookup "target" = given at gives ⊢
    cases gives <;> rfl

/-- The effects among fields, by what stands under their two names. -/
theorem effects?_entries (fields : Fields) :
    effects? fields.entries =
      match fields.get? "effects", fields.get? "actions" with
      | none, none => some []
      | some (.arr items), none => items.mapM Json.text?
      | none, some (.arr items) => items.mapM Json.text?
      | _, _ => none := by
  have inOrder : "actions" < "effects" := by decide
  unfold effects?
  rw [Json.filter_keys_of_increasing fields.increasing inOrder, KeyMap.get?, KeyMap.get?]
  cases fields.entries.lookup "actions" with
  | none =>
    cases fields.entries.lookup "effects" with
    | none => rfl
    | some effects => cases effects <;> rfl
  | some actions =>
    cases fields.entries.lookup "effects" with
    | none => cases actions <;> rfl
    | some effects => cases actions <;> cases effects <;> rfl

theorem effects?_eq_some_iff {fields : Fields} {names : List String} :
    effects? fields.entries = some names ↔
      GivesEffects (fields.get? "effects") (fields.get? "actions") names := by
  rw [effects?_entries]
  generalize fields.get? "effects" = effects
  generalize fields.get? "actions" = actions
  constructor
  · intro read
    split at read
    · cases read
      exact .absent
    · rw [Json.mapM_text?_eq_some_iff.1 read]
      exact .effects names
    · rw [Json.mapM_text?_eq_some_iff.1 read]
      exact .actions names
    · cases read
  · intro gives
    cases gives with
    | absent => rfl
    | effects => exact Json.mapM_text?_eq_some_iff.2 rfl
    | actions => exact Json.mapM_text?_eq_some_iff.2 rfl

theorem ofRaw?_object
    {fields : Fields}
    (ordered : (Json.object fields).Ordered) :
    ofRaw? (Json.object fields).toRaw = do
      return ⟨← target? fields.entries, ← effects? fields.entries⟩ := by
  rw [Json.object, Json.toRaw, ofRaw?, Json.members?_fieldsToRaw _ ordered.2]
  rfl

theorem ofRaw?_object_eq_some_iff
    {fields : Fields}
    (ordered : (Json.object fields).Ordered)
    (transition : Transition) :
    ofRaw? (Json.object fields).toRaw = some transition ↔
      GivesTarget (fields.get? "target") transition.target ∧
        GivesEffects (fields.get? "effects") (fields.get? "actions") transition.effects := by
  obtain ⟨target, effects⟩ := transition
  rw [ofRaw?_object ordered, ← target?_eq_some_iff, ← effects?_eq_some_iff]
  cases target? fields.entries <;> cases effects? fields.entries <;> simp

/-- What is read as a transition is what spells one. -/
theorem ofRaw?_eq_some_iff
    {value : Json}
    (ordered : value.Ordered)
    (transition : Transition) :
    ofRaw? value.toRaw = some transition ↔ Spells value transition := by
  constructor
  · intro read
    cases value with
    | str target =>
      cases read
      exact .short target
    | obj entries =>
      let fields : Fields := ⟨entries, ordered.1⟩
      have whole : Json.obj entries = .object fields := rfl
      rw [whole] at ordered read ⊢
      obtain ⟨target, effects⟩ := (ofRaw?_object_eq_some_iff ordered transition).1 read
      exact .full target effects
    | null | bool _ | int _ | real _ | arr _ => cases read
  · intro spells
    cases spells with
    | short target => rfl
    | full target effects =>
      exact (ofRaw?_object_eq_some_iff ordered transition).2 ⟨target, effects⟩

/-- The fields of an object tell a transition: a target that is null or a string, if it is
there, and a list of strings under at most one of two names. -/
structure Tells (fields : Fields) : Prop where
  target : ∀ given, fields.get? "target" = some given →
    given = .null ∨ ∃ target, given = .str target
  single : fields.get? "effects" = none ∨ fields.get? "actions" = none
  effects : ∀ given, fields.get? "effects" = some given → ∃ names, given = .ofTexts names
  actions : ∀ given, fields.get? "actions" = some given → ∃ names, given = .ofTexts names

theorem exists_givesTarget_iff {given : Option Json} :
    (∃ target, GivesTarget given target) ↔
      ∀ value, given = some value → value = .null ∨ ∃ target, value = .str target := by
  constructor
  · rintro ⟨target, gives⟩ value rfl
    cases gives with
    | null => exact .inl rfl
    | named target => exact .inr ⟨target, rfl⟩
  · intro each
    cases given with
    | none => exact ⟨none, .absent⟩
    | some value =>
      rcases each value rfl with rfl | ⟨target, rfl⟩
      · exact ⟨none, .null⟩
      · exact ⟨some target, .named target⟩

theorem exists_givesEffects_iff {effects actions : Option Json} :
    (∃ names, GivesEffects effects actions names) ↔
      (effects = none ∨ actions = none) ∧
        (∀ value, effects = some value → ∃ names, value = .ofTexts names) ∧
        ∀ value, actions = some value → ∃ names, value = .ofTexts names := by
  constructor
  · rintro ⟨names, gives⟩
    cases gives with
    | absent => exact ⟨.inl rfl, nofun, nofun⟩
    | effects => exact ⟨.inr rfl, fun _ same => ⟨names, (Option.some.inj same).symm⟩, nofun⟩
    | actions => exact ⟨.inl rfl, nofun, fun _ same => ⟨names, (Option.some.inj same).symm⟩⟩
  · rintro ⟨rfl | rfl, eachEffects, eachActions⟩
    · cases actions with
      | none => exact ⟨[], .absent⟩
      | some value =>
        obtain ⟨names, rfl⟩ := eachActions value rfl
        exact ⟨names, .actions names⟩
    · cases effects with
      | none => exact ⟨[], .absent⟩
      | some value =>
        obtain ⟨names, rfl⟩ := eachEffects value rfl
        exact ⟨names, .effects names⟩

/-- Some transition is spelled by the strings and by the objects that tell one. -/
theorem exists_spells_iff {value : Json} :
    (∃ transition, Spells value transition) ↔
      (∃ target, value = .str target) ∨ ∃ fields, value = .object fields ∧ Tells fields := by
  constructor
  · rintro ⟨transition, spells⟩
    cases spells with
    | short target => exact .inl ⟨target, rfl⟩
    | full target effects =>
      obtain ⟨single, eachEffects, eachActions⟩ := exists_givesEffects_iff.1 ⟨_, effects⟩
      exact .inr ⟨_, rfl, exists_givesTarget_iff.1 ⟨_, target⟩, single, eachEffects, eachActions⟩
  · rintro (⟨target, rfl⟩ | ⟨fields, rfl, tells⟩)
    · exact ⟨_, .short target⟩
    · obtain ⟨target, givesTarget⟩ := exists_givesTarget_iff.2 tells.target
      obtain ⟨names, givesEffects⟩ :=
        exists_givesEffects_iff.2 ⟨tells.single, tells.effects, tells.actions⟩
      exact ⟨⟨target, names⟩, .full givesTarget givesEffects⟩

/-- How transitions are read from a value: from the strings and the objects that tell one, and
from no others. -/
structure ReadsFrom (value : Json) : Prop where
  read_iff : ∀ transition, ofRaw? value.toRaw = some transition ↔ Spells value transition
  accepted_iff : (∃ transition, ofRaw? value.toRaw = some transition) ↔
    (∃ target, value = .str target) ∨ ∃ fields, value = .object fields ∧ Tells fields
  rewritten : ∀ transition, ofRaw? value.toRaw = some transition →
    ofRaw? transition.toJson.toRaw = some transition

theorem readsFrom
    {value : Json}
    (ordered : value.Ordered) :
    ReadsFrom value where
  read_iff := ofRaw?_eq_some_iff ordered
  accepted_iff := by
    simp only [ofRaw?_eq_some_iff ordered]
    exact exists_spells_iff
  rewritten transition _ := transition.ofRaw?_toJson

/-! ### Spellings of one transition -/

/-- Objects that have the same under the three names of a transition are read alike. -/
theorem ofRaw?_object_congr
    {left right : Fields}
    (leftOrdered : (Json.object left).Ordered)
    (rightOrdered : (Json.object right).Ordered)
    (target : left.get? "target" = right.get? "target")
    (effects : left.get? "effects" = right.get? "effects")
    (actions : left.get? "actions" = right.get? "actions") :
    ofRaw? (Json.object left).toRaw = ofRaw? (Json.object right).toRaw := by
  apply Option.ext
  intro transition
  rw [ofRaw?_object_eq_some_iff leftOrdered, ofRaw?_object_eq_some_iff rightOrdered, target,
    effects, actions]

theorem givesEffects_comm {effects actions : Option Json} {names : List String} :
    GivesEffects effects actions names ↔ GivesEffects actions effects names := by
  constructor <;> rintro (_ | _ | _)
  · exact .absent
  · exact .actions names
  · exact .effects names
  · exact .absent
  · exact .actions names
  · exact .effects names

theorem givesTarget_null_iff {target : Option String} :
    GivesTarget (some .null) target ↔ GivesTarget none target := by
  constructor <;> rintro (_ | _ | _)
  · exact .absent
  · exact .null

/-- Ways to write a transition that make no difference: its target alone, its effects under
their other name, a null in place of no target, and a field more that is none of its own. -/
structure ReadsAlike (fields : Fields) (given : Json) : Prop where
  short : ∀ target, ofRaw? (Json.str target).toRaw =
    ofRaw? (Json.object (.singleton "target" (.str target))).toRaw
  actions : fields.get? "effects" = none → fields.get? "actions" = none →
    ofRaw? (Json.object (fields.insert "actions" given)).toRaw =
      ofRaw? (Json.object (fields.insert "effects" given)).toRaw
  null : ofRaw? (Json.object (fields.insert "target" .null)).toRaw =
    ofRaw? (Json.object (fields.erase "target")).toRaw
  others : ∀ key, key ≠ "target" → key ≠ "effects" → key ≠ "actions" →
    ofRaw? (Json.object (fields.insert key given)).toRaw = ofRaw? (Json.object fields).toRaw

theorem readsAlike
    {fields : Fields}
    {given : Json}
    (ordered : (Json.object fields).Ordered)
    (givenOrdered : given.Ordered) :
    ReadsAlike fields given where
  short _ := rfl
  actions := by
    intro noEffects noActions
    apply Option.ext
    intro transition
    rw [ofRaw?_object_eq_some_iff (Json.ordered_object_insert ordered _ givenOrdered),
      ofRaw?_object_eq_some_iff (Json.ordered_object_insert ordered _ givenOrdered)]
    simp only [KeyMap.get?_insert, String.reduceEq, if_true, if_false, noEffects, noActions]
    rw [givesEffects_comm]
  null := by
    have nullOrdered : Json.null.Ordered := trivial
    apply Option.ext
    intro transition
    rw [ofRaw?_object_eq_some_iff (Json.ordered_object_insert ordered _ nullOrdered),
      ofRaw?_object_eq_some_iff (Json.ordered_object_erase ordered _)]
    simp only [KeyMap.get?_insert, KeyMap.get?_erase, String.reduceEq, if_true, if_false,
      givesTarget_null_iff]
  others := by
    intro key notTarget notEffects notActions
    apply ofRaw?_object_congr (Json.ordered_object_insert ordered key givenOrdered) ordered
    · rw [KeyMap.get?_insert, if_neg notTarget.symm]
    · rw [KeyMap.get?_insert, if_neg notEffects.symm]
    · rw [KeyMap.get?_insert, if_neg notActions.symm]

end Transition

/-! ## Outputs -/

namespace OutputBuilder

/-- What is read as an output is what it is written as. -/
theorem ofRaw?_eq_some_iff
    {value : Json}
    (ordered : value.Ordered)
    (output : OutputBuilder) :
    ofRaw? value.toRaw = some output ↔ value = output.toJson := by
  constructor
  · intro read
    cases value with
    | obj entries =>
      rcases entries with _ | ⟨⟨key, given⟩, _ | ⟨next, rest⟩⟩
      · cases read
      · rw [Json.toRaw, Json.fieldsToRaw, Json.fieldsToRaw] at read
        by_cases isConstant : key = "constant"
        · subst isConstant
          rw [ofRaw?, Json.value?_toRaw given ordered.2.1] at read
          cases read
          rfl
        · by_cases isField : key = "field"
          · subst isField
            obtain ⟨name, isText, rfl⟩ := Option.map_eq_some_iff.1 read
            rw [Json.text?_toRaw, Json.text?_eq_some_iff] at isText
            rw [isText, toJson]
          · by_cases isPick : key = "pick"
            · subst isPick
              obtain ⟨names, areTexts, rfl⟩ := Option.map_eq_some_iff.1 read
              rw [Json.list?_text?_eq_some_iff.1 areTexts, toJson]
            · simp [ofRaw?, isConstant, isField, isPick] at read
      · obtain ⟨otherKey, otherGiven⟩ := next
        simp [Json.toRaw, Json.fieldsToRaw, ofRaw?] at read
    | null | bool _ | int _ | real _ | str _ | arr _ => cases read
  · rintro rfl
    cases output with
    | constant given =>
      rw [toJson, Json.toRaw, Json.fieldsToRaw, Json.fieldsToRaw, ofRaw?,
        Json.value?_toRaw given ordered.2.1]
      rfl
    | field name => rfl
    | pick names =>
      rw [toJson, Json.toRaw, Json.fieldsToRaw, Json.fieldsToRaw, ofRaw?, Json.list?_ofTexts]
      rfl

/-- How outputs are read from a value: from the objects with one field, which is a constant, the
name of a field or a list of names, and from no others. -/
structure ReadsFrom (value : Json) : Prop where
  read_iff : ∀ output, ofRaw? value.toRaw = some output ↔ value = output.toJson
  accepted_iff : (∃ output, ofRaw? value.toRaw = some output) ↔
    ∃ key given, value = .object (.singleton key given) ∧
      (key = "constant" ∨ (key = "field" ∧ ∃ name, given = .str name) ∨
        key = "pick" ∧ ∃ names, given = .ofTexts names)
  rewritten : ∀ output, ofRaw? value.toRaw = some output →
    ofRaw? output.toJson.toRaw = some output

theorem readsFrom
    {value : Json}
    (ordered : value.Ordered) :
    ReadsFrom value where
  read_iff := ofRaw?_eq_some_iff ordered
  accepted_iff := by
    simp only [ofRaw?_eq_some_iff ordered]
    constructor
    · rintro ⟨output, rfl⟩
      cases output with
      | constant given => exact ⟨"constant", given, rfl, .inl rfl⟩
      | field name => exact ⟨"field", .str name, rfl, .inr (.inl ⟨rfl, name, rfl⟩)⟩
      | pick names => exact ⟨"pick", .ofTexts names, rfl, .inr (.inr ⟨rfl, names, rfl⟩)⟩
    · rintro ⟨key, given, rfl, rfl | ⟨rfl, name, rfl⟩ | ⟨rfl, names, rfl⟩⟩
      · exact ⟨.constant given, rfl⟩
      · exact ⟨.field name, rfl⟩
      · exact ⟨.pick names, rfl⟩
  rewritten output read := by
    rw [← (ofRaw?_eq_some_iff ordered output).1 read, read]

end OutputBuilder

namespace Definition

/-- Transitions and outputs are read from the values that spell one and from no others, in
whichever of its spellings a transition is given. -/
theorem reads_exactly
    {value given : Json}
    {fields : Fields}
    (valueOrdered : value.Ordered)
    (fieldsOrdered : (Json.object fields).Ordered)
    (givenOrdered : given.Ordered) :
    Transition.ReadsFrom value ∧ Transition.ReadsAlike fields given ∧
      OutputBuilder.ReadsFrom value :=
  ⟨Transition.readsFrom valueOrdered, Transition.readsAlike fieldsOrdered givenOrdered,
    OutputBuilder.readsFrom valueOrdered⟩

/-- A transition that stays where it is and runs an effect, under its old name. -/
def touch : Json :=
  .ofFields [("actions", .ofTexts ["touch"]), ("note", .bool true), ("target", .null)]

/-- A remark beside a transition. -/
def remark : Fields :=
  .singleton "note" (.int 1)

/-- The old name is read as the new one, the null target as none and the note as nothing, and
none of this is an output. -/
theorem reads_exactly_of_touch :
    touch.Ordered ∧ (Json.object remark).Ordered ∧ (Json.ofTexts ["touch"]).Ordered ∧
      Transition.ofRaw? touch.toRaw = some ⟨none, ["touch"]⟩ ∧
      Transition.ofRaw? (Json.object (remark.insert "actions" (.ofTexts ["touch"]))).toRaw =
        Transition.ofRaw? (Json.object (remark.insert "effects" (.ofTexts ["touch"]))).toRaw ∧
      ¬ ∃ output, OutputBuilder.ofRaw? touch.toRaw = some output := by
  have touchOrdered : touch.Ordered := by
    apply Json.ordered_ofFields
    simp only [List.forall_mem_cons]
    exact ⟨Json.ordered_ofTexts _, trivial, trivial, by simp⟩
  have remarkOrdered : (Json.object remark).Ordered :=
    Json.ordered_object (by simp [remark, KeyMap.singleton, Json.Ordered])
  have listOrdered := Json.ordered_ofTexts ["touch"]
  obtain ⟨transitions, alike, outputs⟩ :=
    reads_exactly touchOrdered remarkOrdered listOrdered
  refine ⟨touchOrdered, remarkOrdered, listOrdered, ?_, alike.actions rfl rfl, ?_⟩
  · exact (transitions.read_iff _).2 (.full .null (.actions ["touch"]))
  · intro accepted
    obtain ⟨key, given, whole, _⟩ := outputs.accepted_iff.1 accepted
    have threeFields : touch =
        .obj [("actions", .ofTexts ["touch"]), ("note", .bool true), ("target", .null)] := rfl
    rw [threeFields] at whole
    cases whole

end Definition
end Questionnaire
