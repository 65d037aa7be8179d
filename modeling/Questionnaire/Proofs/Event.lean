import Questionnaire.Event
import Questionnaire.Proofs.Json.Record

/-!
# Events and their objects

The type of an event and its payload share one object.  Each object that has a string under
the key of the type is read as one event, which is written as that same object.  An event is
read back as it was, unless its payload has that key too: then the payload's value takes the
place of the type.
-/

namespace Questionnaire
namespace Event

/-! ## Reading -/

/-- An object is read by what it has under the key of the type; all else is payload. -/
theorem ofFields?_entries (fields : Fields) :
    ofFields? fields.entries =
      ((fields.get? kindKey).bind Json.text?).map fun kind => ⟨kind, fields.erase kindKey⟩ := by
  have payload : KeyMap.ofList (fields.entries.filter (·.1 ≠ kindKey)) =
      fields.erase kindKey := by
    have same : fields.entries.filter (·.1 ≠ kindKey) = (fields.erase kindKey).entries := by
      unfold KeyMap.erase KeyMap.filter
      apply List.filter_congr
      intro field _
      rw [Bool.eq_iff_iff]
      simp
    rw [same, KeyMap.ofList_entries]
  unfold ofFields?
  rw [Json.filter_key_of_increasing fields.increasing, payload]
  show _ = ((fields.entries.lookup kindKey).bind Json.text?).map _
  cases fields.entries.lookup kindKey with
  | none => rfl
  | some value => cases value <;> rfl

theorem ofRaw?_object
    {fields : Fields}
    (ordered : (Json.object fields).Ordered) :
    ofRaw? (Json.object fields).toRaw =
      ((fields.get? kindKey).bind Json.text?).map fun kind => ⟨kind, fields.erase kindKey⟩ := by
  rw [Json.object, Json.toRaw, ofRaw?, Json.members?_fieldsToRaw _ ordered.2, Option.bind_some,
    ofFields?_entries]

/-- The events that are read from a value: it is an object with a string under the key of the
type, and their payload is what it has under the other keys. -/
def Spells (value : Json) (event : Event) : Prop :=
  ∃ fields : Fields, value = .object fields ∧
    fields.get? kindKey = some (.str event.kind) ∧ event.payload = fields.erase kindKey

theorem ofRaw?_eq_some_iff
    {value : Json}
    (ordered : value.Ordered)
    (event : Event) :
    ofRaw? value.toRaw = some event ↔ Spells value event := by
  constructor
  · intro read
    cases value with
    | null | bool _ | int _ | real _ | str _ | arr _ => cases read
    | obj entries =>
      let fields : Fields := ⟨entries, ordered.1⟩
      have whole : Json.obj entries = .object fields := rfl
      rw [whole] at ordered read
      rw [ofRaw?_object ordered] at read
      obtain ⟨kind, named, rfl⟩ := Option.map_eq_some_iff.1 read
      obtain ⟨given, found, isText⟩ := Option.bind_eq_some_iff.1 named
      cases given <;> cases isText
      exact ⟨fields, rfl, found, rfl⟩
  · rintro ⟨fields, rfl, found, payload⟩
    rw [ofRaw?_object ordered, found, ← payload]
    rfl

/-! ## Writing -/

/-- An event is written as its payload, with the type under its key unless the payload has
that key. -/
theorem toJson_eq (event : Event) :
    event.toJson = .object
      (event.payload.insert kindKey ((event.payload.get? kindKey).getD (.str event.kind))) := by
  rw [toJson, KeyMap.merge_singleton]

theorem toJson_of_absent
    {event : Event}
    (absent : event.payload.get? kindKey = none) :
    event.toJson = .object (event.payload.insert kindKey (.str event.kind)) := by
  rw [toJson_eq, absent, Option.getD_none]

theorem toJson_of_found
    {event : Event}
    {given : Json}
    (found : event.payload.get? kindKey = some given) :
    event.toJson = .object event.payload := by
  rw [toJson_eq, found, Option.getD_some, KeyMap.insert_of_get? found]

/-! ## Both -/

/-- An event that was read is written as the value that it was read from. -/
theorem Spells.toJson_eq
    {value : Json}
    {event : Event}
    (spells : Spells value event) :
    event.toJson = value ∧ event.payload.get? kindKey = none := by
  obtain ⟨fields, rfl, found, payload⟩ := spells
  have absent : event.payload.get? kindKey = none := by
    rw [payload, KeyMap.get?_erase, if_pos rfl]
  refine ⟨?_, absent⟩
  rw [toJson_of_absent absent, payload, KeyMap.insert_erase_of_get? found]

/-- An event without the key of the type in its payload is read back from what is written. -/
theorem ofRaw?_toJson
    {event : Event}
    (ordered : (Json.object event.payload).Ordered)
    (absent : event.payload.get? kindKey = none) :
    ofRaw? event.toJson.toRaw = some event := by
  have typed : (Json.str event.kind).Ordered := trivial
  rw [toJson_of_absent absent, ofRaw?_object (Json.ordered_object_insert ordered kindKey typed),
    KeyMap.get?_insert_self, KeyMap.erase_insert_of_get? _ absent]
  rfl

/-- How events are read from a value: only from an object with a string as its type, of which
nothing is lost, since the event is written as that object again. -/
structure ReadsFrom (value : Json) : Prop where
  read_iff : ∀ event, ofRaw? value.toRaw = some event ↔ Spells value event
  accepted_iff : (∃ event, ofRaw? value.toRaw = some event) ↔
    ∃ (fields : Fields) (kind : String), value = .object fields ∧
      fields.get? kindKey = some (.str kind)
  rewritten : ∀ event, ofRaw? value.toRaw = some event → event.toJson = value
  untyped : ∀ event, ofRaw? value.toRaw = some event → event.payload.get? kindKey = none

/-- How an event is read back from what it is written as.  It is the same event, unless its
payload has the key of the type.  Then the payload is all that is written, and what is read, if
the payload's value there is a string, is the event of that type with the rest of the payload. -/
structure ReadsBack (event : Event) : Prop where
  same : event.payload.get? kindKey = none → ofRaw? event.toJson.toRaw = some event
  written : ∀ given, event.payload.get? kindKey = some given →
    event.toJson = .object event.payload ∧ event.toJson.field? kindKey = some given
  refused : ∀ given, event.payload.get? kindKey = some given → (∀ kind, given ≠ .str kind) →
    ofRaw? event.toJson.toRaw = none
  renamed : ∀ kind, event.payload.get? kindKey = some (.str kind) →
    ofRaw? event.toJson.toRaw = some ⟨kind, event.payload.erase kindKey⟩
  changed : ∀ given, event.payload.get? kindKey = some given →
    ofRaw? event.toJson.toRaw ≠ some event

theorem readsFrom
    {value : Json}
    (ordered : value.Ordered) :
    ReadsFrom value where
  read_iff := ofRaw?_eq_some_iff ordered
  accepted_iff := by
    constructor
    · rintro ⟨event, read⟩
      obtain ⟨fields, whole, found, _⟩ := (ofRaw?_eq_some_iff ordered event).1 read
      exact ⟨fields, event.kind, whole, found⟩
    · rintro ⟨fields, kind, whole, found⟩
      exact ⟨⟨kind, fields.erase kindKey⟩,
        (ofRaw?_eq_some_iff ordered _).2 ⟨fields, whole, found, rfl⟩⟩
  rewritten event read := ((ofRaw?_eq_some_iff ordered event).1 read).toJson_eq.1
  untyped event read := ((ofRaw?_eq_some_iff ordered event).1 read).toJson_eq.2

theorem readsBack
    {event : Event}
    (ordered : (Json.object event.payload).Ordered) :
    event.ReadsBack := by
  have payloadRead (given : Json) (found : event.payload.get? kindKey = some given) :
      ofRaw? event.toJson.toRaw =
        given.text?.map fun kind => ⟨kind, event.payload.erase kindKey⟩ := by
    rw [toJson_of_found found, ofRaw?_object ordered, found, Option.bind_some]
  refine ⟨ofRaw?_toJson ordered, ?_, ?_, ?_, ?_⟩
  · intro given found
    refine ⟨toJson_of_found found, ?_⟩
    rw [toJson_of_found found, Json.field?, Json.fields?_object, Option.bind_some, found]
  · intro given found notText
    rw [payloadRead given found]
    cases given with
    | str kind => exact absurd rfl (notText kind)
    | null | bool _ | int _ | real _ | arr _ | obj _ => rfl
  · intro kind found
    rw [payloadRead (.str kind) found]
    rfl
  · intro given found same
    have typed : (event.toJson).Ordered := by rwa [toJson_of_found found]
    have absent := ((ofRaw?_eq_some_iff typed event).1 same).toJson_eq.2
    rw [absent] at found
    cases found

/-- Events and objects with a type correspond one to one, up to a payload field under the key
of the type: whatever is read is written as it was, and whatever is written is read as it
was unless its payload has that key. -/
theorem corresponds_to_object
    {value : Json}
    {event : Event}
    (valueOrdered : value.Ordered)
    (payloadOrdered : (Json.object event.payload).Ordered) :
    ReadsFrom value ∧ event.ReadsBack :=
  ⟨readsFrom valueOrdered, readsBack payloadOrdered⟩

/-- An order of two things, as it may be sent to a machine. -/
def order : Json :=
  .ofFields [
    ("type", .str "ORDER"),
    ("items", .arr [.ofFields [("type", .int 1)], .arr [.null], .str "tea"])]

/-- A request to stop that passes for an order. -/
def disguised : Event :=
  (ofKind "STOP").withField "type" (.str "ORDER") |>.withField "count" (.int 2)

/-- The order is read and written as it is; the disguised request is read back as an order of
what it counts. -/
theorem corresponds_to_object_of_disguised :
    order.Ordered ∧ (Json.object disguised.payload).Ordered ∧
      (∃ event, ofRaw? order.toRaw = some event ∧ event.kind = "ORDER" ∧ event.toJson = order) ∧
      disguised.toJson = .object disguised.payload ∧
      ofRaw? disguised.toJson.toRaw = some ((ofKind "ORDER").withField "count" (.int 2)) ∧
      ofRaw? disguised.toJson.toRaw ≠ some disguised := by
  have orderOrdered : order.Ordered := by
    have item : (Json.ofFields [("type", .int 1)]).Ordered := by
      apply Json.ordered_ofFields
      simp [Json.Ordered]
    apply Json.ordered_ofFields
    simp only [List.forall_mem_cons]
    exact ⟨trivial, ⟨item, ⟨trivial, trivial⟩, trivial, trivial⟩, by simp⟩
  have disguisedOrdered : (Json.object disguised.payload).Ordered := by
    have empty : (Json.object ∅).Ordered := ⟨.nil, trivial⟩
    have typed : (Json.str "ORDER").Ordered := trivial
    have counted : (Json.int 2).Ordered := trivial
    exact Json.ordered_object_insert (Json.ordered_object_insert empty "type" typed)
      "count" counted
  obtain ⟨reads, back⟩ := corresponds_to_object orderOrdered disguisedOrdered
  have read := (reads.read_iff ⟨"ORDER", _⟩).2 ⟨_, rfl, by decide +kernel, rfl⟩
  have found : disguised.payload.get? kindKey = some (.str "ORDER") := by decide +kernel
  have rest : (⟨"ORDER", disguised.payload.erase kindKey⟩ : Event) =
      (ofKind "ORDER").withField "count" (.int 2) := by
    decide +kernel
  exact ⟨orderOrdered, disguisedOrdered, ⟨_, read, rfl, reads.rewritten _ read⟩,
    (back.written _ found).1, rest ▸ back.renamed "ORDER" found, back.changed _ found⟩

end Event
end Questionnaire
