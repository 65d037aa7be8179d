import Questionnaire.Json.Raw
import Questionnaire.KeyMap.Lemmas

/-!
# Values in order

A value is ordered when the fields of every object in it stand in increasing order
of their keys.  Whatever is read is ordered, and an ordered value is what reading its
own tree gives.
-/

namespace Questionnaire
namespace Json

mutual

/-- Every object in a value has its fields in increasing order of the keys. -/
def Ordered : Json → Prop
  | .arr items => ItemsOrdered items
  | .obj fields => (fields.Pairwise fun left right => left.1 < right.1) ∧ FieldsOrdered fields
  | _ => True

/-- Every item is ordered. -/
def ItemsOrdered : List Json → Prop
  | [] => True
  | item :: rest => item.Ordered ∧ ItemsOrdered rest

/-- The value of every field is ordered. -/
def FieldsOrdered : List (String × Json) → Prop
  | [] => True
  | (_, value) :: rest => value.Ordered ∧ FieldsOrdered rest

end

theorem itemsOrdered_iff {items : List Json} :
    ItemsOrdered items ↔ ∀ item ∈ items, item.Ordered := by
  induction items with
  | nil => simp [ItemsOrdered]
  | cons item rest ih => simp [ItemsOrdered, ih]

theorem fieldsOrdered_iff {fields : List (String × Json)} :
    FieldsOrdered fields ↔ ∀ field ∈ fields, field.2.Ordered := by
  induction fields with
  | nil => simp [FieldsOrdered]
  | cons field rest ih => simp [FieldsOrdered, ih]

/-- The object of a map is ordered when the map's values are. -/
theorem ordered_object {fields : Fields}
    (values : ∀ field ∈ fields.entries, field.2.Ordered) :
    (object fields).Ordered := by
  rw [object, Ordered]
  exact ⟨fields.increasing, fieldsOrdered_iff.2 values⟩

theorem mem_of_mem_ofList
    {fields : List (String × Json)} {field : String × Json}
    (member : field ∈ (KeyMap.ofList fields).entries) :
    field ∈ fields := by
  obtain ⟨key, value⟩ := field
  rw [KeyMap.mem_entries_iff, KeyMap.get?_ofList] at member
  exact List.mem_reverse.1 (KeyMap.mem_of_lookup_eq_some member)

/-- The object of listed fields is ordered when their values are. -/
theorem ordered_ofFields {fields : List (String × Json)}
    (values : ∀ field ∈ fields, field.2.Ordered) :
    (ofFields fields).Ordered :=
  ordered_object fun field member => values field (mem_of_mem_ofList member)

/-- Every value of an ordered object is ordered. -/
theorem Ordered.values
    {fields : Fields}
    (ordered : (object fields).Ordered) :
    ∀ field ∈ fields.entries, field.2.Ordered :=
  fieldsOrdered_iff.1 ordered.2

theorem Ordered.of_get?
    {fields : Fields}
    {key : String}
    {value : Json}
    (ordered : (object fields).Ordered)
    (found : fields.get? key = some value) :
    value.Ordered :=
  ordered.values (key, value) (KeyMap.mem_entries_iff.2 found)

theorem ordered_object_insert
    {fields : Fields}
    {value : Json}
    (ordered : (object fields).Ordered)
    (key : String)
    (valueOrdered : value.Ordered) :
    (object (fields.insert key value)).Ordered := by
  apply ordered_object
  rintro ⟨other, given⟩ member
  rw [KeyMap.mem_entries_iff, KeyMap.get?_insert] at member
  split at member
  · exact Option.some.inj member ▸ valueOrdered
  · exact ordered.of_get? member

theorem ordered_object_erase
    {fields : Fields}
    (ordered : (object fields).Ordered)
    (key : String) :
    (object (fields.erase key)).Ordered :=
  ordered_object fun field member => ordered.values field (List.mem_filter.1 member).1

/-! ## Reading -/

mutual

/-- What is read is ordered. -/
theorem ordered_of_value? :
    (raw : Raw) → {value : Json} → raw.value? = some value → value.Ordered
  | .unreadable, _, read => by simp [Raw.value?] at read
  | .null, _, read | .bool _, _, read | .int _, _, read | .real _, _, read
  | .str _, _, read => by
    simp only [Raw.value?, Option.some.injEq] at read
    simp [← read, Ordered]
  | .arr items, _, read => by
    obtain ⟨values, itemsRead, rfl⟩ := Option.map_eq_some_iff.1 read
    exact ordered_of_items? items itemsRead
  | .obj members, _, read => by
    obtain ⟨fields, membersRead, rfl⟩ := Option.map_eq_some_iff.1 read
    exact ordered_ofFields (ordered_of_members? members membersRead)

theorem ordered_of_items? :
    (items : List Raw) → {values : List Json} → Raw.items? items = some values →
      ItemsOrdered values
  | [], _, read => by
    simp only [Raw.items?, Option.some.injEq] at read
    simp [← read, ItemsOrdered]
  | item :: rest, _, read => by
    rw [Raw.items?] at read
    split at read
    · rename_i itemRead restRead
      simp only [Option.some.injEq] at read
      subst read
      exact ⟨ordered_of_value? item itemRead, ordered_of_items? rest restRead⟩
    · simp at read

theorem ordered_of_members? :
    (members : List (Option String × Raw)) → {fields : List (String × Json)} →
      Raw.members? members = some fields → ∀ field ∈ fields, field.2.Ordered
  | [], _, read => by
    simp only [Raw.members?, Option.some.injEq] at read
    simp [← read]
  | (none, _) :: _, _, read => by simp [Raw.members?] at read
  | (some key, member) :: rest, _, read => by
    simp only [Raw.members?] at read
    split at read
    · rename_i keyRead memberRead restRead
      simp only [Option.some.injEq] at read
      subst read
      intro field found
      rcases List.mem_cons.1 found with same | later
      · exact same ▸ ordered_of_value? member memberRead
      · exact ordered_of_members? rest restRead field later
    · simp at read

end

@[simp] theorem fields?_object (fields : Fields) :
    (object fields).fields? = some fields := by
  rw [object, fields?, KeyMap.ofList_entries]

/-! ## Trees of values -/

theorem ofFields_of_increasing {fields : List (String × Json)}
    (increasing : fields.Pairwise fun left right => left.1 < right.1) :
    ofFields fields = .obj fields :=
  congrArg object (KeyMap.ofList_entries ⟨fields, increasing⟩)

mutual

/-- Reading the tree of an ordered value gives the value. -/
theorem value?_toRaw : (value : Json) → value.Ordered → value.toRaw.value? = some value
  | .null, _ | .bool _, _ | .int _, _ | .real _, _ | .str _, _ => rfl
  | .arr items, ordered => by
    rw [toRaw, Raw.value?, items?_itemsToRaw items ordered]
    rfl
  | .obj fields, ordered => by
    rw [toRaw, Raw.value?, members?_fieldsToRaw fields ordered.2]
    exact congrArg some (ofFields_of_increasing ordered.1)

theorem items?_itemsToRaw :
    (items : List Json) → ItemsOrdered items → Raw.items? (itemsToRaw items) = some items
  | [], _ => rfl
  | item :: rest, ordered => by
    rw [itemsToRaw, Raw.items?, value?_toRaw item ordered.1, items?_itemsToRaw rest ordered.2]

theorem members?_fieldsToRaw :
    (fields : List (String × Json)) → FieldsOrdered fields →
      Raw.members? (fieldsToRaw fields) = some fields
  | [], _ => rfl
  | (key, value) :: rest, ordered => by
    simp only [fieldsToRaw, Raw.members?, value?_toRaw value ordered.1,
      members?_fieldsToRaw rest ordered.2]

end

/-- Reading the fields of the tree of an ordered object gives the fields. -/
theorem fields?_toRaw
    {fields : Fields}
    (ordered : (object fields).Ordered) :
    (object fields).toRaw.fields? = some fields := by
  rw [object, toRaw, Raw.fields?, members?_fieldsToRaw _ ordered.2, Option.map_some,
    KeyMap.ofList_entries]

end Json
end Questionnaire
