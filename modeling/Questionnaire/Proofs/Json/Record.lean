import Questionnaire.Json.Ordered

/-!
# Reading records back

Written as an object, a record is read back field by field, whatever the order in which
its fields are asked for: the keys of an object are distinct.
-/

namespace Questionnaire
namespace Json

open Raw

/-- A mapping that succeeds on every item succeeds on a list. -/
theorem mapM_eq_some
    {α β : Type}
    {read : α → Option β}
    {f : α → β}
    {items : List α}
    (each : ∀ item ∈ items, read item = some (f item)) :
    items.mapM read = some (items.map f) := by
  induction items with
  | nil => rfl
  | cons item rest ih =>
    have later := ih fun other member => each other (List.mem_cons_of_mem _ member)
    rw [List.mapM_cons, each item List.mem_cons_self, later]
    rfl

theorem namedMembers?_fieldsToRaw (fields : List (String × Json)) :
    namedMembers? (fieldsToRaw fields) =
      some (fields.map fun field => (field.1, field.2.toRaw)) := by
  induction fields with
  | nil => rfl
  | cons field rest ih =>
    obtain ⟨key, value⟩ := field
    unfold namedMembers? at ih ⊢
    rw [fieldsToRaw, List.mapM_cons, ih]
    rfl

/-- A key stands at most once among increasing ones. -/
theorem filter_key_of_increasing
    {fields : List (String × Json)}
    (increasing : fields.Pairwise fun left right => left.1 < right.1)
    (name : String) :
    fields.filter (·.1 = name) = (fields.lookup name).toList.map fun value => (name, value) := by
  induction fields with
  | nil => rfl
  | cons field rest ih =>
    obtain ⟨before, later⟩ := List.pairwise_cons.1 increasing
    obtain ⟨key, value⟩ := field
    by_cases same : key = name
    · subst same
      have none : rest.filter (·.1 = key) = [] := by
        rw [List.filter_eq_nil_iff]
        intro other member equal
        have less := before other member
        rw [of_decide_eq_true equal] at less
        exact absurd less (String.lt_irrefl _)
      rw [List.filter_cons_of_pos (by simp), none, KeyMap.lookup_cons_if, if_pos rfl]
      rfl
    · rw [List.filter_cons_of_neg (by simpa using same), ih later, KeyMap.lookup_cons_if,
        if_neg (Ne.symm same)]

theorem atMostOnce?_entries (fields : Fields) (name : String) :
    atMostOnce? (fields.entries.map fun field => (field.1, field.2.toRaw)) name =
      some ((fields.get? name).map toRaw) := by
  have once := filter_key_of_increasing fields.increasing name
  unfold atMostOnce?
  rw [List.filter_map]
  have same : fields.entries.filter
      ((fun member : String × Raw => decide (member.1 = name)) ∘
        fun field : String × Json => (field.1, field.2.toRaw)) =
      fields.entries.filter (·.1 = name) := rfl
  rw [same, once, KeyMap.get?]
  cases fields.entries.lookup name <;> rfl

/-- The fields of a record that was written as an object, in the order asked for. -/
theorem record?_object (fields : Fields) (names : List String) (required : Nat) :
    (object fields).toRaw.record? names required =
      some (names.map fun name => (fields.get? name).map toRaw) := by
  rw [object, toRaw, record?, namedMembers?_fieldsToRaw]
  exact mapM_eq_some fun name _ => atMostOnce?_entries fields name

/-- Of listed fields with distinct names, each is read back. -/
theorem record?_ofFields
    {fields : List (String × Json)}
    (names : List String)
    (required : Nat) :
    (ofFields fields).toRaw.record? names required =
      some (names.map fun name => (fields.reverse.lookup name).map toRaw) := by
  rw [ofFields, record?_object]
  simp only [KeyMap.get?_ofList]

theorem itemsToRaw_eq_map (items : List Json) : itemsToRaw items = items.map toRaw := by
  induction items with
  | nil => rfl
  | cons item rest ih => rw [itemsToRaw, ih, List.map_cons]

/-- A list that was written as an array is read back item by item. -/
theorem list?_arr
    {α : Type}
    {read : Raw → Option α}
    {write : α → Json}
    {values : List α}
    (each : ∀ value ∈ values, read (write value).toRaw = some value) :
    (arr (values.map write)).toRaw.list? read = some values := by
  have same : List.mapM (read ∘ fun value => (write value).toRaw) values =
      some (values.map id) := mapM_eq_some each
  rw [toRaw, list?, itemsToRaw_eq_map, List.map_map, List.mapM_map]
  exact same.trans (congrArg some (List.map_id values))

/-- A map that was written as an object is read back value by value. -/
theorem map?_object
    {α : Type}
    {read : Raw → Option α}
    {write : α → Json}
    {source : KeyMap α}
    (each : ∀ key value, source.get? key = some value → read (write value).toRaw = some value) :
    (object (source.map write)).toRaw.map? read = some source := by
  have entry : ∀ member ∈ source.entries,
      (read (write member.2).toRaw).map (member.1, ·) = some (id member) := by
    intro member found
    rw [each member.1 member.2 (KeyMap.mem_entries_iff.1 found)]
    rfl
  have entries := mapM_eq_some entry
  rw [object, toRaw, map?, namedMembers?_fieldsToRaw]
  simp only [KeyMap.map, List.map_map, Option.bind_eq_bind, Option.bind_some, List.mapM_map]
  unfold Function.comp
  dsimp only
  rw [entries, List.map_id, Option.bind_some]
  exact congrArg some source.ofList_entries

/-! ## Fields that may be left out -/

/-- The fields that are given, of fields that may be left out. -/
def given (fields : List (String × Option Json)) : List (String × Json) :=
  fields.filterMap fun field => field.2.map (field.1, ·)

theorem given_cons (key : String) (value? : Option Json) (fields : List (String × Option Json)) :
    given ((key, value?) :: fields) = (value?.toList.map (key, ·)) ++ given fields := by
  cases value? <;> rfl

/-- Of fields with distinct names, each has its value, unless it was left out. -/
theorem get?_given
    {fields : List (String × Option Json)}
    (distinct : (fields.map Prod.fst).Nodup)
    (name : String) :
    (KeyMap.ofList (given fields)).get? name = (fields.lookup name).join := by
  rw [KeyMap.get?_ofList]
  induction fields with
  | nil => rfl
  | cons field rest ih =>
    obtain ⟨key, value?⟩ := field
    obtain ⟨new, others⟩ := List.nodup_cons.1 distinct
    rw [given_cons, List.reverse_append, List.lookup_append, ih others, KeyMap.lookup_cons_if]
    by_cases same : name = key
    · subst same
      have absent : rest.lookup name = none := by
        rw [List.lookup_eq_none_iff]
        intro other member
        simp only [bne_iff_ne, ne_eq]
        rintro rfl
        exact new (List.mem_map.2 ⟨other, member, rfl⟩)
      rw [if_pos rfl, absent]
      cases value? <;> simp
    · rw [if_neg same]
      cases value? <;> simp [KeyMap.lookup_cons_if, same]

theorem field?_given
    {fields : List (String × Option Json)}
    (distinct : (fields.map Prod.fst).Nodup)
    (name : String) :
    (ofFields (given fields)).field? name = (fields.lookup name).join := by
  rw [ofFields, field?, fields?_object, Option.bind_some, get?_given distinct]

/-- A record of which some fields were left out, in the order asked for. -/
theorem record?_given
    {fields : List (String × Option Json)}
    (distinct : (fields.map Prod.fst).Nodup)
    (names : List String)
    (required : Nat) :
    (ofFields (given fields)).toRaw.record? names required =
      some (names.map fun name => (fields.lookup name).join.map toRaw) := by
  rw [ofFields, record?_object]
  simp only [get?_given distinct]

end Json
end Questionnaire
