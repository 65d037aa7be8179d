import Questionnaire.Json.Ordered
import Questionnaire.Proofs.Json.Scalars

/-!
# Reading back JSON texts

A value fits a text when it holds no reals, only integers that are read as such, and no
more nested arrays and objects than are read.  The text of such a value is read back to
the value.
-/

namespace Questionnaire
namespace Json

mutual

/-- A value can be read back inside `depth` arrays and objects. -/
def Fits (depth : Nat) : Json → Prop
  | .null | .bool _ | .str _ => True
  | .int value => InRange value
  | .real _ => False
  | .arr items => depth < depthLimit ∧ ItemsFit (depth + 1) items
  | .obj fields => depth < depthLimit ∧ FieldsFit (depth + 1) fields

/-- Every item can be read back. -/
def ItemsFit (depth : Nat) : List Json → Prop
  | [] => True
  | item :: rest => item.Fits depth ∧ ItemsFit depth rest

/-- The value of every field can be read back. -/
def FieldsFit (depth : Nat) : List (String × Json) → Prop
  | [] => True
  | (_, value) :: rest => value.Fits depth ∧ FieldsFit depth rest

end

theorem itemsFit_iff {depth : Nat} {items : List Json} :
    ItemsFit depth items ↔ ∀ item ∈ items, item.Fits depth := by
  induction items with
  | nil => simp [ItemsFit]
  | cons item rest ih => simp [ItemsFit, ih]

theorem fieldsFit_iff {depth : Nat} {fields : List (String × Json)} :
    FieldsFit depth fields ↔ ∀ field ∈ fields, field.2.Fits depth := by
  induction fields with
  | nil => simp [FieldsFit]
  | cons field rest ih => simp [FieldsFit, ih]

/-- An object of listed fields fits when each of their values does. -/
theorem fits_ofFields
    {depth : Nat}
    {fields : List (String × Json)}
    (inside : depth < depthLimit)
    (values : ∀ field ∈ fields, field.2.Fits (depth + 1)) :
    (ofFields fields).Fits depth := by
  refine ⟨inside, fieldsFit_iff.2 ?_⟩
  intro field member
  exact values field (mem_of_mem_ofList member)

/-! ## The first character of a text -/

/-- A character with which the text of a value can begin. -/
def Begins (first : Char) : Prop :=
  isBlank first = false ∧ first ≠ ']'

instance (first : Char) : Decidable (Begins first) :=
  inferInstanceAs (Decidable (_ ∧ _))

/-- A character with which no string, array, object or name begins. -/
def BeginsNumber (first : Char) : Prop :=
  first ≠ '"' ∧ first ≠ '[' ∧ first ≠ '\x7b' ∧ first ≠ 'n' ∧ first ≠ 't' ∧ first ≠ 'f'

instance (first : Char) : Decidable (BeginsNumber first) :=
  inferInstanceAs (Decidable (_ ∧ _))

theorem begins_of_isDigit {first : Char} (digit : first.isDigit = true) :
    Begins first ∧ BeginsNumber first := by
  have each : ∀ code < 58, 48 ≤ code →
      Begins (Char.ofNat code) ∧ BeginsNumber (Char.ofNat code) := by
    decide
  obtain ⟨lower, upper⟩ := Char.isDigit_iff_toNat.1 digit
  have begins := each first.toNat (Nat.lt_succ_of_le upper) lower
  rwa [Char.ofNat_toNat] at begins

theorem begins_intText (value : Int) :
    ∃ first later, intText value = first :: later ∧ Begins first ∧ BeginsNumber first := by
  obtain ⟨first, later, shape, rfl | digit⟩ := intText_eq_cons value
  · exact ⟨_, later, shape, by decide⟩
  · exact ⟨first, later, shape, begins_of_isDigit digit⟩

theorem render_eq_cons {value : Json} {depth : Nat} (fits : value.Fits depth) :
    ∃ first later, value.render = first :: later ∧ Begins first := by
  cases value with
  | null => exact ⟨_, _, rfl, by decide⟩
  | bool value => cases value <;> exact ⟨_, _, rfl, by decide⟩
  | int value =>
    obtain ⟨first, later, shape, begins, _⟩ := begins_intText value
    exact ⟨first, later, shape, begins⟩
  | real value => exact fits.elim
  | str text => exact ⟨_, _, rfl, by decide⟩
  | arr items => exact ⟨_, _, rfl, by decide⟩
  | obj fields => exact ⟨_, _, rfl, by decide⟩

theorem skipBlanks_cons {first : Char} (begins : isBlank first = false) (later : List Char) :
    skipBlanks (first :: later) = first :: later := by
  rw [skipBlanks, List.dropWhile_cons, if_neg (by simp [begins])]

/-! ## Scalars -/

variable {fuel depth : Nat} {rest : List Char}

theorem readName_number {first : Char} (begins : BeginsNumber first) (later : List Char) :
    readName (first :: later) = none := by
  obtain ⟨_, _, _, notNull, notTrue, notFalse⟩ := begins
  unfold readName
  split
  · rename_i shape
    exact absurd (List.cons.inj shape).1 notNull
  · rename_i shape
    exact absurd (List.cons.inj shape).1 notTrue
  · rename_i shape
    exact absurd (List.cons.inj shape).1 notFalse
  · rfl

/-- A value is read by its first character that is not blank. -/
theorem readValue_cons {first : Char} (begins : isBlank first = false) (later : List Char) :
    readValue (fuel + 1) depth (first :: later) =
      if first = '"' then
        (readString later).map fun (text, rest) => (text.elim .unreadable .str, rest)
      else if first = '[' then
        match skipBlanks later with
        | ']' :: rest => some (nested depth (.arr []), rest)
        | rest =>
          (readItems fuel (depth + 1) rest).map fun (items, rest) =>
            (nested depth (.arr items), rest)
      else if first = '\x7b' then
        match skipBlanks later with
        | '\x7d' :: rest => some (nested depth (.obj []), rest)
        | rest =>
          (readMembers fuel (depth + 1) rest).map fun (members, rest) =>
            (nested depth (.obj members), rest)
      else readPlain (first :: later) := by
  have unfolded := readValue.eq_2 depth (first :: later) fuel
  rw [skipBlanks_cons begins] at unfolded
  exact unfolded

theorem readValue_intText {value : Int} (range : InRange value) (stops : Stops rest) :
    readValue (fuel + 1) depth (intText value ++ rest) = some (.int value, rest) := by
  obtain ⟨first, later, shape, begins, number⟩ := begins_intText value
  have read := read_intText range stops
  rw [shape, List.cons_append] at read ⊢
  rw [readValue_cons begins.1]
  obtain ⟨notQuote, notBracket, notBrace, _⟩ := id number
  simp only [if_neg notQuote, if_neg notBracket, if_neg notBrace]
  rw [readPlain, readName_number number]
  exact read

/-- The three names that are values are read back. -/
theorem readValue_null :
    readValue (fuel + 1) depth ('n' :: 'u' :: 'l' :: 'l' :: rest) = some (.null, rest) := by
  rw [readValue_cons (by decide)]
  rfl

theorem readValue_true :
    readValue (fuel + 1) depth ('t' :: 'r' :: 'u' :: 'e' :: rest) =
      some (.bool true, rest) := by
  rw [readValue_cons (by decide)]
  rfl

theorem readValue_false :
    readValue (fuel + 1) depth ('f' :: 'a' :: 'l' :: 's' :: 'e' :: rest) =
      some (.bool false, rest) := by
  rw [readValue_cons (by decide)]
  rfl

theorem readValue_stringText (text : String) :
    readValue (fuel + 1) depth (stringText text ++ rest) = some (.str text, rest) := by
  obtain ⟨opened, shape, read⟩ := readString_stringText text rest
  rw [shape, readValue_cons (by decide)]
  simp only [if_pos, read, Option.map_some]
  rfl

/-! ## Arrays and objects -/

theorem nested_eq (inside : depth < depthLimit) (container : Raw) :
    nested depth container = container :=
  if_pos inside

theorem readValue_bracket
    {first : Char}
    {later : List Char}
    (begins : Begins first)
    (inside : depth < depthLimit) :
    readValue (fuel + 1) depth ('[' :: first :: later) =
      (readItems fuel (depth + 1) (first :: later)).map fun (items, rest) =>
        (.arr items, rest) := by
  rw [readValue_cons (by decide)]
  simp only [skipBlanks_cons begins.1, nested_eq inside]
  rw [if_neg (by decide), if_pos trivial]
  split
  · rename_i shape
    exact absurd (List.cons.inj shape).1 begins.2
  · rfl

theorem readValue_brace (later : List Char) (inside : depth < depthLimit) :
    readValue (fuel + 1) depth ('\x7b' :: '"' :: later) =
      (readMembers fuel (depth + 1) ('"' :: later)).map fun (members, rest) =>
        (.obj members, rest) := by
  rw [readValue_cons (by decide)]
  simp only [skipBlanks_cons (show isBlank '"' = false by decide), nested_eq inside]
  rfl

theorem readValue_empty_array (inside : depth < depthLimit) :
    readValue (fuel + 1) depth ('[' :: ']' :: rest) = some (.arr [], rest) := by
  rw [readValue_cons (by decide)]
  simp only [skipBlanks_cons (show isBlank ']' = false by decide), nested_eq inside]
  rfl

theorem readValue_empty_object (inside : depth < depthLimit) :
    readValue (fuel + 1) depth ('\x7b' :: '\x7d' :: rest) = some (.obj [], rest) := by
  rw [readValue_cons (by decide)]
  simp only [skipBlanks_cons (show isBlank '\x7d' = false by decide), nested_eq inside]
  rfl

/-- After an item the array ends, or goes on with a comma. -/
theorem readItems_last
    {text : List Char}
    {item : Raw}
    (read : readValue fuel depth text = some (item, ']' :: rest)) :
    readItems (fuel + 1) depth text = some ([item], rest) := by
  rw [readItems, read]
  rfl

theorem readItems_comma
    {text later : List Char}
    {item : Raw}
    {items : List Raw}
    (read : readValue fuel depth text = some (item, ',' :: later))
    (readLater : readItems fuel depth later = some (items, rest)) :
    readItems (fuel + 1) depth text = some (item :: items, rest) := by
  rw [readItems, read]
  simp only [skipBlanks_cons (show isBlank ',' = false by decide), readLater]
  rfl

/-- A member is its key, a colon and its value, and then the object ends or goes on. -/
theorem readMembers_last
    {key : String}
    {text : List Char}
    {member : Raw}
    (read : readValue fuel depth text = some (member, '\x7d' :: rest)) :
    readMembers (fuel + 1) depth (stringText key ++ ':' :: text) =
      some ([(some key, member)], rest) := by
  obtain ⟨opened, shape, readKey⟩ := readString_stringText key (':' :: text)
  rw [shape, readMembers, skipBlanks_cons (by decide)]
  simp only [readKey, skipBlanks_cons (show isBlank ':' = false by decide), read]
  rfl

theorem readMembers_comma
    {key : String}
    {text later : List Char}
    {member : Raw}
    {members : List (Option String × Raw)}
    (read : readValue fuel depth text = some (member, ',' :: later))
    (readLater : readMembers fuel depth later = some (members, rest)) :
    readMembers (fuel + 1) depth (stringText key ++ ':' :: text) =
      some ((some key, member) :: members, rest) := by
  obtain ⟨opened, shape, readKey⟩ := readString_stringText key (':' :: text)
  rw [shape, readMembers, skipBlanks_cons (by decide)]
  simp only [readKey, skipBlanks_cons (show isBlank ':' = false by decide), read,
    skipBlanks_cons (show isBlank ',' = false by decide), readLater]
  rfl

/-! ## Values -/

theorem renderItems_cons (item : Json) (items : List Json) (some : items ≠ []) :
    renderItems (item :: items) = render item ++ ',' :: renderItems items := by
  cases items with
  | nil => exact absurd rfl some
  | cons next items => rfl

theorem renderFields_cons
    (key : String)
    (value : Json)
    (fields : List (String × Json))
    (some : fields ≠ []) :
    renderFields ((key, value) :: fields) =
      stringText key ++ ':' :: (render value ++ ',' :: renderFields fields) := by
  cases fields with
  | nil => exact absurd rfl some
  | cons next fields => simp [renderFields]

theorem renderItems_eq_cons
    {items : List Json}
    (fit : ItemsFit depth items)
    (some : items ≠ []) :
    ∃ first later, renderItems items = first :: later ∧ Begins first := by
  cases items with
  | nil => exact absurd rfl some
  | cons item items =>
    obtain ⟨first, later, shape, begins⟩ := render_eq_cons fit.1
    cases items with
    | nil => exact ⟨first, later, shape, begins⟩
    | cons next items =>
      rw [renderItems_cons item _ (List.cons_ne_nil _ _), shape]
      exact ⟨first, _, rfl, begins⟩

theorem renderFields_eq_cons {fields : List (String × Json)} (some : fields ≠ []) :
    ∃ later, renderFields fields = '"' :: later := by
  cases fields with
  | nil => exact absurd rfl some
  | cons field fields =>
    obtain ⟨key, value⟩ := field
    cases fields with
    | nil => exact ⟨_, rfl⟩
    | cons next fields =>
      rw [renderFields_cons key value _ (List.cons_ne_nil _ _)]
      exact ⟨_, rfl⟩

mutual

/-- The text of a value that fits is read back, and what follows it is left over.  Two
units of fuel for each character are enough. -/
theorem readValue_render :
    (value : Json) → {fuel depth : Nat} → {rest : List Char} → value.Fits depth →
      2 * value.render.length ≤ fuel → Stops rest →
      readValue fuel depth (value.render ++ rest) = some (value.toRaw, rest)
  | .null, fuel, _, _, _, enough, _ => by
    cases fuel with
    | zero => simp [render] at enough
    | succ fuel => exact readValue_null
  | .bool true, fuel, _, _, _, enough, _ => by
    cases fuel with
    | zero => simp [render] at enough
    | succ fuel => exact readValue_true
  | .bool false, fuel, _, _, _, enough, _ => by
    cases fuel with
    | zero => simp [render] at enough
    | succ fuel => exact readValue_false
  | .int value, fuel, _, _, fits, enough, stops => by
    cases fuel with
    | zero =>
      obtain ⟨first, later, shape, _⟩ := begins_intText value
      simp [render, shape] at enough
    | succ fuel => exact readValue_intText fits stops
  | .real _, _, _, _, fits, _, _ => fits.elim
  | .str text, fuel, _, _, _, enough, _ => by
    cases fuel with
    | zero => simp [render, stringText] at enough
    | succ fuel => exact readValue_stringText text
  | .arr [], fuel, _, _, fits, enough, _ => by
    cases fuel with
    | zero => simp [render] at enough
    | succ fuel => exact readValue_empty_array fits.1
  | .arr (item :: items), fuel, depth, rest, fits, enough, _ => by
    obtain ⟨inside, fit⟩ := fits
    obtain ⟨first, later, shape, begins⟩ :=
      renderItems_eq_cons fit (List.cons_ne_nil item items)
    rw [render, List.cons_append, List.length_cons, List.length_append,
      List.length_singleton] at enough
    cases fuel with
    | zero => omega
    | succ fuel =>
      have read : readItems fuel (depth + 1) (renderItems (item :: items) ++ ']' :: rest) =
          some (itemsToRaw (item :: items), rest) :=
        readItems_render (item :: items) (List.cons_ne_nil _ _) fit (by omega)
      rw [render, List.cons_append, List.cons_append, List.append_assoc,
        List.singleton_append, shape, List.cons_append, readValue_bracket begins inside]
      rw [shape, List.cons_append] at read
      rw [read]
      rfl
  | .obj [], fuel, _, _, fits, enough, _ => by
    cases fuel with
    | zero => simp [render] at enough
    | succ fuel => exact readValue_empty_object fits.1
  | .obj (field :: fields), fuel, depth, rest, fits, enough, _ => by
    obtain ⟨inside, fit⟩ := fits
    obtain ⟨later, shape⟩ := renderFields_eq_cons (List.cons_ne_nil field fields)
    rw [render, List.cons_append, List.length_cons, List.length_append,
      List.length_singleton] at enough
    cases fuel with
    | zero => omega
    | succ fuel =>
      have read : readMembers fuel (depth + 1)
          (renderFields (field :: fields) ++ '\x7d' :: rest) =
          some (fieldsToRaw (field :: fields), rest) :=
        readMembers_render (field :: fields) (List.cons_ne_nil _ _) fit (by omega)
      rw [render, List.cons_append, List.cons_append, List.append_assoc,
        List.singleton_append, shape, List.cons_append, readValue_brace _ inside]
      rw [shape, List.cons_append] at read
      rw [read]
      rfl

/-- The items of an array are read back up to its closing bracket. -/
theorem readItems_render :
    (items : List Json) → items ≠ [] → {fuel depth : Nat} → {rest : List Char} →
      ItemsFit depth items → 2 * (renderItems items).length + 1 ≤ fuel →
      readItems fuel depth (renderItems items ++ ']' :: rest) =
        some (itemsToRaw items, rest)
  | [], nonempty, _, _, _, _, _ => absurd rfl nonempty
  | [item], _, fuel, depth, rest, fit, enough => by
    cases fuel with
    | zero => omega
    | succ fuel =>
      rw [renderItems] at enough ⊢
      exact readItems_last (readValue_render item fit.1 (by omega) (.bracket rest))
  | item :: next :: items, _, fuel, depth, rest, fit, enough => by
    have nonempty : next :: items ≠ [] := List.cons_ne_nil _ _
    rw [renderItems_cons item _ nonempty, List.length_append, List.length_cons] at enough
    cases fuel with
    | zero => omega
    | succ fuel =>
      rw [renderItems_cons item _ nonempty, List.append_assoc, List.cons_append]
      exact readItems_comma (readValue_render item fit.1 (by omega) (.comma _))
        (readItems_render (next :: items) nonempty fit.2 (by omega))

/-- The members of an object are read back up to its closing brace. -/
theorem readMembers_render :
    (fields : List (String × Json)) → fields ≠ [] → {fuel depth : Nat} →
      {rest : List Char} → FieldsFit depth fields →
      2 * (renderFields fields).length + 1 ≤ fuel →
      readMembers fuel depth (renderFields fields ++ '\x7d' :: rest) =
        some (fieldsToRaw fields, rest)
  | [], nonempty, _, _, _, _, _ => absurd rfl nonempty
  | [(key, value)], _, fuel, depth, rest, fit, enough => by
    cases fuel with
    | zero => omega
    | succ fuel =>
      rw [renderFields] at enough ⊢
      rw [List.length_append, List.length_cons] at enough
      rw [List.append_assoc, List.cons_append]
      exact readMembers_last (readValue_render value fit.1 (by omega) (.brace rest))
  | (key, value) :: next :: fields, _, fuel, depth, rest, fit, enough => by
    have nonempty : next :: fields ≠ [] := List.cons_ne_nil _ _
    rw [renderFields_cons key value _ nonempty, List.length_append, List.length_cons,
      List.length_append, List.length_cons] at enough
    cases fuel with
    | zero => omega
    | succ fuel =>
      rw [renderFields_cons key value _ nonempty, List.append_assoc, List.cons_append,
        List.append_assoc, List.cons_append]
      exact readMembers_comma (readValue_render value fit.1 (by omega) (.comma _))
        (readMembers_render (next :: fields) nonempty fit.2 (by omega))

end

/-- The text of a value that fits is read as the tree of the value. -/
theorem ofText?_text {value : Json} (fits : value.Fits 0) :
    Raw.ofText? value.text = some value.toRaw := by
  have read := readValue_render value fits (Nat.le_add_right _ 2) .nil
  rw [List.append_nil] at read
  rw [Raw.ofText?, text, String.toList_ofList, read]
  rfl

end Json
end Questionnaire
