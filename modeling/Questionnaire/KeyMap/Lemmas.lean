import Questionnaire.KeyMap.Basic

/-!
# Looking up entries of maps

A map is determined by the values it has under each key.  Every operation is
described by what it does to these, so nothing else needs to look at entries.
-/

namespace Questionnaire
namespace KeyMap

variable {α β : Type}

/-! ## Lists of entries -/

theorem lookup_cons_if
    (key : String) (head : String × α) (rest : List (String × α)) :
    (head :: rest).lookup key = if key = head.1 then some head.2 else rest.lookup key := by
  obtain ⟨headKey, headValue⟩ := head
  rw [List.lookup_cons]
  by_cases same : key = headKey
  · simp [same]
  · simp [same, beq_eq_false_iff_ne.2 same]

theorem lookup_eq_none_of_before
    {key : String} {entries : List (String × α)}
    (before : ∀ entry ∈ entries, key < entry.1) :
    entries.lookup key = none := by
  induction entries with
  | nil => rfl
  | cons head rest ih =>
    have different : ¬key = head.1 := by
      have := before head List.mem_cons_self
      grind
    rw [lookup_cons_if, if_neg different]
    exact ih fun entry member => before entry (List.mem_cons_of_mem _ member)

theorem lookup_insertEntry
    (key other : String) (value : α) (entries : List (String × α)) :
    (insertEntry key value entries).lookup other =
      if other = key then some value else entries.lookup other := by
  induction entries with
  | nil => simp [insertEntry, lookup_cons_if]
  | cons head rest ih =>
    rw [insertEntry]
    split
    · simp [lookup_cons_if]
    · split
      · rename_i same
        simp only [lookup_cons_if, same]
        by_cases found : other = head.1 <;> simp [found]
      · rename_i different
        simp only [lookup_cons_if, ih]
        by_cases found : other = head.1
        · simp [found, Ne.symm different]
        · simp [found]

theorem mem_of_lookup_eq_some
    {key : String} {value : α} {entries : List (String × α)}
    (found : entries.lookup key = some value) :
    (key, value) ∈ entries := by
  induction entries with
  | nil => simp at found
  | cons head rest ih =>
    rw [lookup_cons_if] at found
    split at found
    · rename_i same
      obtain ⟨headKey, headValue⟩ := head
      simp_all
    · exact List.mem_cons_of_mem _ (ih found)

theorem lookup_eq_some_of_mem
    {key : String} {value : α} {entries : List (String × α)}
    (increasing : entries.Pairwise fun left right => left.1 < right.1)
    (member : (key, value) ∈ entries) :
    entries.lookup key = some value := by
  induction entries with
  | nil => simp at member
  | cons head rest ih =>
    have ⟨headFirst, restIncreasing⟩ := List.pairwise_cons.1 increasing
    rw [lookup_cons_if]
    rcases List.mem_cons.1 member with same | later
    · simp [← same]
    · have different : ¬key = head.1 := by
        have := headFirst _ later
        grind
      rw [if_neg different, ih restIncreasing later]

theorem entries_eq_of_lookup_eq
    {left right : List (String × α)}
    (leftIncreasing : left.Pairwise fun first second => first.1 < second.1)
    (rightIncreasing : right.Pairwise fun first second => first.1 < second.1)
    (same : ∀ key, left.lookup key = right.lookup key) :
    left = right := by
  induction left generalizing right with
  | nil =>
    cases right with
    | nil => rfl
    | cons head rest => simpa [lookup_cons_if] using same head.1
  | cons leftHead leftRest ih =>
    cases right with
    | nil => simpa [lookup_cons_if] using same leftHead.1
    | cons rightHead rightRest =>
      have ⟨leftFirst, leftRestIncreasing⟩ := List.pairwise_cons.1 leftIncreasing
      have ⟨rightFirst, rightRestIncreasing⟩ := List.pairwise_cons.1 rightIncreasing
      have leftFound := same leftHead.1
      have rightFound := same rightHead.1
      simp only [lookup_cons_if, if_true] at leftFound rightFound
      have sameKey : leftHead.1 = rightHead.1 := by
        by_cases sameKey : leftHead.1 = rightHead.1
        · exact sameKey
        · rw [if_neg sameKey] at leftFound
          rw [if_neg (Ne.symm sameKey)] at rightFound
          have := rightFirst _ (mem_of_lookup_eq_some leftFound.symm)
          have := leftFirst _ (mem_of_lookup_eq_some rightFound)
          grind
      have sameHead : leftHead = rightHead := by
        rw [if_pos sameKey] at leftFound
        exact Prod.ext sameKey (Option.some.inj leftFound)
      have sameRest : leftRest = rightRest := by
        refine ih leftRestIncreasing rightRestIncreasing fun key => ?_
        by_cases here : key = leftHead.1
        · rw [lookup_eq_none_of_before fun entry member => here ▸ leftFirst entry member,
            lookup_eq_none_of_before fun entry member =>
              here ▸ sameKey ▸ rightFirst entry member]
        · simpa [lookup_cons_if, here, sameKey ▸ here] using same key
      rw [sameHead, sameRest]

/-! ## Maps -/

/-- Maps with the same values are equal. -/
theorem ext_get?
    {left right : KeyMap α}
    (same : ∀ key, left.get? key = right.get? key) :
    left = right :=
  KeyMap.ext (entries_eq_of_lookup_eq left.increasing right.increasing same)

@[simp] theorem get?_empty (key : String) :
    (∅ : KeyMap α).get? key = none := rfl

@[simp] theorem entries_empty : (∅ : KeyMap α).entries = [] := rfl

theorem get?_singleton (key other : String) (value : α) :
    (singleton key value).get? other = if other = key then some value else none := by
  simp [singleton, get?, lookup_cons_if]

theorem get?_insert (map : KeyMap α) (key other : String) (value : α) :
    (map.insert key value).get? other =
      if other = key then some value else map.get? other :=
  lookup_insertEntry key other value map.entries

@[simp] theorem get?_insert_self (map : KeyMap α) (key : String) (value : α) :
    (map.insert key value).get? key = some value := by
  simp [get?_insert]

theorem mem_entries_iff {map : KeyMap α} {key : String} {value : α} :
    (key, value) ∈ map.entries ↔ map.get? key = some value :=
  ⟨lookup_eq_some_of_mem map.increasing, mem_of_lookup_eq_some⟩

theorem get?_filter (map : KeyMap α) (keep : String → α → Bool) (key : String) :
    (map.filter keep).get? key = (map.get? key).filter (keep key) := by
  apply Option.ext
  intro value
  rw [← mem_entries_iff, Option.filter_eq_some_iff, ← mem_entries_iff]
  simp [filter]

theorem get?_erase (map : KeyMap α) (key other : String) :
    (map.erase key).get? other = if other = key then none else map.get? other := by
  rw [erase, get?_filter]
  by_cases same : other = key
  · subst same
    cases map.get? other <;> simp [Option.filter]
  · cases map.get? other <;> simp [Option.filter, same]

theorem get?_map (f : α → β) (source : KeyMap α) (key : String) :
    (source.map f).get? key = (source.get? key).map f := by
  obtain ⟨entries, increasing⟩ := source
  simp only [get?, map]
  clear increasing
  induction entries with
  | nil => rfl
  | cons head rest ih =>
    simp only [List.map_cons, lookup_cons_if, ih]
    split <;> rfl

@[simp] theorem contains_eq_true_iff {map : KeyMap α} {key : String} :
    map.contains key = true ↔ ∃ value, map.get? key = some value := by
  simp [contains, Option.isSome_iff_exists]

theorem mem_keys_iff {map : KeyMap α} {key : String} :
    key ∈ map.keys ↔ ∃ value, map.get? key = some value := by
  simp [keys, ← mem_entries_iff]

/-- The keys are in strictly increasing order. -/
theorem keys_increasing (map : KeyMap α) :
    map.keys.Pairwise (· < ·) :=
  List.pairwise_map.2 map.increasing

@[simp] theorem isEmpty_iff {map : KeyMap α} : map.isEmpty = true ↔ map = ∅ := by
  constructor
  · intro empty
    exact KeyMap.ext (List.isEmpty_iff.1 empty)
  · rintro rfl
    rfl

theorem insert_of_get?
    {map : KeyMap α}
    {key : String}
    {value : α}
    (found : map.get? key = some value) :
    map.insert key value = map := by
  apply ext_get?
  intro other
  rw [get?_insert]
  by_cases same : other = key
  · rw [if_pos same, same, found]
  · rw [if_neg same]

/-- A key that is bound again to the value that it had leaves the map as it was. -/
theorem insert_erase_of_get?
    {map : KeyMap α}
    {key : String}
    {value : α}
    (found : map.get? key = some value) :
    (map.erase key).insert key value = map := by
  apply ext_get?
  intro other
  rw [get?_insert, get?_erase]
  by_cases same : other = key
  · rw [if_pos same, same, found]
  · rw [if_neg same, if_neg same]

theorem erase_insert_of_get?
    {map : KeyMap α}
    {key : String}
    (value : α)
    (absent : map.get? key = none) :
    (map.insert key value).erase key = map := by
  apply ext_get?
  intro other
  rw [get?_erase, get?_insert]
  by_cases same : other = key
  · rw [if_pos same, same, absent]
  · rw [if_neg same, if_neg same]

/-! ## Several entries at once -/

@[simp] theorem insertAll_nil (map : KeyMap α) : map.insertAll [] = map := rfl

@[simp] theorem insertAll_cons
    (map : KeyMap α) (entry : String × α) (rest : List (String × α)) :
    map.insertAll (entry :: rest) = (map.insert entry.1 entry.2).insertAll rest := rfl

theorem get?_insertAll (map : KeyMap α) (entries : List (String × α)) (key : String) :
    (map.insertAll entries).get? key = (entries.reverse.lookup key).or (map.get? key) := by
  induction entries generalizing map with
  | nil => simp
  | cons head rest ih =>
    rw [insertAll_cons, ih, get?_insert, List.reverse_cons, List.lookup_append,
      lookup_cons_if, Option.or_assoc]
    split <;> simp

theorem lookup_reverse_of_increasing
    {entries : List (String × α)}
    (increasing : entries.Pairwise fun left right => left.1 < right.1) (key : String) :
    entries.reverse.lookup key = entries.lookup key := by
  induction entries with
  | nil => rfl
  | cons head rest ih =>
    have ⟨headFirst, restIncreasing⟩ := List.pairwise_cons.1 increasing
    rw [List.reverse_cons, List.lookup_append, ih restIncreasing, lookup_cons_if,
      lookup_cons_if]
    split
    · rename_i same
      have absent : rest.lookup key = none :=
        lookup_eq_none_of_before fun entry member => same ▸ headFirst entry member
      simp [absent]
    · simp

/-- A merged map has the values of the patch where the patch has any. -/
theorem get?_merge (map patch : KeyMap α) (key : String) :
    (map.merge patch).get? key = (patch.get? key).or (map.get? key) := by
  rw [merge, get?_insertAll, lookup_reverse_of_increasing patch.increasing]
  rfl

/-- One entry is lost under a map that has its key, and is added to one that has not. -/
theorem merge_singleton
    (key : String)
    (value : α)
    (patch : KeyMap α) :
    (singleton key value).merge patch =
      patch.insert key ((patch.get? key).getD value) := by
  apply ext_get?
  intro other
  rw [get?_merge, get?_singleton, get?_insert]
  by_cases same : other = key
  · subst same
    cases patch.get? other <;> simp
  · rw [if_neg same, if_neg same, Option.or_none]

@[simp] theorem merge_empty (map : KeyMap α) : map.merge ∅ = map := rfl

/-- Listing the entries of a map and taking them for a map again changes nothing. -/
@[simp] theorem ofList_entries (map : KeyMap α) : ofList map.entries = map := by
  apply ext_get?
  intro key
  rw [ofList, get?_insertAll, lookup_reverse_of_increasing map.increasing]
  simp [get?]

/-- Of a list of bindings, the last one under a key counts. -/
theorem get?_ofList (entries : List (String × α)) (key : String) :
    (ofList entries).get? key = entries.reverse.lookup key := by
  simp [ofList, get?_insertAll]

theorem mem_keys_ofList_iff {entries : List (String × α)} {key : String} :
    key ∈ (ofList entries).keys ↔ ∃ value, (key, value) ∈ entries := by
  rw [mem_keys_iff, get?_ofList]
  constructor
  · rintro ⟨value, found⟩
    exact ⟨value, List.mem_reverse.1 (mem_of_lookup_eq_some found)⟩
  · rintro ⟨value, member⟩
    rw [← Option.isSome_iff_exists, List.lookup_isSome_iff]
    exact ⟨(key, value), List.mem_reverse.2 member, beq_self_eq_true key⟩

theorem get?_eraseAll (map : KeyMap α) (keys : List String) (key : String) :
    (map.eraseAll keys).get? key = if key ∈ keys then none else map.get? key := by
  unfold eraseAll
  induction keys generalizing map with
  | nil => simp
  | cons head rest ih =>
    rw [List.foldl_cons, ih, get?_erase]
    by_cases first : key = head <;> by_cases later : key ∈ rest <;> simp [first, later]

end KeyMap
end Questionnaire
