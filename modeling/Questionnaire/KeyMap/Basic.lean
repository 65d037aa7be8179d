/-!
# Maps from text keys

Contexts, payloads, state tables and transition tables are finite maps from
strings.  A `KeyMap` lists its entries in strictly increasing order of their
keys, so that a map has one representation, equality is equality of contents,
and every listing that an observer sees is in key order.
-/

namespace Questionnaire

/-- A finite map from strings, its entries in increasing order of the keys. -/
@[ext]
structure KeyMap (α : Type) where
  entries : List (String × α)
  increasing : entries.Pairwise fun left right => left.1 < right.1
  deriving DecidableEq

namespace KeyMap

variable {α β : Type}

/-- The map without entries. -/
def empty : KeyMap α := ⟨[], .nil⟩

instance : EmptyCollection (KeyMap α) := ⟨empty⟩

instance : Inhabited (KeyMap α) := ⟨empty⟩

/-- The keys, in increasing order. -/
def keys (map : KeyMap α) : List String :=
  map.entries.map Prod.fst

/-- The values, in the order of their keys. -/
def values (map : KeyMap α) : List α :=
  map.entries.map Prod.snd

/-- The number of entries. -/
def size (map : KeyMap α) : Nat :=
  map.entries.length

/-- Whether there is no entry. -/
def isEmpty (map : KeyMap α) : Bool :=
  map.entries.isEmpty

/-- The value bound to `key`. -/
def get? (map : KeyMap α) (key : String) : Option α :=
  map.entries.lookup key

/-- Whether `key` is bound. -/
def contains (map : KeyMap α) (key : String) : Bool :=
  (map.get? key).isSome

/-- Place an entry among sorted entries, in place of the one with its key. -/
def insertEntry (key : String) (value : α) :
    List (String × α) → List (String × α)
  | [] => [(key, value)]
  | (other, old) :: rest =>
    if key < other then (key, value) :: (other, old) :: rest
    else if key = other then (key, value) :: rest
    else (other, old) :: insertEntry key value rest

theorem key_of_mem_insertEntry
    {key : String} {value : α} {entries : List (String × α)}
    {entry : String × α}
    (member : entry ∈ insertEntry key value entries) :
    entry = (key, value) ∨ entry ∈ entries := by
  induction entries with
  | nil => simpa [insertEntry] using member
  | cons head rest ih =>
    rw [insertEntry] at member
    split at member
    · simpa using member
    · split at member
      · rcases List.mem_cons.1 member with same | later
        · exact .inl same
        · exact .inr (List.mem_cons_of_mem _ later)
      · rcases List.mem_cons.1 member with same | later
        · exact .inr (same ▸ List.mem_cons_self)
        · exact (ih later).imp_right (List.mem_cons_of_mem _)

theorem insertEntry_increasing
    (key : String) (value : α) {entries : List (String × α)}
    (increasing : entries.Pairwise fun left right => left.1 < right.1) :
    (insertEntry key value entries).Pairwise
      fun left right => left.1 < right.1 := by
  induction entries with
  | nil => simp [insertEntry]
  | cons head rest ih =>
    have ⟨headFirst, restIncreasing⟩ := List.pairwise_cons.1 increasing
    rw [insertEntry]
    split
    · rename_i before
      refine List.pairwise_cons.2 ⟨fun entry member => ?_, increasing⟩
      rcases List.mem_cons.1 member with same | later
      · exact same ▸ before
      · exact String.lt_trans before (headFirst entry later)
    · split
      · rename_i same
        exact List.pairwise_cons.2
          ⟨fun entry member => same ▸ headFirst entry member, restIncreasing⟩
      · rename_i notBefore different
        refine List.pairwise_cons.2
          ⟨fun entry member => ?_, ih restIncreasing⟩
        rcases key_of_mem_insertEntry member with same | later
        · subst same
          show head.1 < key
          grind
        · exact headFirst entry later

/-- Bind `key` to `value`, whatever it was bound to before. -/
def insert (map : KeyMap α) (key : String) (value : α) : KeyMap α :=
  ⟨insertEntry key value map.entries, insertEntry_increasing key value map.increasing⟩

/-- The map with one entry. -/
def singleton (key : String) (value : α) : KeyMap α :=
  ⟨[(key, value)], List.pairwise_singleton _ _⟩

/-- Keep the entries that satisfy a test. -/
def filter (map : KeyMap α) (keep : String → α → Bool) : KeyMap α :=
  ⟨map.entries.filter fun entry => keep entry.1 entry.2, map.increasing.filter _⟩

/-- Unbind `key`. -/
def erase (map : KeyMap α) (key : String) : KeyMap α :=
  map.filter fun other _ => other != key

/-- Change every value. -/
def map (f : α → β) (source : KeyMap α) : KeyMap β :=
  ⟨source.entries.map fun entry => (entry.1, f entry.2),
    List.pairwise_map.2 source.increasing⟩

/-- Bind every listed key, in the order of the list: the last binding of a key counts. -/
def insertAll (map : KeyMap α) (entries : List (String × α)) : KeyMap α :=
  entries.foldl (fun result entry => result.insert entry.1 entry.2) map

/-- The map of a list of bindings, of which the last for each key counts. -/
def ofList (entries : List (String × α)) : KeyMap α :=
  insertAll ∅ entries

/-- `map` with all bindings of `patch` put over its own. -/
def merge (map patch : KeyMap α) : KeyMap α :=
  map.insertAll patch.entries

/-- Unbind every listed key. -/
def eraseAll (map : KeyMap α) (keys : List String) : KeyMap α :=
  keys.foldl erase map

end KeyMap
end Questionnaire
