/-!
Ordered tables: finite maps that remember the order in which their keys were first put in. A put at
a present key keeps its place and replaces its value.
-/
namespace Recommender

/-- Entries in order, no key twice. -/
structure Table (κ α : Type) where
  entries : List (κ × α)
  distinct : (entries.map Prod.fst).Nodup

namespace Table

variable {κ α β : Type} [DecidableEq κ]

/-- The entries after a value is put at a key. -/
def putEntry (key : κ) (value : α) : List (κ × α) → List (κ × α)
  | [] => [(key, value)]
  | entry :: rest =>
    if entry.1 = key then (key, value) :: rest else entry :: putEntry key value rest

/-- A put adds its key at the end, or no key when the key is present. -/
theorem keys_putEntry (key : κ) (value : α) (entries : List (κ × α))
    : (putEntry key value entries).map Prod.fst
      = if key ∈ entries.map Prod.fst then entries.map Prod.fst
        else entries.map Prod.fst ++ [key] := by
  induction entries with
  | nil => simp [putEntry]
  | cons entry rest ih =>
    by_cases same : entry.1 = key
    · simp [putEntry, same]
    · have other : key ≠ entry.1 := fun h => same h.symm
      by_cases present : key ∈ rest.map Prod.fst
      · simp [putEntry, same, present, ih]
      · simp [putEntry, same, other, present, ih]

theorem distinct_putEntry (key : κ) (value : α) (entries : List (κ × α))
    (distinct : (entries.map Prod.fst).Nodup)
    : ((putEntry key value entries).map Prod.fst).Nodup := by
  rw [keys_putEntry]
  split
  · exact distinct
  · next absent =>
    refine List.nodup_append.2 ⟨distinct, by simp, ?_⟩
    intro a memberA b memberB same
    simp only [List.mem_singleton] at memberB
    exact absent (memberB ▸ same ▸ memberA)

/-- The table with no entries. -/
def empty : Table κ α :=
  ⟨[], by simp⟩

instance : EmptyCollection (Table κ α) := ⟨empty⟩

instance : Inhabited (Table κ α) := ⟨empty⟩

/-- The table with a value put at a key. -/
def put (table : Table κ α) (key : κ) (value : α) : Table κ α :=
  ⟨putEntry key value table.entries, distinct_putEntry key value table.entries table.distinct⟩

/-- The value at a key. -/
def find? (table : Table κ α) (key : κ) : Option α :=
  table.entries.lookup key

/-- Whether a key is present. -/
def contains (table : Table κ α) (key : κ) : Bool :=
  (table.find? key).isSome

/-- The table without a key. -/
def erase (table : Table κ α) (key : κ) : Table κ α :=
  ⟨table.entries.filter fun entry => entry.1 ≠ key,
    table.distinct.sublist (List.filter_sublist.map Prod.fst)⟩

/-- The keys in order. -/
def keys (table : Table κ α) : List κ :=
  table.entries.map Prod.fst

/-- The values in the order of their keys. -/
def values (table : Table κ α) : List α :=
  table.entries.map Prod.snd

/-- The number of keys. -/
def size (table : Table κ α) : Nat :=
  table.entries.length

/-- The table with a list of entries put in one after the other. -/
def putAll (table : Table κ α) (entries : List (κ × α)) : Table κ α :=
  entries.foldl (fun table entry => table.put entry.1 entry.2) table

/-- The table of a list of entries: of several with one key, the place of the first and the value of
the last. -/
def ofList (entries : List (κ × α)) : Table κ α :=
  putAll empty entries

/-- The table with another one's entries put in. -/
def overlay (table other : Table κ α) : Table κ α :=
  table.putAll other.entries

/-- The table with every value changed by a function. -/
def mapValues (f : α → β) (table : Table κ α) : Table κ β :=
  ⟨table.entries.map fun entry => (entry.1, f entry.2), by
    have same : (table.entries.map fun entry => (entry.1, f entry.2)).map Prod.fst
        = table.entries.map Prod.fst := by simp [List.map_map, Function.comp_def]
    exact same ▸ table.distinct⟩

/-- Whether two tables hold equal values at the same keys, in whatever order. -/
def sameEntries (equal : α → α → Bool) (table other : Table κ α) : Bool :=
  table.size == other.size
    && table.entries.all fun entry =>
      match other.find? entry.1 with
      | some value => equal entry.2 value
      | none => false

end Table

end Recommender
