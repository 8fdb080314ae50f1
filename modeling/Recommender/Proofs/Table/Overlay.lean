import Recommender.Proofs.Table
import Recommender.Proofs.Text.Parts

/-! Tables laid over each other. The upper table hides what the lower one has under its keys, and
adds its further keys behind; an entry that it does not hide stays where it is. Tables keyed by
paths are laid over each other as they are by the texts of their paths.
-/

namespace Recommender.Table

-----------------------------------------------------------------------------------------
-- Keys
-----------------------------------------------------------------------------------------

section Keys

variable {κ α β : Type} [DecidableEq κ]

/-- Of different keys that are put one after the other, those that are new come behind, by list
induction.
-/
theorem keys_putAll (table : Table κ α) {entries : List (κ × α)}
    (distinct : (entries.map Prod.fst).Nodup)
    : (table.putAll entries).keys
      = table.keys ++ (entries.map Prod.fst).filter (· ∉ table.keys) := by
  induction entries generalizing table with
  | nil => simp [putAll]
  | cons entry rest ih =>
      rw [List.map_cons, List.nodup_cons] at distinct
      have put : (table.put entry.1 entry.2).keys
          = if entry.1 ∈ table.keys then table.keys else table.keys ++ [entry.1] :=
        keys_putEntry entry.1 entry.2 table.entries
      rw [show table.putAll (entry :: rest) = (table.put entry.1 entry.2).putAll rest from rfl,
        ih _ distinct.2, List.map_cons, put]
      by_cases present : entry.1 ∈ table.keys
      · simp [present]
      · have apart : ∀ key ∈ rest.map Prod.fst, key ≠ entry.1 :=
          fun key member same => distinct.1 (same ▸ member)
        have unseen : (rest.map Prod.fst).filter (· ∉ table.keys ++ [entry.1])
            = (rest.map Prod.fst).filter (· ∉ table.keys) :=
          List.filter_congr fun key member => by simp [apart key member]
        rw [if_neg present, unseen]
        simp [present]

/-- A table laid over another one adds its own keys behind, in its order. -/
theorem keys_overlay (table other : Table κ α)
    : (table.overlay other).keys = table.keys ++ other.keys.filter (· ∉ table.keys) :=
  keys_putAll table other.distinct

/-- The keys that a table laid over another one adds are those that the other one does not have. -/
theorem keys_overlay_contains (table other : Table κ α)
    : (table.overlay other).keys
      = table.keys ++ other.keys.filter fun key => !table.contains key := by
  rw [keys_overlay]
  refine congrArg _ (List.filter_congr fun key _ => ?_)
  rw [Bool.eq_iff_iff, decide_eq_true_eq, Bool.not_eq_true', ← Bool.not_eq_true,
    contains_eq_true]

omit [DecidableEq κ] in
theorem keys_mapValues (f : α → β) (table : Table κ α) : (table.mapValues f).keys = table.keys := by
  rw [keys, mapValues, List.map_map]
  rfl

end Keys

-----------------------------------------------------------------------------------------
-- One table over another
-----------------------------------------------------------------------------------------

section Over

variable {κ α : Type} [DecidableEq κ]

theorem putAll_append (table : Table κ α) (front back : List (κ × α))
    : table.putAll (front ++ back) = (table.putAll front).putAll back :=
  List.foldl_append

/-- What is put into a table that is laid over another one can be put into the result instead. -/
theorem overlay_put (table other : Table κ α) (key : κ) (value : α)
    : table.overlay (other.put key value) = (table.overlay other).put key value := by
  refine eq_of_keys ?_ fun {k v} found => ?_
  · simp only [keys_put, contains_eq_true, keys_overlay, List.mem_append, List.mem_filter,
      decide_eq_true_eq]
    by_cases below : key ∈ table.keys
    · by_cases above : key ∈ other.keys <;> simp [below, above]
    · by_cases above : key ∈ other.keys <;> simp [below, above]
  · rw [find?_overlay, find?_put] at found
    rw [find?_put, find?_overlay]
    split at found <;> simp_all

/-- Entries put into a table that is laid over another one can be put into the result instead, by
list induction.
-/
theorem overlay_putAll (table other : Table κ α) (entries : List (κ × α))
    : table.overlay (other.putAll entries) = (table.overlay other).putAll entries := by
  induction entries generalizing other with
  | nil => rfl
  | cons entry rest ih =>
      have step (table : Table κ α)
          : table.putAll (entry :: rest) = (table.put entry.1 entry.2).putAll rest := rfl
      rw [step, step, ih, overlay_put]

/-- Of three tables it does not matter which two are laid over each other first. -/
theorem overlay_assoc (table middle top : Table κ α)
    : (table.overlay middle).overlay top = table.overlay (middle.overlay top) :=
  (overlay_putAll table middle top.entries).symm

/-- The values of tables can be changed before or after the tables are laid over each other. -/
theorem mapValues_overlay {β : Type} (f : α → β) (table other : Table κ α)
    : (table.overlay other).mapValues f = (table.mapValues f).overlay (other.mapValues f) := by
  refine eq_of_keys ?_ fun {key value} found => ?_
  · simp only [keys_mapValues, keys_overlay]
  · rw [find?_mapValues, find?_overlay] at found
    rw [find?_overlay, find?_mapValues, find?_mapValues, ← found, Option.map_or]

/-- A table made of more entries is the table of the first ones with that of the others laid over
it.
-/
theorem ofList_append (front back : List (κ × α))
    : ofList (front ++ back) = (ofList front).overlay (ofList back) := by
  have nothing : (ofList front).overlay empty = ofList front := rfl
  rw [ofList, putAll_append, ofList, ofList, overlay_putAll, ← ofList, nothing]

/-- An entry stands at a place if its key does and it is found under its key. -/
theorem getElem?_entries {table : Table κ α} {place : Nat} {key : κ} {value : α}
    : table.entries[place]? = some (key, value)
      ↔ table.keys[place]? = some key ∧ table.find? key = some value := by
  rw [keys, List.getElem?_map, find?_eq_some]
  constructor
  · intro stands
    exact ⟨by rw [stands, Option.map_some], List.mem_of_getElem? stands⟩
  · rintro ⟨stands, member⟩
    obtain ⟨⟨key', value'⟩, stands', same⟩ := Option.map_eq_some_iff.mp stands
    subst same
    have found := find?_eq_some.mpr (List.mem_of_getElem? stands')
    rw [find?_eq_some.mpr member] at found
    rw [stands', Option.some.inj found]

/-- An entry that is not hidden by a table laid over its own stays where it is. -/
theorem getElem?_overlay {table other : Table κ α} {place : Nat} {key : κ} {value : α}
    (stands : table.entries[place]? = some (key, value)) (bare : other.find? key = none)
    : (table.overlay other).entries[place]? = some (key, value) := by
  obtain ⟨keyed, found⟩ := getElem?_entries.mp stands
  apply getElem?_entries.mpr
  constructor
  · obtain ⟨inside, _⟩ := List.getElem?_eq_some_iff.mp keyed
    rw [keys_overlay, List.getElem?_append_left inside, keyed]
  · rw [find?_overlay, bare, Option.none_or, found]

end Over

-----------------------------------------------------------------------------------------
-- Tables by text
-----------------------------------------------------------------------------------------

section ByText

variable {α : Type}

theorem distinct_byText (table : Table Path α)
    : ((table.entries.map fun entry => (entry.1.text, entry.2)).map Prod.fst).Nodup := by
  have distinct := table.distinct
  rw [List.Nodup, List.pairwise_map] at distinct ⊢
  rw [List.pairwise_map]
  exact distinct.imp fun other same => other (Path.eq_of_text same)

/-- A table with the texts of its paths as keys. -/
def byText (table : Table Path α) : Table Text α :=
  ⟨table.entries.map fun entry => (entry.1.text, entry.2), table.distinct_byText⟩

/-- A path is put where its text is, by list induction. -/
theorem byText_put (table : Table Path α) (key : Path) (value : α)
    : (table.put key value).byText = table.byText.put key.text value := by
  have inside (entries : List (Path × α))
      : (putEntry key value entries).map (fun entry => (entry.1.text, entry.2))
        = putEntry key.text value (entries.map fun entry => (entry.1.text, entry.2)) := by
    induction entries with
    | nil => rfl
    | cons entry rest ih =>
        rw [putEntry, List.map_cons, putEntry]
        by_cases same : entry.1 = key
        · rw [if_pos same, if_pos (congrArg Path.text same), List.map_cons]
        · rw [if_neg same, if_neg fun text => same (Path.eq_of_text text), List.map_cons, ih]
  exact eq_of_entries (inside table.entries)

/-- Paths are put where their texts are, by list induction. -/
theorem byText_putAll (table : Table Path α) (entries : List (Path × α))
    : (table.putAll entries).byText
      = table.byText.putAll (entries.map fun entry => (entry.1.text, entry.2)) := by
  induction entries generalizing table with
  | nil => rfl
  | cons entry rest ih =>
      rw [putAll, List.foldl_cons]
      refine (ih (table.put entry.1 entry.2)).trans ?_
      rw [byText_put]
      rfl

/-- Tables laid over each other by path are laid over each other by text. -/
theorem byText_overlay (table other : Table Path α)
    : (table.overlay other).byText = table.byText.overlay other.byText :=
  byText_putAll table other.entries

/-- Under a text is found what is found under the path that the text is. -/
theorem find?_byText (table : Table Path α) (t : Text)
    : table.byText.find? t = (Path.ofText? t).bind table.find? := by
  refine Option.ext fun value => ?_
  rw [find?_eq_some, byText, List.mem_map, Option.bind_eq_some_iff]
  constructor
  · rintro ⟨entry, member, same⟩
    obtain ⟨rfl, rfl⟩ := Prod.mk.inj same
    exact ⟨entry.1, Path.ofText?_text entry.1, find?_eq_some.mpr member⟩
  · rintro ⟨p, read, found⟩
    obtain rfl := Path.ofText?_eq_some.mp read
    exact ⟨(p, value), find?_eq_some.mp found, rfl⟩

end ByText

end Recommender.Table
