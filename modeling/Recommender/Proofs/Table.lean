import Recommender.Table

/-! Ordered tables made of lists of entries. Entries with different keys stay as they are, in their
order, and each is found again under its key; what is put or erased is seen under its key alone.
-/

namespace Recommender.Table

variable {κ α : Type}

/-- Tables with the same entries are the same. -/
theorem eq_of_entries {table other : Table κ α} (same : table.entries = other.entries)
    : table = other := by
  cases table
  cases other
  cases same
  rfl

theorem nodup_entries (table : Table κ α) : table.entries.Nodup := by
  have distinct := table.distinct
  rw [List.Nodup, List.pairwise_map] at distinct
  exact distinct.imp fun apart same => apart (congrArg Prod.fst same)

variable [DecidableEq κ]

/-- A value at a new key comes last, by list induction. -/
theorem putEntry_of_absent {key : κ} {entries : List (κ × α)}
    (absent : key ∉ entries.map Prod.fst) (value : α)
    : putEntry key value entries = entries ++ [(key, value)] := by
  induction entries with
  | nil => rfl
  | cons entry rest ih =>
      simp only [List.map_cons, List.mem_cons, not_or] at absent
      rw [putEntry, if_neg (Ne.symm absent.1), ih absent.2]
      rfl

/-- Entries with new and different keys come behind those of the table, by list induction. -/
theorem entries_putAll (table : Table κ α) {entries : List (κ × α)}
    (distinct : ((table.entries ++ entries).map Prod.fst).Nodup)
    : (table.putAll entries).entries = table.entries ++ entries := by
  induction entries generalizing table with
  | nil => simp [putAll]
  | cons entry rest ih =>
      have absent : entry.1 ∉ table.entries.map Prod.fst := by
        intro present
        rw [List.map_append, List.nodup_append] at distinct
        exact distinct.2.2 entry.1 present entry.1 (by simp) rfl
      have put : (table.put entry.1 entry.2).entries = table.entries ++ [entry] :=
        putEntry_of_absent absent entry.2
      have later := ih (table.put entry.1 entry.2) (by simpa [put] using distinct)
      rw [put] at later
      simpa [putAll] using later

/-- Entries with different keys are the entries of their table. -/
theorem entries_ofList {entries : List (κ × α)} (distinct : (entries.map Prod.fst).Nodup)
    : (ofList entries).entries = entries :=
  entries_putAll empty distinct

/-- What is looked for under one key among entries with different keys is found at most once, by
list induction.
-/
theorem filterMap_key {β : Type} {entries : List (κ × α)} (distinct : (entries.map Prod.fst).Nodup)
    (key : κ) (f : α → Option β)
    : entries.filterMap (fun entry => if entry.1 = key then f entry.2 else none)
      = ((entries.lookup key).bind f).toList := by
  induction entries with
  | nil => rfl
  | cons entry rest ih =>
      obtain ⟨key', value⟩ := entry
      rw [List.map_cons, List.nodup_cons] at distinct
      by_cases same : key' = key
      · have others : rest.filterMap (fun e => if e.1 = key then f e.2 else none) = [] := by
          rw [List.filterMap_eq_nil_iff]
          intro e member
          have other : e.1 ≠ key := by
            intro again
            exact distinct.1 (List.mem_map.mpr ⟨e, member, again.trans same.symm⟩)
          rw [if_neg other]
        rw [List.filterMap_cons, others, if_pos same, same, List.lookup_cons_self,
          Option.bind_some]
        cases f value <;> rfl
      · have other : (key == key') = false := beq_false_of_ne (Ne.symm same)
        rw [List.filterMap_cons, if_neg same, List.lookup_cons, other]
        exact ih distinct.2

-----------------------------------------------------------------------------------------
-- What is found
-----------------------------------------------------------------------------------------

theorem lookup_cons_eq (key : κ) (entry : κ × α) (rest : List (κ × α))
    : (entry :: rest).lookup key = if key = entry.1 then some entry.2 else rest.lookup key := by
  rw [List.lookup_cons]
  split
  · next same => rw [if_pos (eq_of_beq same)]
  · next other => rw [if_neg (ne_of_beq_false other)]

/-- An entry is found under its key and no other is, by list induction. -/
theorem find?_eq_some {table : Table κ α} {key : κ} {value : α}
    : table.find? key = some value ↔ (key, value) ∈ table.entries := by
  obtain ⟨entries, distinct⟩ := table
  change entries.lookup key = some value ↔ (key, value) ∈ entries
  induction entries with
  | nil => simp
  | cons entry rest ih =>
      rw [List.map_cons, List.nodup_cons] at distinct
      rw [lookup_cons_eq, List.mem_cons, ← ih distinct.2]
      split
      · next same =>
          have absent : ¬ rest.lookup key = some value := by
            rw [ih distinct.2]
            exact fun later => distinct.1 (List.mem_map.mpr ⟨_, later, same⟩)
          rw [or_iff_left absent, Prod.ext_iff, and_iff_right same]
          exact ⟨fun found => (Option.some.inj found).symm, fun found => found ▸ rfl⟩
      · next other => simp [Prod.ext_iff, other]

theorem mem_keys {table : Table κ α} {key : κ}
    : key ∈ table.keys ↔ ∃ value, table.find? key = some value := by
  simp [keys, find?_eq_some]

/-- A put changes what is found under its key alone, by list induction. -/
theorem find?_put (table : Table κ α) (key : κ) (value : α) (other : κ)
    : (table.put key value).find? other
      = if other = key then some value else table.find? other := by
  have inside (entries : List (κ × α))
      : (putEntry key value entries).lookup other
        = if other = key then some value else entries.lookup other := by
    induction entries with
    | nil => rw [putEntry, lookup_cons_eq]
    | cons entry rest ih =>
        rw [putEntry]
        split
        · next same => rw [lookup_cons_eq, lookup_cons_eq, same]; grind
        · next apart => rw [lookup_cons_eq, lookup_cons_eq, ih]; grind
  exact inside table.entries

/-- Nothing is found under a key that was erased, and under any other what was found before, by list
induction.
-/
theorem find?_erase (table : Table κ α) (key other : κ)
    : (table.erase key).find? other = if other = key then none else table.find? other := by
  have inside (entries : List (κ × α))
      : (entries.filter fun entry => entry.1 ≠ key).lookup other
        = if other = key then none else entries.lookup other := by
    induction entries with
    | nil => simp
    | cons entry rest ih =>
        rw [List.filter_cons, lookup_cons_eq]
        split
        · next kept => rw [lookup_cons_eq, ih]; grind
        · next erased => rw [ih]; grind
  exact inside table.entries

theorem contains_eq_true {table : Table κ α} {key : κ}
    : table.contains key = true ↔ key ∈ table.keys := by
  rw [contains, Option.isSome_iff_exists, mem_keys]

/-- A put keeps the keys in order; a new key comes last. -/
theorem keys_put (table : Table κ α) (key : κ) (value : α)
    : (table.put key value).keys
      = if table.contains key then table.keys else table.keys ++ [key] := by
  simp only [contains_eq_true]
  exact keys_putEntry key value table.entries

/-- Nothing is found under keys that were erased one after the other, by list induction. -/
theorem find?_eraseEach (table : Table κ α) (keys : List κ) (other : κ)
    : (keys.foldl erase table).find? other
      = if other ∈ keys then none else table.find? other := by
  induction keys generalizing table with
  | nil => simp
  | cons key rest ih =>
      rw [List.foldl_cons, ih, find?_erase]
      grind

/-- A value is found under each of the keys at which it was put, by list induction. -/
theorem find?_putEach (table : Table κ α) (keys : List κ) (value : α) (other : κ)
    : (keys.foldl (fun table key => table.put key value) table).find? other
      = if other ∈ keys then some value else table.find? other := by
  induction keys generalizing table with
  | nil => simp
  | cons key rest ih =>
      rw [List.foldl_cons, ih, find?_put]
      grind

/-- A put is not seen by a function that passes over what was and what is under the key, by list
induction.
-/
theorem filterMap_put {β : Type} {f : κ × α → Option β} {table : Table κ α} {key : κ} {value : α}
    (before : ∀ v, table.find? key = some v → f (key, v) = none) (now : f (key, value) = none)
    : (table.put key value).entries.filterMap f = table.entries.filterMap f := by
  have inside (entries : List (κ × α)) (passed : ∀ v, (key, v) ∈ entries → f (key, v) = none)
      : (putEntry key value entries).filterMap f = entries.filterMap f := by
    induction entries with
    | nil => simp [putEntry, now]
    | cons entry rest ih =>
        rw [putEntry]
        split
        · next same =>
            subst same
            rw [List.filterMap_cons, List.filterMap_cons, now, passed entry.2 List.mem_cons_self]
        · rw [List.filterMap_cons, List.filterMap_cons,
            ih fun v member => passed v (List.mem_cons_of_mem _ member)]
  exact inside table.entries fun v member => before v (find?_eq_some.mpr member)

/-- Of entries that are put one after the other the last under a key is found, and where there is
none what was found before, by list induction.
-/
theorem find?_putAll (table : Table κ α) (entries : List (κ × α)) (key : κ)
    : (table.putAll entries).find? key
      = ((entries.filter fun entry => entry.1 = key).getLast?.map Prod.snd).or
          (table.find? key) := by
  induction entries generalizing table with
  | nil => rfl
  | cons entry rest ih =>
      rw [show table.putAll (entry :: rest) = (table.put entry.1 entry.2).putAll rest from rfl, ih,
        find?_put, List.filter_cons]
      by_cases same : entry.1 = key
      · rw [if_pos same.symm, if_pos (decide_eq_true same), List.getLast?_cons]
        cases (rest.filter fun entry => entry.1 = key).getLast? <;> rfl
      · rw [if_neg (Ne.symm same), if_neg (by simpa using same)]

theorem find?_ofList (entries : List (κ × α)) (key : κ)
    : (ofList entries).find? key
      = (entries.filter fun entry => entry.1 = key).getLast?.map Prod.snd := by
  have made := find?_putAll empty entries key
  rwa [show empty.find? key = (none : Option α) from rfl, Option.or_none] at made

/-- A table is made of its own entries. -/
theorem ofList_entries (table : Table κ α) : ofList table.entries = table :=
  eq_of_entries (entries_ofList table.distinct)

/-- A table laid over another one hides what that one has under its keys. -/
theorem find?_overlay (table other : Table κ α) (key : κ)
    : (table.overlay other).find? key = (other.find? key).or (table.find? key) := by
  rw [overlay, find?_putAll, ← find?_ofList, ofList_entries]

/-- A function of the values is a function of what is found, by list induction. -/
theorem find?_mapValues {β : Type} (f : α → β) (table : Table κ α) (key : κ)
    : (table.mapValues f).find? key = (table.find? key).map f := by
  have inside (entries : List (κ × α))
      : (entries.map fun entry => (entry.1, f entry.2)).lookup key
        = (entries.lookup key).map f := by
    induction entries with
    | nil => rfl
    | cons entry rest ih =>
        rw [List.map_cons, lookup_cons_eq, lookup_cons_eq, ih]
        split <;> rfl
  exact inside table.entries

-----------------------------------------------------------------------------------------
-- Tables compared
-----------------------------------------------------------------------------------------

/-- The same is found in tables whose entries are the same but for their order, and only in those.
-/
theorem find?_eq_iff_perm {table other : Table κ α}
    : (∀ key, table.find? key = other.find? key) ↔ table.entries.Perm other.entries := by
  constructor
  · intro same
    refine (List.perm_ext_iff_of_nodup table.nodup_entries other.nodup_entries).mpr ?_
    rintro ⟨key, value⟩
    rw [← find?_eq_some, ← find?_eq_some, same]
  · intro same key
    refine Option.ext fun value => ?_
    rw [find?_eq_some, find?_eq_some, same.mem_iff]

/-- Tables in which the same is found have equal values at the same keys. -/
theorem sameEntries_of_find? {equal : α → α → Bool} (refl : ∀ value, equal value value = true)
    {table other : Table κ α} (same : ∀ key, other.find? key = table.find? key)
    : table.sameEntries equal other = true := by
  have size : table.size = other.size := (find?_eq_iff_perm.mp same).length_eq.symm
  rw [sameEntries, size, beq_self_eq_true, Bool.true_and, List.all_eq_true]
  intro entry member
  rw [same, find?_eq_some.mpr member]
  exact refl entry.2

/-- Tables with the same keys in the same order are the same if what is found in one is found in the
other: each entry is found under its key.
-/
theorem eq_of_keys {table other : Table κ α} (keys : table.keys = other.keys)
    (same : ∀ {key value}, table.find? key = some value → other.find? key = some value)
    : table = other := by
  refine eq_of_entries (List.ext_getElem ?_ fun i inside inside' => ?_)
  · simpa [Table.keys] using congrArg List.length keys
  · have sameKey : table.entries[i].1 = other.entries[i].1 := by
      simpa [Table.keys, inside, inside'] using congrArg (·[i]?) keys
    have found : other.find? table.entries[i].1 = some table.entries[i].2 :=
      same (find?_eq_some.mpr (List.getElem_mem inside))
    have found' : other.find? other.entries[i].1 = some other.entries[i].2 :=
      find?_eq_some.mpr (List.getElem_mem inside')
    rw [sameKey, found'] at found
    exact Prod.ext sameKey (Option.some.inj found).symm

end Recommender.Table
