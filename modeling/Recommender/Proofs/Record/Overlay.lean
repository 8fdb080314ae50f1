import Recommender.Proofs.Record.Writes
import Recommender.Proofs.Table.Overlay

/-! Records laid over defaults one after the other. The upper record wins, as if its assignments had
been made in the lower one; a default that no record assigns stays as it is where it is. The
defaults are copied before anything is put into them.
-/

namespace Recommender

-----------------------------------------------------------------------------------------
-- Tables that are held together
-----------------------------------------------------------------------------------------

/-- What can be done to tables that are held together: a copy of one is held behind all others, and
a value is put into one where it is held.
-/
inductive TableAction where
  | copy (place : Nat)
  | put (place : Nat) (key : Text) (value : Datum)

namespace TableAction

/-- The tables after an action. -/
def step (held : List (Table Text Datum)) : TableAction → List (Table Text Datum)
  | .copy place => held ++ held[place]?.toList
  | .put place key value =>
    match held[place]? with
    | none => held
    | some table => held.set place (table.put key value)

/-- The tables after one action after the other. -/
def run (held : List (Table Text Datum)) (actions : List TableAction)
    : List (Table Text Datum) :=
  actions.foldl step held

/-- Values that are put into the last table change no other one, by list induction. -/
theorem run_puts (held : List (Table Text Datum)) (last : Table Text Datum)
    (entries : List (Text × Datum))
    : run (held ++ [last]) (entries.map fun entry => .put held.length entry.1 entry.2)
      = held ++ [last.putAll entries] := by
  induction entries generalizing last with
  | nil => rfl
  | cons entry rest ih =>
      have first : step (held ++ [last]) (.put held.length entry.1 entry.2)
          = held ++ [last.put entry.1 entry.2] := by
        simp [step]
      rw [List.map_cons, run, List.foldl_cons, first]
      exact ih (last.put entry.1 entry.2)

end TableAction

-----------------------------------------------------------------------------------------
-- One record
-----------------------------------------------------------------------------------------

namespace Record

variable {r s : Record} {d : Table Text Datum}

/-- The assignments of a record as another one takes them. -/
def items (r : Record) : List (Datum × Datum) :=
  r.values.entries.map fun entry => (.text entry.1.text, entry.2.toDatum)

/-- The assignments of a record by the texts of their paths, as plain data. -/
def byText (r : Record) : Table Text Datum :=
  (r.values.mapValues Value.toDatum).byText

/-- A record is laid over the table that is held at a place: the table is copied behind the `count`
tables that are held, and one assignment after the other is put into the copy.
-/
def overlaySteps (r : Record) (place count : Nat) : List TableAction :=
  .copy place :: r.byText.entries.map fun entry => .put count entry.1 entry.2

theorem applyTo_eq (r : Record) (d : Table Text Datum) : r.applyTo d = d.overlay r.byText := by
  simp only [applyTo, Table.overlay, byText, Table.byText, Table.mapValues, List.map_map]
  rfl

/-- Step by step a record is laid over a table that itself stays as it is, like all others. -/
theorem run_overlaySteps {held : List (Table Text Datum)} {place : Nat}
    (here : held[place]? = some d) (r : Record)
    : TableAction.run held (r.overlaySteps place held.length) = held ++ [r.applyTo d] := by
  have copied : TableAction.step held (.copy place) = held ++ [d] := by
    rw [TableAction.step, here]
    rfl
  rw [overlaySteps, TableAction.run, List.foldl_cons, copied, applyTo_eq]
  exact TableAction.run_puts held d r.byText.entries

/-- Over the defaults a key shows what the record assigns to it, and where it assigns nothing the
default.
-/
theorem find?_applyTo (r : Record) (d : Table Text Datum) (key : Text)
    : (r.applyTo d).find? key
      = (((Path.ofText? key).bind r.get?).map Value.toDatum).or (d.find? key) := by
  have own : r.byText.find? key = ((Path.ofText? key).bind r.get?).map Value.toDatum := by
    rw [byText, Table.find?_byText]
    cases Path.ofText? key with
    | none => rfl
    | some p => exact Table.find?_mapValues Value.toDatum r.values p
  rw [applyTo_eq, Table.find?_overlay, own]

/-- A record that is not frozen takes all assignments of another one, laid over its own. -/
theorem update_items (unfrozen : r.frozen = false) (s : Record)
    : r.update s.items
      = ⟨⟨r.values.overlay s.values, r.history ++ s.values.entries, false⟩, none⟩ := by
  rw [items, update_toDatum, assignAll_of_unfrozen unfrozen]
  rfl

/-- A default stays where it is if the record assigns nothing to its key. -/
theorem getElem?_applyTo {place : Nat} {key : Text} {value : Datum}
    (stands : d.entries[place]? = some (key, value))
    (unassigned : ∀ p ∈ r.paths, p.text ≠ key)
    : (r.applyTo d).entries[place]? = some (key, value) := by
  rw [applyTo_eq]
  apply Table.getElem?_overlay stands
  rw [byText, Table.find?_byText]
  cases read : Path.ofText? key with
  | none => rfl
  | some p =>
      rw [Option.bind_some, Table.find?_mapValues]
      cases found : r.values.find? p with
      | none => rfl
      | some value =>
          have assigned : p ∈ r.paths := Table.mem_keys.mpr ⟨value, found⟩
          exact absurd (Path.ofText?_eq_some.mp read) (unassigned p assigned)

/-- A path that is taken from a record shows its default again, and nothing else changes. -/
theorem find?_applyTo_erase (r : Record) (d : Table Text Datum) (p : Path) (key : Text)
    : ({ r with values := r.values.erase p }.applyTo d).find? key
      = if key = p.text then d.find? key else (r.applyTo d).find? key := by
  rw [find?_applyTo, find?_applyTo]
  cases read : Path.ofText? key with
  | none =>
      have other : key ≠ p.text := by
        rintro rfl
        rw [Path.ofText?_text] at read
        cases read
      rw [if_neg other]
      rfl
  | some q =>
      obtain rfl := Path.ofText?_eq_some.mp read
      rw [Option.bind_some, Option.bind_some, get?, Table.find?_erase]
      by_cases same : q = p
      · rw [if_pos same, if_pos (congrArg Path.text same)]
        rfl
      · rw [if_neg same, if_neg fun text => same (Path.eq_of_text text)]
        rfl

-----------------------------------------------------------------------------------------
-- Two records
-----------------------------------------------------------------------------------------

/-- Two records laid over defaults one after the other show what the first one shows when it has
taken the assignments of the second, in the same order. A default that neither assigns stays where
it is; a path that is taken from a record shows its default again and nothing else changes; and step
by step the defaults, wherever they are held, stay as they are.
-/
theorem applyTo_composes (unfrozen : r.frozen = false) (s : Record) (d : Table Text Datum)
    : (∃ u, r.update s.items = ⟨u, none⟩ ∧ s.applyTo (r.applyTo d) = u.applyTo d)
      ∧ (∀ (place : Nat) key value,
          d.entries[place]? = some (key, value)
          → (∀ p ∈ r.paths, p.text ≠ key)
          → (∀ p ∈ s.paths, p.text ≠ key)
          → (s.applyTo (r.applyTo d)).entries[place]? = some (key, value))
      ∧ (∀ p ∈ r.paths,
          ∃ u,
            r.unset (.text p.text) = .ok u
            ∧ (u.applyTo d).find? p.text = d.find? p.text
            ∧ ∀ key, key ≠ p.text → (u.applyTo d).find? key = (r.applyTo d).find? key)
      ∧ ∀ (held : List (Table Text Datum)) (place : Nat),
          held[place]? = some d
          → TableAction.run held
              (r.overlaySteps place held.length
                ++ s.overlaySteps held.length (held.length + 1))
            = held ++ [r.applyTo d, s.applyTo (r.applyTo d)] := by
  refine ⟨?_, ?_, ?_, ?_⟩
  · refine ⟨_, update_items unfrozen s, ?_⟩
    rw [applyTo_eq, applyTo_eq, applyTo_eq, Table.overlay_assoc, byText, byText,
      ← Table.byText_overlay, ← Table.mapValues_overlay]
    rfl
  · intro place key value stands bare bare'
    exact getElem?_applyTo (getElem?_applyTo stands bare) bare'
  · intro p member
    refine ⟨_, unset_eq_ok.mpr ⟨unfrozen, p, rfl, member, rfl⟩, ?_, fun key other => ?_⟩
    · rw [find?_applyTo_erase, if_pos rfl]
    · rw [find?_applyTo_erase, if_neg other]
  · intro held place here
    have last : (held ++ [r.applyTo d])[held.length]? = some (r.applyTo d) := by simp
    have second := run_overlaySteps last s
    rw [List.length_append, List.length_singleton] at second
    calc TableAction.run held (r.overlaySteps place held.length
            ++ s.overlaySteps held.length (held.length + 1))
        = TableAction.run (TableAction.run held (r.overlaySteps place held.length))
            (s.overlaySteps held.length (held.length + 1)) := List.foldl_append
      _ = held ++ [r.applyTo d] ++ [s.applyTo (r.applyTo d)] := by
          rw [run_overlaySteps here, second]
      _ = held ++ [r.applyTo d, s.applyTo (r.applyTo d)] := List.append_assoc ..

/-- A path of both records, one of the upper record alone, and a key that is no path. -/
theorem applyTo_composes_three_layers
    : let width : Path := ⟨"knn.width", by decide⟩
      let rounds : Path := ⟨"rounds", by decide⟩
      let r := ofList [(rounds, .int 1), (width, .int 2)]
      let s := ofList [(Path.name, .text "b"), (rounds, .bool true)]
      let d : Table Text Datum :=
        Table.ofList [("knn.width", .int 20), ("a b", .missing), ("rounds", .int 100)]
      let shown : List (Text × Datum) :=
        [("knn.width", .int 2), ("a b", .missing), ("rounds", .bool true), ("name", .text "b")]
      r.frozen = false
      ∧ (s.applyTo (r.applyTo d)).entries = shown
      ∧ (∃ u, r.update s.items = ⟨u, none⟩ ∧ s.applyTo (r.applyTo d) = u.applyTo d)
      ∧ rounds ∈ r.paths
      ∧ ∃ u,
          r.unset (.text "rounds") = .ok u
          ∧ (u.applyTo d).find? "rounds" = d.find? "rounds" := by
  intro width rounds r s d shown
  obtain ⟨composed, _, removed, _⟩ := applyTo_composes (r := r) rfl s d
  obtain ⟨u, made, shown, _⟩ := removed rounds (by decide)
  exact ⟨rfl, rfl, composed, by decide, u, made, shown⟩

end Record

end Recommender
