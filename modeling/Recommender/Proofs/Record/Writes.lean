import Recommender.Proofs.Record.Assignments

/-! What writes to a record leave. A record tells of the writes that made it: a path is present if
the last write to it is an assignment, with its last value in the history, and present paths stand
in the order in which they arrived. Each write that succeeds keeps this, and so does a row of writes
that stops midway.
-/

namespace Recommender

-----------------------------------------------------------------------------------------
-- Writes
-----------------------------------------------------------------------------------------

/-- A single write to a record, as it is given from outside. -/
inductive Write where
  | set (path value : Datum)
  | unset (path : Datum)

namespace Write

/-- What a write makes of a record. -/
def apply (r : Record) : Write → Except Failure Record
  | .set path value => r.set path value
  | .unset path => r.unset path

/-- The path that a write is to. -/
def path? : Write → Option Path
  | .set path _ => Record.pathOf? path
  | .unset path => Record.pathOf? path

/-- What a write assigns, and where. -/
def assigned? : Write → Option (Datum × Datum)
  | .set path value => some (path, value)
  | .unset _ => none

/-- The last of some writes to a path is an assignment. -/
def Leaves (log : List Write) (p : Path) : Prop :=
  ∃ path value, (log.filter (·.path? = some p)).getLast? = some (.set path value)

/-- How many writes come before the one that brought a path which is left from then on: the path is
absent after those and present after each later one.
-/
def ArrivesAt (log : List Write) (p : Path) (i : Nat) : Prop :=
  i < log.length
  ∧ ¬ Leaves (log.take i) p
  ∧ ∀ n, i < n → n ≤ log.length → Leaves (log.take n) p

/-- One more write decides about its own path alone. -/
theorem leaves_concat (log : List Write) (w : Write) (p : Path)
    : Leaves (log ++ [w]) p
      ↔ if w.path? = some p then ∃ path value, w = .set path value else Leaves log p := by
  rw [Leaves, List.filter_append]
  by_cases own : w.path? = some p
  · simp [own]
  · simp [own, Leaves]

theorem take_concat {log : List Write} {n : Nat} (inside : n ≤ log.length) (w : Write)
    : (log ++ [w]).take n = log.take n :=
  List.take_append_of_le_length inside

/-- A path that is left by one more write arrives where it arrived before. -/
theorem ArrivesAt.concat {log : List Write} {p : Path} {i : Nat} (arrives : ArrivesAt log p i)
    {w : Write} (left : Leaves (log ++ [w]) p)
    : ArrivesAt (log ++ [w]) p i := by
  obtain ⟨inside, absent, later⟩ := arrives
  have length : (log ++ [w]).length = log.length + 1 := List.length_append
  refine ⟨by omega, by rwa [take_concat (Nat.le_of_lt inside)], fun n after within => ?_⟩
  rcases Nat.lt_or_ge log.length n with last | earlier
  · rwa [List.take_of_length_le (by omega)]
  · rw [take_concat earlier]
    exact later n after earlier

/-- A path that only the last write brought arrives with it. -/
theorem arrivesAt_last {log : List Write} {p : Path} {w : Write} (absent : ¬ Leaves log p)
    (left : Leaves (log ++ [w]) p)
    : ArrivesAt (log ++ [w]) p log.length := by
  have length : (log ++ [w]).length = log.length + 1 := List.length_append
  refine ⟨by omega, ?_, fun n after within => ?_⟩
  · rwa [take_concat (Nat.le_refl _), List.take_length]
  · rwa [List.take_of_length_le (by omega)]

/-- A path arrives once, for it is absent before it arrives and present afterwards. -/
theorem ArrivesAt.unique {log : List Write} {p : Path} {i j : Nat} (first : ArrivesAt log p i)
    (second : ArrivesAt log p j)
    : i = j := by
  obtain ⟨insideFirst, absentFirst, laterFirst⟩ := first
  obtain ⟨insideSecond, absentSecond, laterSecond⟩ := second
  rcases Nat.lt_trichotomy i j with before | same | after
  · exact absurd (laterFirst j before (Nat.le_of_lt insideSecond)) absentSecond
  · exact same
  · exact absurd (laterSecond i after (Nat.le_of_lt insideFirst)) absentFirst

end Write

-----------------------------------------------------------------------------------------
-- Writes that succeed
-----------------------------------------------------------------------------------------

/-- Whether a datum is a reference, a truth value, an integer, a finite number or a text. -/
def Datum.isAssignable : Datum → Bool
  | .reference _ | .bool _ | .int _ | .text _ | .float (.finite _) => true
  | .missing | .float _ | .list _ | .map _ => false

/-- The data that can be assigned are the values. -/
theorem Datum.isAssignable_iff {d : Datum}
    : d.isAssignable = true ↔ ∃ v : Value, d = v.toDatum := by
  constructor
  · intro fit
    cases d with
    | reference r => exact ⟨.reference r, rfl⟩
    | bool b => exact ⟨.bool b, rfl⟩
    | int n => exact ⟨.int n, rfl⟩
    | text t => exact ⟨.text t, rfl⟩
    | float x =>
        cases x with
        | finite x => exact ⟨.float x, rfl⟩
        | _ => cases fit
    | missing | list | map => cases fit
  · rintro ⟨v, rfl⟩
    cases v <;> rfl

namespace Record

variable {r next : Record} {path value : Datum}

theorem paths_empty : empty.paths = [] :=
  rfl

theorem pathOf?_eq_some {p : Path} : pathOf? path = some p ↔ path = .text p.text := by
  cases path with
  | text t =>
      simp only [pathOf?, Datum.text.injEq]
      constructor
      · intro read
        rw [Path.ofText?] at read
        split at read
        · cases read
          rfl
        · cases read
      · rintro rfl
        exact Path.ofText?_text p
  | missing | bool | int | float | reference | list | map => simp [pathOf?]

theorem assignable_eq_ok {p : Path} {v : Value}
    : assignable p value = .ok v ↔ value = v.toDatum := by
  constructor
  · intro taken
    cases value with
    | float x => cases x <;> cases taken; rfl
    | missing | list | map => cases taken
    | bool | int | text | reference => cases taken; rfl
  · rintro rfl
    exact assignable_toDatum p v

/-- An assignment succeeds exactly on a record that is not frozen, with a path and a value, and adds
the value.
-/
theorem set_eq_ok
    : r.set path value = .ok next
      ↔ r.frozen = false
        ∧ ∃ p v, path = .text p.text ∧ value = Value.toDatum v ∧ next = r.push p v := by
  constructor
  · intro made
    rw [set] at made
    split at made
    · cases made
    · next unfrozen =>
        split at made
        · cases made
        · next p read =>
            cases taken : assignable p value with
            | error failure =>
                rw [taken] at made
                cases made
            | ok v =>
                rw [taken] at made
                cases made
                exact ⟨by simpa using unfrozen, p, v, pathOf?_eq_some.mp read,
                  assignable_eq_ok.mp taken, rfl⟩
  · rintro ⟨unfrozen, p, v, rfl, rfl, rfl⟩
    rw [set_toDatum, assign, unfrozen]
    rfl

/-- An assignment is accepted exactly if the record is not frozen, the path is valid and the value
is one that can be assigned.
-/
theorem set_accepts
    : (∃ next, r.set path value = .ok next)
      ↔ r.frozen = false
        ∧ (∃ t, path = .text t ∧ t.isPath = true)
        ∧ value.isAssignable = true := by
  constructor
  · rintro ⟨next, made⟩
    obtain ⟨unfrozen, p, v, rfl, rfl, _⟩ := set_eq_ok.mp made
    exact ⟨unfrozen, ⟨p.text, rfl, p.valid⟩, Datum.isAssignable_iff.mpr ⟨v, rfl⟩⟩
  · rintro ⟨unfrozen, ⟨t, rfl, valid⟩, fit⟩
    obtain ⟨v, rfl⟩ := Datum.isAssignable_iff.mp fit
    exact ⟨_, set_eq_ok.mpr ⟨unfrozen, ⟨t, valid⟩, v, rfl, rfl, rfl⟩⟩

/-- A removal succeeds exactly on a record that is not frozen, with a path that is present, and
takes away what is there.
-/
theorem unset_eq_ok
    : r.unset path = .ok next
      ↔ r.frozen = false
        ∧ ∃ p,
            path = .text p.text
            ∧ p ∈ r.paths
            ∧ next = { r with values := r.values.erase p } := by
  have present (p : Path) : r.values.contains p = true ↔ p ∈ r.paths := Table.contains_eq_true
  constructor
  · intro made
    rw [unset] at made
    split at made
    · cases made
    · next unfrozen =>
        cases path with
        | text t =>
            simp only [lookupPath, Bind.bind, Except.bind] at made
            split at made
            · next p read =>
                split at made
                · next contained =>
                    cases made
                    exact ⟨by simpa using unfrozen, p, pathOf?_eq_some.mp read,
                      (present p).mp contained, rfl⟩
                · cases made
            · cases made
        | missing | bool | int | float | reference | list | map =>
            simp [lookupPath, pathOf?, Bind.bind, Except.bind] at made
  · rintro ⟨unfrozen, p, rfl, member, rfl⟩
    simp [unset, unfrozen, lookupPath, pathOf?, Path.ofText?_text, (present p).mpr member,
      Bind.bind, Except.bind]

end Record

-----------------------------------------------------------------------------------------
-- What writes leave
-----------------------------------------------------------------------------------------

/-- A record tells of the writes that made it: its history has all assignments in order, a path is
present if the last write to it assigns, with the value of its last entry in the history, and each
present path stands behind those that arrived before it.
-/
structure Chronicled (log : List Write) (r : Record) : Prop where
  history
    : r.history.map (fun entry => (Datum.text entry.1.text, entry.2.toDatum))
      = log.filterMap Write.assigned?
  present : ∀ p, p ∈ r.paths ↔ Write.Leaves log p
  value
    : ∀ p ∈ r.paths, r.get? p = (r.history.filter (·.1 = p)).getLast?.map Prod.snd
  arrival : ∀ p ∈ r.paths, ∃ i, Write.ArrivesAt log p i
  order
    : r.paths.Pairwise fun p q =>
        ∃ i j, Write.ArrivesAt log p i ∧ Write.ArrivesAt log q j ∧ i < j

namespace Chronicled

variable {log : List Write} {r next : Record} {w : Write}

/-- Nothing was written to the record without assignments. -/
theorem empty : Chronicled [] Record.empty where
  history := rfl
  present p := by simp [Write.Leaves, Record.paths_empty]
  value _ there := absurd there List.not_mem_nil
  arrival _ there := absurd there List.not_mem_nil
  order := .nil

/-- Paths that stay, in their order, have arrived where they arrived before. -/
theorem order_stays (chronicled : Chronicled log r) {kept : List Path}
    (sublist : kept.Sublist r.paths) (left : ∀ p ∈ kept, Write.Leaves (log ++ [w]) p)
    : kept.Pairwise fun p q =>
        ∃ i j, Write.ArrivesAt (log ++ [w]) p i ∧ Write.ArrivesAt (log ++ [w]) q j ∧ i < j := by
  refine (chronicled.order.sublist sublist).imp_of_mem ?_
  rintro p q memberP memberQ ⟨i, j, first, second, before⟩
  exact ⟨i, j, first.concat (left p memberP), second.concat (left q memberQ), before⟩

/-- An assignment is told of: a path that was present stays where it is, and a new one arrives
last.
-/
theorem set (chronicled : Chronicled log r) {path value : Datum}
    (made : r.set path value = .ok next)
    : Chronicled (log ++ [.set path value]) next := by
  obtain ⟨_, p, v, rfl, rfl, rfl⟩ := Record.set_eq_ok.mp made
  have own : (Write.set (.text p.text) v.toDatum).path? = some p := Path.ofText?_text p
  have left (q : Path)
      : Write.Leaves (log ++ [.set (.text p.text) v.toDatum]) q ↔ q = p ∨ q ∈ r.paths := by
    rw [Write.leaves_concat, own, chronicled.present q]
    by_cases same : p = q
    · simp [same]
    · simp [same, Ne.symm same]
  have paths : (r.push p v).paths = if p ∈ r.paths then r.paths else r.paths ++ [p] :=
    Table.keys_putEntry p v r.values.entries
  have member (q : Path) : q ∈ (r.push p v).paths ↔ q = p ∨ q ∈ r.paths := by
    rw [paths]
    split
    · next there => exact ⟨.inr, fun either => either.elim (· ▸ there) id⟩
    · rw [List.mem_append, List.mem_singleton, or_comm]
  have arrival {q : Path} (there : q ∈ r.paths)
      : ∃ i, i < log.length ∧ Write.ArrivesAt (log ++ [.set (.text p.text) v.toDatum]) q i := by
    obtain ⟨i, arrives⟩ := chronicled.arrival q there
    exact ⟨i, arrives.1, arrives.concat ((left q).mpr (.inr there))⟩
  have last (absent : p ∉ r.paths)
      : Write.ArrivesAt (log ++ [.set (.text p.text) v.toDatum]) p log.length :=
    Write.arrivesAt_last (mt (chronicled.present p).mpr absent) ((left p).mpr (.inl rfl))
  refine { history := ?_, present := ?_, value := ?_, arrival := ?_, order := ?_ }
  · simp [Record.push, chronicled.history, Write.assigned?]
  · exact fun q => (member q).trans (left q).symm
  · intro q there
    rw [Record.get?, Record.push, Table.find?_put, List.filter_append]
    by_cases same : q = p
    · simp [same]
    · have before : q ∈ r.paths := ((member q).mp there).resolve_left same
      simpa [same, Ne.symm same, Record.get?] using chronicled.value q before
  · intro q there
    by_cases before : q ∈ r.paths
    · obtain ⟨i, _, arrives⟩ := arrival before
      exact ⟨i, arrives⟩
    · obtain rfl := ((member q).mp there).resolve_right before
      exact ⟨log.length, last before⟩
  · have stays := chronicled.order_stays (List.Sublist.refl r.paths)
      fun q there => (left q).mpr (.inr there)
    rw [paths]
    split
    · exact stays
    · next absent =>
        refine List.pairwise_append.mpr ⟨stays, List.pairwise_singleton _ _, ?_⟩
        intro q there p' isLast
        obtain rfl := List.mem_singleton.mp isLast
        obtain ⟨i, inside, arrives⟩ := arrival there
        exact ⟨i, log.length, arrives, last absent, inside⟩

/-- A removal is told of: its path is gone, and the others stay where they are. -/
theorem unset (chronicled : Chronicled log r) {path : Datum} (made : r.unset path = .ok next)
    : Chronicled (log ++ [.unset path]) next := by
  obtain ⟨_, p, rfl, _, rfl⟩ := Record.unset_eq_ok.mp made
  have own : (Write.unset (.text p.text)).path? = some p := Path.ofText?_text p
  have left (q : Path) : Write.Leaves (log ++ [.unset (.text p.text)]) q ↔ q ≠ p ∧ q ∈ r.paths := by
    rw [Write.leaves_concat, own, chronicled.present q]
    by_cases same : p = q
    · simp [same]
    · simp [same, Ne.symm same]
  have paths : Record.paths { r with values := r.values.erase p } = r.paths.filter (· ≠ p) := by
    rw [Record.paths, Record.paths, Table.keys, Table.keys, Table.erase, List.filter_map]
    rfl
  have member (q : Path)
      : q ∈ Record.paths { r with values := r.values.erase p } ↔ q ≠ p ∧ q ∈ r.paths := by
    rw [paths, List.mem_filter, decide_eq_true_iff, and_comm]
  refine { history := ?_, present := ?_, value := ?_, arrival := ?_, order := ?_ }
  · simp [chronicled.history, Write.assigned?]
  · exact fun q => (member q).trans (left q).symm
  · intro q there
    obtain ⟨other, before⟩ := (member q).mp there
    rw [Record.get?, Table.find?_erase, if_neg other]
    exact chronicled.value q before
  · intro q there
    obtain ⟨i, arrives⟩ := chronicled.arrival q ((member q).mp there).2
    exact ⟨i, arrives.concat ((left q).mpr ((member q).mp there))⟩
  · refine chronicled.order_stays ?_ fun q there => (left q).mpr ((member q).mp there)
    rw [paths]
    exact List.filter_sublist

/-- Each write that succeeds is told of. -/
theorem apply (chronicled : Chronicled log r) (made : w.apply r = .ok next)
    : Chronicled (log ++ [w]) next := by
  cases w with
  | set path value => exact chronicled.set made
  | unset path => exact chronicled.unset made

end Chronicled

-----------------------------------------------------------------------------------------
-- Rows of writes
-----------------------------------------------------------------------------------------

namespace Write

/-- What one write after the other makes of a record, up to the first that is refused. -/
def applyAll (r : Record) : List Write → Attempt
  | [] => ⟨r, none⟩
  | w :: rest =>
    match w.apply r with
    | .ok next => applyAll next rest
    | .error failure => ⟨r, some failure⟩

/-- The writes that a record takes before the first that it refuses. -/
def taken (r : Record) : List Write → List Write
  | [] => []
  | w :: rest =>
    match w.apply r with
    | .ok next => w :: taken next rest
    | .error _ => []

/-- A row of assignments is made as an update with them, by list induction. -/
theorem applyAll_update (r : Record) (assignments : List (Datum × Datum))
    : applyAll r (assignments.map fun made => .set made.1 made.2) = r.update assignments := by
  induction assignments generalizing r with
  | nil => rfl
  | cons first rest ih =>
      rw [List.map_cons, applyAll, Record.update]
      change (match r.set first.1 first.2 with | .ok next => _ | .error failure => _) = _
      cases r.set first.1 first.2 with
      | ok next => exact ih next
      | error failure => rfl

/-- A row of writes that stops has made those before one that is refused, by list induction. -/
theorem applyAll_failure {r : Record} {writes : List Write} {failure : Failure}
    (stopped : (applyAll r writes).failure = some failure)
    : ∃ done w rest,
        writes = done ++ w :: rest
        ∧ applyAll r done = ⟨(applyAll r writes).record, none⟩
        ∧ w.apply (applyAll r writes).record = .error failure := by
  induction writes generalizing r with
  | nil => cases stopped
  | cons w rest ih =>
      rw [applyAll] at stopped ⊢
      cases made : w.apply r with
      | error refusal =>
          rw [made] at stopped
          cases stopped
          exact ⟨[], w, rest, rfl, rfl, made⟩
      | ok next =>
          rw [made] at stopped
          obtain ⟨done, w', rest', rfl, before, refused⟩ := ih stopped
          exact ⟨w :: done, w', rest', rfl, by rw [applyAll, made]; exact before, refused⟩

/-- No write freezes a record. -/
theorem frozen_of_apply {r next : Record} {w : Write} (made : w.apply r = .ok next)
    : next.frozen = r.frozen := by
  cases w with
  | set path value =>
      obtain ⟨_, p, v, _, _, rfl⟩ := Record.set_eq_ok.mp made
      rfl
  | unset path =>
      obtain ⟨_, p, _, _, rfl⟩ := Record.unset_eq_ok.mp made
      rfl

theorem frozen_applyAll (r : Record) (writes : List Write)
    : (applyAll r writes).record.frozen = r.frozen := by
  induction writes generalizing r with
  | nil => rfl
  | cons w rest ih =>
      rw [applyAll]
      cases made : w.apply r with
      | error failure => rfl
      | ok next => exact (ih next).trans (frozen_of_apply made)

end Write

/-- The writes that are taken of a row are told of, by list induction. -/
theorem Chronicled.applyAll {log : List Write} {r : Record} (chronicled : Chronicled log r)
    (writes : List Write)
    : Chronicled (log ++ Write.taken r writes) (Write.applyAll r writes).record := by
  induction writes generalizing log r with
  | nil => simpa [Write.taken, Write.applyAll] using chronicled
  | cons w rest ih =>
      rw [Write.taken, Write.applyAll]
      cases made : w.apply r with
      | error failure => simpa using chronicled
      | ok next => simpa using ih (chronicled.apply made)

/-- A record tells of its writes whether or not it is frozen. -/
theorem Chronicled.freeze {log : List Write} {r : Record} (chronicled : Chronicled log r)
    : Chronicled log r.freeze :=
  ⟨chronicled.history, chronicled.present, chronicled.value, chronicled.arrival,
    chronicled.order⟩

end Recommender
