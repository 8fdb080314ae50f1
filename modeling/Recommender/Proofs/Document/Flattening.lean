import Mathlib
import Recommender.Proofs.Document
import Recommender.Proofs.Json.Keys
import Recommender.Proofs.Pointwise
import Recommender.Proofs.Record.Assignments

/-! What a configuration document assigns: its leaves one by one, in the order of the document. A
leaf stands at the end of a way of keys, and its path is these keys joined by dots, but empty keys
are left out.
-/

namespace Recommender

-----------------------------------------------------------------------------------------
-- Joined keys
-----------------------------------------------------------------------------------------

namespace Text

/-- A further part is joined behind the others. -/
theorem join_concat (separator : Text) {parts : List Text} (given : parts ≠ []) (last : Text)
    : join separator (parts ++ [last]) = join separator parts ++ separator ++ last := by
  have alone : join separator [last] = last := List.intercalate_singleton
  rw [join_append separator given (List.cons_ne_nil last []), alone]

end Text

namespace Path

/-- Those of some keys that are not empty. -/
def given (keys : List Text) : List Text :=
  keys.filter (· ≠ [])

theorem joinParts_eq (keys : List Text) : joinParts keys = Text.join "." (given keys) := rfl

theorem mem_given {keys : List Text} {key : Text} : key ∈ given keys ↔ key ∈ keys ∧ key ≠ [] := by
  simp [given]

/-- Only where all keys are empty nothing is joined. -/
theorem joinParts_eq_nil {keys : List Text} : joinParts keys = [] ↔ given keys = [] := by
  rw [joinParts_eq]
  cases some : given keys with
  | nil => simp [Text.join]
  | cons key rest =>
      have nonempty : key ≠ [] := (mem_given.mp (some ▸ List.mem_cons_self)).2
      cases rest <;> simp [Text.join, nonempty]

/-- A key is joined to what is joined already as it is joined to the keys themselves: whether
nothing is joined yet, the key is empty, or neither.
-/
theorem joinParts_concat (keys : List Text) (last : Text)
    : joinParts [joinParts keys, last] = joinParts (keys ++ [last]) := by
  have behind : joinParts (keys ++ [last]) = Text.join "." (given keys ++ given [last]) :=
    congrArg (Text.join ".") (List.filter_append ..)
  rw [behind]
  by_cases nothing : joinParts keys = []
  · rw [nothing, joinParts_eq_nil.mp nothing]
    rfl
  · by_cases empty : last = []
    · have alone : given [joinParts keys, last] = [joinParts keys] := by
        simp [given, nothing, empty]
      have none : given [last] = [] := by simp [given, empty]
      rw [joinParts_eq, alone, none, List.append_nil, joinParts_eq]
      exact List.intercalate_singleton
    · have both : given [joinParts keys, last] = [joinParts keys, last] := by
        simp [given, nothing, empty]
      have one : given [last] = [last] := by simp [given, empty]
      rw [one, Text.join_concat "." (mt joinParts_eq_nil.mpr nothing), ← joinParts_eq, joinParts_eq,
        both, Text.join, List.intercalate_cons_cons, List.intercalate_singleton]

/-- Joined keys are a path exactly when each of them is, by list induction. -/
theorem isPath_join {keys : List Text} (given : keys ≠ [])
    : (Text.join "." keys).isPath = keys.all Text.isPath := by
  induction keys with
  | nil => exact absurd rfl given
  | cons key rest ih =>
      cases rest with
      | nil => simp [Text.join]
      | cons next others =>
          rw [Text.join, List.intercalate_cons_cons, isPath_append, List.all_cons]
          exact congrArg _ (ih (List.cons_ne_nil next others))

end Path

-----------------------------------------------------------------------------------------
-- Leaves
-----------------------------------------------------------------------------------------

mutual

/-- The leaves of a datum in order, each with the keys on the way to it. Neither an object nor what
is missing is a leaf.
-/
def Datum.leaves : Datum → List (List Text × Datum)
  | .map entries => memberLeaves entries
  | .missing => []
  | d => [([], d)]

/-- The leaves of the members of an object in order. -/
def memberLeaves : List (Text × Datum) → List (List Text × Datum)
  | [] => []
  | (key, d) :: rest => d.leaves.map (fun leaf => (key :: leaf.1, leaf.2)) ++ memberLeaves rest

end

/-- The way to a leaf of a member begins with the key of a member, by list induction. -/
theorem way_of_memberLeaves {entries : List (Text × Datum)} {leaf : List Text × Datum}
    (member : leaf ∈ memberLeaves entries)
    : ∃ key ∈ entries.map Prod.fst, ∃ way, leaf.1 = key :: way := by
  induction entries with
  | nil =>
      rw [memberLeaves] at member
      exact nomatch member
  | cons entry rest ih =>
      rw [memberLeaves, List.mem_append, List.mem_map] at member
      rcases member with ⟨inner, _, rfl⟩ | later
      · exact ⟨entry.1, List.mem_cons_self, inner.1, rfl⟩
      · obtain ⟨key, isKey, way⟩ := ih later
        exact ⟨key, List.mem_cons_of_mem _ isKey, way⟩

/-- Members with different keys lead to leaves on different ways if each by itself does, by list
induction.
-/
theorem nodup_memberLeaves {entries : List (Text × Datum)} (keys : (entries.map Prod.fst).Nodup)
    (each : ∀ entry ∈ entries, (entry.2.leaves.map Prod.fst).Nodup)
    : ((memberLeaves entries).map Prod.fst).Nodup := by
  induction entries with
  | nil =>
      rw [memberLeaves]
      exact .nil
  | cons entry rest ih =>
      rw [List.map_cons, List.nodup_cons] at keys
      obtain ⟨first, others⟩ := List.forall_mem_cons.mp each
      have inside : (entry.2.leaves.map fun leaf => (entry.1 :: leaf.1, leaf.2)).map Prod.fst
          = (entry.2.leaves.map Prod.fst).map (entry.1 :: ·) := by
        rw [List.map_map, List.map_map]
        rfl
      rw [memberLeaves, List.map_append, inside, List.nodup_append]
      refine ⟨first.map fun _ _ same => (List.cons.inj same).2, ih keys.2 others, ?_⟩
      intro way here other there same
      obtain ⟨way', _, rfl⟩ := List.mem_map.mp here
      obtain ⟨leaf, member, rfl⟩ := List.mem_map.mp there
      obtain ⟨key, isKey, _, begins⟩ := way_of_memberLeaves member
      obtain ⟨rfl, _⟩ := List.cons.inj (same.trans begins)
      exact keys.1 isKey

/-- No two leaves of a datum with distinct keys stand at the end of one way, by induction on the
datum.
-/
theorem Datum.DistinctKeys.nodup_leaves {d : Datum} (distinct : d.DistinctKeys)
    : (d.leaves.map Prod.fst).Nodup := by
  induction distinct with
  | map keys _ ih =>
      rw [leaves]
      exact nodup_memberLeaves keys ih
  | @other d noObject =>
      cases d with
      | map entries => exact absurd rfl (noObject entries)
      | missing =>
          rw [leaves]
          exact .nil
      | bool | int | float | text | reference | list =>
          rw [leaves]
          · exact List.nodup_singleton _
          all_goals simp

/-- A leaf stands for a value: itself, but for a text with an at sign in front, which stands for the
component that it names behind the sign.
-/
inductive Datum.Denotes : Datum → Value → Prop where
  | bool (b : Bool) : Datum.Denotes (.bool b) (.bool b)
  | int (n : Int) : Datum.Denotes (.int n) (.int n)
  | float (x : FiniteDouble) : Datum.Denotes (.float (.finite x)) (.float x)
  | text {t : Text} (plain : t.head? ≠ some CodePoint.atSign) : Datum.Denotes (.text t) (.text t)
  | reference (r : Reference) :
      Datum.Denotes (.text (CodePoint.atSign :: r.name)) (.reference r)

namespace Document

/-- What is found for a leaf: its path and its value. -/
def found (source : Option Text) (above : List Text) (leaf : List Text × Datum)
    : Except Failure (Text × Datum) :=
  let path := Path.joinParts (above ++ leaf.1)
  (Document.leaf source path leaf.2).map (path, ·)

theorem found_cons (source : Option Text) (above : List Text) (key : Text)
    : found source above ∘ (fun leaf => (key :: leaf.1, leaf.2))
      = found source (above ++ [key]) := by
  funext leaf
  rw [Function.comp_apply, found, found, List.append_assoc]
  rfl

mutual

/-- The search goes through the leaves of a datum, by the recursion of the search. -/
theorem leavesOf_eq (source : Option Text) (above : List Text) (d : Datum)
    : leavesOf source (Path.joinParts above) d = d.leaves.mapM (found source above) := by
  cases d with
  | map entries =>
      rw [leavesOf, Datum.leaves]
      exact leaves_eq source above entries
  | missing =>
      rw [leavesOf, Datum.leaves]
      rfl
  | bool | int | float | text | reference | list =>
      rw [leavesOf, Datum.leaves, List.mapM_cons, List.mapM_nil, found]
      · simp only [List.append_nil]
        cases leaf source (Path.joinParts above) _ <;> rfl
      all_goals simp
termination_by sizeOf d

theorem leaves_eq (source : Option Text) (above : List Text) (entries : List (Text × Datum))
    : leaves source (Path.joinParts above) entries
      = (memberLeaves entries).mapM (found source above) := by
  match entries with
  | [] =>
      rw [leaves, memberLeaves]
      rfl
  | (key, d) :: rest =>
      rw [leaves, memberLeaves, List.mapM_append, List.mapM_map, found_cons,
        ← leavesOf_eq source (above ++ [key]) d, ← leaves_eq source above rest,
        Path.joinParts_concat]
termination_by sizeOf entries

end

-----------------------------------------------------------------------------------------
-- Values
-----------------------------------------------------------------------------------------

/-- With an at sign in front a text stands for the component that it names, if it names one. -/
theorem denotes_marked {name : Text} {v : Value}
    : (Datum.text (CodePoint.atSign :: name)).Denotes v
      ↔ ∃ r, Reference.ofText? name = some r ∧ v = .reference r := by
  simp only [Reference.ofText?_eq_some]
  constructor
  · intro denotes
    generalize same : CodePoint.atSign :: name = t at denotes
    cases denotes with
    | text plain => exact absurd (same ▸ rfl) plain
    | reference r => exact ⟨r, (List.cons.inj same).2.symm, rfl⟩
  · rintro ⟨r, rfl, rfl⟩
    exact .reference r

/-- Without one it stands for itself. -/
theorem denotes_plain {t : Text} (plain : t.head? ≠ some CodePoint.atSign) {v : Value}
    : (Datum.text t).Denotes v ↔ v = .text t := by
  constructor
  · intro denotes
    cases denotes with
    | text => rfl
    | reference r => exact absurd rfl plain
  · rintro rfl
    exact .text plain

/-- A leaf is found and assigned as the value that it stands for, and no other is, by the kinds of
leaves.
-/
theorem leaf_assignable {source : Option Text} {path : Text} {place : Path} {d : Datum} {v : Value}
    : (∃ value, leaf source path d = .ok value ∧ Record.assignable place value = .ok v)
      ↔ d.Denotes v := by
  fun_cases leaf source path d with
  | case1 name reference named =>
      refine Iff.trans ⟨?_, ?_⟩ denotes_marked.symm
      · rintro ⟨_, ⟨⟩, ⟨⟩⟩
        exact ⟨reference, named, rfl⟩
      · rintro ⟨r, named', rfl⟩
        obtain rfl := Option.some.inj (named.symm.trans named')
        exact ⟨_, rfl, rfl⟩
  | case2 name misnamed =>
      refine Iff.trans ⟨?_, ?_⟩ denotes_marked.symm
      · rintro ⟨_, ⟨⟩, _⟩
      · rintro ⟨r, named, _⟩
        cases misnamed.symm.trans named
  | case3 t unmarked =>
      have plain : t.head? ≠ some CodePoint.atSign := by
        intro marked
        obtain ⟨name, same⟩ := List.head?_eq_some_iff.mp marked
        exact unmarked name same
      rw [denotes_plain plain]
      constructor
      · rintro ⟨_, ⟨⟩, ⟨⟩⟩
        rfl
      · rintro rfl
        exact ⟨_, rfl, rfl⟩
  | case4 b =>
      constructor
      · rintro ⟨_, ⟨⟩, ⟨⟩⟩
        exact .bool b
      · rintro ⟨⟩
        exact ⟨_, rfl, rfl⟩
  | case5 n =>
      constructor
      · rintro ⟨_, ⟨⟩, ⟨⟩⟩
        exact .int n
      · rintro ⟨⟩
        exact ⟨_, rfl, rfl⟩
  | case6 x =>
      constructor
      · cases x with
        | finite x =>
            rintro ⟨_, ⟨⟩, ⟨⟩⟩
            exact .float x
        | infinite | nan => rintro ⟨_, ⟨⟩, ⟨⟩⟩
      · rintro ⟨⟩
        exact ⟨_, rfl, rfl⟩
  | case7 d _ noText noBool noInt noFloat =>
      refine ⟨?_, fun denotes => ?_⟩
      · rintro ⟨_, ⟨⟩, _⟩
      · cases denotes with
        | bool b => exact absurd rfl (noBool b)
        | int n => exact absurd rfl (noInt n)
        | float x => exact absurd rfl (noFloat _)
        | text => exact absurd rfl (noText _)
        | reference => exact absurd rfl (noText _)

-----------------------------------------------------------------------------------------
-- Assignments
-----------------------------------------------------------------------------------------

/-- What is found for a leaf is taken as an assignment: its text is a path, and its value can be
assigned there.
-/
def Takes (entry : Text × Datum) (assignment : Path × Value) : Prop :=
  assignment.1.text = entry.1 ∧ Record.assignable assignment.1 entry.2 = .ok assignment.2

theorem set_eq_ok {r left : Record} (unfrozen : r.frozen = false) {path : Text} {d : Datum}
    : r.set (.text path) d = .ok left
      ↔ ∃ assignment, Takes (path, d) assignment ∧ r.push assignment.1 assignment.2 = left := by
  rw [Record.set, unfrozen, if_neg Bool.false_ne_true, Record.pathOf?]
  cases read : Path.ofText? path with
  | none =>
      constructor
      · rintro ⟨⟩
      · rintro ⟨⟨place, v⟩, ⟨rfl, _⟩, _⟩
        cases read.symm.trans (Path.ofText?_text place)
  | some place =>
      have text : place.text = path := Path.ofText?_eq_some.mp read
      dsimp only
      constructor
      · intro taken
        cases made : Record.assignable place d with
        | error failure =>
            rw [made] at taken
            cases taken
        | ok v =>
            rw [made] at taken
            exact ⟨(place, v), ⟨text, made⟩, Except.ok.inj taken⟩
      · rintro ⟨⟨place', v⟩, ⟨text', made⟩, rfl⟩
        obtain rfl := Path.eq_of_text (text'.trans text.symm)
        rw [made]
        rfl

/-- Exactly the leaves that are all taken give a record, with their assignments in order, by list
induction.
-/
theorem assignLeaves_eq_ok {source : Option Text} {r left : Record} (unfrozen : r.frozen = false)
    {entries : List (Text × Datum)}
    : assignLeaves source r entries = .ok left
      ↔ ∃ made, List.Forall₂ Takes entries made
          ∧ made.foldl (fun r assignment => r.push assignment.1 assignment.2) r = left := by
  induction entries generalizing r with
  | nil =>
      rw [assignLeaves, Except.ok.injEq]
      constructor
      · intro same
        exact ⟨[], .nil, same⟩
      · rintro ⟨_, ⟨⟩, same⟩
        exact same
  | cons entry rest ih =>
      have next (assignment : Path × Value) := @ih (r.push assignment.1 assignment.2) unfrozen
      rw [assignLeaves]
      constructor
      · intro all
        cases taken : r.set (.text entry.1) entry.2 with
        | error failure =>
            rw [taken] at all
            cases all
        | ok after =>
            rw [taken] at all
            obtain ⟨first, takes, rfl⟩ := (set_eq_ok unfrozen).mp taken
            obtain ⟨others, later, same⟩ := (next first).mp all
            exact ⟨first :: others, .cons takes later, same⟩
      · rintro ⟨made, all, same⟩
        cases all with
        | @cons _ first _ others takes later =>
            rw [(set_eq_ok unfrozen).mpr ⟨first, takes, rfl⟩]
            exact (next first).mpr ⟨others, later, same⟩

/-- A leaf assigns its value at its path: the keys on the way to it joined by dots, but without the
empty ones.
-/
structure Assigns (leaf : List Text × Datum) (assignment : Path × Value) : Prop where
  path : assignment.1.text = Text.join "." (Path.given leaf.1)
  value : leaf.2.Denotes assignment.2

/-- What is found for a leaf and taken is what the leaf assigns. -/
theorem assigns_iff {source : Option Text} {leaf : List Text × Datum} {assignment : Path × Value}
    : (∃ entry, found source [] leaf = .ok entry ∧ Takes entry assignment)
      ↔ Assigns leaf assignment := by
  rw [found, List.nil_append, Path.joinParts_eq]
  constructor
  · rintro ⟨⟨path, value⟩, made, text, taken⟩
    cases value' : Document.leaf source (Text.join "." (Path.given leaf.1)) leaf.2 with
    | error failure =>
        rw [value'] at made
        exact nomatch made
    | ok v =>
        rw [value'] at made
        obtain ⟨rfl, rfl⟩ := Prod.mk.inj (Except.ok.inj made)
        exact ⟨text, leaf_assignable.mp ⟨v, value', taken⟩⟩
  · rintro ⟨text, denotes⟩
    obtain ⟨value, made, taken⟩ := leaf_assignable.mpr denotes
    exact ⟨_, by rw [made]; rfl, text, taken⟩

/-- An object gives the record of the assignments that its leaves make. -/
theorem record_of_leaves {source : Option Text} {entries : List (Text × Datum)} {r : Record}
    : (do assignLeaves source Record.empty (← leaves source [] entries)) = .ok r
      ↔ ∃ made, List.Forall₂ Assigns (memberLeaves entries) made ∧ Record.ofList made = r := by
  have assigns : Assigns = fun leaf assignment =>
      ∃ entry, found source [] leaf = .ok entry ∧ Takes entry assignment :=
    funext₂ fun _ _ => propext assigns_iff.symm
  rw [show leaves source [] entries = (memberLeaves entries).mapM (found source []) from
    leaves_eq source [] entries, assigns]
  simp only [← Pointwise.comp_iff, ← Pointwise.mapM_iff]
  cases (memberLeaves entries).mapM (found source []) with
  | error failure => exact ⟨(nomatch ·), fun ⟨_, ⟨_, made, _⟩, _⟩ => nomatch made⟩
  | ok between =>
      refine (assignLeaves_eq_ok rfl).trans ⟨?_, ?_⟩
      · rintro ⟨made, takes, same⟩
        exact ⟨made, ⟨between, rfl, takes⟩, same⟩
      · rintro ⟨made, ⟨_, ⟨⟩, takes⟩, same⟩
        exact ⟨made, takes, same⟩

-----------------------------------------------------------------------------------------
-- Documents
-----------------------------------------------------------------------------------------

/-- A text is accepted exactly where it denotes an object and each leaf of the object makes an
assignment; the record is that of these assignments.
-/
theorem toRecord_eq_ok {source : Option Text} {t : Text} {r : Record}
    : toRecord source t = .ok r
      ↔ ∃ entries,
          Json.parse rules t = .ok (.map entries)
          ∧ List.Forall₂ Assigns (memberLeaves entries) r.history
          ∧ Record.ofList r.history = r := by
  rw [toRecord]
  cases read : Json.parse rules t with
  | error stop => simp
  | ok d =>
      cases d with
      | map entries =>
          refine record_of_leaves.trans ⟨?_, ?_⟩
          · rintro ⟨made, assigns, rfl⟩
            have history : (Record.ofList made).history = made := by rw [Record.ofList_eq]
            exact ⟨entries, rfl, history.symm ▸ assigns, congrArg Record.ofList history⟩
          · rintro ⟨_, ⟨⟩, assigns, same⟩
            exact ⟨_, assigns, same⟩
      | missing | bool | int | float | text | reference | list => simp

/-- The keys on the way to a leaf that makes an assignment: not all are empty, and each that is not
is a path.
-/
theorem Assigns.keys {leaf : List Text × Datum} {assignment : Path × Value}
    (assigns : Assigns leaf assignment)
    : Path.given leaf.1 ≠ [] ∧ ∀ key ∈ leaf.1, key = [] ∨ key.isPath = true := by
  have valid : (Text.join "." (Path.given leaf.1)).isPath = true :=
    assigns.path ▸ assignment.1.valid
  have some : Path.given leaf.1 ≠ [] := by
    intro none
    rw [none] at valid
    cases valid
  rw [Path.isPath_join some, List.all_eq_true] at valid
  refine ⟨some, fun key member => or_iff_not_imp_left.mpr fun nonempty => ?_⟩
  exact valid key (Path.mem_given.mpr ⟨member, nonempty⟩)

/-- The path of an assignment is all keys of its leaf joined exactly when none of them is empty. -/
theorem Assigns.path_eq_iff {leaf : List Text × Datum} {assignment : Path × Value}
    (assigns : Assigns leaf assignment)
    : assignment.1.text = Text.join "." leaf.1 ↔ ∀ key ∈ leaf.1, key ≠ [] := by
  obtain ⟨some, _⟩ := assigns.keys
  constructor
  · intro whole key member empty
    have valid : (Text.join "." leaf.1).isPath = true := whole ▸ assignment.1.valid
    rw [Path.isPath_join (List.ne_nil_of_mem member), List.all_eq_true] at valid
    exact nomatch empty ▸ valid key member
  · intro nonempty
    have all : Path.given leaf.1 = leaf.1 :=
      List.filter_eq_self.mpr fun key member => decide_eq_true (nonempty key member)
    rw [assigns.path, all]

/-- At each path a record has the value of the last leaf that assigns there. -/
theorem get?_of_assigns {leaves : List (List Text × Datum)} {made : List (Path × Value)}
    (assigns : List.Forall₂ Assigns leaves made) (p : Path)
    : Option.Rel (fun leaf v => leaf.2.Denotes v)
        (leaves.filter fun leaf => Text.join "." (Path.given leaf.1) = p.text).getLast?
        ((Record.ofList made).get? p) := by
  have there : List.Forall₂ Assigns
      (leaves.filter fun leaf => Text.join "." (Path.given leaf.1) = p.text)
      (made.filter fun assignment => assignment.1 = p) := by
    refine List.rel_filter (fun {leaf assignment} pair => ?_) assigns
    simp only [decide_eq_true_eq, ← pair.path]
    exact ⟨Path.eq_of_text, fun same => same ▸ rfl⟩
  have last := Pointwise.getLast?_rel there
  rw [Record.get?_ofList]
  generalize List.getLast? _ = leaf at last ⊢
  generalize List.getLast? _ = assignment at last ⊢
  cases last with
  | none => exact .none
  | some pair => exact .some pair.value

/-- A text is accepted exactly where it denotes an object and each leaf of the object makes an
assignment; the history of the record is these assignments. Then no two leaves stand at the end of
one way, each key on the way to a leaf is a path or empty, the paths are all keys joined exactly
where none of them is empty, and at each path the last leaf decides.
-/
theorem toRecord_flattens (source : Option Text) (t : Text) (r : Record)
    : (toRecord source t = .ok r
        ↔ ∃ entries,
            Json.parse rules t = .ok (.map entries)
            ∧ List.Forall₂ Assigns (memberLeaves entries) r.history
            ∧ Record.ofList r.history = r)
      ∧ ∀ entries,
          toRecord source t = .ok r →
          Json.parse rules t = .ok (.map entries) →
          ((memberLeaves entries).map Prod.fst).Nodup
          ∧ (∀ leaf ∈ memberLeaves entries, ∀ key ∈ leaf.1, key = [] ∨ key.isPath = true)
          ∧ (((memberLeaves entries).map fun leaf => Text.join "." leaf.1)
                = r.history.map (fun assignment => assignment.1.text)
              ↔ ∀ leaf ∈ memberLeaves entries, ∀ key ∈ leaf.1, key ≠ [])
          ∧ ∀ p,
              Option.Rel (fun leaf v => leaf.2.Denotes v)
                ((memberLeaves entries).filter fun leaf =>
                  Text.join "." (Path.given leaf.1) = p.text).getLast?
                (r.get? p) := by
  refine ⟨toRecord_eq_ok, fun entries accepted read => ?_⟩
  obtain ⟨entries', read', assigns, same⟩ := toRecord_eq_ok.mp accepted
  obtain ⟨rfl⟩ : entries = entries' := by simpa using read.symm.trans read'
  refine ⟨?_, fun leaf member => ?_, ?_, fun p => ?_⟩
  · have distinct := (Json.distinctKeys_of_parse read).nodup_leaves
    rwa [Datum.leaves] at distinct
  · obtain ⟨assignment, _, pair⟩ := Pointwise.exists_right assigns member
    exact pair.keys.2
  · exact Pointwise.map_eq_iff assigns fun pair => eq_comm.trans pair.path_eq_iff
  · have last := get?_of_assigns assigns p
    rwa [same] at last

/-- A document in which two leaves have the same path and one is missing. -/
def nested : Text :=
  "\x7b\"a\":\x7b\"b\":1,\"c\":null\x7d,\"m\":\"@M\",\"a.b\":true\x7d"

/-- The members of the object that it denotes. -/
def nestedMembers : List (Text × Datum) :=
  [("a", .map [("b", .int 1), ("c", .missing)]), ("m", .text "@M"), ("a.b", .bool true)]

theorem parse_nested : Json.parse rules nested = .ok (.map nestedMembers) := by
  cbv

theorem toRecord_flattens_nested
    : let r :=
        Record.ofList
          [(⟨"a.b", by decide⟩, .int 1), (⟨"m", by decide⟩, .reference ⟨"M", by decide⟩),
            (⟨"a.b", by decide⟩, .bool true)]
      toRecord none nested = .ok r
      ∧ (memberLeaves nestedMembers).map (fun leaf => Text.join "." leaf.1)
        = r.history.map (fun assignment => assignment.1.text)
      ∧ ∃ v, r.get? ⟨"a.b", by decide⟩ = some v ∧ (Datum.bool true).Denotes v := by
  intro r
  obtain ⟨accepts, follows⟩ := toRecord_flattens none nested r
  have accepted : toRecord none nested = .ok r :=
    accepts.mpr
      ⟨nestedMembers, parse_nested,
        .cons ⟨rfl, .int 1⟩ (.cons ⟨rfl, .reference ⟨"M", by decide⟩⟩
          (.cons ⟨rfl, .bool true⟩ .nil)), rfl⟩
  obtain ⟨_, _, joined, decides⟩ := follows nestedMembers accepted parse_nested
  refine ⟨accepted, joined.mpr (by decide), ?_⟩
  cases decides ⟨"a.b", by decide⟩ with
  | some denotes => exact ⟨_, rfl, denotes⟩

/-- A document in which an object has an empty key. -/
def emptyKey : Text :=
  "\x7b\"a\": \x7b\"\": 1\x7d\x7d"

/-- The members of the object that it denotes. -/
def emptyKeyMembers : List (Text × Datum) :=
  [("a", .map [("", .int 1)])]

theorem parse_emptyKey : Json.parse rules emptyKey = .ok (.map emptyKeyMembers) := by
  cbv

/-- An empty key is no path and is still accepted on the way to a leaf, whose path then is not all
keys joined.
-/
theorem toRecord_empty_key
    : let way : List Text := ["a", ""]
      toRecord none emptyKey = .ok (Record.ofList [(⟨"a", by decide⟩, .int 1)])
      ∧ Json.parse rules emptyKey = .ok (.map emptyKeyMembers)
      ∧ memberLeaves emptyKeyMembers = [(way, .int 1)]
      ∧ Text.join "." way ≠ "a"
      ∧ ∃ key ∈ way, key.isPath = false := by
  have accepted : toRecord none emptyKey = .ok (Record.ofList [(⟨"a", by decide⟩, .int 1)]) :=
    toRecord_eq_ok.mpr ⟨emptyKeyMembers, parse_emptyKey, .cons ⟨rfl, .int 1⟩ .nil, rfl⟩
  exact ⟨accepted, parse_emptyKey, rfl, by decide, "", by decide, by decide⟩

end Document

end Recommender
