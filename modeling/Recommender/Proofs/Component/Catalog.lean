import Mathlib
import Recommender.Proofs.Component.Resolution
import Recommender.Proofs.Files.Failures

/-! Loading a catalog. Its components are registered one after the other, and those before the first
that is refused stay; so a catalog is loaded as a whole or not at all exactly when none of its
components collides with what stands where it is registered.
-/

namespace Recommender

namespace Registry

variable {r : Registry} {replace : Bool}

-----------------------------------------------------------------------------------------
-- What stands
-----------------------------------------------------------------------------------------

/-- The last component of a list that has a name. -/
def lastNamed (listed : List Component) (name : Text) : Option Component :=
  (listed.filter (·.name = name)).getLast?

/-- The component that stands under a name once the components of a list are put into a registry. -/
def standing (r : Registry) (listed : List Component) (name : Text) : Option Component :=
  (lastNamed listed name).or (r.components.find? name)

/-- The registry with components put in one after the other. -/
def insertAll (r : Registry) (listed : List Component) : Registry :=
  listed.foldl insert r

theorem insertAll_concat (listed : List Component) (c : Component)
    : r.insertAll (listed ++ [c]) = (r.insertAll listed).insert c :=
  List.foldl_append ..

/-- Under each name stands the last component that was put in, by induction on the list from its
end.
-/
theorem find?_insertAll (r : Registry) (listed : List Component)
    : (r.insertAll listed).components.find? = r.standing listed := by
  induction listed using List.reverseRecOn with
  | nil => rfl
  | append_singleton listed c ih =>
      funext name
      rw [insertAll_concat, find?_insert, ih, standing, standing, lastNamed, lastNamed,
        List.filter_append]
      by_cases same : name = c.name
      · simp [same]
      · simp [same, Ne.symm same]

-----------------------------------------------------------------------------------------
-- Collisions
-----------------------------------------------------------------------------------------

/-- A component collides with what stands, and how it is refused: its name is taken and nothing is
replaced, or else one of its aliases is an alias of a component with another name.
-/
inductive Collides (standing : Text → Option Component) (replace : Bool) (c : Component)
    : Failure → Prop where
  | name (keeps : replace = false) (taken : (standing c.name).isSome = true) :
      Collides standing replace c (.alreadyRegistered c.name)
  | shared {other owner : Text} {d : Component}
      (unnamed : (standing c.name).isSome = true → replace = true)
      (held : standing owner = some d) (apart : owner ≠ c.name) (has : other ∈ d.aliases)
      (asked : other ∈ c.aliases) :
      Collides standing replace c (.aliasTaken other owner)

/-- A component is registered exactly where it collides with nothing, and is refused as it
collides.
-/
theorem Sound.register_cases (sound : r.Sound) (replace : Bool) (c : Component)
    : ((∀ failure, ¬ Collides r.components.find? replace c failure)
        ∧ r.register c replace = .ok (r.insert c))
      ∨ ∃ failure,
          Collides r.components.find? replace c failure
          ∧ r.register c replace = .error failure := by
  rw [Registry.register]
  by_cases taken : (r.components.contains c.name && !replace) = true
  · rw [if_pos taken]
    rw [Bool.and_eq_true, Bool.not_eq_true'] at taken
    exact .inr ⟨_, .name taken.2 taken.1, rfl⟩
  · have unnamed : (r.components.find? c.name).isSome = true → replace = true := by
      simpa [Table.contains] using taken
    rw [if_neg taken]
    cases free : r.takenAlias? c.name c.aliases with
    | some pair =>
        obtain ⟨other, asked, owned⟩ := List.exists_of_findSome?_eq_some free
        refine .inr ⟨.aliasTaken pair.1 pair.2, ?_, rfl⟩
        cases led : r.aliases.find? other with
        | none => simp [led] at owned
        | some owner =>
            obtain ⟨apart, rfl⟩ : owner ≠ c.name ∧ (other, owner) = pair := by
              simpa [led] using owned
            obtain ⟨d, held, has⟩ := sound.owned.mp led
            exact .shared unnamed held apart has asked
    | none =>
        rw [takenAlias?_eq_none] at free
        refine .inl ⟨fun failure collides => ?_, rfl⟩
        cases collides with
        | name keeps taken => cases keeps.symm.trans (unnamed taken)
        | shared _ held apart has asked =>
            exact apart (free _ asked _ (sound.owned.mpr ⟨_, held, has⟩))

/-- No component of a list collides with what stands when its turn comes. -/
def Fits (r : Registry) (replace : Bool) (listed : List Component) : Prop :=
  ∀ before c after, listed = before ++ c :: after →
    ∀ failure, ¬ Collides (r.standing before) replace c failure

theorem fits_nil : r.Fits replace [] :=
  fun before c after listed => by simp at listed

/-- Components fit with one more at the end exactly when they fit and that one does not collide. -/
theorem fits_concat {listed : List Component} {c : Component}
    : r.Fits replace (listed ++ [c])
      ↔ r.Fits replace listed ∧ ∀ failure, ¬ Collides (r.standing listed) replace c failure := by
  constructor
  · intro fits
    refine ⟨fun before d after same => ?_, fits listed c [] rfl⟩
    exact fits before d (after ++ [c]) (by rw [same, List.append_assoc, List.cons_append])
  · rintro ⟨fits, apart⟩ before d after same
    rcases List.eq_nil_or_concat after with rfl | ⟨others, e, rfl⟩
    · obtain ⟨rfl, last⟩ := List.append_inj' same rfl
      obtain rfl := List.singleton_inj.mp last
      exact apart
    · rw [List.concat_eq_append, ← List.cons_append, ← List.append_assoc] at same
      exact fits before d others (List.append_inj' same rfl).1

/-- Components fit, or one is the first that collides, by induction on the list from its end. -/
theorem fits_or_collides (r : Registry) (replace : Bool) (listed : List Component)
    : r.Fits replace listed
      ∨ ∃ before c after failure,
          listed = before ++ c :: after
          ∧ r.Fits replace before
          ∧ Collides (r.standing before) replace c failure := by
  induction listed using List.reverseRecOn with
  | nil => exact .inl fits_nil
  | append_singleton listed c ih =>
      rcases ih with fits | ⟨before, d, after, failure, rfl, fits, collides⟩
      · by_cases some : ∃ failure, Collides (r.standing listed) replace c failure
        · obtain ⟨failure, collides⟩ := some
          exact .inr ⟨listed, c, [], failure, rfl, fits, collides⟩
        · exact .inl (fits_concat.mpr ⟨fits, fun failure collides => some ⟨failure, collides⟩⟩)
      · exact .inr ⟨before, d, after ++ [c], failure, by simp, fits, collides⟩

-----------------------------------------------------------------------------------------
-- Registering a list
-----------------------------------------------------------------------------------------

/-- Behind components that are all registered the others are registered, by list induction. -/
theorem registerAll_append {left : Registry} {first : List Component}
    (made : r.registerAll replace first = (left, none)) (rest : List Component)
    : r.registerAll replace (first ++ rest) = left.registerAll replace rest := by
  induction first generalizing r with
  | nil =>
      cases made
      rfl
  | cons c others ih =>
      rw [registerAll] at made
      rw [List.cons_append, registerAll]
      cases one : r.register c replace with
      | error failure =>
          rw [one] at made
          cases made
      | ok next =>
          rw [one] at made
          exact ih made

theorem Sound.of_registerAll (sound : r.Sound) {left : Registry} {listed : List Component}
    (made : r.registerAll replace listed = (left, none))
    : left.Sound := by
  have kept := sound.registerAll replace listed
  rwa [made] at kept

/-- Components that fit are all put in, by induction on the list from its end. -/
theorem Sound.registerAll_of_fits (sound : r.Sound) {listed : List Component}
    (fits : r.Fits replace listed)
    : r.registerAll replace listed = (r.insertAll listed, none) := by
  induction listed using List.reverseRecOn with
  | nil => rfl
  | append_singleton listed c ih =>
      obtain ⟨fits, apart⟩ := fits_concat.mp fits
      have made := ih fits
      rw [registerAll_append made, insertAll_concat, Registry.registerAll]
      rcases (sound.of_registerAll made).register_cases replace c with
        ⟨_, one⟩ | ⟨failure, collides, _⟩
      · rw [one]
        rfl
      · rw [find?_insertAll] at collides
        exact absurd collides (apart failure)

/-- The first component that collides is refused, and those before it stay. -/
theorem Sound.registerAll_of_collides (sound : r.Sound) {before : List Component} {c : Component}
    {failure : Failure} (fits : r.Fits replace before)
    (collides : Collides (r.standing before) replace c failure) (after : List Component)
    : ∃ failure,
        Collides (r.standing before) replace c failure
        ∧ r.registerAll replace (before ++ c :: after) = (r.insertAll before, some failure) := by
  have made := sound.registerAll_of_fits fits
  rw [registerAll_append made, Registry.registerAll]
  rw [← find?_insertAll] at collides ⊢
  rcases (sound.of_registerAll made).register_cases replace c with
    ⟨apart, _⟩ | ⟨failure', collides', refused⟩
  · exact absurd collides (apart failure)
  · exact ⟨failure', collides', by rw [refused]⟩

end Registry

-----------------------------------------------------------------------------------------
-- Reading a catalog
-----------------------------------------------------------------------------------------

/-- A path that can be asked for: it has bytes and holds no null character. -/
def FilePath.Askable (path : FilePath) : Prop :=
  path.unencodable? = none ∧ path.holdsNull = false

/-- A catalog that cannot be read is a problem unless nothing is found because its path cannot even
be asked for.
-/
theorem Catalog.read_error {tree : FileTree} {path : FilePath} {failure : Failure}
    (failed : read tree path = .error failure)
    : (∃ problem, failure = .problem problem)
      ↔ path.Askable ∨ ∃ bytes, tree.read path = .ok bytes := by
  rw [read] at failed
  cases stored : tree.read path with
  | error fault =>
      have null := (FileTree.read_error stored).2
      rw [stored] at failed
      dsimp only [FileFault.unforeseen?] at failed
      obtain rfl := Except.error.inj failed
      cases bytes : path.unencodable? with
      | some surrogates => simp [FilePath.Askable, bytes]
      | none =>
          by_cases holds : path.holdsNull = true <;> simp [FilePath.Askable, bytes, null, holds]
  | ok bytes =>
      rw [stored] at failed
      dsimp only at failed
      split at failed
      · cases failed
      · obtain rfl := Except.error.inj failed
        simp

theorem Catalog.stored_of_read {tree : FileTree} {path : FilePath} {listed : List Component}
    (made : read tree path = .ok listed)
    : ∃ bytes, tree.read path = .ok bytes := by
  rw [read] at made
  split at made
  · cases made
  · next bytes stored => exact ⟨bytes, stored⟩

-----------------------------------------------------------------------------------------
-- Loading a catalog
-----------------------------------------------------------------------------------------

namespace Registry

variable {r : Registry} {replace : Bool} {tree : FileTree} {path : FilePath}

/-- All components of a list are loaded: they are counted, under each name stands the last of the
list that has it or else what stood there, and the aliases are those of what stands.
-/
structure LoadsAll (r : Registry) (listed : List Component) (done : Registry × Except Failure Nat)
    : Prop where
  counted : done.2 = .ok listed.length
  stands : ∀ name, done.1.components.find? name = r.standing listed name
  owned
    : ∀ other owner,
        done.1.aliases.find? other = some owner
          ↔ ∃ c, r.standing listed owner = some c ∧ other ∈ c.aliases

/-- A catalog is loaded as a whole, or a problem is reported and the registry is what it was. -/
inductive AllOrNothing (r : Registry) (tree : FileTree) (path : FilePath)
    : Registry × Except Failure Nat → Prop where
  | all {listed : List Component} {done : Registry × Except Failure Nat}
      (made : Catalog.read tree path = .ok listed) (loads : LoadsAll r listed done) :
      AllOrNothing r tree path done
  | nothing (problem : Problem) : AllOrNothing r tree path (r, .error (.problem problem))

theorem AllOrNothing.settled {done : Registry × Except Failure Nat}
    (loads : AllOrNothing r tree path done)
    : (∃ count, done.2 = .ok count) ∨ ∃ problem, done.2 = .error (.problem problem) := by
  cases loads with
  | all _ loads => exact .inl ⟨_, loads.counted⟩
  | nothing problem => exact .inr ⟨problem, rfl⟩

theorem loadCatalog_of_error {failure : Failure} (failed : Catalog.read tree path = .error failure)
    : r.loadCatalog tree path replace = (r, .error failure) := by
  rw [loadCatalog, failed]

theorem Sound.loadCatalog_of_fits (sound : r.Sound) {listed : List Component}
    (made : Catalog.read tree path = .ok listed) (fits : r.Fits replace listed)
    : r.loadCatalog tree path replace = (r.insertAll listed, .ok listed.length) := by
  rw [Registry.loadCatalog, made]
  dsimp only
  rw [sound.registerAll_of_fits fits]

theorem Sound.loadCatalog_of_collides (sound : r.Sound) {before after : List Component}
    {c : Component} {failure : Failure}
    (made : Catalog.read tree path = .ok (before ++ c :: after)) (fits : r.Fits replace before)
    (collides : Collides (r.standing before) replace c failure)
    : ∃ failure,
        Collides (r.standing before) replace c failure
        ∧ r.loadCatalog tree path replace = (r.insertAll before, .error failure) := by
  obtain ⟨failure', collides', stopped⟩ := sound.registerAll_of_collides fits collides after
  refine ⟨failure', collides', ?_⟩
  rw [Registry.loadCatalog, made]
  dsimp only
  rw [stopped]

/-- What is loaded where nothing collides is the whole catalog. -/
theorem Sound.loadsAll (sound : r.Sound) {listed : List Component} (fits : r.Fits replace listed)
    : LoadsAll r listed (r.insertAll listed, .ok listed.length) where
  counted := rfl
  stands name := by rw [find?_insertAll]
  owned other owner := by
    rw [← find?_insertAll]
    exact (sound.of_registerAll (sound.registerAll_of_fits fits)).owned

/-- A collision is no problem that whoever loads a catalog is prepared for, case by case. -/
theorem Collides.ne_problem {standing : Text → Option Component} {c : Component}
    {failure : Failure} (collides : Collides standing replace c failure) (problem : Problem)
    : failure ≠ .problem problem := by
  cases collides <;> exact (nomatch ·)

/-- Loading a catalog is all or nothing exactly where its path can be asked for, or is read all the
same, and no component of it collides with what stands when its turn comes. Where one does, those
before the first that does are loaded and stay, and the failure is no problem.
-/
theorem loadCatalog_allOrNothing_iff (actions : List Action) (tree : FileTree) (path : FilePath)
    (replace : Bool)
    : let r := Action.run actions
      let done := r.loadCatalog tree path replace
      (AllOrNothing r tree path done
        ↔ (path.Askable ∨ ∃ bytes, tree.read path = .ok bytes)
          ∧ ∀ listed, Catalog.read tree path = .ok listed → r.Fits replace listed)
      ∧ ∀ before c after failure,
          Catalog.read tree path = .ok (before ++ c :: after) →
          r.Fits replace before →
          Collides (r.standing before) replace c failure →
          LoadsAll r before (done.1, .ok before.length)
          ∧ ∃ failure,
              Collides (r.standing before) replace c failure
              ∧ (∀ problem, failure ≠ .problem problem)
              ∧ done.2 = .error failure := by
  intro r done
  have sound : r.Sound := sound_run actions
  refine ⟨?_, fun before c after failure made fits collides => ?_⟩
  · cases made : Catalog.read tree path with
    | error failure =>
        have ends : done = (r, .error failure) := loadCatalog_of_error made
        rw [← Catalog.read_error made, ends]
        refine ⟨fun loads => ⟨?_, fun _ => (nomatch ·)⟩, ?_⟩
        · cases loads with
          | all made' => exact nomatch made.symm.trans made'
          | nothing problem => exact ⟨problem, rfl⟩
        · rintro ⟨⟨problem, rfl⟩, _⟩
          exact .nothing problem
    | ok listed =>
        refine ⟨fun loads => ⟨.inr (Catalog.stored_of_read made), ?_⟩, ?_⟩
        · rintro _ ⟨⟩
          refine (fits_or_collides r replace listed).resolve_right ?_
          rintro ⟨before, c, after, failure, rfl, fits, collides⟩
          obtain ⟨failure', collides', ends⟩ := sound.loadCatalog_of_collides made fits collides
          obtain ⟨count, counted⟩ | ⟨problem, reported⟩ := loads.settled
          · exact nomatch (congrArg Prod.snd ends).symm.trans counted
          · refine collides'.ne_problem problem ?_
            exact Except.error.inj ((congrArg Prod.snd ends).symm.trans reported)
        · rintro ⟨_, fits⟩
          have ends : done = _ := sound.loadCatalog_of_fits made (fits listed rfl)
          rw [ends]
          exact .all made (sound.loadsAll (fits listed rfl))
  · obtain ⟨failure', collides', ends⟩ := sound.loadCatalog_of_collides made fits collides
    have left : done.1 = r.insertAll before := congrArg Prod.fst ends
    rw [left]
    exact ⟨sound.loadsAll fits, failure', collides', collides'.ne_problem, congrArg Prod.snd ends⟩

/-- A component without aliases. -/
def plainFirst : Component :=
  aliased firstName []

/-- A catalog that lists it twice. -/
def twiceListed : Text :=
  "[\x7b\"name\":\"A\",\"kind\":\"clamp\"\x7d,\x7b\"name\":\"A\",\"kind\":\"clamp\"\x7d]"

/-- A place for a catalog. -/
def catalogPlace : FilePath :=
  ⟨.working, ["c.json"]⟩

/-- A file tree with this catalog. -/
def twiceListedTree : FileTree :=
  ⟨Table.ofList [(catalogPlace, .file (twiceListed.flatMap Utf8.encodeOne))]⟩

theorem read_twiceListed
    : Catalog.read twiceListedTree catalogPlace = .ok [plainFirst, plainFirst] := by
  have stored : twiceListedTree.read catalogPlace = .ok (twiceListed.flatMap Utf8.encodeOne) := rfl
  have decoded : Utf8.decode (twiceListed.flatMap Utf8.encodeOne) = .ok twiceListed := by cbv
  have parsed : Json.whole Catalog.rules twiceListed
      = .ok (.list
          [.map [("name", .text "A"), ("kind", .text "clamp")],
            .map [("name", .text "A"), ("kind", .text "clamp")]]) := by
    cbv
  rw [Catalog.read, stored]
  dsimp only
  rw [Catalog.components, decoded]
  dsimp only [Except.toOption, Option.bind]
  rw [parsed]
  rfl

/-- Where components are replaced the catalog is loaded as a whole, and else its first component
stays.
-/
theorem loadCatalog_allOrNothing_iff_twice_listed
    : AllOrNothing empty twiceListedTree catalogPlace
          (empty.loadCatalog twiceListedTree catalogPlace true)
      ∧ LoadsAll empty [plainFirst]
          ((empty.loadCatalog twiceListedTree catalogPlace false).1, .ok 1) := by
  constructor
  · refine (loadCatalog_allOrNothing_iff [] twiceListedTree catalogPlace true).1.mpr
      ⟨.inr ⟨_, rfl⟩, fun listed made => ?_⟩
    obtain rfl := Except.ok.inj (read_twiceListed.symm.trans made)
    intro before c after same failure collides
    have member : c ∈ [plainFirst, plainFirst] := by simp [same]
    obtain rfl : c = plainFirst := by simpa using member
    cases collides with
    | name keeps => cases keeps
    | shared _ _ _ _ asked => cases asked
  · have alone : empty.Fits false [plainFirst] := by
      refine fits_concat.mpr ⟨fits_nil, fun failure collides => ?_⟩
      cases collides with
      | name _ taken => cases taken
      | shared _ _ _ _ asked => cases asked
    exact ((loadCatalog_allOrNothing_iff [] twiceListedTree catalogPlace false).2 [plainFirst]
      plainFirst [] _ read_twiceListed alone (.name rfl rfl)).1

/-- Loading a catalog is not all or nothing: where nothing is replaced a component that is listed
twice is refused the second time and stays, and the failure is no problem.
-/
theorem loadCatalog_listed_twice
    : empty.loadCatalog twiceListedTree catalogPlace false
        = (empty.insert plainFirst, .error (.alreadyRegistered "A"))
      ∧ ¬ AllOrNothing empty twiceListedTree catalogPlace
            (empty.loadCatalog twiceListedTree catalogPlace false) := by
  have ends : empty.loadCatalog twiceListedTree catalogPlace false
      = (empty.insert plainFirst, .error (.alreadyRegistered "A")) := by
    rw [loadCatalog, read_twiceListed]
    rfl
  refine ⟨ends, fun loads => ?_⟩
  rcases loads.settled with ⟨_, counted⟩ | ⟨_, reported⟩
  · cases (congrArg Prod.snd ends).symm.trans counted
  · cases (congrArg Prod.snd ends).symm.trans reported

end Registry

end Recommender
