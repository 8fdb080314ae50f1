import Mathlib.Data.List.Forall2
import Recommender.Command.Run
import Recommender.Proofs.Component.Builtin
import Recommender.Proofs.Component.Catalog
import Recommender.Proofs.Files.Composition
import Recommender.Proofs.Pointwise

/-! Validating several paths at once. Each path is validated by itself, so the run over all of them
reports what the runs over single paths report, one after the other. A catalog that cannot be loaded
ends every run before its first path and is reported once.
-/

namespace Recommender

-----------------------------------------------------------------------------------------
-- Reports
-----------------------------------------------------------------------------------------

namespace Report

/-- Reports as one: its exit code is 1 if one of theirs is, and what they write stands in order. -/
def together (reports : List Report) : Report where
  exit := if reports.any (·.exit = 1) then 1 else 0
  output := reports.flatMap Report.output
  errors := reports.flatMap Report.errors

/-- A report that goes well or meets a problem comes before the others. -/
theorem append_together {report : Report} (binary : report.exit = 0 ∨ report.exit = 1)
    (others : List Report)
    : report.append (together others) = together (report :: others) := by
  have exits : max report.exit (if others.any (·.exit = 1) then 1 else 0)
      = if (report :: others).any (·.exit = 1) then 1 else 0 := by
    rcases binary with zero | one
    · simp [zero]
    · simp only [one, List.any_cons, decide_true, Bool.true_or, if_true]
      split <;> rfl
  simp only [append, together, exits, List.flatMap_cons]

theorem together_singleton {report : Report} (binary : report.exit = 0 ∨ report.exit = 1)
    : together [report] = report := by
  rw [← append_together binary]
  simp [append, together]

end Report

namespace Command

/-- A problem is always reported. -/
theorem reporting_ne_problem (logged : Logged Report) (p : Problem)
    : (reporting logged).outcome ≠ .error (.problem p) := by
  rw [reporting]
  split
  · simp
  · next other => exact fun same => other p same

theorem reporting_eq_ok {logged : Logged Report} {report : Report}
    : (reporting logged).outcome = .ok report
      ↔ logged.outcome = .ok report
        ∨ ∃ p, logged.outcome = .error (.problem p) ∧ Report.problem p = report := by
  rw [reporting]
  split
  · next p failed => simp [failed]
  · next other =>
      refine ⟨.inl, ?_⟩
      rintro (made | ⟨p, failed, _⟩)
      · exact made
      · exact absurd failed (other p)

-----------------------------------------------------------------------------------------
-- Paths
-----------------------------------------------------------------------------------------

section Paths

variable (tree : FileTree) (settings : Settings) (registry : Registry)

/-- A report tells of a path: the algorithms that it gives when it is loaded by itself, or the
problem that it meets.
-/
inductive Describes (path : Text) : Report → Prop where
  | valid {loaded : Table Text Algorithm}
      (loads : (Loading.algorithms tree settings registry settings.strict
          [FilePath.ofText path]).outcome
        = .ok loaded) :
      Describes path (Report.success (Report.ofLines (loaded.values.map validLine)))
  | problem {p : Problem}
      (fails : (Loading.algorithms tree settings registry settings.strict
          [FilePath.ofText path]).outcome
        = .error (.problem p)) :
      Describes path (Report.problem p)

variable {tree settings registry}

theorem Describes.binary {path : Text} {report : Report}
    (describes : Describes tree settings registry path report)
    : report.exit = 0 ∨ report.exit = 1 := by
  cases describes with
  | valid => exact .inl rfl
  | problem => exact .inr rfl

theorem validatePath_eq_ok {path : Text} {report : Report}
    : (validatePath tree settings registry path).outcome = .ok report
      ↔ Describes tree settings registry path report := by
  rw [validatePath, reporting_eq_ok, Logged.outcome_bind]
  cases loads : (Loading.algorithms tree settings registry settings.strict
      [FilePath.ofText path]).outcome with
  | ok loaded =>
      constructor
      · rintro (⟨⟨⟩⟩ | ⟨_, ⟨⟩, _⟩)
        exact .valid loads
      · intro describes
        cases describes with
        | valid also =>
            cases loads.symm.trans also
            exact .inl rfl
        | problem fails => cases loads.symm.trans fails
  | error failure =>
      constructor
      · rintro (⟨⟨⟩⟩ | ⟨p, ⟨⟩, rfl⟩)
        exact .problem loads
      · intro describes
        cases describes with
        | valid also => cases loads.symm.trans also
        | problem fails =>
            cases loads.symm.trans fails
            exact .inr ⟨_, rfl, rfl⟩

theorem validatePaths_cons_eq_ok {path : Text} {rest : List Text} {report : Report}
    : (validatePaths tree settings registry (path :: rest)).outcome = .ok report
      ↔ ∃ first,
          Describes tree settings registry path first
          ∧ ∃ others,
              (validatePaths tree settings registry rest).outcome = .ok others
              ∧ first.append others = report := by
  simp only [← validatePath_eq_ok]
  rw [validatePaths, Logged.outcome_bind_eq_ok]
  refine exists_congr fun first => and_congr_right' ?_
  rw [Logged.outcome_bind_eq_ok]
  exact exists_congr fun others => and_congr_right' ⟨Except.ok.inj, congrArg _⟩

/-- A run over paths reports what is told of each of them, by list induction. -/
theorem validatePaths_eq_ok {paths : List Text} {report : Report}
    : (validatePaths tree settings registry paths).outcome = .ok report
      ↔ ∃ reports,
          List.Forall₂ (Describes tree settings registry) paths reports
          ∧ Report.together reports = report := by
  induction paths generalizing report with
  | nil =>
      simp only [List.forall₂_nil_left_iff, exists_eq_left]
      exact ⟨Except.ok.inj, congrArg _⟩
  | cons path rest ih =>
      rw [validatePaths_cons_eq_ok]
      constructor
      · rintro ⟨first, describes, others, made, rfl⟩
        obtain ⟨reports, each, rfl⟩ := ih.mp made
        exact ⟨first :: reports, .cons describes each,
          (Report.append_together describes.binary reports).symm⟩
      · rintro ⟨_, _ | ⟨describes, each⟩, rfl⟩
        exact ⟨_, describes, _, ih.mpr ⟨_, each, rfl⟩,
          Report.append_together describes.binary _⟩

theorem validatePaths_singleton_eq_ok {path : Text} {report : Report}
    : (validatePaths tree settings registry [path]).outcome = .ok report
      ↔ Describes tree settings registry path report := by
  rw [validatePaths_eq_ok]
  constructor
  · rintro ⟨_, _ | ⟨describes, _ | _⟩, rfl⟩
    rw [Report.together_singleton describes.binary]
    exact describes
  · intro describes
    exact ⟨[report], .cons describes .nil, Report.together_singleton describes.binary⟩

theorem validatePath_ne_problem (path : Text) (p : Problem)
    : (validatePath tree settings registry path).outcome ≠ .error (.problem p) :=
  reporting_ne_problem _ p

/-- A run over paths never ends with a problem, by list induction. -/
theorem validatePaths_ne_problem (paths : List Text) (p : Problem)
    : (validatePaths tree settings registry paths).outcome ≠ .error (.problem p) := by
  induction paths with
  | nil => exact nofun
  | cons path rest ih =>
      rw [validatePaths]
      refine Logged.outcome_bind_ne (validatePath_ne_problem path p) fun first => ?_
      exact Logged.outcome_bind_ne ih fun others => nofun

end Paths

-----------------------------------------------------------------------------------------
-- Runs
-----------------------------------------------------------------------------------------

section Runs

variable (tree : FileTree) (environment : Environment) (processors : Option Nat)
    (level catalog : Option Text) (lenient : Bool)

/-- What a run leaves that validates paths, lines of the log aside. -/
def validation (paths : List Text) : Except Failure Report :=
  (Invocation.run tree environment processors ⟨level, catalog, .validate paths lenient⟩).outcome

/-- The settings that a run validates by. -/
def validationSettings : Except Failure Settings :=
  (Settings.resolve tree environment
    { Choices.none with
      strict := if lenient then some false else none
      catalog := catalog }).outcome

variable {tree environment processors level catalog lenient}

/-- A run gives a report once its level and its settings are settled: of the paths if its catalog
can be loaded, and of the catalog if that meets a problem.
-/
theorem validation_eq_ok {paths : List Text} {report : Report}
    : validation tree environment processors level catalog lenient paths = .ok report
      ↔ (∃ severity, Invocation.logLevel ⟨level, catalog, .validate paths lenient⟩ = .ok severity)
        ∧ ∃ settings,
            validationSettings tree environment catalog lenient = .ok settings
            ∧ ((∃ registry,
                Registry.ofHost tree processors settings.catalog = .ok registry
                ∧ (validatePaths tree settings registry paths).outcome = .ok report)
              ∨ ∃ p,
                Registry.ofHost tree processors settings.catalog = .error (.problem p)
                ∧ Report.problem p = report) := by
  rw [validation, Invocation.run]
  cases Invocation.logLevel ⟨level, catalog, .validate paths lenient⟩ with
  | error failure => simp [Logged.fail]
  | ok severity =>
      simp only [Except.ok.injEq, exists_eq', true_and]
      rw [Logged.outcome_bind]
      change validationSettings tree environment catalog lenient >>= _ = _ ↔ _
      cases validationSettings tree environment catalog lenient with
      | error failure => simp [Bind.bind, Except.bind]
      | ok settings =>
          simp only [Bind.bind, Except.bind, Except.ok.injEq, exists_eq_left']
          have begins : (Command.validate paths lenient).perform tree settings processors
              = Logged.lift (Registry.ofHost tree processors settings.catalog) >>= fun registry =>
                  validatePaths tree settings registry paths := rfl
          rw [reporting_eq_ok, begins, Logged.outcome_bind]
          cases Registry.ofHost tree processors settings.catalog with
          | error failure => simp [Logged.lift, Bind.bind, Except.bind]
          | ok registry =>
              simp [Logged.lift, Bind.bind, Except.bind, validatePaths_ne_problem]

/-- A run over a single path tells of the path if its catalog can be loaded, and of the catalog
otherwise.
-/
theorem describes_of_single {settings : Settings} {path : Text} {report : Report}
    (settled : validationSettings tree environment catalog lenient = .ok settings)
    (single : validation tree environment processors level catalog lenient [path] = .ok report)
    : (∀ registry,
        Registry.ofHost tree processors settings.catalog = .ok registry
        → Describes tree settings registry path report)
      ∧ ∀ p,
          Registry.ofHost tree processors settings.catalog = .error (.problem p)
          → Report.problem p = report := by
  obtain ⟨_, other, also, ends⟩ := validation_eq_ok.mp single
  obtain rfl := Except.ok.inj (settled.symm.trans also)
  rcases ends with ⟨registry, made, told⟩ | ⟨p, failed, told⟩
  · refine ⟨fun same loads => ?_, fun p fails => ?_⟩
    · obtain rfl := Except.ok.inj (made.symm.trans loads)
      exact validatePaths_singleton_eq_ok.mp told
    · cases made.symm.trans fails
  · refine ⟨fun same loads => ?_, fun other fails => ?_⟩
    · cases failed.symm.trans loads
    · cases failed.symm.trans fails
      exact told

/-- If each path can be validated by itself, so can all of them: the exit code is 1 if one of theirs
is and 0 otherwise, and the output is theirs, one after the other. If the catalog can be loaded, so
are the errors, and each report tells of its path whether and with what algorithms it is loaded by
itself; if not, the problem of the catalog is all that each run reports, once.
-/
theorem validation_of_singles {paths : List Text} {reports : List Report} (given : paths ≠ [])
    (singles : List.Forall₂
      (fun path report =>
        validation tree environment processors level catalog lenient [path] = .ok report)
      paths reports)
    : ∃ whole,
        validation tree environment processors level catalog lenient paths = .ok whole
        ∧ whole.exit = (if reports.any (·.exit = 1) then 1 else 0)
        ∧ whole.output = reports.flatMap Report.output
        ∧ ∃ settings,
            validationSettings tree environment catalog lenient = .ok settings
            ∧ ((∃ registry,
                Registry.ofHost tree processors settings.catalog = .ok registry
                ∧ whole.errors = reports.flatMap Report.errors
                ∧ List.Forall₂ (Describes tree settings registry) paths reports)
              ∨ ∃ p,
                Registry.ofHost tree processors settings.catalog = .error (.problem p)
                ∧ whole = Report.problem p
                ∧ ∀ report ∈ reports, report = Report.problem p) := by
  cases singles with
  | nil => exact absurd rfl given
  | @cons path first rest others single singles =>
      obtain ⟨⟨severity, chosen⟩, settings, settled, ends⟩ := validation_eq_ok.mp single
      have all : List.Forall₂ _ (path :: rest) (first :: others) := .cons single singles
      -- All runs share the settings and the catalog, so the first path decides for the others.
      rcases ends with ⟨registry, made, -⟩ | ⟨p, failed, rfl⟩
      · have each := all.imp fun _ _ single =>
          (describes_of_single settled single).1 registry made
        have told := validatePaths_eq_ok.mpr ⟨_, each, rfl⟩
        exact ⟨_, validation_eq_ok.mpr ⟨⟨severity, chosen⟩, settings, settled,
          .inl ⟨registry, made, told⟩⟩, rfl, rfl, settings, settled,
          .inl ⟨registry, made, rfl, each⟩⟩
      · have same : ∀ report ∈ Report.problem p :: others, report = Report.problem p := by
          intro report member
          obtain ⟨_, _, single⟩ := Pointwise.exists_left all member
          exact ((describes_of_single settled single).2 p failed).symm
        have silent : (Report.problem p :: others).flatMap Report.output = [] := by
          refine List.flatMap_eq_nil_iff.mpr fun report member => ?_
          rw [same report member]
          rfl
        refine ⟨_, validation_eq_ok.mpr ⟨⟨severity, chosen⟩, settings, settled,
          .inr ⟨p, failed, rfl⟩⟩, ?_, silent.symm, settings, settled, .inr ⟨p, failed, rfl, same⟩⟩
        simp [Report.problem]

end Runs

-----------------------------------------------------------------------------------------
-- A script that is there and one that is not
-----------------------------------------------------------------------------------------

/-- A script. -/
def presentScript : FilePath :=
  ⟨.working, ["a.rec"]⟩

/-- A file tree with this script alone. -/
def presentTree : FileTree :=
  ⟨Table.ofList [(presentScript, .file (Builtin.slopeOneScript.flatMap Utf8.encodeOne))]⟩

/-- An environment without variables. -/
def bareEnvironment : Environment :=
  ⟨none, none, none, none⟩

/-- Settings without a choice. -/
def bareSettings : Settings :=
  ⟨Settings.defaultRootName, true, [], none⟩

/-- What is told of the script. -/
def presentReport : Report :=
  Report.success
    (Report.ofLines ["OK a (org.grouplens.lenskit.slopeone.SlopeOneModule) from a.rec"])

/-- What is told of the script that is not there. -/
def absentReport : Report :=
  Report.problem (.unusable (some "b.rec") .absent)

theorem algorithm_present
    : ∃ a,
        (Loading.algorithm presentTree bareSettings (Builtin.registry none) true
            presentScript).outcome
          = .ok a
        ∧ a.name = "a"
        ∧ a.module = Builtin.slopeOne
        ∧ a.source = some presentScript.text := by
  have encoded : Utf8.encode Builtin.slopeOneScript
      = .ok (Builtin.slopeOneScript.flatMap Utf8.encodeOne) := rfl
  have read : Loading.record presentTree bareSettings presentScript
      = .ok Builtin.slopeOneRecord := by
    rw [Loading.record_of_stored (by decide) encoded rfl]
    exact Builtin.toRecord_slopeOneScript _
  have found : Algorithm.moduleOf (Builtin.registry none) (some presentScript.text)
      Builtin.slopeOneRecord
      = .ok Builtin.slopeOne :=
    Builtin.moduleOf_slopeOne _ rfl
  let a := Algorithm.configured (Builtin.registry none) Builtin.slopeOne true
    (some presentScript.stem) (some presentScript.text) Builtin.slopeOneRecord
  have made : (Algorithm.ofRecord (Builtin.registry none) true (some presentScript.stem)
      (some presentScript.text) Builtin.slopeOneRecord).outcome
      = .ok a :=
    Algorithm.ofRecord_eq_ok.mpr ⟨_, found, ⟨nofun, Builtin.issuesOf_slopeOneRecord _ _⟩, rfl⟩
  refine ⟨a, ?_, rfl, rfl, rfl⟩
  rw [Loading.algorithm, Logged.outcome_bind_eq_ok]
  exact ⟨_, read, made⟩

theorem describes_present
    : Describes presentTree bareSettings (Builtin.registry none) "a.rec" presentReport := by
  obtain ⟨a, loads, named, module, source⟩ := algorithm_present
  have loaded : (Loading.algorithms presentTree bareSettings (Builtin.registry none) true
      [presentScript]).outcome
      = .ok (Table.ofList [(("a" : Text), a)]) := by
    refine (Loading.algorithms_eq_ok _ _ _ _).mpr
      ⟨[presentScript], [a], rfl, .cons loads .nil, ?_⟩
    rw [List.map_singleton, Loading.named, named]
  have line : validLine a
      = "OK a (org.grouplens.lenskit.slopeone.SlopeOneModule) from a.rec" := by
    rw [validLine, named, module, source]
    rfl
  have told := @Describes.valid presentTree bareSettings (Builtin.registry none) "a.rec" _ loaded
  have lines : Report.ofLines ((Table.ofList [(("a" : Text), a)]).values.map validLine)
      = Report.ofLines [validLine a] := rfl
  rw [lines, line] at told
  exact told

theorem describes_absent
    : Describes presentTree bareSettings (Builtin.registry none) "b.rec" absentReport :=
  .problem rfl

theorem validation_present {paths : List Text} {report : Report}
    (told : (validatePaths presentTree bareSettings (Builtin.registry none) paths).outcome
      = .ok report)
    : validation presentTree bareEnvironment none none none false paths = .ok report :=
  validation_eq_ok.mpr ⟨⟨_, rfl⟩, bareSettings, rfl, .inl ⟨_, rfl, told⟩⟩

/-- The run over both scripts tells of the one that is there and of the one that is not, and its
exit code is 1.
-/
theorem validation_of_singles_present_and_absent
    : ([("a.rec" : Text), "b.rec"] ≠ [])
      ∧ List.Forall₂
          (fun path report =>
            validation presentTree bareEnvironment none none none false [path] = .ok report)
          ["a.rec", "b.rec"] [presentReport, absentReport]
      ∧ ∃ whole,
          validation presentTree bareEnvironment none none none false ["a.rec", "b.rec"] = .ok whole
          ∧ whole.exit = 1
          ∧ whole.output
            = Report.ofLines ["OK a (org.grouplens.lenskit.slopeone.SlopeOneModule) from a.rec"]
          ∧ whole.errors
            = Report.ofLines
              ["ERROR: InvalidRecommenderError: b.rec: No such file or directory"] := by
  have singles : List.Forall₂
      (fun path report =>
        validation presentTree bareEnvironment none none none false [path] = .ok report)
      ["a.rec", "b.rec"] [presentReport, absentReport] :=
    .cons (validation_present (validatePaths_singleton_eq_ok.mpr describes_present))
      (.cons (validation_present (validatePaths_singleton_eq_ok.mpr describes_absent)) .nil)
  have given : [("a.rec" : Text), "b.rec"] ≠ [] := List.cons_ne_nil _ _
  obtain ⟨whole, made, exit, output, settings, settled, ends⟩ := validation_of_singles given singles
  obtain rfl : bareSettings = settings := Except.ok.inj settled
  refine ⟨given, singles, whole, made, exit, output, ?_⟩
  rcases ends with ⟨_, _, errors, _⟩ | ⟨p, failed, _⟩
  · exact errors
  · cases failed

-----------------------------------------------------------------------------------------
-- A catalog that is not there
-----------------------------------------------------------------------------------------

/-- What every run tells of a catalog that is not there. -/
def lostCatalog : Problem :=
  .unreadableCatalog "no.json" ⟨.notFound, "no.json"⟩

theorem validation_lostCatalog (paths : List Text)
    : validation presentTree bareEnvironment none none (some "no.json") false paths
      = .ok (Report.problem lostCatalog) := by
  have failed : Registry.ofHost presentTree none (some "no.json")
      = .error (.problem lostCatalog) := by
    have read : Catalog.read presentTree (FilePath.ofText "no.json")
        = .error (.problem lostCatalog) := rfl
    have loaded : (Builtin.registry none).loadCatalog presentTree (FilePath.ofText "no.json") true
        = (Builtin.registry none, .error (.problem lostCatalog)) :=
      Registry.loadCatalog_of_error read
    exact congrArg (fun done : Registry × Except Failure Nat => done.2.map fun _ => done.1) loaded
  exact validation_eq_ok.mpr ⟨⟨_, rfl⟩, _, rfl, .inr ⟨lostCatalog, failed, rfl⟩⟩

/-- The run over two paths reports a catalog that is not there once, and so does the run over each
of them; so its errors are not theirs, one after the other.
-/
theorem validation_lostCatalog_once
    : validation presentTree bareEnvironment none none (some "no.json") false ["a.rec"]
        = .ok (Report.problem lostCatalog)
      ∧ validation presentTree bareEnvironment none none (some "no.json") false ["b.rec"]
        = .ok (Report.problem lostCatalog)
      ∧ validation presentTree bareEnvironment none none (some "no.json") false ["a.rec", "b.rec"]
        = .ok (Report.problem lostCatalog)
      ∧ (Report.problem lostCatalog).errors
        ≠ [Report.problem lostCatalog, Report.problem lostCatalog].flatMap Report.errors := by
  refine ⟨validation_lostCatalog _, validation_lostCatalog _, validation_lostCatalog _, ?_⟩
  decide

end Command
end Recommender
