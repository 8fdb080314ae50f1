import Recommender.Files.Loading
import Recommender.Proofs.Script.Newlines
import Recommender.Proofs.Text.Utf8
import Recommender.Service.Basic

/-! Scripts in files. A script in a file is read with the line ends of every system made equal, a
script in a request as it is; the two come to the same wherever a carriage return by itself ends a
line.
-/

namespace Recommender.Loading

/-- A known extension is that of a script or of a document. -/
theorem mem_extensions {extension : Text}
    : extension ∈ Settings.extensions
      ↔ extension ∈ Settings.scriptExtensions ∨ extension ∈ Settings.documentExtensions :=
  List.mem_append

theorem not_document_of_script {extension : Text} (script : extension ∈ Settings.scriptExtensions)
    : extension ∉ Settings.documentExtensions := by
  revert script
  simp only [Settings.scriptExtensions, Settings.documentExtensions, List.mem_cons,
    List.not_mem_nil, or_false]
  rintro (rfl | rfl | rfl) <;> decide

theorem record_of_script {tree : FileTree} {path : FilePath} {t : Text}
    (script : path.extension ∈ Settings.scriptExtensions) (content : readText tree path = .ok t)
    (settings : Settings)
    : record tree settings path = Script.toRecord (some path.text) settings.rootName t := by
  have known : path.extension ∈ Settings.extensions := mem_extensions.mpr (.inl script)
  rw [record, if_neg (not_not_intro known), content]
  exact if_neg (not_document_of_script script)

/-- The script of a file is read with its line ends made equal. -/
theorem record_of_stored {tree : FileTree} {path : FilePath} {t : Text} {bytes : List UInt8}
    (script : path.extension ∈ Settings.scriptExtensions) (encoded : Utf8.encode t = .ok bytes)
    (stored : tree.read path = .ok bytes) (settings : Settings)
    : record tree settings path
      = Script.toRecord (some path.text) settings.rootName t.unifyNewlines := by
  refine record_of_script script ?_ settings
  simp only [readText, stored, Utf8.decode_encode encoded]

/-- A script that is stored in a file and a script that is sent give the same record or both fail as
scripts do, if every carriage return that stands by itself ends a line.
-/
theorem record_iff_toRecord {tree : FileTree} {settings : Settings} {path : FilePath} {t : Text}
    {bytes : List UInt8} (script : path.extension ∈ Settings.scriptExtensions)
    (encoded : Utf8.encode t = .ok bytes) (stored : tree.read path = .ok bytes)
    (returns : Script.ReturnsEndLines settings.rootName .code t) (source : Option Text)
    : (∃ r,
        record tree settings path = .ok r
        ∧ Script.toRecord source settings.rootName t = .ok r)
      ∨ ∃ ofFile ofText,
          record tree settings path = .error ofFile
          ∧ Script.toRecord source settings.rootName t = .error ofText
          ∧ Script.IsScriptFailure ofFile
          ∧ Script.IsScriptFailure ofText := by
  have same := Script.read_unifyNewlines source (some path.text) returns
  rw [record_of_stored script encoded stored]
  cases sent : Script.toRecord source settings.rootName t with
  | ok r =>
      obtain ⟨made, pairs, form⟩ := Script.toRecord_eq_ok.mp sent
      exact Or.inl ⟨r, Script.toRecord_eq_ok.mpr ⟨made, same ▸ pairs, form⟩, rfl⟩
  | error ofText =>
      cases kept : Script.toRecord (some path.text) settings.rootName t.unifyNewlines with
      | ok r =>
          obtain ⟨made, pairs, form⟩ := Script.toRecord_eq_ok.mp kept
          rw [Script.toRecord_eq_ok.mpr ⟨made, same ▸ pairs, form⟩] at sent
          cases sent
      | error ofFile =>
          exact Or.inr ⟨ofFile, ofText, rfl, rfl, Script.toRecord_failure kept,
            Script.toRecord_failure sent⟩

/-- A place for a script. -/
def somePlace : FilePath :=
  ⟨.working, ["s.rec"]⟩

/-- A file tree with one script. -/
def singleScript (t : Text) : FileTree :=
  ⟨Table.ofList [(somePlace, .file (t.flatMap Utf8.encodeOne))]⟩

/-- Settings without search directories. -/
def plainSettings : Settings :=
  ⟨Settings.defaultRootName, true, [], none⟩

theorem somePlace_extension : somePlace.extension ∈ Settings.scriptExtensions := by
  decide

theorem read_singleScript (t : Text)
    : (singleScript t).read somePlace = .ok (t.flatMap Utf8.encodeOne) :=
  rfl

/-- A script with a carriage return by itself in the code and one before a line feed in a
comment.
-/
def mixedLineEnds : Text :=
  "rec.a = 1\rrec.b = 2 // it's\r\n"

/-- A script with a carriage return by itself in a comment. -/
def returnInComment : Text :=
  "// c\rrec.a = true"

theorem record_iff_toRecord_mixed
    : record (singleScript mixedLineEnds) plainSettings somePlace
      = .ok (Record.ofList [(⟨"a", by decide⟩, .int 1), (⟨"b", by decide⟩, .int 2)]) := by
  have returns : Script.ReturnsEndLines plainSettings.rootName .code mixedLineEnds := by
    decide +kernel
  have sent : Script.toRecord (some Service.requestSource) plainSettings.rootName mixedLineEnds
      = .ok (Record.ofList [(⟨"a", by decide⟩, .int 1), (⟨"b", by decide⟩, .int 2)]) := rfl
  rcases record_iff_toRecord somePlace_extension rfl (read_singleScript mixedLineEnds) returns
      (some Service.requestSource) with ⟨r, kept, same⟩ | ⟨_, _, _, failed, _⟩
  · rw [kept, ← same, sent]
  · rw [sent] at failed
    cases failed

/-- A carriage return ends a line comment in a file but not in a request. -/
theorem record_return_in_comment
    : record (singleScript returnInComment) plainSettings somePlace
        = .ok (Record.ofList [(⟨"a", by decide⟩, .bool true)])
      ∧ Script.toRecord (some Service.requestSource) plainSettings.rootName returnInComment
        = .ok Record.empty := by
  have encoded : Utf8.encode returnInComment = .ok (returnInComment.flatMap Utf8.encodeOne) := rfl
  constructor
  · rw [record_of_stored somePlace_extension encoded (read_singleScript returnInComment)]
    rfl
  · rfl

end Recommender.Loading
