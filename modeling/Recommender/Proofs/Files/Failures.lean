import Recommender.Proofs.Document
import Recommender.Proofs.Files.Newlines
import Recommender.Proofs.Json.Reading
import Recommender.Proofs.Script.Integers

/-! How loading a file can fail. Whoever loads a file is prepared for one that cannot be read, for an
unusable document and for a fault in a script. Other failures come through all the same: those of a
path that has no bytes or holds a null character, of bytes that are no text, and of an integer with
more digits than are read.
-/

namespace Recommender

-----------------------------------------------------------------------------------------
-- Paths that cannot be asked for
-----------------------------------------------------------------------------------------

/-- Whether a null character stands in a path. -/
def FilePath.holdsNull (path : FilePath) : Bool :=
  path.parts.any (·.contains CodePoint.null)

namespace FileTree

/-- Following parts never fails for a null character, by induction on the parts. -/
theorem follow_error {tree : FileTree} {here : FilePath} {parts : List Text} {cause : FileCause}
    (failed : tree.follow here parts = .error cause)
    : cause ≠ .nullCharacter := by
  fun_induction tree.follow here parts with
  | case1 => cases failed
  | case2 | case3 | case4 | case5 =>
      cases failed
      simp
  | case6 _ _ _ _ _ ih => exact ih failed

/-- A path with a null character leads nowhere, and no other path fails for one. -/
theorem find_error {tree : FileTree} {path : FilePath} {fault : FileFault}
    (failed : tree.find path = .error fault)
    : fault.path = path.text ∧ (fault.cause = .nullCharacter ↔ path.holdsNull = true) := by
  rw [find, show path.parts.any (·.contains CodePoint.null) = path.holdsNull from rfl] at failed
  by_cases null : path.holdsNull = true
  · rw [if_pos null] at failed
    cases failed
    simp [null]
  · rw [if_neg null] at failed
    split at failed
    · cases failed
      simp [null]
    · cases followed : tree.follow { path with parts := [] } path.parts with
      | ok => simp [followed, Except.mapError] at failed
      | error cause =>
          rw [followed] at failed
          cases failed
          simp [null, follow_error followed]

theorem find_of_holdsNull {path : FilePath} (null : path.holdsNull = true) (tree : FileTree)
    : tree.find path = .error ⟨.nullCharacter, path.text⟩ :=
  if_pos null

/-- A file that cannot be read fails with its own path, and for a null character exactly when the
path holds one.
-/
theorem read_error {tree : FileTree} {path : FilePath} {fault : FileFault}
    (failed : tree.read path = .error fault)
    : fault.path = path.text ∧ (fault.cause = .nullCharacter ↔ path.holdsNull = true) := by
  rw [read] at failed
  split at failed
  · cases failed
  · next found =>
      cases failed
      have noNull : ¬ path.holdsNull = true := by
        intro null
        rw [find_of_holdsNull null] at found
        cases found
      simp [noNull]
  · next lost =>
      cases failed
      exact find_error lost

theorem read_of_holdsNull {path : FilePath} (null : path.holdsNull = true) (tree : FileTree)
    : tree.read path = .error ⟨.nullCharacter, path.text⟩ := by
  rw [read, find_of_holdsNull null]

end FileTree

namespace Loading

-----------------------------------------------------------------------------------------
-- The two kinds of failures
-----------------------------------------------------------------------------------------

/-- The failures that whoever loads a file is prepared for. -/
inductive Documented (tree : FileTree) (path : FilePath) : Failure → Prop where
  | noReader (unknown : path.extension ∉ Settings.extensions) :
      Documented tree path (unusable path (.noReader path.extension))
  | unreadable {fault : FileFault} (known : path.extension ∈ Settings.extensions)
      (failed : tree.read path = .error fault) :
      Documented tree path (unusable path (.unreadable fault))
  | document {reason : Unusable} (document : path.extension ∈ Settings.documentExtensions)
      (isReason : reason.OfDocument) :
      Documented tree path (unusable path reason)
  | script (script : path.extension ∈ Settings.scriptExtensions) (line : Int)
      (fault : ScriptFault) (text : Text) :
      Documented tree path (Script.failureAt (some path.text) line fault text)

/-- The failures that come through all the same. -/
inductive Unforeseen (tree : FileTree) (settings : Settings) (path : FilePath)
    : Failure → Prop where
  | surrogates {fault : FileFault} {surrogates : EncodeFault}
      (known : path.extension ∈ Settings.extensions) (failed : tree.read path = .error fault)
      (noBytes : path.unencodable? = some surrogates) :
      Unforeseen tree settings path (.unencodable surrogates)
  | nullCharacter (known : path.extension ∈ Settings.extensions)
      (bytes : path.unencodable? = none) (null : path.holdsNull = true) :
      Unforeseen tree settings path (.file ⟨.nullCharacter, path.text⟩)
  | undecodable {bytes : List UInt8} {fault : DecodeFault}
      (known : path.extension ∈ Settings.extensions) (stored : tree.read path = .ok bytes)
      (noText : Utf8.decode bytes = .error fault) :
      Unforeseen tree settings path (.undecodable fault)
  | integerOfScript {t : Text} {count : Nat}
      (script : path.extension ∈ Settings.scriptExtensions) (content : readText tree path = .ok t)
      (stops : Script.StopsAtInteger settings.rootName t count) :
      Unforeseen tree settings path (.tooManyDigits count)
  | integerOfDocument {t : Text} {count : Nat}
      (document : path.extension ∈ Settings.documentExtensions)
      (content : readText tree path = .ok t)
      (stops : Json.parse Document.rules t = .error (.tooManyDigits count))
      (many : maxIntegerDigits < count) (held : Json.HoldsDigits t count) :
      Unforeseen tree settings path (.tooManyDigits count)

section Failures

variable {tree : FileTree} {settings : Settings} {path : FilePath}

/-- A documented failure is a problem: with the script, if the file is one, or with the file. -/
theorem Documented.label {failure : Failure} (documented : Documented tree path failure)
    : ∃ p,
        failure = .problem p
        ∧ (p.label = "InvalidRecommenderError"
          ∨ path.extension ∈ Settings.scriptExtensions ∧ p.label = "ScriptSyntaxError") := by
  cases documented with
  | noReader | unreadable | document => exact ⟨_, rfl, .inl rfl⟩
  | script script => exact ⟨_, rfl, .inr ⟨script, rfl⟩⟩

/-- No failure is of both kinds. -/
theorem Documented.not_unforeseen {failure : Failure} (documented : Documented tree path failure)
    : ¬ Unforeseen tree settings path failure := by
  intro unforeseen
  cases documented <;> nomatch unforeseen

theorem record_of_document (document : path.extension ∈ Settings.documentExtensions) {t : Text}
    (content : readText tree path = .ok t)
    : record tree settings path = Document.toRecord (some path.text) t := by
  have known : path.extension ∈ Settings.extensions := mem_extensions.mpr (.inr document)
  rw [record, if_neg (not_not_intro known), content]
  exact if_pos document

theorem record_of_readText_error (known : path.extension ∈ Settings.extensions)
    {failure : Failure} (failed : readText tree path = .error failure)
    : record tree settings path = .error failure := by
  rw [record, if_neg (not_not_intro known), failed]
  rfl

-----------------------------------------------------------------------------------------
-- Which failure it is
-----------------------------------------------------------------------------------------

/-- What loading can come to. -/
def IsOutcome (tree : FileTree) (settings : Settings) (path : FilePath)
    : Except Failure Record → Prop
  | .ok r => r.frozen = false
  | .error failure => Documented tree path failure ∨ Unforeseen tree settings path failure

theorem readText_failure (known : path.extension ∈ Settings.extensions) {failure : Failure}
    (failed : readText tree path = .error failure)
    : Documented tree path failure ∨ Unforeseen tree settings path failure := by
  rw [readText] at failed
  cases stored : tree.read path with
  | error fault =>
      obtain ⟨place, null⟩ := FileTree.read_error stored
      rw [stored] at failed
      dsimp only [unreadable, FileFault.unforeseen?] at failed
      cases bytes : path.unencodable? with
      | some surrogates =>
          rw [bytes] at failed
          cases failed
          exact .inr (.surrogates known stored bytes)
      | none =>
          rw [bytes] at failed
          by_cases cause : fault.cause = .nullCharacter
          · rw [if_pos cause] at failed
            cases failed
            rw [show fault = ⟨.nullCharacter, path.text⟩ by rw [← cause, ← place]]
            exact .inr (.nullCharacter known bytes (null.mp cause))
          · rw [if_neg cause] at failed
            cases failed
            exact .inl (.unreadable known stored)
  | ok bytes =>
      rw [stored] at failed
      cases decoded : Utf8.decode bytes with
      | ok t => simp [decoded] at failed
      | error fault =>
          simp only [decoded] at failed
          cases failed
          exact .inr (.undecodable known stored decoded)

/-- A file gives a record that can be changed or fails in one of the two ways. -/
theorem record_cases (tree : FileTree) (settings : Settings) (path : FilePath)
    : IsOutcome tree settings path (record tree settings path) := by
  by_cases known : path.extension ∈ Settings.extensions
  · cases content : readText tree path with
    | error failure =>
        rw [record_of_readText_error known content]
        exact readText_failure known content
    | ok t =>
        rcases mem_extensions.mp known with script | document
        · rw [record_of_script script content settings]
          cases made : Script.toRecord (some path.text) settings.rootName t with
          | ok r =>
              obtain ⟨assigned, _, rfl⟩ := Script.toRecord_eq_ok.mp made
              rw [Record.ofList_eq]
              rfl
          | error failure =>
              cases Script.isFailureOf_of_toRecord made with
              | fault line fault text => exact .inl (.script script line fault text)
              | tooManyDigits =>
                  have stops := Script.toRecord_eq_tooManyDigits.mp made
                  exact .inr (.integerOfScript script content stops)
        · rw [record_of_document document content]
          rcases Document.toRecord_outcome (some path.text) t with made | ⟨count, stops, failed⟩
          · cases outcome : Document.toRecord (some path.text) t with
            | ok r =>
                rw [outcome] at made
                exact made
            | error failure =>
                rw [outcome] at made
                obtain ⟨reason, rfl, isReason⟩ := made
                exact .inl (.document document isReason)
          · rw [failed]
            obtain ⟨many, held⟩ := Json.holdsDigits_of_parse stops
            exact .inr (.integerOfDocument document content stops many held)
  · rw [record, if_pos known]
    exact .inl (.noReader known)

/-- Each of the failures that come through does. -/
theorem record_of_unforeseen {failure : Failure}
    (unforeseen : Unforeseen tree settings path failure)
    : record tree settings path = .error failure := by
  cases unforeseen with
  | surrogates known failed noBytes =>
      refine record_of_readText_error known ?_
      simp only [readText, failed, unreadable, FileFault.unforeseen?, noBytes, Option.getD_some]
  | nullCharacter known bytes null =>
      refine record_of_readText_error known ?_
      simp only [readText, FileTree.read_of_holdsNull null, unreadable, FileFault.unforeseen?,
        bytes, if_true, Option.getD_some]
  | undecodable known stored noText =>
      refine record_of_readText_error known ?_
      simp only [readText, stored, noText]
  | integerOfScript script content stops =>
      rw [record_of_script script content settings]
      exact Script.toRecord_eq_tooManyDigits.mpr stops
  | integerOfDocument document content stops =>
      rw [record_of_document document content, Document.toRecord, stops]
      rfl

end Failures

/-- Loading gives a record that can be changed or fails in the documented way exactly when none of
the failures that come through is at hand, and each of these is then what loading fails with.
-/
theorem record_documented_iff (tree : FileTree) (settings : Settings) (path : FilePath)
    : (((∃ r, record tree settings path = .ok r ∧ r.frozen = false)
        ∨ ∃ failure, record tree settings path = .error failure ∧ Documented tree path failure)
      ↔ ∀ failure, ¬ Unforeseen tree settings path failure)
      ∧ ∀ failure,
          Unforeseen tree settings path failure → record tree settings path = .error failure := by
  refine ⟨⟨?_, fun foreseen => ?_⟩, fun failure => record_of_unforeseen⟩
  · rintro (⟨r, made, _⟩ | ⟨failure, failed, documented⟩) other unforeseen
    · rw [record_of_unforeseen unforeseen] at made
      cases made
    · rw [record_of_unforeseen unforeseen] at failed
      cases failed
      exact documented.not_unforeseen unforeseen
  · have outcome := record_cases tree settings path
    cases made : record tree settings path with
    | ok r =>
        rw [made] at outcome
        exact .inl ⟨r, rfl, outcome⟩
    | error failure =>
        rw [made] at outcome
        exact .inr ⟨failure, rfl, outcome.resolve_right (foreseen failure)⟩

/-- A script of a single byte that begins no code point. -/
def noText : FileTree :=
  ⟨Table.ofList [(somePlace, .file [0xFF])]⟩

/-- A file that is no text is not refused as one that cannot be read. -/
theorem record_noText
    : record noText plainSettings somePlace = .error (.undecodable ⟨.startByte, 0xFF, 0, 1⟩)
      ∧ ¬ ((∃ r, record noText plainSettings somePlace = .ok r ∧ r.frozen = false)
        ∨ ∃ failure,
            record noText plainSettings somePlace = .error failure
            ∧ Documented noText somePlace failure) := by
  have failed : record noText plainSettings somePlace
      = .error (.undecodable ⟨.startByte, 0xFF, 0, 1⟩) :=
    rfl
  refine ⟨failed, ?_⟩
  rintro (⟨_, made, _⟩ | ⟨_, refused, documented⟩)
  · rw [failed] at made
    cases made
  · rw [failed] at refused
    cases refused
    nomatch documented

end Loading

end Recommender
