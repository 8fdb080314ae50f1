import Recommender.Files.Path

/-! Names of files. A name with a dot is cut at its last one into what stands before it and the
extension behind it; a name without a dot has no extension.
-/

namespace Recommender.FilePath

theorem dot_text : Text.ofString "." = [CodePoint.dot] :=
  rfl

/-- What stands behind a dot is behind the last one if it holds none. -/
theorem afterLastDot_append (front : Text) {last : Text} (dotless : CodePoint.dot ∉ last)
    : afterLastDot (front ++ "." ++ last) = last := by
  have dotted : (front ++ "." ++ last).contains CodePoint.dot = true := by simp [dot_text]
  have turned : (front ++ "." ++ last).reverse
      = last.reverse ++ CodePoint.dot :: front.reverse := by
    simp [dot_text]
  have whole : last.reverse.all (· ≠ CodePoint.dot) = true := by
    simp only [List.all_eq_true, List.mem_reverse, decide_eq_true_eq]
    rintro c member rfl
    exact dotless member
  rw [afterLastDot, if_pos dotted, turned, List.takeWhile_append_of_pos (by simpa using whole)]
  simp

/-- A text with a dot is cut at the last one. -/
theorem exists_lastDot {t : Text} (dotted : t.contains CodePoint.dot = true)
    : ∃ front last, t = front ++ "." ++ last ∧ CodePoint.dot ∉ last := by
  have turned : CodePoint.dot ∈ t.reverse := by simpa using dotted
  obtain ⟨last, front, form, dotless⟩ := List.eq_append_cons_of_mem turned
  refine ⟨front.reverse, last.reverse, ?_, by simpa using dotless⟩
  rw [← t.reverse_reverse, form]
  simp [dot_text]

/-- A name with a dot is its own stem and its extension around a dot, and one without a dot is its
own stem alone.
-/
theorem name_cases (p : FilePath)
    : (p.name.contains CodePoint.dot = true ∧ p.name = p.stem ++ "." ++ p.extension)
      ∨ (p.name.contains CodePoint.dot = false ∧ p.stem = p.name ∧ p.extension = []) := by
  cases dotted : p.name.contains CodePoint.dot with
  | true =>
      obtain ⟨front, last, form, dotless⟩ := exists_lastDot dotted
      have behind : p.extension = last := by
        rw [extension, form, afterLastDot_append front dotless]
      have before : p.stem = front := by
        have ends : (front ++ "." ++ last).endsWith ("." ++ last) = true := by
          simp [Text.endsWith]
        simp only [stem, baseName, behind, form]
        rw [if_pos ends]
        simp
      exact .inl ⟨rfl, by rw [behind, before, form]⟩
  | false =>
      have none : p.extension = [] := by
        rw [extension, afterLastDot, dotted]
        rfl
      have apart : CodePoint.dot ∉ p.name := by simpa using dotted
      have undotted : p.name.endsWith ("." ++ p.extension) = false := by
        rw [← Bool.not_eq_true, Text.endsWith, List.isSuffixOf_iff_suffix, none]
        exact fun suffix => apart (suffix.subset (by simp [dot_text]))
      refine .inr ⟨rfl, ?_, none⟩
      rw [stem, baseName]
      simp [undotted]

/-- A name with an extension is its stem and the extension around a dot. -/
theorem name_of_extension {p : FilePath} (some : p.extension ≠ [])
    : p.name = p.stem ++ "." ++ p.extension := by
  rcases p.name_cases with ⟨_, form⟩ | ⟨_, _, none⟩
  · exact form
  · exact absurd none some

end Recommender.FilePath
