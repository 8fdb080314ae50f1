import Recommender.Json.Printer
import Recommender.Json.Sending
import Recommender.Proofs.Text.Encodable

/-! Data that can be sent. Surrogates are found in none of the texts in the data exactly if each of
these texts has an encoding. A compact JSON text keeps the code points of all of them, so it has an
encoding under the same condition.
-/

namespace Recommender

namespace Datum

mutual

/-- Making a datum finite leaves its texts, by induction on the datum. -/
theorem texts_finite (d : Datum) : d.finite.texts = d.texts := by
  cases d with
  | list items => simp only [finite, texts, texts_finiteItems items]
  | map entries => simp only [finite, texts, texts_finiteEntries entries]
  | float x => cases x <;> rfl
  | missing | bool | int | text | reference => rfl

theorem texts_finiteItems (items : List Datum)
    : textsOfItems (finiteItems items) = textsOfItems items := by
  cases items with
  | nil => rfl
  | cons item rest =>
      simp only [finiteItems, textsOfItems, texts_finite item, texts_finiteItems rest]

theorem texts_finiteEntries (entries : List (Text × Datum))
    : textsOfEntries (finiteEntries entries) = textsOfEntries entries := by
  cases entries with
  | nil => rfl
  | cons entry rest =>
      obtain ⟨name, item⟩ := entry
      simp only [finiteEntries, textsOfEntries, texts_finite item, texts_finiteEntries rest]

end

/-- The texts in entries are their names and the texts in what they hold, by list induction. -/
theorem forall_mem_textsOfEntries {property : Text → Prop} {entries : List (Text × Datum)}
    : (∀ t ∈ textsOfEntries entries, property t)
      ↔ ∀ entry ∈ entries, property entry.1 ∧ ∀ t ∈ entry.2.texts, property t := by
  induction entries with
  | nil => simp [textsOfEntries]
  | cons entry rest ih =>
      rw [textsOfEntries, List.forall_mem_cons, List.forall_mem_append, List.forall_mem_cons, ih,
        and_assoc]

/-- The texts in a list of texts, by list induction. -/
theorem textsOfItems_map_text (texts : List Text) : textsOfItems (texts.map .text) = texts := by
  induction texts with
  | nil => rfl
  | cons first rest ih =>
      rw [List.map_cons, textsOfItems, ih]
      rfl

/-- Entries stay if making them finite leaves each of them, by list induction. -/
theorem finiteEntries_eq {entries : List (Text × Datum)}
    (each : ∀ entry ∈ entries, entry.2.finite = entry.2)
    : finiteEntries entries = entries := by
  induction entries with
  | nil => rfl
  | cons entry rest ih =>
      obtain ⟨first, others⟩ := List.forall_mem_cons.mp each
      rw [finiteEntries, first, ih others]

/-- No surrogates are found in a datum exactly if the texts in it have an encoding. -/
theorem surrogates?_eq_none {d : Datum}
    : d.surrogates? = none ↔ ∀ t ∈ d.texts, t.Encodable := by
  simp only [surrogates?, List.findSome?_eq_none_iff, Text.firstSurrogates_eq_none]

end Datum

namespace CodePoint

/-- A code point that keeps what ASCII does not have is encoded unless it is a surrogate. -/
theorem encodable_escapedControl {c : CodePoint}
    : Text.Encodable (escapedControl c) ↔ c.isSurrogate = false := by
  rw [escapedControl]
  split
  · next low =>
      exact iff_of_true (encodable_escaped c) (isSurrogate_of_low (Nat.lt_trans low (by decide)))
  · simp

end CodePoint

namespace Json

/-- A compact JSON string has an encoding exactly if its text has one. -/
theorem encodable_string {t : Text} : (Layout.compact.string t).Encodable ↔ t.Encodable := by
  have quote : CodePoint.doubleQuote.isSurrogate = false := by decide
  simp only [Layout.string, Layout.compact, Bool.false_eq_true, if_false, Text.encodable_append,
    Text.encodable_cons, Text.encodable_nil, quote, Text.encodable_flatMap,
    CodePoint.encodable_escapedControl, true_and, and_true]
  rfl

/-- Items between brackets have an encoding exactly if each of them has. -/
theorem encodable_enclose (depth : Nat) {opening closing : Text} (begins : opening.Encodable)
    (ends : closing.Encodable) {items : List Text}
    : (Layout.compact.enclose depth opening closing items).Encodable
      ↔ ∀ t ∈ items, t.Encodable := by
  have lead (depth : Nat) : Layout.compact.lead depth = [] := rfl
  rw [Layout.enclose]
  split
  · next empty => simp [List.isEmpty_iff.mp empty, begins, ends]
  · simp [lead, begins, ends, Text.encodable_join]

mutual

/-- A compact JSON text has an encoding exactly if the texts in the data have one, by induction on
the datum.
-/
theorem encodable_write (depth : Nat) (d : Datum)
    : (write .compact depth d).Encodable ↔ ∀ t ∈ d.texts, t.Encodable := by
  cases d with
  | missing => simp [write, Datum.texts]
  | bool b => cases b <;> simp [write, Datum.texts]
  | int n => simp [write, Datum.texts]
  | float x =>
      cases x with
      | infinite negative => cases negative <;> simp [write, double, Datum.texts]
      | finite | nan => simp [write, double, Datum.texts]
  | text t => simp [write, Datum.texts, encodable_string]
  | reference r => simp [write, Datum.texts, encodable_string]
  | list items =>
      rw [write, Datum.texts, ← encodable_writeItems (depth + 1) items]
      exact encodable_enclose depth (Text.encodable_ofString _) (Text.encodable_ofString _)
  | map entries =>
      rw [write, Datum.texts, ← encodable_writeEntries (depth + 1) entries]
      exact encodable_enclose depth (Text.encodable_ofString _) (Text.encodable_ofString _)

theorem encodable_writeItems (depth : Nat) (items : List Datum)
    : (∀ t ∈ writeItems .compact depth items, t.Encodable)
      ↔ ∀ t ∈ Datum.textsOfItems items, t.Encodable := by
  cases items with
  | nil => simp [writeItems, Datum.textsOfItems]
  | cons item rest =>
      rw [writeItems, Datum.textsOfItems, List.forall_mem_cons, List.forall_mem_append,
        encodable_write depth item, encodable_writeItems depth rest]

theorem encodable_writeEntries (depth : Nat) (entries : List (Text × Datum))
    : (∀ t ∈ writeEntries .compact depth entries, t.Encodable)
      ↔ ∀ t ∈ Datum.textsOfEntries entries, t.Encodable := by
  cases entries with
  | nil => simp [writeEntries, Datum.textsOfEntries]
  | cons entry rest =>
      obtain ⟨name, item⟩ := entry
      have colon : Layout.compact.colon.Encodable := Text.encodable_ofString ":"
      rw [writeEntries, Datum.textsOfEntries, List.forall_mem_cons, List.forall_mem_cons,
        List.forall_mem_append, encodable_writeEntries depth rest, Text.encodable_append,
        Text.encodable_append, encodable_string, encodable_write depth item, and_iff_left colon,
        and_assoc]

end

end Json

end Recommender
