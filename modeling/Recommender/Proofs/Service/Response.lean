import Recommender.Proofs.Algorithm.Messages
import Recommender.Proofs.Component.Builtin
import Recommender.Proofs.Json.Sending
import Recommender.Service.Basic

/-! What a service responds with for an algorithm. The response repeats the name of the algorithm
and the texts that it was given, and the root object stands on every line of its script; nothing
else in it can lack an encoding.
-/

namespace Recommender

namespace Value

/-- A value that is no text without an encoding. -/
def Encodable (v : Value) : Prop :=
  ∀ t, v = .text t → t.Encodable

theorem encodable_plain (v : Value)
    : (∀ t ∈ v.toDatum.plain.texts, t.Encodable) ↔ v.Encodable := by
  cases v <;> simp [toDatum, Datum.plain, Datum.texts, Encodable]

@[simp]
theorem finite_plain (v : Value) : v.toDatum.plain.finite = v.toDatum.plain := by
  cases v <;> rfl

end Value

namespace Algorithm

-----------------------------------------------------------------------------------------
-- Tables as plain data
-----------------------------------------------------------------------------------------

/-- A table whose data are values. -/
def HoldsValues (table : Table Path Datum) : Prop :=
  ∀ entry ∈ table.entries, ∃ v : Value, entry.2 = v.toDatum

theorem holdsValues_mapValues (table : Table Path Value)
    : HoldsValues (table.mapValues Value.toDatum) := by
  intro entry member
  obtain ⟨given, _, rfl⟩ := List.mem_map.mp member
  exact ⟨given.2, rfl⟩

theorem finite_plainMap {table : Table Path Datum} (values : HoldsValues table)
    : (plainMap table).finite = plainMap table := by
  rw [plainMap, Datum.finite]
  refine congrArg Datum.map (Datum.finiteEntries_eq fun entry member => ?_)
  obtain ⟨given, inside, rfl⟩ := List.mem_map.mp member
  obtain ⟨v, same⟩ := values given inside
  dsimp only
  rw [same, v.finite_plain]

/-- A table as plain data has an encoding exactly if each of its data has, for paths have one. -/
theorem encodable_plainMap (table : Table Path Datum)
    : (∀ t ∈ (plainMap table).texts, t.Encodable)
      ↔ ∀ entry ∈ table.entries, ∀ t ∈ entry.2.plain.texts, t.Encodable := by
  rw [plainMap, Datum.texts, Datum.forall_mem_textsOfEntries, List.forall_mem_map]
  simp

theorem encodable_plainMap_mapValues (table : Table Path Value)
    : (∀ t ∈ (plainMap (table.mapValues Value.toDatum)).texts, t.Encodable)
      ↔ ∀ v ∈ table.values, v.Encodable := by
  rw [encodable_plainMap, Table.mapValues, Table.values, List.forall_mem_map, List.forall_mem_map]
  simp only [Value.encodable_plain]

-----------------------------------------------------------------------------------------
-- Parameters in effect
-----------------------------------------------------------------------------------------

/-- The parameters in effect are values: the overrides, and defaults that are no texts. -/
theorem effective_of_isPlain {a : Algorithm}
    (plain : ∀ p ∈ a.module.parameters, Builtin.IsPlain p)
    : ∃ table,
        a.effective = .ok table
        ∧ ∀ entry ∈ table.entries, ∃ v : Value,
            entry.2 = v.toDatum ∧ (v ∈ a.parameters.values ∨ ∀ t, v ≠ .text t) := by
  obtain ⟨defaults, made, values⟩ := Builtin.defaults_of_isPlain plain
  refine ⟨_, by rw [effective, made]; rfl, fun entry member => ?_⟩
  have found := Table.find?_eq_some.mpr member
  rw [Table.find?_overlay, Table.find?_mapValues, Option.or_eq_some_iff] at found
  rcases found with given | ⟨_, fallback⟩
  · obtain ⟨v, override, same⟩ := Option.map_eq_some_iff.mp given
    exact ⟨v, same.symm, .inl (List.mem_map.mpr ⟨_, Table.find?_eq_some.mp override, rfl⟩)⟩
  · obtain ⟨v, same, noText⟩ := values entry.1 entry.2 fallback
    exact ⟨v, same, .inr noText⟩

end Algorithm

/-- The script of a record has an encoding exactly if the root object has one, which stands on each
of its lines.
-/
theorem Script.encodable_render (r : Record) (root : Text)
    : (render r root []).Encodable ↔ (r.values.entries ≠ [] → root.Encodable) := by
  have line (assignment : Path × Value)
      : (assignmentLine root assignment).Encodable ↔ root.Encodable := by
    simp [assignmentLine]
  have noHeader : (Text.lines []).map headerLine = [] := rfl
  rw [render, noHeader, List.nil_append, Text.encodable_append,
    and_iff_left (Text.encodable_ofString "\n"), Text.encodable_join (Text.encodable_ofString "\n"),
    List.forall_mem_map]
  simp only [line]
  cases r.values.entries with
  | nil => simp
  | cons entry rest =>
      exact ⟨fun each _ => each entry List.mem_cons_self,
        fun encodable _ _ => encodable (List.cons_ne_nil entry rest)⟩

namespace Service

-----------------------------------------------------------------------------------------
-- Responses
-----------------------------------------------------------------------------------------

/-- Whatever the response to an algorithm repeats has an encoding: the name of the root object, the
name of the algorithm, and the texts among its parameters and attributes.
-/
structure Repeatable (s : Service) (a : Algorithm) : Prop where
  root : s.settings.rootName.Encodable
  name : a.name.Encodable
  parameters : ∀ v ∈ a.parameters.values, v.Encodable
  attributes : ∀ v ∈ a.attributes.values, v.Encodable

/-- An algorithm with plain parameters has a response. Its numbers are finite, and it has an
encoding exactly if whatever it repeats has one.
-/
theorem response_of_isPlain {s : Service} {a : Algorithm} {source : Text}
    (plain : ∀ p ∈ a.module.parameters, Builtin.IsPlain p) (sent : a.source = some source)
    (named : source.Encodable) (assigned : a.record.values.entries ≠ [])
    : ∃ body,
        s.response a = .ok body
        ∧ body.finite = body
        ∧ ((∀ t ∈ body.texts, t.Encodable) ↔ s.Repeatable a) := by
  obtain ⟨table, effective, values⟩ := Algorithm.effective_of_isPlain plain
  have holds : Algorithm.HoldsValues table := by
    intro entry member
    obtain ⟨v, same, _⟩ := values entry member
    exact ⟨v, same⟩
  have inEffect (given : ∀ v ∈ a.parameters.values, v.Encodable)
      : ∀ t ∈ (Algorithm.plainMap table).texts, t.Encodable := by
    rw [Algorithm.encodable_plainMap]
    intro entry member
    obtain ⟨v, same, given' | noText⟩ := values entry member
    · rw [same, v.encodable_plain]
      exact given v given'
    · rw [same, v.encodable_plain]
      exact fun t isText => absurd isText (noText t)
  refine ⟨_, by rw [response, Algorithm.summary, effective, sent]; rfl, ?_, ?_⟩
  · rw [Datum.finite]
    refine congrArg Datum.map (Datum.finiteEntries_eq ?_)
    simp only [List.cons_append, List.nil_append, List.forall_mem_cons,
      Algorithm.finite_plainMap holds,
      Algorithm.finite_plainMap (Algorithm.holdsValues_mapValues _)]
    simp [Datum.finite, Datum.isNonFinite]
  · rw [Datum.texts, Datum.forall_mem_textsOfEntries]
    simp only [List.cons_append, List.nil_append, List.forall_mem_cons,
      Algorithm.encodable_plainMap_mapValues, Datum.texts, Text.encodable_ofString,
      Option.elim_some, List.not_mem_nil, Component.encodable, named, Script.encodable_render,
      false_imp_iff, implies_true, true_and, and_true]
    constructor
    · rintro ⟨name, parameters, _, attributes, root⟩
      exact ⟨root assigned, name, parameters, attributes⟩
    · intro repeatable
      exact ⟨repeatable.name, repeatable.parameters, inEffect repeatable.parameters,
        repeatable.attributes, fun _ => repeatable.root⟩

/-- The name of an algorithm is written first, so its surrogates are found first in a response. -/
theorem surrogates?_of_name {s : Service} {a : Algorithm} {body : Datum}
    (responds : s.response a = .ok body) {fault : EncodeFault}
    (held : Utf8.firstSurrogates 0 a.name = some fault)
    : body.surrogates? = some fault := by
  rw [response, Algorithm.summary] at responds
  cases effective : a.effective with
  | error failure =>
      rw [effective] at responds
      cases responds
  | ok table =>
      rw [effective] at responds
      cases responds
      have word : Utf8.firstSurrogates 0 "name" = none := rfl
      simp only [Datum.surrogates?, Datum.texts, Datum.textsOfEntries, List.cons_append,
        List.nil_append, List.findSome?_cons, word, held]

end Service

end Recommender
