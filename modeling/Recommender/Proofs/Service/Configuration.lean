import Recommender.Proofs.Notice
import Recommender.Proofs.Script.Integers
import Recommender.Proofs.Service.Response
import Recommender.Service.Request

/-! What becomes of a request to configure an algorithm, by a service that knows the components of
every host. The script configures an algorithm, or it is rejected with all that is wrong with it, or
it stops at an integer with too many digits, which is no problem that the service is prepared for.
-/

namespace Recommender.Service

variable {s : Service} {asked : ParseRequest} {processors : Option Nat}

-----------------------------------------------------------------------------------------
-- Valid configurations
-----------------------------------------------------------------------------------------

/-- The script of a request is a valid configuration: it assigns values without a fault, it names a
module, and no assignment has an issue. The algorithm is the one that is configured.
-/
def Configures (s : Service) (asked : ParseRequest) (a : Algorithm) : Prop :=
  ∃ r module,
    Script.toRecord (some requestSource) s.settings.rootName asked.script = .ok r
    ∧ Algorithm.moduleOf s.registry (some requestSource) r = .ok module
    ∧ Algorithm.issuesOf s.registry module asked.strict r = []
    ∧ Algorithm.configured s.registry module asked.strict asked.name (some requestSource) r = a

/-- What is wrong with the script of a request: a fault in it, a module that it does not name or
that is not known, or the issues of all its assignments.
-/
inductive Rejects (s : Service) (asked : ParseRequest) : Problem → Prop where
  | fault {p : Problem} :
      Script.toRecord (some requestSource) s.settings.rootName asked.script
        = .error (.problem p) →
      Rejects s asked p
  | noModule {r : Record} {p : Problem} :
      Script.toRecord (some requestSource) s.settings.rootName asked.script = .ok r →
      Algorithm.moduleOf s.registry (some requestSource) r = .error (.problem p) →
      Rejects s asked p
  | issues {r : Record} {module : Component} :
      Script.toRecord (some requestSource) s.settings.rootName asked.script = .ok r →
      Algorithm.moduleOf s.registry (some requestSource) r = .ok module →
      Algorithm.issuesOf s.registry module asked.strict r ≠ [] →
      Rejects s asked
        (.invalid (Algorithm.issuesOf s.registry module asked.strict r) (some requestSource))

/-- The script of a request stops at an integer with too many digits. -/
def Overflows (s : Service) (asked : ParseRequest) : Prop :=
  ∃ count, Script.StopsAtInteger s.settings.rootName asked.script count

/-- The module of a record that a service knows takes plain parameters. -/
theorem isPlain_of_moduleOf (known : s.registry = Builtin.registry processors)
    {source : Option Text} {r : Record} {module : Component}
    (found : Algorithm.moduleOf s.registry source r = .ok module)
    : ∀ p ∈ module.parameters, Builtin.IsPlain p := by
  obtain ⟨reference, _, resolved, _⟩ := Algorithm.moduleOf_eq_ok.mp found
  rw [known] at resolved
  exact Builtin.isPlain_of_resolve resolved

-----------------------------------------------------------------------------------------
-- What becomes of a request
-----------------------------------------------------------------------------------------

/-- What a service makes of a request. -/
def outcomeOf (s : Service) (asked : ParseRequest) : Except Failure Algorithm :=
  (s.configure asked.script asked.name asked.strict).outcome

theorem outcomeOf_of_record {r : Record}
    (made : Script.toRecord (some requestSource) s.settings.rootName asked.script = .ok r)
    : s.outcomeOf asked
      = (Algorithm.ofRecord s.registry asked.strict asked.name (some requestSource) r).outcome := by
  rw [outcomeOf, configure, Logged.outcome_bind, Logged.lift, made]
  rfl

theorem outcomeOf_of_failure {failure : Failure}
    (failed : Script.toRecord (some requestSource) s.settings.rootName asked.script
      = .error failure)
    : s.outcomeOf asked = .error failure := by
  rw [outcomeOf, configure, Logged.outcome_bind, Logged.lift, failed]
  rfl

/-- Once the module is found, the issues alone decide: no value is incomparable. -/
theorem outcomeOf_of_module (known : s.registry = Builtin.registry processors) {r : Record}
    {module : Component}
    (made : Script.toRecord (some requestSource) s.settings.rootName asked.script = .ok r)
    (found : Algorithm.moduleOf s.registry (some requestSource) r = .ok module)
    : s.outcomeOf asked
      = if Algorithm.issuesOf s.registry module asked.strict r = [] then
          .ok (Algorithm.configured s.registry module asked.strict asked.name
            (some requestSource) r)
        else
          .error (.problem
            (.invalid (Algorithm.issuesOf s.registry module asked.strict r)
              (some requestSource))) := by
  rw [outcomeOf_of_record made]
  have comparable : Algorithm.Comparable s.registry module r :=
    Builtin.comparable_of_isPlain (isPlain_of_moduleOf known found) r
  rcases @Algorithm.ofRecord_outcome _ _ asked.strict asked.name _ _ found with
    ⟨_, ends⟩ | ⟨stuck, _⟩
  · exact ends
  · exact absurd comparable stuck

theorem outcomeOf_of_configures (known : s.registry = Builtin.registry processors) {a : Algorithm}
    (configures : s.Configures asked a)
    : s.outcomeOf asked = .ok a := by
  obtain ⟨r, module, made, found, clear, rfl⟩ := configures
  rw [outcomeOf_of_module known made found, if_pos clear]

theorem outcomeOf_of_rejects (known : s.registry = Builtin.registry processors) {p : Problem}
    (rejects : s.Rejects asked p)
    : s.outcomeOf asked = .error (.problem p) := by
  cases rejects with
  | fault failed => exact outcomeOf_of_failure failed
  | noModule made missing =>
      rw [outcomeOf_of_record made, Algorithm.ofRecord_of_noModule missing]
      rfl
  | issues made found some => rw [outcomeOf_of_module known made found, if_neg some]

theorem outcomeOf_of_stopsAtInteger {count : Nat}
    (stops : Script.StopsAtInteger s.settings.rootName asked.script count)
    : s.outcomeOf asked = .error (.tooManyDigits count) :=
  outcomeOf_of_failure (Script.toRecord_eq_tooManyDigits.mpr stops)

theorem encodable_requestSource : requestSource.Encodable :=
  Text.encodable_ofString "<request>"

/-- Every request comes to one of three, by how far its script is understood: its statements, its
module, its assignments.
-/
theorem request_cases (s : Service) (asked : ParseRequest)
    : (∃ a, s.Configures asked a) ∨ (∃ p, s.Rejects asked p) ∨ s.Overflows asked := by
  cases made : Script.toRecord (some requestSource) s.settings.rootName asked.script with
  | error failure =>
      cases Script.isFailureOf_of_toRecord made with
      | fault line fault text => exact .inr (.inl ⟨_, .fault made⟩)
      | tooManyDigits many =>
          exact .inr (.inr ⟨_, Script.toRecord_eq_tooManyDigits.mp made⟩)
  | ok r =>
      cases found : Algorithm.moduleOf s.registry (some requestSource) r with
      | error failure =>
          obtain ⟨p, rfl, _⟩ := Algorithm.encodable_of_moduleOf encodable_requestSource found
          exact .inr (.inl ⟨p, .noModule made found⟩)
      | ok module =>
          by_cases clear : Algorithm.issuesOf s.registry module asked.strict r = []
          · exact .inl ⟨_, r, module, made, found, clear, rfl⟩
          · exact .inr (.inl ⟨_, .issues made found clear⟩)

/-- A request is rejected exactly if its script is no valid configuration and does not stop at an
integer.
-/
theorem rejects_iff (known : s.registry = Builtin.registry processors)
    : (∃ p, s.Rejects asked p) ↔ (∀ a, ¬ s.Configures asked a) ∧ ¬ s.Overflows asked := by
  constructor
  · rintro ⟨p, rejects⟩
    have refused := outcomeOf_of_rejects known rejects
    refine ⟨fun a configures => ?_, fun overflows => ?_⟩
    · exact nomatch refused.symm.trans (outcomeOf_of_configures known configures)
    · obtain ⟨count, stops⟩ := overflows
      exact nomatch refused.symm.trans (outcomeOf_of_stopsAtInteger stops)
  · rintro ⟨invalid, whole⟩
    rcases s.request_cases asked with ⟨a, configures⟩ | rejects | overflows
    · exact absurd configures (invalid a)
    · exact rejects
    · exact absurd overflows whole

-----------------------------------------------------------------------------------------
-- What is sent back
-----------------------------------------------------------------------------------------

/-- Whatever is wrong with a script can be said, case by case. -/
theorem encodable_of_rejects {p : Problem} (rejects : s.Rejects asked p)
    : ∀ t ∈ p.parts, t.Encodable := by
  cases rejects with
  | fault failed =>
      cases Script.isFailureOf_of_toRecord failed
      exact Script.encodable_fault encodable_requestSource _ _ _
  | noModule made missing =>
      obtain ⟨q, same, encodable⟩ := Algorithm.encodable_of_moduleOf encodable_requestSource missing
      cases same
      exact encodable
  | issues made found some =>
      intro t member
      obtain ⟨issue, listed, rfl⟩ := List.mem_map.mp member
      exact Algorithm.encodable_issuesOf listed

/-- The response to a configured algorithm, which has an encoding exactly if whatever it repeats has
one.
-/
theorem response_of_configures (known : s.registry = Builtin.registry processors) {a : Algorithm}
    (configures : s.Configures asked a)
    : ∃ body,
        s.response a = .ok body
        ∧ body.finite = body
        ∧ ((∀ t ∈ body.texts, t.Encodable) ↔ s.Repeatable a) := by
  obtain ⟨r, module, made, found, clear, rfl⟩ := configures
  have assigned : r.values.entries ≠ [] := by
    intro empty
    obtain ⟨reference, named, _⟩ := Algorithm.moduleOf_eq_ok.mp found
    simp [Record.get?, Table.find?, empty] at named
  exact response_of_isPlain (isPlain_of_moduleOf known found) rfl encodable_requestSource assigned

end Recommender.Service
