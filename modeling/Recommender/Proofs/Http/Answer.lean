import Recommender.Http.Server
import Recommender.Proofs.Service.Configuration

/-! Answers to requests that ask for an algorithm to be configured. A valid configuration is
answered with the algorithm and an invalid one with all that is wrong with it. Two things are not
answered: an integer with too many digits in the script, and a surrogate in what the answer would
repeat.
-/

namespace Recommender

-----------------------------------------------------------------------------------------
-- Replies
-----------------------------------------------------------------------------------------

namespace Reply

/-- A body is sent as a whole if the texts in it have an encoding. -/
theorem sendable_of_encodable (status : Nat) {body : Datum} (each : ∀ t ∈ body.texts, t.Encodable)
    : sendable status body = .ok (.data status body) := by
  have whole : (Json.compact body).Encodable := (Json.encodable_write 0 body).mpr each
  rw [sendable, encodable, Text.encode_of_encodable whole]
  rfl

/-- A body of a declared form is sent exactly if the texts in it have an encoding, and fails with
the first surrogates in them else.
-/
theorem declared_cases (body : Datum)
    : ((∀ t ∈ body.texts, t.Encodable) ∧ declared body = .ok (.data 200 body.finite))
      ∨ ((¬ ∀ t ∈ body.texts, t.Encodable)
        ∧ ∃ fault,
            body.surrogates? = some fault ∧ declared body = .error (.unserializable fault)) := by
  rw [← Datum.surrogates?_eq_none, declared]
  cases body.surrogates? with
  | none => exact .inl ⟨rfl, rfl⟩
  | some fault => exact .inr ⟨nofun, fault, rfl, rfl⟩

end Reply

/-- A problem as the body of a reply: what kind it is, and a text for each thing that is wrong. -/
def Problem.response (p : Problem) : Datum :=
  .map [("error", .text p.label), ("errors", .list (p.parts.map .text))]

theorem Problem.encodable_response {p : Problem} (sayable : ∀ t ∈ p.parts, t.Encodable)
    : ∀ t ∈ p.response.texts, t.Encodable := by
  rw [response, Datum.texts, Datum.forall_mem_textsOfEntries]
  simp only [List.forall_mem_cons, Datum.texts, Datum.textsOfItems_map_text, List.not_mem_nil,
    Text.encodable_ofString, encodable_label, false_imp_iff, implies_true, true_and, and_true]
  exact sayable

/-- A request asks for an algorithm to be configured: it leads to that route, and its body describes
what is asked for.
-/
structure Request.Asks (request : Request) (asked : ParseRequest) : Prop where
  routed
    : (Destination.of (Method.ofText request.method) Server.maxAttempts request.target).2
      = .route .parse
  described
    : ∃ body d,
        Settings.nonEmpty? request.body = some body
        ∧ Json.whole Server.bodyRules (Server.withoutMark body) = .ok d
        ∧ ParseRequest.check d = .ok asked

namespace Server

variable {server : Server} {s : Service} {request : Request} {asked : ParseRequest}
  {processors : Option Nat}

/-- The service behind a server: the one that has been started, or the one that will be. -/
def Runs (server : Server) (s : Service) : Prop :=
  match server.service with
  | some started => started = s
  | none =>
    (Service.start server.tree server.environment server.processors Choices.none).outcome = .ok s

-----------------------------------------------------------------------------------------
-- From the request to the service
-----------------------------------------------------------------------------------------

theorem withService_outcome {α β : Type} (runs : server.Runs s)
    (work : Service → Logged (Service × α)) (finish : Service → α → Except Failure β)
    : (server.withService work finish).2.outcome
      = (work s).outcome >>= fun (left, a) => finish left a := by
  cases present : server.service with
  | some started =>
      obtain rfl : started = s := by simpa only [Runs, present] using runs
      simp only [withService, present, pure, Logged.pure]
      cases (work started).outcome <;> rfl
  | none =>
      have begun : (Service.start server.tree server.environment server.processors
          Choices.none).outcome = .ok s := by simpa only [Runs, present] using runs
      simp only [withService, present, begun]
      cases (work s).outcome <;> rfl

theorem configure_outcome (runs : server.Runs s)
    : (server.configure asked).2.outcome = s.outcomeOf asked >>= response s := by
  rw [configure, withService_outcome runs, Logged.outcome_bind, Service.outcomeOf]
  cases (s.configure asked.script asked.name asked.strict).outcome <;> rfl

/-- What is answered is what the service makes of the request. -/
theorem answer_of_asks (runs : server.Runs s) (asks : request.Asks asked)
    : ∃ logged : Logged Reply,
        (server.answer request).2 = answering logged
        ∧ logged.outcome = s.outcomeOf asked >>= response s := by
  obtain ⟨routed, body, d, present, parsed, checked⟩ := asks
  refine ⟨(server.parse request.body).2, ?_, ?_⟩
  · rw [answer]
    generalize Destination.of (Method.ofText request.method) maxAttempts request.target = found
      at routed
    obtain ⟨target, destination⟩ := found
    obtain rfl : destination = .route .parse := routed
    rfl
  · rw [parse, present]
    dsimp only
    rw [parsed]
    dsimp only
    rw [checked]
    exact configure_outcome runs

-----------------------------------------------------------------------------------------
-- From the service to the answer
-----------------------------------------------------------------------------------------

/-- A script that is rejected is answered with all that is wrong with it. -/
theorem answer_of_rejects (runs : server.Runs s) (asks : request.Asks asked)
    (known : s.registry = Builtin.registry processors) {p : Problem} (rejects : s.Rejects asked p)
    : (server.answer request).2.outcome = .ok (.data 422 p.response) := by
  obtain ⟨logged, answered, outcome⟩ := answer_of_asks runs asks
  rw [Service.outcomeOf_of_rejects known rejects] at outcome
  have refused : logged.outcome = .error (.problem p) := outcome
  have replied : (answering logged).outcome = Reply.problem p := by
    rw [answering, refused]
  have sayable : ∀ t ∈ p.response.texts, t.Encodable :=
    Problem.encodable_response (Service.encodable_of_rejects rejects)
  rw [answered, replied]
  exact Reply.sendable_of_encodable 422 sayable

/-- A configured algorithm is answered with its response, unless that repeats a surrogate. Then the
first surrogates in the response are at fault.
-/
theorem answer_of_configures (runs : server.Runs s) (asks : request.Asks asked)
    (known : s.registry = Builtin.registry processors) {a : Algorithm}
    (configures : s.Configures asked a)
    : ∃ body,
        s.response a = .ok body
        ∧ ((s.Repeatable a ∧ (server.answer request).2.outcome = .ok (.data 200 body))
          ∨ (¬ s.Repeatable a
            ∧ ∃ fault,
                body.surrogates? = some fault
                ∧ (server.answer request).2.outcome = .error (.unserializable fault))) := by
  obtain ⟨logged, answered, outcome⟩ := answer_of_asks runs asks
  obtain ⟨body, responds, finite, repeats⟩ := Service.response_of_configures known configures
  rw [Service.outcomeOf_of_configures known configures] at outcome
  have sent : logged.outcome = Reply.declared body := by
    rw [outcome]
    change response s a = _
    rw [response, responds]
    rfl
  refine ⟨body, responds, ?_⟩
  rw [answered, answering, sent, ← repeats]
  rcases Reply.declared_cases body with ⟨encodable, made⟩ | ⟨held, fault, found, refused⟩
  · rw [finite] at made
    exact .inl ⟨encodable, by rw [made]; exact sent.trans made⟩
  · exact .inr ⟨held, fault, found, by rw [refused]; exact sent.trans refused⟩

/-- A script that stops at an integer is not answered. -/
theorem answer_of_stopsAtInteger (runs : server.Runs s) (asks : request.Asks asked) {count : Nat}
    (stops : Script.StopsAtInteger s.settings.rootName asked.script count)
    : (server.answer request).2.outcome = .error (.tooManyDigits count) := by
  obtain ⟨logged, answered, outcome⟩ := answer_of_asks runs asks
  have failed : logged.outcome = .error (.tooManyDigits count) := by
    rw [outcome, Service.outcomeOf_of_stopsAtInteger stops]
    rfl
  rw [answered, answering, failed]
  exact failed

/-- A request is answered with what it configures or with what is wrong with it, or it fails in one
of two ways.
-/
theorem answer_cases (runs : server.Runs s) (asks : request.Asks asked)
    (known : s.registry = Builtin.registry processors)
    : let outcome := (server.answer request).2.outcome
      (∃ a body,
        s.Configures asked a
        ∧ s.Repeatable a
        ∧ s.response a = .ok body
        ∧ outcome = .ok (.data 200 body))
      ∨ (∃ p, s.Rejects asked p ∧ outcome = .ok (.data 422 p.response))
      ∨ (∃ count,
        Script.StopsAtInteger s.settings.rootName asked.script count
        ∧ outcome = .error (.tooManyDigits count))
      ∨ ∃ a body fault,
          s.Configures asked a
          ∧ ¬ s.Repeatable a
          ∧ s.response a = .ok body
          ∧ body.surrogates? = some fault
          ∧ outcome = .error (.unserializable fault) := by
  intro outcome
  rcases s.request_cases asked with ⟨a, configures⟩ | ⟨p, rejects⟩ | ⟨count, stops⟩
  · obtain ⟨body, responds, ⟨repeatable, sent⟩ | ⟨held, fault, found, refused⟩⟩ :=
      answer_of_configures runs asks known configures
    · exact .inl ⟨a, body, configures, repeatable, responds, sent⟩
    · exact .inr (.inr (.inr ⟨a, body, fault, configures, held, responds, found, refused⟩))
  · exact .inr (.inl ⟨p, rejects, answer_of_rejects runs asks known rejects⟩)
  · exact .inr (.inr (.inl ⟨count, stops, answer_of_stopsAtInteger runs asks stops⟩))

/-- The answer is the configured algorithm, or all that is wrong with the script. -/
theorem answer_eq_ok (runs : server.Runs s) (asks : request.Asks asked)
    (known : s.registry = Builtin.registry processors) {reply : Reply}
    : (server.answer request).2.outcome = .ok reply
      ↔ (∃ a body,
          s.Configures asked a
          ∧ s.Repeatable a
          ∧ s.response a = .ok body
          ∧ reply = .data 200 body)
        ∨ ∃ p, s.Rejects asked p ∧ reply = .data 422 p.response := by
  constructor
  · intro answered
    rcases answer_cases runs asks known with
      ⟨a, body, configures, repeatable, responds, sent⟩ | ⟨p, rejects, sent⟩ | ⟨_, _, stopped⟩
      | ⟨_, _, _, _, _, _, _, refused⟩
    · exact .inl ⟨a, body, configures, repeatable, responds,
        Except.ok.inj (answered.symm.trans sent)⟩
    · exact .inr ⟨p, rejects, Except.ok.inj (answered.symm.trans sent)⟩
    · exact nomatch answered.symm.trans stopped
    · exact nomatch answered.symm.trans refused
  · rintro (⟨a, body, configures, repeatable, responds, rfl⟩ | ⟨p, rejects, rfl⟩)
    · obtain ⟨other, again, ⟨_, sent⟩ | ⟨held, _⟩⟩ :=
        answer_of_configures runs asks known configures
      · cases responds.symm.trans again
        exact sent
      · exact absurd repeatable held
    · exact answer_of_rejects runs asks known rejects

/-- A failure tells how many digits an integer has at which the script stops, or where in a text of
the response the first surrogates stand.
-/
theorem answer_eq_error (runs : server.Runs s) (asks : request.Asks asked)
    (known : s.registry = Builtin.registry processors) {failure : Failure}
    : (server.answer request).2.outcome = .error failure
      ↔ (∃ count,
          Script.StopsAtInteger s.settings.rootName asked.script count
          ∧ failure = .tooManyDigits count)
        ∨ ∃ a body fault,
            s.Configures asked a
            ∧ ¬ s.Repeatable a
            ∧ s.response a = .ok body
            ∧ body.surrogates? = some fault
            ∧ failure = .unserializable fault := by
  constructor
  · intro failed
    rcases answer_cases runs asks known with
      ⟨_, _, _, _, _, sent⟩ | ⟨_, _, sent⟩ | ⟨count, stops, stopped⟩
      | ⟨a, body, fault, configures, held, responds, found, refused⟩
    · exact nomatch failed.symm.trans sent
    · exact nomatch failed.symm.trans sent
    · exact .inl ⟨count, stops, Except.error.inj (failed.symm.trans stopped)⟩
    · exact .inr ⟨a, body, fault, configures, held, responds, found,
        Except.error.inj (failed.symm.trans refused)⟩
  · rintro (⟨count, stops, rfl⟩ | ⟨a, body, fault, configures, held, responds, found, rfl⟩)
    · exact answer_of_stopsAtInteger runs asks stops
    · obtain ⟨other, again, ⟨repeatable, _⟩ | ⟨_, place, same, refused⟩⟩ :=
        answer_of_configures runs asks known configures
      · exact absurd repeatable held
      · cases responds.symm.trans again
        cases found.symm.trans same
        exact refused

/-- A request to configure an algorithm is answered exactly if its script does not stop at an
integer with too many digits and the response to what it configures repeats no surrogate. The answer
is the configured algorithm, or all that is wrong with a script that is no valid configuration;
whatever is not answered fails for one of the two reasons, and tells how many digits there are or
where in a text of the response the first surrogates stand.
-/
theorem answer_isOk_iff (runs : server.Runs s) (known : s.registry = Builtin.registry processors)
    (asks : request.Asks asked)
    : let outcome := (server.answer request).2.outcome
      ((∃ reply, outcome = .ok reply)
        ↔ ¬ s.Overflows asked ∧ ∀ a, s.Configures asked a → s.Repeatable a)
      ∧ (∀ reply,
          outcome = .ok reply
          ↔ (∃ a body,
              s.Configures asked a
              ∧ s.Repeatable a
              ∧ s.response a = .ok body
              ∧ reply = .data 200 body)
            ∨ ∃ p, s.Rejects asked p ∧ reply = .data 422 p.response)
      ∧ ((∃ p, s.Rejects asked p) ↔ (∀ a, ¬ s.Configures asked a) ∧ ¬ s.Overflows asked)
      ∧ ∀ failure,
          outcome = .error failure
          ↔ (∃ count,
              Script.StopsAtInteger s.settings.rootName asked.script count
              ∧ failure = .tooManyDigits count)
            ∨ ∃ a body fault,
                s.Configures asked a
                ∧ ¬ s.Repeatable a
                ∧ s.response a = .ok body
                ∧ body.surrogates? = some fault
                ∧ failure = .unserializable fault := by
  intro outcome
  refine ⟨⟨?_, ?_⟩, fun _ => answer_eq_ok runs asks known, Service.rejects_iff known,
    fun _ => answer_eq_error runs asks known⟩
  · rintro ⟨reply, answered⟩
    refine ⟨fun ⟨count, stops⟩ => ?_, fun a configures => ?_⟩
    · exact nomatch answered.symm.trans (answer_of_stopsAtInteger runs asks stops)
    · obtain ⟨body, _, ⟨repeatable, _⟩ | ⟨_, fault, _, refused⟩⟩ :=
        answer_of_configures runs asks known configures
      · exact repeatable
      · exact nomatch answered.symm.trans refused
  · rintro ⟨whole, repeatable⟩
    cases ends : outcome with
    | ok reply => exact ⟨reply, rfl⟩
    | error failure =>
        rcases (answer_eq_error runs asks known).mp ends with
          ⟨count, stops, _⟩ | ⟨a, _, _, configures, held, _⟩
        · exact absurd ⟨count, stops⟩ whole
        · exact absurd (repeatable a configures) held

-----------------------------------------------------------------------------------------
-- A request that is answered, and one that is not
-----------------------------------------------------------------------------------------

/-- A server without files, variables or a service. -/
def fresh : Server :=
  ⟨⟨∅⟩, ⟨none, none, none, none⟩, none, none⟩

/-- The service that it starts. -/
def freshService : Service :=
  ⟨⟨"rec", true, [], none⟩, Builtin.registry none, none⟩

theorem runs_fresh : fresh.Runs freshService := by
  rw [Runs]
  rfl

theorem registry_fresh : freshService.registry = Builtin.registry none := by
  rw [freshService]

/-- A request to configure an algorithm. -/
def posted (body : Text) : Request :=
  ⟨"POST", "/algorithms/parse", some body⟩

theorem routed_posted (body : Text)
    : (Destination.of (Method.ofText (posted body).method) maxAttempts (posted body).target).2
      = .route .parse := by
  have target : Target.ofText "/algorithms/parse" = ⟨"/algorithms/parse", []⟩ := by cbv
  have found : Destination.of .post maxAttempts "/algorithms/parse"
      = (⟨"/algorithms/parse", []⟩, .route .parse) := by
    rw [maxAttempts, Destination.of, target]
    rfl
  exact congrArg Prod.snd found

/-- What the service configures by a record that names the module SlopeOne. -/
def configuredBy (r : Record) : Algorithm :=
  Algorithm.configured freshService.registry Builtin.slopeOne true none
    (some Service.requestSource) r

/-- A script configures an algorithm if its record names the module and has no issues. -/
theorem configures_slopeOne {script : Text} {r : Record}
    (made : Script.toRecord (some Service.requestSource) "rec" script = .ok r)
    (named : r.get? Path.module = some (.reference Builtin.slopeOneReference))
    (clear : Algorithm.issuesOf freshService.registry Builtin.slopeOne true r = [])
    : freshService.Configures ⟨script, none, true⟩ (configuredBy r) := by
  have found : Algorithm.moduleOf freshService.registry (some Service.requestSource) r
      = .ok Builtin.slopeOne := by
    rw [registry_fresh]
    exact Builtin.moduleOf_slopeOne _ named
  exact ⟨r, Builtin.slopeOne, made, found, clear, rfl⟩

/-- The body of a request with a script that names the module and nothing else. -/
def moduleBody : Text :=
  "\x7b\"script\": \"rec.module = SlopeOne\"\x7d"

theorem asks_module : (posted moduleBody).Asks ⟨Builtin.slopeOneScript, none, true⟩ where
  routed := routed_posted moduleBody
  described := by
    have parsed : Json.whole bodyRules (withoutMark moduleBody)
        = .ok (.map [("script", .text Builtin.slopeOneScript)]) := by cbv
    exact ⟨moduleBody, _, rfl, parsed, rfl⟩

/-- A request whose script names a module is answered with the algorithm. -/
theorem answer_isOk_module
    : fresh.Runs freshService
      ∧ freshService.registry = Builtin.registry none
      ∧ (posted moduleBody).Asks ⟨Builtin.slopeOneScript, none, true⟩
      ∧ ∃ a body,
          a.name = ("SlopeOne" : Text)
          ∧ freshService.response a = .ok body
          ∧ (fresh.answer (posted moduleBody)).2.outcome = .ok (.data 200 body) := by
  refine ⟨runs_fresh, registry_fresh, asks_module, ?_⟩
  have configures := configures_slopeOne (Builtin.toRecord_slopeOneScript _) rfl
    (Builtin.issuesOf_slopeOneRecord _ _)
  obtain ⟨body, responds, _⟩ := Service.response_of_configures registry_fresh configures
  have repeatable : freshService.Repeatable (configuredBy Builtin.slopeOneRecord) :=
    { root := Text.encodable_ofString "rec"
      name := Text.encodable_ofString "SlopeOne"
      parameters := nofun
      attributes := nofun }
  refine ⟨_, body, rfl, responds, ?_⟩
  exact ((answer_isOk_iff runs_fresh registry_fresh asks_module).2.1 _).mpr
    (.inl ⟨_, body, configures, repeatable, responds, rfl⟩)

/-- A script that names an algorithm by a surrogate, in ASCII. -/
def surrogateScript : Text :=
  "rec.name = \"\\ud800\"; rec.module = SlopeOne"

/-- The body of a request with this script. -/
def surrogateBody : Text :=
  "\x7b\"script\": \"rec.name = \\\"\\\\ud800\\\"; rec.module = SlopeOne\"\x7d"

theorem asks_surrogate : (posted surrogateBody).Asks ⟨surrogateScript, none, true⟩ where
  routed := routed_posted surrogateBody
  described := by
    have parsed : Json.whole bodyRules (withoutMark surrogateBody)
        = .ok (.map [("script", .text surrogateScript)]) := by cbv
    exact ⟨surrogateBody, _, rfl, parsed, rfl⟩

/-- The record of this script. -/
def surrogateRecord : Record :=
  Record.ofList [(Path.name, .text [0xD800]), (Path.module, .reference Builtin.slopeOneReference)]

/-- The statement that names the algorithm. -/
def nameStatement : Text :=
  "rec.name = \"\\ud800\""

theorem toRecord_surrogateScript
    : Script.toRecord (some Service.requestSource) "rec" surrogateScript
      = .ok surrogateRecord := by
  have stripped : Script.strip surrogateScript = .ok surrogateScript := rfl
  have statements : Script.statementsOf surrogateScript
      = [nameStatement, Builtin.slopeOneScript] := rfl
  have name : Script.pairOf? "rec" nameStatement = some (Path.name, .text [0xD800]) := by cbv
  refine Script.toRecord_eq_ok.mpr ⟨_, ?_, rfl⟩
  rw [Script.read_pairs?, stripped]
  simp [Except.toOption, statements, name, Builtin.pairOf?_slopeOneScript]

theorem issuesOf_surrogateRecord (registry : Registry) (module : Component)
    : Algorithm.issuesOf registry module true surrogateRecord = [] :=
  rfl

/-- Not every request with a valid configuration is answered: a script can name its algorithm by an
escape for a surrogate, and the response to the algorithm cannot be sent for what stands at the
beginning of that name.
-/
theorem answer_surrogate
    : fresh.Runs freshService
      ∧ freshService.registry = Builtin.registry none
      ∧ (posted surrogateBody).Asks ⟨surrogateScript, none, true⟩
      ∧ (∃ a, freshService.Configures ⟨surrogateScript, none, true⟩ a)
      ∧ (fresh.answer (posted surrogateBody)).2.outcome = .error (.unserializable ⟨0xD800, 0, 1⟩)
      ∧ ¬ ∃ reply, (fresh.answer (posted surrogateBody)).2.outcome = .ok reply := by
  have configures := configures_slopeOne toRecord_surrogateScript rfl
    (issuesOf_surrogateRecord _ _)
  have held : ¬ freshService.Repeatable (configuredBy surrogateRecord) := by
    intro repeatable
    exact nomatch repeatable.name 0xD800 (List.mem_singleton_self _)
  have refused : (fresh.answer (posted surrogateBody)).2.outcome
      = .error (.unserializable ⟨0xD800, 0, 1⟩) := by
    obtain ⟨body, responds, ⟨repeatable, _⟩ | ⟨_, fault, found, refused⟩⟩ :=
      answer_of_configures runs_fresh asks_surrogate registry_fresh configures
    · exact absurd repeatable held
    · have first : body.surrogates? = some ⟨0xD800, 0, 1⟩ :=
        Service.surrogates?_of_name responds rfl
      cases found.symm.trans first
      exact refused
  refine ⟨runs_fresh, registry_fresh, asks_surrogate, ⟨_, configures⟩, refused, ?_⟩
  rintro ⟨reply, answered⟩
  exact nomatch answered.symm.trans refused

end Server

end Recommender
