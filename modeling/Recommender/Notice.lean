import Recommender.Problem

/-!
Notices: what is worth a line in the log although the work goes on, and results that come with
notices.
-/
namespace Recommender

/-- Something worth a line in the log. -/
inductive Notice where
  | notDirectory (entry : Text)
  | passedThrough (path owner : Text)
  | ignored (path holder : Text)
  | replaced (name file earlier : Text)
  | skipped (file : Text) (problem : Problem)
  | shadowed (file name holder : Text)
  | startFailed (failure : Failure)
  | badRequest
  | problem (p : Problem)

/-- How serious a notice is. -/
inductive Severity where
  | warning
  | error
deriving DecidableEq

namespace Severity

/-- The word for a severity. -/
def text : Severity → Text
  | .warning => "WARNING"
  | .error => "ERROR"

/-- The level of a severity, which a threshold is compared with. -/
def level : Severity → Int
  | .warning => 30
  | .error => 40

end Severity

namespace Notice

/-- How serious a notice is. -/
def severity : Notice → Severity
  | .skipped .. => .error
  | .startFailed _ => .error
  | .badRequest => .error
  | _ => .warning

/-- The wording of a notice. -/
def message : Notice → Text
  | .notDirectory entry => "Ignoring script directory " ++ entry ++ ": not a directory"
  | .passedThrough path owner =>
    "Unknown property module." ++ path ++ " for " ++ owner ++ "; passing it through"
  | .ignored path holder => "Ignoring unknown property " ++ Text.shown path ++ " in " ++ holder
  | .replaced name file earlier =>
    "Algorithm " ++ name ++ " from " ++ file ++ " replaces the one from " ++ earlier
  | .skipped file p => "Skipping " ++ file ++ ": " ++ p.message
  | .shadowed file name holder =>
    "Skipping " ++ file ++ ": " ++ name ++ " already defined by " ++ holder
  | .startFailed failure => "Failed to initialize configuration service: " ++ failure.message
  | .badRequest => "Request validation error"
  | .problem p => "Configuration error: " ++ p.message

end Notice

/-- A result, or the failure to reach one, with the notices given on the way. -/
structure Logged (α : Type) where
  notices : List Notice
  outcome : Except Failure α

namespace Logged

variable {α β : Type}

/-- A result without notices. -/
def pure (a : α) : Logged α :=
  ⟨[], .ok a⟩

/-- Goes on with a result; the notices of both are kept. -/
def bind (first : Logged α) (next : α → Logged β) : Logged β :=
  match first.outcome with
  | .ok a => ⟨first.notices ++ (next a).notices, (next a).outcome⟩
  | .error failure => ⟨first.notices, .error failure⟩

instance : Monad Logged where
  pure := Logged.pure
  bind := Logged.bind

/-- A failure. -/
def fail (failure : Failure) : Logged α :=
  ⟨[], .error failure⟩

/-- A result that gives no notices. -/
def lift (outcome : Except Failure α) : Logged α :=
  ⟨[], outcome⟩

/-- Notices alone. -/
def tell (notices : List Notice) : Logged Unit :=
  ⟨notices, .ok ()⟩

end Logged

end Recommender
