import Recommender.Text.Percent

/-!
Targets of requests: a path, whose dots are resolved and whose escapes are decoded, and a query of
named parameters.
-/
namespace Recommender

/-- The target of a request, with the query as it was sent. -/
structure Target where
  path : Text
  query : Text
deriving DecidableEq

namespace Target

/-- The parts of a path after one more part: a dot stays, and two dots lead back, though not beyond
the beginning. -/
def step (parts : List Text) (part : Text) : List Text :=
  if part = "." then parts
  else if part = ".." then if parts.length ≤ 1 then parts else parts.dropLast
  else parts ++ [part]

/-- A path without dots as parts. -/
def resolve (path : Text) : Text :=
  Text.join "/" ((Text.splitOn CodePoint.slash path).foldl step [])

/-- The target that a text writes. Its path is decoded by the client and again by the server. -/
def ofText (t : Text) : Target :=
  let located := t.takeWhile (· ≠ CodePoint.numberSign)
  let path := (located.takeWhile (· ≠ CodePoint.questionMark)).dropWhile (· = CodePoint.slash)
  let resolved := resolve (CodePoint.slash :: path)
  { path := Percent.decode (Percent.decode (if resolved.isEmpty then "/" else resolved))
    query := (located.dropWhile (· ≠ CodePoint.questionMark)).drop 1 }

/-- A name or a value of a query: a plus sign stands for a blank. -/
def decodeField (t : Text) : Text :=
  Percent.decode (t.map fun c => if c = CodePoint.plus then CodePoint.space else c)

/-- The parameters of the query. -/
def parameters (target : Target) : List (Text × Text) :=
  ((Text.splitOn CodePoint.ampersand target.query).filter (!·.isEmpty)).map fun part =>
    (decodeField (part.takeWhile (· ≠ CodePoint.equals)),
      decodeField ((part.dropWhile (· ≠ CodePoint.equals)).drop 1))

/-- The value of a parameter, the last one if there are several. -/
def parameter? (target : Target) (name : Text) : Option Text :=
  target.parameters.reverse.lookup name

/-- The path without the slashes at its end. -/
def pathWithoutTrailingSlashes (target : Target) : Text :=
  (target.path.reverse.dropWhile (· = CodePoint.slash)).reverse

/-- The text of a target in which the slashes at the end of the path are left out. -/
def withoutTrailingSlashes (target : Target) : Text :=
  let query : Text := if target.query.isEmpty then [] else "?" ++ target.query
  target.pathWithoutTrailingSlashes ++ query

end Target

end Recommender
