import Recommender.Text.Basic

/-!
Tables of character names. Names of neighbouring code points that begin alike share an entry.
-/
namespace Recommender

/-- The names of code points from `first` on: each begins with `lead`, and the lines of `tails` list
how they go on, separated by commas. -/
structure NameRun where
  first : Nat
  lead : String
  tails : List String

namespace NameRun

/-- The texts that a line lists. -/
def listedIn (line : String) : List Text :=
  Text.splitOn CodePoint.comma line

/-- The number of the code point that has a name in a run. -/
def find? (name : Text) (run : NameRun) : Option Nat :=
  (Text.dropLead? run.lead name).bind fun tail =>
    ((run.tails.flatMap listedIn).findIdx? (· = tail)).map (run.first + ·)

end NameRun

end Recommender
