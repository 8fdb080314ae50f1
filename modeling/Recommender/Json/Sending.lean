import Recommender.Text.Utf8
import Recommender.Value

/-!
Data that are to be sent as JSON: the numbers and texts in them that JSON has no room for, which are
numbers that are not finite and texts with surrogates.
-/
namespace Recommender

namespace Datum

/-- Whether a datum is a number that is not finite. -/
def isNonFinite : Datum → Bool
  | .float (.finite _) => false
  | .float _ => true
  | _ => false

mutual

/-- Whether a datum or something in it has a property. -/
def holds (property : Datum → Bool) : Datum → Bool
  | .list items => property (.list items) || holdsItem property items
  | .map entries => property (.map entries) || holdsEntry property entries
  | d => property d

/-- Whether something in a list has a property. -/
def holdsItem (property : Datum → Bool) : List Datum → Bool
  | [] => false
  | item :: rest => holds property item || holdsItem property rest

/-- Whether something in a map has a property. -/
def holdsEntry (property : Datum → Bool) : List (Text × Datum) → Bool
  | [] => false
  | (_, item) :: rest => holds property item || holdsEntry property rest

end

mutual

/-- A datum in which numbers that are not finite are missing. -/
def finite : Datum → Datum
  | .list items => .list (finiteItems items)
  | .map entries => .map (finiteEntries entries)
  | d => if d.isNonFinite then .missing else d

/-- The items of a list, each made finite. -/
def finiteItems : List Datum → List Datum
  | [] => []
  | item :: rest => finite item :: finiteItems rest

/-- The entries of a map, each made finite. -/
def finiteEntries : List (Text × Datum) → List (Text × Datum)
  | [] => []
  | (name, item) :: rest => (name, finite item) :: finiteEntries rest

end

mutual

/-- The texts in a datum, with the names of entries and references, in the order they are
written. -/
def texts : Datum → List Text
  | .text t => [t]
  | .reference r => [r.name]
  | .list items => textsOfItems items
  | .map entries => textsOfEntries entries
  | .missing | .bool _ | .int _ | .float _ => []

/-- The texts in the items of a list. -/
def textsOfItems : List Datum → List Text
  | [] => []
  | item :: rest => texts item ++ textsOfItems rest

/-- The texts in the entries of a map. -/
def textsOfEntries : List (Text × Datum) → List Text
  | [] => []
  | (name, item) :: rest => name :: (texts item ++ textsOfEntries rest)

end

/-- The first surrogates in the texts of a datum, at their place in their text. -/
def surrogates? (d : Datum) : Option EncodeFault :=
  d.texts.findSome? (Utf8.firstSurrogates 0)

end Datum

end Recommender
