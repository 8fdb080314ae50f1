import Recommender.Text.Basic

/-!
Kinds of components and types of parameters, with the words that catalogs and messages have for
them.
-/
namespace Recommender

/-- What a component does for the recommender. -/
inductive ComponentKind where
  | module
  | baseline
  | clamp
  | similarity
  | normalizer
deriving DecidableEq

/-- What values a scalar parameter takes. -/
inductive ScalarKind where
  | int
  | float
  | bool
  | str
deriving DecidableEq

/-- What a parameter takes: a scalar, or a component of some kind. -/
inductive ParameterType where
  | scalar (kind : ScalarKind)
  | component (kind : ComponentKind)
deriving DecidableEq

namespace ComponentKind

/-- All kinds of components. -/
def all : List ComponentKind :=
  [.module, .baseline, .clamp, .similarity, .normalizer]

/-- The word for a kind of component. -/
def text : ComponentKind → Text
  | .module => "module"
  | .baseline => "baseline"
  | .clamp => "clamp"
  | .similarity => "similarity"
  | .normalizer => "normalizer"

/-- The kind of component that a word stands for. -/
def ofText? (t : Text) : Option ComponentKind :=
  all.find? (·.text = t)

end ComponentKind

namespace ScalarKind

/-- All kinds of scalars. -/
def all : List ScalarKind :=
  [.int, .float, .bool, .str]

/-- The word for a kind of scalar. -/
def text : ScalarKind → Text
  | .int => "int"
  | .float => "float"
  | .bool => "bool"
  | .str => "str"

/-- The kind of scalar that a word stands for. -/
def ofText? (t : Text) : Option ScalarKind :=
  all.find? (·.text = t)

end ScalarKind

namespace ParameterType

/-- The word for a parameter that takes components. -/
def componentWord : Text := "component"

/-- The word for a type of parameter. -/
def text : ParameterType → Text
  | .scalar kind => kind.text
  | .component _ => componentWord

/-- The kind of component that a parameter takes, if it takes components. -/
def componentKind? : ParameterType → Option ComponentKind
  | .scalar _ => none
  | .component kind => some kind

end ParameterType

end Recommender
