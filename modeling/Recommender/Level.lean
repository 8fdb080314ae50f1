import Recommender.Notice

/-!
Levels of the log. A notice is written when its severity reaches the level in effect.
-/
namespace Recommender.Level

/-- The level in effect unless another one is chosen. -/
def standard : Int := 20

/-- The levels by name. -/
def named : List (Text × Int) :=
  [("NOTSET", 0), ("DEBUG", 10), ("INFO", 20), ("WARN", 30), ("WARNING", 30), ("ERROR", 40),
    ("CRITICAL", 50), ("FATAL", 50)]

/-- The capitals for a code point whose capitals are ASCII letters; any other one for itself. -/
def capitals (c : CodePoint) : Text :=
  match c.val with
  | 0xDF => "SS"
  | 0x131 => "I"
  | 0x17F => "S"
  | 0xFB00 => "FF"
  | 0xFB01 => "FI"
  | 0xFB02 => "FL"
  | 0xFB03 => "FFI"
  | 0xFB04 => "FFL"
  | 0xFB05 => "ST"
  | 0xFB06 => "ST"
  | n => if 0x61 ≤ n ∧ n ≤ 0x7A then [Fin.ofNat _ (n - 0x20)] else [c]

/-- The name of the layout of the log's lines, which is no level. -/
def layoutName : Text := "BASIC_FORMAT"

/-- The layout of the log's lines. -/
def layout : Text := "%(levelname)s:%(name)s:%(message)s"

/-- The level of a name in any case; of a name that stands for nothing, the standard level. -/
def ofText (t : Text) : Except Failure Int :=
  let name := t.flatMap capitals
  if name = layoutName then .error (.layoutAsLevel layout)
  else .ok ((named.lookup name).getD standard)

/-- The notices that a level lets through. -/
def shown (level : Int) (notices : List Notice) : List Notice :=
  notices.filter fun notice => level ≤ notice.severity.level

end Recommender.Level
