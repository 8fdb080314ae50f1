import Recommender.Files.Tree
import Recommender.Problem

/-!
Paths that cannot be asked for. A path is asked for by its bytes, in which a surrogate can only
stand for a byte that is part of no code point, and none of which is zero.
-/
namespace Recommender

namespace FilePath

/-- The first surrogates, in a text that stands at a position, that no file name can hold. -/
def foreignSurrogates (position : Nat) : Text → Option EncodeFault
  | [] => none
  | c :: rest =>
    if c.isSurrogate && !isNameByte c then
      some ⟨c, position, 1 + (rest.takeWhile CodePoint.isSurrogate).length⟩
    else foreignSurrogates (position + 1) rest

/-- Why a path has no bytes. -/
def unencodable? (p : FilePath) : Option EncodeFault :=
  foreignSurrogates 0 p.text

end FilePath

/-- The failure of an access that no caller is prepared for: that of a path without bytes, or with a
null character in it. -/
def FileFault.unforeseen? (path : FilePath) (fault : FileFault) : Option Failure :=
  match path.unencodable? with
  | some surrogates => some (.unencodable surrogates)
  | none => if fault.cause = .nullCharacter then some (.file fault) else none

end Recommender
