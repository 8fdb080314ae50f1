import Recommender.Text.Quoted

/-!
Why a file or a directory cannot be read.
-/
namespace Recommender

/-- The cause of a failed access. -/
inductive FileCause where
  | notFound
  | notDirectory
  | isDirectory
  | nameTooLong
  | nullCharacter
deriving DecidableEq

/-- A failed access with the path as it was asked for. -/
structure FileFault where
  cause : FileCause
  path : Text
deriving DecidableEq

/-- The number and the wording of a cause. -/
def FileCause.message : FileCause → Text
  | .notFound => "[Errno 2] No such file or directory"
  | .notDirectory => "[Errno 20] Not a directory"
  | .isDirectory => "[Errno 21] Is a directory"
  | .nameTooLong => "[Errno 36] File name too long"
  | .nullCharacter => "embedded null byte"

/-- The wording of a failed access; a path that cannot be asked for is not repeated. -/
def FileFault.message (fault : FileFault) : Text :=
  match fault.cause with
  | .nullCharacter => fault.cause.message
  | cause => cause.message ++ ": " ++ Text.shown fault.path

end Recommender
