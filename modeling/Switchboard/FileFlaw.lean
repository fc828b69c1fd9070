import Switchboard.Text.Quoted

/-!
# Flaws of files

Why a path cannot be used as a file or directory, and the text that says so.
-/

namespace Switchboard

open Text

inductive FileFlaw
  | missing
  | notADirectory
  | isADirectory
  | exists
  | nameTooLong
  | notPermitted
  deriving DecidableEq, Repr

namespace FileFlaw

/-- The number and the text of a flaw. -/
def cause : FileFlaw → String
  | .missing => "[Errno 2] No such file or directory"
  | .notADirectory => "[Errno 20] Not a directory"
  | .isADirectory => "[Errno 21] Is a directory"
  | .exists => "[Errno 17] File exists"
  | .nameTooLong => "[Errno 36] File name too long"
  | .notPermitted => "[Errno 13] Permission denied"

def text (flaw : FileFlaw) (path : String) : String :=
  flaw.cause ++ ": " ++ quotedString path

end FileFlaw

end Switchboard
