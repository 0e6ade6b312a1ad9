/-!
What the host says of a file that cannot be used.
-/

namespace Overseer.Host

inductive FileError where
  | notFound
  | isDirectory
  | notDirectory
  | denied
  | nameTooLong
  deriving DecidableEq, Repr, Inhabited

namespace FileError

def reason : FileError → String
  | notFound => "No such file or directory"
  | isDirectory => "Is a directory"
  | notDirectory => "Not a directory"
  | denied => "Permission denied"
  | nameTooLong => "File name too long"

def code : FileError → Nat
  | notFound => 2
  | isDirectory => 21
  | notDirectory => 20
  | denied => 13
  | nameTooLong => 36

def message (e : FileError) : String := s!"{e.reason} (os error {e.code})"

end FileError

end Overseer.Host
