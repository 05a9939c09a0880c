/-! Why a file or a directory cannot be read or written. -/
namespace PolyglotPages.Disk

inductive Fault where
  | notFound
  | isDirectory
  | notDirectory
  | alreadyExists
  | nameTooLong
  | notText
  | unusableName
deriving DecidableEq, Repr, Inhabited

def Fault.message : Fault → String
  | .notFound => "No such file or directory (os error 2)"
  | .isDirectory => "Is a directory (os error 21)"
  | .notDirectory => "Not a directory (os error 20)"
  | .alreadyExists => "File exists (os error 17)"
  | .nameTooLong => "File name too long (os error 36)"
  | .notText => "stream did not contain valid UTF-8"
  | .unusableName => "file name contained an unexpected NUL byte"

end PolyglotPages.Disk
