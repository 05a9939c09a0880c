import PolyglotPages.Disk.Fault

/-! Why a page cannot be made from its inputs. -/
namespace PolyglotPages

inductive InputError where
  | unreadable (path : String) (fault : Disk.Fault)
  | malformed (origin detail : String)
  | linebreak (value : String)
deriving DecidableEq, Repr, Inhabited

def InputError.message : InputError → String
  | .unreadable path fault => "Failed to read input file '" ++ path ++ "': " ++ fault.message
  | .malformed origin detail =>
    "Failed to parse content dictionary " ++ origin ++ ": " ++ detail
  | .linebreak value =>
    "Unsupported linebreak '" ++ value ++ "': only \"<br>\" is supported"

end PolyglotPages
