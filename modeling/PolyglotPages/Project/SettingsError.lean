import PolyglotPages.Disk.Fault
import PolyglotPages.Json.Strict.Shaped
import PolyglotPages.Project.Settings

/-! Why settings cannot be had. -/
namespace PolyglotPages.Project

inductive SettingsError where
  | invalid (errors : List FieldError)
  | unreadable (fault : Disk.Fault)
  | malformed (failure : Json.Strict.Failure)
deriving DecidableEq, Repr, Inhabited

def SettingsError.message : SettingsError → String
  | .invalid errors =>
    "Configuration validation failed:\n" ++ "\n".intercalate (FieldError.listFrom 1 errors)
  | .unreadable fault => "Failed to load configuration file: " ++ fault.message
  | .malformed failure => "Failed to parse configuration: " ++ failure.message

def Settings.validate (s : Settings) : Except SettingsError Settings :=
  if s.isValid then .ok s else .error (.invalid s.errors)

end PolyglotPages.Project
