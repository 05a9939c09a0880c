import PolyglotPages.Command.Arguments
import PolyglotPages.Command.Filter
import PolyglotPages.Project.Load
import PolyglotPages.Site

/-! Running the command: settings are loaded, arguments take the place of what they name, and the
page is rendered and written or printed. Nothing is written before everything has been read and
rendered. -/
namespace PolyglotPages.Command

inductive CommandError where
  | settings (error : Project.SettingsError)
  | input (error : InputError)
  | undeclaredLanguage (language : String)
  | incomplete (failed total : Nat)
deriving DecidableEq, Repr, Inhabited

def CommandError.message : CommandError → String
  | .settings e => e.message
  | .input e => e.message
  | .undeclaredLanguage language =>
    "Language '" ++ language ++ "' is not declared in meta.languages"
  | .incomplete failed total =>
    toString failed ++ " of " ++ toString total ++ " documents could not be written"

structure Outcome where
  events : List Event
  result : Except CommandError String
deriving Inhabited

namespace Outcome

def failed (events : List Event) (e : CommandError) : Outcome :=
  ⟨events ++ [.ofError e.message], .error e⟩

end Outcome

namespace Arguments

def override (a : Arguments) (s : Project.Settings) : Project.Settings where
  options := { s.options with
    pagePath := a.page.or s.options.pagePath
    dictionaryPath := a.dictionary.or s.options.dictionaryPath }
  outDir := a.outDir.getD s.outDir
  pattern := a.pattern.getD s.pattern

end Arguments

variable {m : Type → Type} [Monad m] [FileStore m]

def findSettings (a : Arguments) (directory : String) :
    m (Except Project.SettingsError Project.Settings) := do
  return (← Project.Holder.load a.config directory).bind fun h =>
    (h.update (a.override h.settings)).map (·.settings)

def findSite (s : Project.Settings) : m (Except InputError (Site × Rendering)) := do
  return (← Site.load s.options).bind fun site => site.render.map (site, ·)

def printOne (language : String) (r : Rendering) : Outcome :=
  let warnings := r.warnings.map .ofWarning
  match r.get? language with
  | some html => ⟨warnings, .ok (html ++ "\n")⟩
  | none => .failed warnings (.undeclaredLanguage language)

def writeEach (naming : Output.Naming) (r : Rendering) : m Outcome := do
  let report ← Output.writeAll naming r.documents
  let events := r.warnings.map .ofWarning ++ report.failed.map .ofFailure
    ++ report.written.map .ofWritten
  return if report.isSuccess then ⟨events, .ok ""⟩
    else .failed events (.incomplete report.failed.length r.documents.length)

def run (a : Arguments) (directory : String) : m Outcome := do
  match ← findSettings a directory with
  | .error e => return .failed [] (.settings e)
  | .ok s =>
    match ← findSite s with
    | .error e => return .failed [] (.input e)
    | .ok (site, rendering) =>
      match a.print with
      | some language => return printOne language rendering
      | none => writeEach { site.naming s.outDir with pattern := s.pattern } rendering

/-! ### The whole command -/

structure Environment where
  directory : String
  filter : Option String := none
  logFile : Option String := none
deriving Inhabited

structure Result where
  exit : Nat
  stdout : String := ""
  events : List Event := []
  logFile : Option String := none
deriving Inhabited

def versionLine : String := "mulang 0.1.0\n"

/-- The exit status of a command that cannot have its log: its filter is torn, or its file cannot be
opened. -/
def noLogStatus : Nat := 101

/-- The file that a path given for a log stands for: a path without a name stands for a file of a
fixed name beside it. -/
def logPath (path : String) : String :=
  let directory := match Path.parent? path with
    | none | some "" => "."
    | some directory => directory
  Path.join directory ((Path.name? path).getD "mulang.log")

def openLog (path : String) : m (Except Disk.Fault Unit) := do
  match ← FileStore.appendText path "" with
  | .ok () => return .ok ()
  | .error e =>
    match Path.parent? path with
    | none => return .error e
    | some directory =>
      match ← FileStore.makeDirectories directory with
      | .error e => return .error e
      | .ok () => FileStore.appendText path ""

def Outcome.toResult (o : Outcome) (filter : Filter) (logFile : Option String) : Result :=
  let events := o.events.filter filter.admits
  match o.result with
  | .ok text => { exit := 0, stdout := text, events, logFile }
  | .error _ => { exit := 1, events, logFile }

def Environment.filter? (e : Environment) (verbose : Bool) : Option Filter :=
  match e.filter with
  | none => some (.standard verbose)
  | some text => Filter.ofText? verbose text

def runLogged (a : Arguments) (directory : String) (filter : Filter) : m Result := do
  match a.logFile.map logPath with
  | none => return (← run a directory).toResult filter none
  | some log =>
    match ← openLog log with
    | .error _ => return { exit := noLogStatus }
    | .ok () =>
      let result := (← run a directory).toResult filter (some log)
      let _ ← FileStore.appendText log (String.join (result.events.map Event.line))
      return result

def execute (arguments : List String) (e : Environment) : m Result := do
  match Arguments.read arguments e.logFile with
  | .error .help => return { exit := 0 }
  | .error .version => return { exit := 0, stdout := versionLine }
  | .error .misuse => return { exit := 2 }
  | .ok a =>
    match e.filter? a.verbose with
    | none => return { exit := noLogStatus }
    | some filter => runLogged a e.directory filter

end PolyglotPages.Command
