import PolyglotPages.Command.Run

/-! The command line: the operations on files carried out on the machine, and the result of the
command printed. -/
namespace PolyglotPages.Main

/-- Whether the machine reports the given code, which it may do negated. -/
def isCode (code number : UInt32) : Bool := code = number || code = 0 - number

def faultOf : IO.Error → Disk.Fault
  | .noFileOrDirectory _ _ _ | .noSuchThing _ _ _ => .notFound
  | .alreadyExists _ _ _ => .alreadyExists
  | .inappropriateType _ code _ => if isCode code 20 then .notDirectory else .isDirectory
  | .invalidArgument _ code _ => if isCode code 36 then .nameTooLong else .unusableName
  | _ => .notFound

def attempt {α : Type} (act : IO α) : IO (Except Disk.Fault α) := do
  try return .ok (← act)
  catch e => return .error (faultOf e)

instance : FileStore IO where
  readText path := do
    match ← attempt (IO.FS.readBinFile path) with
    | .error e => return .error e
    | .ok bytes =>
      match String.fromUTF8? bytes with
      | some text => return .ok text
      | none => return .error .notText
  isPresent path := do return ← ((← IO.currentDir) / path).pathExists
  isDirectory path := do return ← ((← IO.currentDir) / path).isDir
  makeDirectory path := attempt (IO.FS.createDir path)
  writeText path text := attempt (IO.FS.writeBinFile path text.toUTF8)
  appendText path text := attempt do
    let handle ← IO.FS.Handle.mk path .append
    handle.putStr text

end PolyglotPages.Main

open PolyglotPages in
/-- Runs the command in the working directory. Events that do not go to a log file are shown on
standard error. -/
def main (arguments : List String) : IO UInt32 := do
  let environment : Command.Environment := {
    directory := (← IO.currentDir).toString
    filter := ← IO.getEnv "RUST_LOG"
    logFile := ← IO.getEnv "MULANG_LOG_FILE" }
  let result ← Command.execute arguments environment
  IO.print result.stdout
  if result.logFile.isNone then
    result.events.forM fun e => IO.eprint e.line
  return UInt32.ofNat result.exit
