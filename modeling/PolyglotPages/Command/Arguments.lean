/-! The arguments of the command. They are read from the left, and the first thing that decides the
matter counts: a request for help or for the version, or a misuse. An option is given at most once;
one that takes a value takes what is attached to it or else the next argument, unless that looks
like an option itself. Nothing but options is allowed. -/
namespace PolyglotPages.Command

structure Arguments where
  config : Option String := none
  page : Option String := none
  dictionary : Option String := none
  outDir : Option String := none
  pattern : Option String := none
  print : Option String := none
  logFile : Option String := none
  verbose : Bool := false
deriving DecidableEq, Repr, Inhabited

inductive Stop where
  | help
  | version
  | misuse
deriving DecidableEq, Repr, Inhabited

inductive Key where
  | config
  | page
  | dictionary
  | outDir
  | pattern
  | print
  | logFile
deriving DecidableEq, Repr, Inhabited

inductive Switch where
  | takes (key : Key)
  | verbose
  | help
  | version
deriving DecidableEq, Repr, Inhabited

namespace Switch

def ofName? : String → Option Switch
  | "config" => some (.takes .config)
  | "html" => some (.takes .page)
  | "json" => some (.takes .dictionary)
  | "out-dir" => some (.takes .outDir)
  | "pattern" => some (.takes .pattern)
  | "print" => some (.takes .print)
  | "log-file" => some (.takes .logFile)
  | "verbose" => some .verbose
  | "help" => some .help
  | "version" => some .version
  | _ => none

def ofLetter? : Char → Option Switch
  | 'c' => some (.takes .config)
  | 'o' => some (.takes .outDir)
  | 'p' => some (.takes .pattern)
  | 'v' => some .verbose
  | 'h' => some .help
  | 'V' => some .version
  | _ => none

end Switch

namespace Arguments

def get? (a : Arguments) : Key → Option String
  | .config => a.config
  | .page => a.page
  | .dictionary => a.dictionary
  | .outDir => a.outDir
  | .pattern => a.pattern
  | .print => a.print
  | .logFile => a.logFile

def put (a : Arguments) (value : String) : Key → Arguments
  | .config => { a with config := some value }
  | .page => { a with page := some value }
  | .dictionary => { a with dictionary := some value }
  | .outDir => { a with outDir := some value }
  | .pattern => { a with pattern := some value }
  | .print => { a with print := some value }
  | .logFile => { a with logFile := some value }

def isPath : Key → Bool
  | .pattern | .print => false
  | _ => true

def give (a : Arguments) (key : Key) (value : String) : Except Stop Arguments :=
  if (a.get? key).isSome ∨ (isPath key ∧ value = "") then .error .misuse
  else .ok (a.put value key)

def apply (a : Arguments) : Switch → Except Stop Arguments
  | .takes _ => .error .misuse
  | .verbose => if a.verbose then .error .misuse else .ok { a with verbose := true }
  | .help => .error .help
  | .version => .error .version

def attached : List Char → String
  | '=' :: cs => String.ofList cs
  | cs => String.ofList cs

/-- Letters behind one dash. A letter that takes a value takes all that follows it; if nothing
does, its key is given back. -/
def readLetters (a : Arguments) : List Char → Except Stop (Arguments × Option Key)
  | [] => .ok (a, none)
  | c :: cs =>
    match Switch.ofLetter? c, cs with
    | none, _ => .error .misuse
    | some (.takes key), [] => .ok (a, some key)
    | some (.takes key), cs => (a.give key (attached cs)).map (·, none)
    | some switch, cs => do (← a.apply switch).readLetters cs

def readName (a : Arguments) (cs : List Char) : Except Stop (Arguments × Option Key) :=
  let name := String.ofList (cs.takeWhile (· != '='))
  match Switch.ofName? name, cs.dropWhile (· != '=') with
  | none, _ => .error .misuse
  | some (.takes key), [] => .ok (a, some key)
  | some (.takes key), _ :: value => (a.give key (String.ofList value)).map (·, none)
  | some switch, [] => (a.apply switch).map (·, none)
  | some _, _ :: _ => .error .misuse

def readOne (a : Arguments) (argument : String) : Except Stop (Arguments × Option Key) :=
  match argument.toList with
  | '-' :: '-' :: cs => a.readName cs
  | '-' :: c :: cs => a.readLetters (c :: cs)
  | _ => .error .misuse

def looksLikeOption (argument : String) : Bool :=
  match argument.toList with
  | '-' :: _ :: _ => true
  | _ => false

/-- Reads arguments; `key` waits for its value. Two dashes alone end the options, and nothing may
follow them. -/
def readFrom (a : Arguments) : Option Key → List String → Except Stop Arguments
  | none, [] => .ok a
  | some _, [] => .error .misuse
  | some key, argument :: rest => do
    if looksLikeOption argument then .error .misuse
    else (← a.give key argument).readFrom none rest
  | none, argument :: rest => do
    if argument = "--" then
      if rest = [] then .ok a else .error .misuse
    else
      let (a, key) ← a.readOne argument
      a.readFrom key rest

def read (arguments : List String) (logFile : Option String) : Except Stop Arguments := do
  let a ← readFrom {} none arguments
  match a.logFile, logFile with
  | none, some path => a.give .logFile path
  | _, _ => .ok a

end Arguments
end PolyglotPages.Command
