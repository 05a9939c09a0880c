/-! Paths as texts. A path is kept as it was given: joining and taking apart never normalise it. Its
pieces are what stands between slashes; empty pieces and single dots do not count, except a dot at
the very beginning. -/
namespace PolyglotPages.Path

def isAbsolute (path : String) : Bool := path.toList.head? == some '/'

def join (base path : String) : String :=
  if isAbsolute path then path
  else if base = "" ∨ base.toList.getLast? = some '/' then base ++ path
  else base ++ "/" ++ path

def pieces : List Char → List (List Char)
  | [] => [[]]
  | c :: cs =>
    if c = '/' then [] :: pieces cs
    else
      match pieces cs with
      | [] => [[c]]
      | piece :: more => (c :: piece) :: more

def isIdle (piece : List Char) : Bool := piece = [] || piece = ['.']

def root : List Char → List Char
  | '/' :: _ => ['/']
  | ['.'] => ['.']
  | '.' :: '/' :: _ => ['.']
  | _ => []

def splitLast? (path : List Char) : Option (List Char × List Char) :=
  match (pieces (path.drop (root path).length)).reverse.dropWhile isIdle with
  | [] => none
  | last :: before =>
    some (root path ++ ['/'].intercalate (before.dropWhile isIdle).reverse, last)

def parent? (path : String) : Option String :=
  match splitLast? path.toList with
  | some (directory, _) => some (String.ofList directory)
  | none => if root path.toList = ['.'] then some "" else none

def name? (path : String) : Option String :=
  match splitLast? path.toList with
  | some (_, name) => if name = ['.', '.'] then none else some (String.ofList name)
  | none => none

/-- A name without what follows its last dot. A dot at the beginning belongs to the name. -/
def nameStem (name : List Char) : List Char :=
  match name.reverse.dropWhile (· != '.') with
  | '.' :: c :: before => (c :: before).reverse
  | _ => name

def stem? (path : String) : Option String :=
  (name? path).map fun name => String.ofList (nameStem name.toList)

end PolyglotPages.Path
