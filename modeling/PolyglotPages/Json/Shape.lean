import PolyglotPages.Json.Found

/-! The shape wanted of a value, and what a value of another shape is told. A record may be written
as an object, whose unknown members are ignored, or as an array of its fields in the order in which
the shape names them; fields may be missing in both. -/
namespace PolyglotPages.Json

inductive Shape where
  | any
  | text
  | path
  | optionalPath
  /-- The one word of an enumeration, alone or as the key of an object whose value is null. -/
  | constant (word : String)
  | textOrTexts (type : String)
  | list (item : Shape)
  | map (value : Shape)
  | record (type : String) (fields : List (String × Shape))
deriving Repr, Inhabited

inductive Wanted where
  | text
  | path
  | textOrMap
  | unit
  | sequence
  | map
  | record (type : String)
deriving DecidableEq, Repr, Inhabited

def Wanted.describe : Wanted → String
  | .text => "a string"
  | .path => "path string"
  | .textOrMap => "string or map"
  | .unit => "unit"
  | .sequence => "a sequence"
  | .map => "a map"
  | .record type => "struct " ++ type

inductive ShapeError where
  | mismatch (found : Found) (wanted : Wanted)
  | notOneMember
  | unknownWord (found wanted : String)
  | noVariant (type : String)
  | duplicateField (field : String)
  | tooManyItems (count : Nat) (allowed : Option Nat)
deriving DecidableEq, Repr, Inhabited

def ShapeError.message : ShapeError → String
  | .mismatch found wanted =>
    "invalid type: " ++ found.describe ++ ", expected " ++ wanted.describe
  | .notOneMember => "invalid value: map, expected map with a single key"
  | .unknownWord found wanted =>
    "unknown variant `" ++ found ++ "`, expected `" ++ wanted ++ "`"
  | .noVariant type => "data did not match any variant of untagged enum " ++ type
  | .duplicateField field => "duplicate field `" ++ field ++ "`"
  | .tooManyItems count none =>
    "invalid length " ++ toString count ++ ", expected fewer elements in array"
  | .tooManyItems count (some allowed) =>
    "invalid length " ++ toString count ++ ", expected " ++ toString allowed
      ++ (if allowed = 1 then " element" else " elements") ++ " in sequence"

/-- How a value comes to be checked: as decoded, or as set aside while the text around it was
read. -/
inductive Origin where
  | decoded
  | setAside
deriving DecidableEq, Repr, Inhabited

def checkText (wanted : Wanted) : Json → Except ShapeError Unit
  | .string _ => .ok ()
  | v => .error (.mismatch v.found wanted)

/-- The value carries nothing. Of what was set aside, an empty object passes for nothing. -/
def checkUnit (origin : Origin) : Json → Except ShapeError Unit
  | .null => .ok ()
  | .object [] =>
    match origin with
    | .setAside => .ok ()
    | .decoded => .error (.mismatch .map .unit)
  | v => .error (.mismatch v.found .unit)

def checkWord (wanted found : String) : Except ShapeError Unit :=
  if found = wanted then .ok () else .error (.unknownWord found wanted)

def checkConstant (origin : Origin) (word : String) : Json → Except ShapeError Unit
  | .string s => checkWord word s
  | .object [(key, v)] => do
    checkWord word key
    checkUnit origin v
  | .object _ => .error .notOneMember
  | v => .error (.mismatch v.found .textOrMap)

def isText : Json → Bool
  | .string _ => true
  | _ => false

def checkTexts (type : String) : Json → Except ShapeError Unit
  | .string _ => .ok ()
  | .array items => if items.all isText then .ok () else .error (.noVariant type)
  | _ => .error (.noVariant type)

mutual

/-- The value has the shape; of several errors the first one in the order of the value counts. -/
def check (origin : Origin) : Shape → Json → Except ShapeError Unit
  | .any, _ => .ok ()
  | .text, v => checkText .text v
  | .path, v => checkText .path v
  | .optionalPath, .null => .ok ()
  | .optionalPath, v => checkText .path v
  | .constant word, v => checkConstant origin word v
  | .textOrTexts type, v => checkTexts type v
  | .list item, .array items => checkItems origin item items
  | .list _, v => .error (.mismatch v.found .sequence)
  | .map value, .object members => checkValues origin value members
  | .map _, v => .error (.mismatch v.found .map)
  | .record _ fields, .object members => checkMembers origin fields [] members
  | .record _ fields, .array items => do
    checkFields origin fields items
    if fields.length < items.length then
      .error (.tooManyItems items.length
        (match origin with | .decoded => none | .setAside => some fields.length))
  | .record type _, v => .error (.mismatch v.found (.record type))

def checkItems (origin : Origin) (item : Shape) : List Json → Except ShapeError Unit
  | [] => .ok ()
  | v :: rest => do
    check origin item v
    checkItems origin item rest

def checkValues (origin : Origin) (value : Shape) : List (String × Json) → Except ShapeError Unit
  | [] => .ok ()
  | (_, v) :: rest => do
    check origin value v
    checkValues origin value rest

def checkMembers (origin : Origin) (fields : List (String × Shape)) (seen : List String) :
    List (String × Json) → Except ShapeError Unit
  | [] => .ok ()
  | (key, v) :: rest =>
    match fields.lookup key with
    | none => checkMembers origin fields seen rest
    | some shape =>
      if key ∈ seen then .error (.duplicateField key)
      else do
        check origin shape v
        checkMembers origin fields (key :: seen) rest

def checkFields (origin : Origin) :
    List (String × Shape) → List Json → Except ShapeError Unit
  | (_, shape) :: fields, v :: rest => do
    check origin shape v
    checkFields origin fields rest
  | _, _ => .ok ()

end

def field? (fields : List (String × Shape)) (name : String) : Json → Option Json
  | .object members => members.lookup name
  | .array items => items[(fields.map Prod.fst).idxOf name]?
  | _ => none

end PolyglotPages.Json
