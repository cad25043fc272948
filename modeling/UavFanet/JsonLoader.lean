import UavFanet.Types

/-! `JsonLoader` and `JsonValidator`: paths through a document as the JSON library stores it, the
typed getters, and the checks that a list of requirements makes. -/
namespace UavFanet.JsonLoader

/-- A document as stored: an integer that is written down counts as unsigned unless it is negative,
and as floating point where 64 bits do not hold it. The keys of an object are distinct. -/
inductive Node (D : Type) where
  | null
  | boolean (value : Bool)
  | numberInteger (value : Int64)
  | numberUnsigned (value : UInt64)
  | numberFloat (value : D)
  | string (text : String)
  | array (elements : List (Node D))
  | object (fields : List (String × Node D))

variable {D : Type}

namespace Node

def isInteger : Node D → Bool
  | numberInteger _ => true
  | numberUnsigned _ => true
  | _ => false

def isNumber : Node D → Bool
  | numberFloat _ => true
  | node => node.isInteger

/-- `get<i64>()` of an integer. -/
def asI64 : Node D → Int64
  | numberInteger value => value
  | numberUnsigned value => value.toInt64
  | _ => 0

/-- `get<u64>()` of an integer. -/
def asU64 : Node D → UInt64
  | numberInteger value => value.toUInt64
  | numberUnsigned value => value
  | _ => 0

/-- `get<double>()` of a number, with the conversion from the integers. -/
def asDouble (convert : Int → D) : Node D → D
  | numberFloat value => value
  | numberInteger value => convert value.toInt
  | numberUnsigned value => convert value.toNat
  | _ => convert 0

def typeName : Node D → String
  | null => "null"
  | boolean _ => "boolean"
  | string _ => "string"
  | array _ => "array"
  | object _ => "object"
  | _ => "number"

def find (key : String) (fields : List (String × Node D)) : Option (Node D) :=
  (fields.find? (·.1 == key)).map (·.2)

end Node

/-- `StringUtils::Split`: what `getline` reads, so no empty item at the end. -/
def split (s : String) (delim : Char) : List String :=
  let items := (s.toList.splitOn delim).map String.ofList
  if items.getLast? = some "" then items.dropLast else items

/-- The loop of `Navigate`, which `Validate` has once more. -/
def walk : List String → Node D → Option (Node D)
  | [], node => some node
  | part :: rest, .object fields => (Node.find part fields).bind (walk rest)
  | _ :: _, _ => none

def navigate (root : Node D) (dot_path : String) : Option (Node D) := walk (split dot_path '.') root

def has (root : Node D) (dot_path : String) : Bool := (navigate root dot_path).isSome

def configError {α : Type} (text : String) : Result α := .error (.configException text)

def navigateOrThrow (root : Node D) (dot_path : String) : Result (Node D) :=
  match navigate root dot_path with
  | none => configError ("JSON key not found: '" ++ dot_path ++ "'")
  | some node => .ok node

section Getters

variable (root : Node D) (dot_path : String)

/-- What a node must not be for a getter to throw. -/
def keyIsNot (kind : String) : String := "JSON key '" ++ dot_path ++ "' is not " ++ kind

def sub : Result (Node D) := do
  match ← navigateOrThrow root dot_path with
  | .object fields => return .object fields
  | _ => configError (keyIsNot dot_path "an object")

def getString : Result String := do
  match ← navigateOrThrow root dot_path with
  | .string text => return text
  | _ => configError (keyIsNot dot_path "a string")

def getBool : Result Bool := do
  match ← navigateOrThrow root dot_path with
  | .boolean value => return value
  | _ => configError (keyIsNot dot_path "a boolean")

def getI64 : Result Int64 := do
  let node ← navigateOrThrow root dot_path
  if !node.isInteger then configError (keyIsNot dot_path "an integer")
  return node.asI64

def getU64 : Result UInt64 := do
  let node ← navigateOrThrow root dot_path
  if !node.isInteger then configError (keyIsNot dot_path "an unsigned integer")
  return node.asU64

def getU32 : Result UInt32 := do
  let v ← getU64 root dot_path
  if v > 4294967295 then configError ("JSON key '" ++ dot_path ++ "' value overflows u32")
  return v.toUInt32

def getDouble (convert : Int → D) : Result D := do
  let node ← navigateOrThrow root dot_path
  if !node.isNumber then configError (keyIsNot dot_path "a number")
  return node.asDouble convert

/-- `GetBigInt`: decimal text, as it stands or of a small integer. -/
def getBigInt : Result String := do
  let node ← navigateOrThrow root dot_path
  match node with
  | .string text => return text
  | _ =>
    if node.isInteger then return toString node.asU64.toNat
    configError (keyIsNot dot_path "a string or integer (required for BigInt)")

/-- The loop of the three array getters: each element is checked and then read. -/
def readElements {α : Type} (check : Node D → Bool) (read : Node D → α) (kind : String) :
    List (Node D) → Result (List α)
  | [] => .ok []
  | el :: rest => do
    if !check el then
      configError ("JSON array '" ++ dot_path ++ "' contains non-" ++ kind ++ " element")
    let out ← readElements check read kind rest
    return read el :: out

def getArray {α : Type} (check : Node D → Bool) (read : Node D → α) (kind : String) :
    Result (List α) := do
  match ← navigateOrThrow root dot_path with
  | .array elements => readElements dot_path check read kind elements
  | _ => configError (keyIsNot dot_path "an array")

def isString : Node D → Bool
  | .string _ => true
  | _ => false

def asString : Node D → String
  | .string text => text
  | _ => ""

def getStringArray : Result (List String) := getArray root dot_path isString asString "string"

/-- Each element is cut to 32 bits, which `getU32` does not do. -/
def getU32Array : Result (List UInt32) :=
  getArray root dot_path Node.isInteger (fun el => el.asU64.toUInt32) "integer"

def getDoubleArray (convert : Int → D) : Result (List D) :=
  getArray root dot_path Node.isNumber (Node.asDouble convert) "number"

def arraySize : Nat :=
  match navigate root dot_path with
  | some (.array elements) => elements.length
  | _ => 0

def arrayElement (index : Nat) : Result (Node D) := do
  match ← navigateOrThrow root dot_path with
  | .array elements =>
    match elements[index]? with
    | none => configError ("JSON array '" ++ dot_path ++ "' index " ++ toString index ++
        " out of range (size=" ++ toString elements.length ++ ")")
    | some element => return element
  | _ => configError (keyIsNot dot_path "an array")

end Getters

inductive JsonFieldType where
  | string
  | bool
  | integer
  | unsigned
  | double
  | object
  | array
  | any
  deriving DecidableEq,Repr

def jsonFieldTypeToString : JsonFieldType → String
  | .string => "string"
  | .bool => "boolean"
  | .integer => "integer"
  | .unsigned => "unsigned"
  | .double => "number"
  | .object => "object"
  | .array => "array"
  | .any => "any"

structure FieldSpec where
  dot_path : String
  type : JsonFieldType
  required : Bool
  deriving DecidableEq,Repr

/-- `m_fields`, in the order of the calls. -/
abbrev JsonValidator := List FieldSpec

namespace JsonValidator

def require (validator : JsonValidator) (dot_path : String) (type : JsonFieldType) : JsonValidator :=
  validator ++ [{ dot_path, type, required := true }]

def optional (validator : JsonValidator) (dot_path : String) (type : JsonFieldType) : JsonValidator :=
  validator ++ [{ dot_path, type, required := false }]

def checkType (node : Node D) : JsonFieldType → Bool
  | .string => isString node
  | .bool => match node with
    | .boolean _ => true
    | _ => false
  | .integer => node.isInteger
  | .unsigned => match node with
    | .numberUnsigned _ => true
    | .numberInteger value => 0 ≤ value
    | _ => false
  | .double => node.isNumber
  | .object => match node with
    | .object _ => true
    | _ => false
  | .array => match node with
    | .array _ => true
    | _ => false
  | .any => true

/-- The error, if any, of one requirement. -/
def fieldErrors (root : Node D) (spec : FieldSpec) : List String :=
  if !has root spec.dot_path then
    if spec.required then ["Missing required key: '" ++ spec.dot_path ++ "'"] else []
  else
    match walk (split spec.dot_path '.') root with
    | none => ["Navigation failed for: '" ++ spec.dot_path ++ "'"]
    | some cur =>
      if checkType cur spec.type then []
      else ["Key '" ++ spec.dot_path ++ "' has wrong type: expected " ++
        jsonFieldTypeToString spec.type ++ ", got " ++ cur.typeName]

def validate (validator : JsonValidator) (root : Node D) : List String :=
  validator.flatMap (fieldErrors root)

theorem validate_checked {validator : JsonValidator} {root : Node D}
    (valid : validator.validate root = []) {spec : FieldSpec} (member : spec ∈ validator)
    (required : spec.required = true) :
    ∃ node, navigate root spec.dot_path = some node ∧ checkType node spec.type = true := by
  have quiet := List.flatMap_eq_nil_iff.mp valid spec member
  unfold fieldErrors has navigate at quiet
  rw [required] at quiet
  unfold navigate
  cases found : walk (split spec.dot_path '.') root with
  | none => simp [found] at quiet
  | some node =>
    refine ⟨node,rfl,?_⟩
    by_contra wrong
    simp [found,wrong] at quiet

end JsonValidator
end UavFanet.JsonLoader
