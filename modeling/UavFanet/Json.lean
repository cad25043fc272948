import UavFanet.Types

/-! JSON documents, and the accesses of the JSON library that the loader makes. -/
namespace UavFanet

/-- A parsed document: the keys of an object are distinct. Numbers with a fraction, which no
access below reads, are left out. -/
inductive Json where
  | null
  | bool (value : Bool)
  | int (value : Int)
  | string (text : String)
  | array (elements : List Json)
  | object (fields : List (String × Json))

namespace Json

def field (key : String) (fields : List (String × Json)) : Option Json :=
  (fields.find? (·.1 == key)).map (·.2)

/-- `j.at(key)`. -/
def atKey (key : String) : Json → Result Json
  | .object fields =>
    match field key fields with
    | some value => .ok value
    | none => .error (.jsonException 403)
  | _ => .error (.jsonException 304)

/-- `j.contains(key)`. -/
def contains (key : String) : Json → Bool
  | .object fields => (field key fields).isSome
  | _ => false

/-- What a range-based loop runs over. The fields of an object are stored by key, and a single
value counts as a sequence of one. -/
def items : Json → List Json
  | .null => []
  | .array elements => elements
  | .object fields => (fields.mergeSort (fun a b => a.1 ≤ b.1)).map (·.2)
  | other => [other]

/-- `j.get<std::string>()`. -/
def getString : Json → Result String
  | .string text => .ok text
  | _ => .error (.jsonException 302)

/-- `j.get<utils::u32>()`. Integers are stored in 64 bits, and larger ones as floating point,
whose conversion is then out of range. -/
def getU32 : Json → Result UInt32
  | .int value =>
    if -2^63 ≤ value ∧ value < 2^64 then .ok (UInt32.ofInt value) else .error .outOfRange
  | .bool value => .ok (if value then 1 else 0)
  | _ => .error (.jsonException 302)

/-- `j.value(key, fallback)` at the type that `get` reads. -/
def value {α : Type} (get : Json → Result α) (key : String) (fallback : α) : Json → Result α
  | .object fields =>
    match field key fields with
    | some found => get found
    | none => .ok fallback
  | _ => .error (.jsonException 306)

theorem getU32_ofNat {n : Nat} (small : n < 2^32) : getU32 (.int n) = .ok (UInt32.ofNat n) := by
  have inside : -2^63 ≤ (n : Int) ∧ (n : Int) < 2^64 := by omega
  have reduced : ((n : Int)%2^32).toNat = n := by omega
  rw [getU32,if_pos inside,UInt32.ofInt,reduced]

end Json
end UavFanet
