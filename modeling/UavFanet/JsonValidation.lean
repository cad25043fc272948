import UavFanet.JsonLoader
import Mathlib.Data.List.Forall2

/-! The typed getters on paths that the validator has checked: which of them then return what the
document says there. -/
namespace UavFanet.JsonLoader
open JsonValidator

variable {D : Type}

namespace Node

def integer : Node D → Option Int
  | numberInteger value => some value.toInt
  | numberUnsigned value => some value.toNat
  | _ => none

def number (convert : Int → D) : Node D → Option D
  | numberFloat value => some value
  | node => node.integer.map convert

end Node

inductive Getter where
  | getString
  | getBigInt
  | getBool
  | getI64
  | getU64
  | getU32
  | getDouble
  | sub
  | getStringArray
  | getU32Array
  | getDoubleArray
  deriving DecidableEq

inductive Value (D : Type) where
  | string (text : String)
  | bool (value : Bool)
  | i64 (value : Int64)
  | u64 (value : UInt64)
  | u32 (value : UInt32)
  | double (value : D)
  | loader (root : Node D)
  | strings (texts : List String)
  | u32s (values : List UInt32)
  | doubles (values : List D)

/-- The value is of the kind of the node, and the one that the node stores. -/
def Value.Faithful (convert : Int → D) (node : Node D) : Value D → Prop
  | string text => node = .string text
  | bool value => node = .boolean value
  | i64 value => node.integer = some value.toInt
  | u64 value => node.integer = some (value.toNat : Int)
  | u32 value => node.integer = some (value.toNat : Int)
  | double value => node.number convert = some value
  | loader root => root = node ∧ ∃ fields, node = .object fields
  | strings texts => node = .array (texts.map .string)
  | u32s values => ∃ elements, node = .array elements ∧
      List.Forall₂ (fun el value => el.integer = some (UInt32.toNat value : Int)) elements values
  | doubles values => ∃ elements, node = .array elements ∧
      List.Forall₂ (fun el value => el.number convert = some value) elements values

namespace Getter

/-- The type that is checked for a getter. -/
def type : Getter → JsonFieldType
  | getString => .string
  | getBigInt => .string
  | getBool => .bool
  | getI64 => .integer
  | getU64 => .unsigned
  | getU32 => .unsigned
  | getDouble => .double
  | sub => .object
  | getStringArray => .array
  | getU32Array => .array
  | getDoubleArray => .array

def run (convert : Int → D) (root : Node D) (dot_path : String) : Getter → Result (Value D)
  | getString => (JsonLoader.getString root dot_path).map .string
  | getBigInt => (JsonLoader.getBigInt root dot_path).map .string
  | getBool => (JsonLoader.getBool root dot_path).map .bool
  | getI64 => (JsonLoader.getI64 root dot_path).map .i64
  | getU64 => (JsonLoader.getU64 root dot_path).map .u64
  | getU32 => (JsonLoader.getU32 root dot_path).map .u32
  | getDouble => (JsonLoader.getDouble root dot_path convert).map .double
  | sub => (JsonLoader.sub root dot_path).map .loader
  | getStringArray => (JsonLoader.getStringArray root dot_path).map .strings
  | getU32Array => (JsonLoader.getU32Array root dot_path).map .u32s
  | getDoubleArray => (JsonLoader.getDoubleArray root dot_path convert).map .doubles

/-- What the check does not see: integers beyond the type that the getter returns, and the elements
of an array. -/
def Fits (node : Node D) : Getter → Prop
  | getI64 => ∀ n, node.integer = some n → n < 2^63
  | getU32 => ∀ n, node.integer = some n → n < 2^32
  | getStringArray => ∀ elements, node = .array elements → ∀ el ∈ elements, ∃ text, el = .string text
  | getU32Array => ∀ elements, node = .array elements → ∀ el ∈ elements, ∃ n : Nat,
      el.integer = some (n : Int) ∧ n < 2^32
  | getDoubleArray => ∀ elements, node = .array elements → ∀ el ∈ elements, el.isNumber = true
  | _ => True

/-- The getter does not throw, and returns what the node stores. -/
def Sound (convert : Int → D) (root node : Node D) (dot_path : String) (getter : Getter) : Prop :=
  ∃ value, getter.run convert root dot_path = .ok value ∧ value.Faithful convert node

end Getter

section Integers

theorem toInt64_exact (u : UInt64) : u.toInt64.toInt = u.toNat ↔ u.toNat < 2^63 := by
  have bound := u.toNat_lt
  have signed : u.toInt64.toInt = if 2*u.toNat < 2^64 then (u.toNat : Int) else u.toNat-2^64 :=
    BitVec.toInt_eq_toNat_cond u.toBitVec
  rw [signed]
  split
  · omega
  · omega

theorem toUInt64_cases (v : Int64) : 0 ≤ v.toInt ∧ (v.toUInt64.toNat : Int) = v.toInt ∨
    v.toInt < 0 ∧ (v.toUInt64.toNat : Int) = v.toInt+2^64 := by
  have bound := v.toUInt64.toNat_lt
  have signed : v.toInt = if 2*v.toUInt64.toNat < 2^64 then (v.toUInt64.toNat : Int)
      else v.toUInt64.toNat-2^64 := BitVec.toInt_eq_toNat_cond v.toUInt64.toBitVec
  split at signed
  · omega
  · omega

theorem toUInt32_exact (u : UInt64) : (u.toUInt32.toNat : Int) = u.toNat ↔ u.toNat < 2^32 := by
  rw [UInt64.toNat_toUInt32]
  omega

end Integers

section Arrays

variable {α : Type} {check : Node D → Bool} {read : Node D → α} {Stores : Node D → α → Prop}

/-- The loop reads every element, or throws at the first one that is not let through. -/
theorem readElements_ok_iff (dot_path kind : String) (elements : List (Node D)) (values : List α) :
    readElements dot_path check read kind elements = .ok values ↔
      (∀ el ∈ elements, check el = true) ∧ values = elements.map read := by
  induction elements generalizing values with
  | nil =>
    rw [readElements,Except.ok.injEq,List.map_nil]
    exact ⟨fun same => ⟨by simp,same.symm⟩,fun same => same.2.symm⟩
  | cons el rest ih =>
    rw [readElements,List.forall_mem_cons,List.map_cons]
    cases passed : check el with
    | false => simp [configError,bind,Except.bind]
    | true =>
      simp only [Bool.not_true,Bool.false_eq_true,if_false]
      constructor
      · intro read_all
        obtain ⟨out,read_rest,same⟩ := Result.bind_ok.mp read_all
        obtain ⟨others,rfl⟩ := (ih out).mp read_rest
        cases same
        exact ⟨⟨trivial,others⟩,rfl⟩
      · rintro ⟨⟨-,others⟩,rfl⟩
        rw [(ih _).mpr ⟨others,rfl⟩]
        rfl

theorem readElements_iff (dot_path kind : String) (elements : List (Node D)) :
    (∃ values, readElements dot_path check read kind elements = .ok values ∧
      List.Forall₂ Stores elements values) ↔
        ∀ el ∈ elements, check el = true ∧ Stores el (read el) := by
  constructor
  · rintro ⟨values,read_all,stored⟩ el member
    obtain ⟨passed,rfl⟩ := (readElements_ok_iff ..).mp read_all
    rw [List.forall₂_map_right_iff,List.forall₂_same] at stored
    exact ⟨passed el member,stored el member⟩
  · intro each
    refine ⟨_,(readElements_ok_iff ..).mpr ⟨fun el member => (each el member).1,rfl⟩,?_⟩
    rw [List.forall₂_map_right_iff,List.forall₂_same]
    exact fun el member => (each el member).2

end Arrays

section Getters

variable {convert : Int → D} {root node : Node D} {dot_path : String}

theorem navigateOrThrow_found (found : navigate root dot_path = some node) :
    navigateOrThrow root dot_path = .ok node := by
  simp only [navigateOrThrow,found]

theorem getArray_found {α : Type} {elements : List (Node D)}
    (found : navigate root dot_path = some (.array elements)) (check : Node D → Bool)
    (read : Node D → α) (kind : String) :
    getArray root dot_path check read kind = readElements dot_path check read kind elements := by
  rw [getArray,navigateOrThrow_found found]
  rfl

theorem checkType_array (checked : checkType node .array = true) :
    ∃ elements, node = .array elements := by
  cases node with
  | array elements => exact ⟨elements,rfl⟩
  | _ => cases checked

theorem getU64_found (found : navigate root dot_path = some node) (integer : node.isInteger = true) :
    getU64 root dot_path = .ok node.asU64 := by
  simp only [getU64,navigateOrThrow_found found,Result.ok_bind,integer,Bool.not_true,
    Bool.false_eq_true,if_false]
  rfl

theorem checkType_unsigned (checked : checkType node .unsigned = true) :
    node.isInteger = true ∧ node.integer = some (node.asU64.toNat : Int) := by
  cases node with
  | numberUnsigned value => exact ⟨rfl,rfl⟩
  | numberInteger value =>
    refine ⟨rfl,?_⟩
    have natural : 0 ≤ value.toInt := Int64.le_iff_toInt_le.mp (of_decide_eq_true checked)
    rcases toUInt64_cases value with ⟨-,same⟩ | ⟨negative,-⟩
    · exact congrArg some same.symm
    · omega
  | _ => cases checked

namespace Getter

theorem sound_returned {getter : Getter} {value : Value D}
    (returned : getter.run convert root dot_path = .ok value) :
    getter.Sound convert root node dot_path ↔ value.Faithful convert node := by
  constructor
  · rintro ⟨other,same,faithful⟩
    obtain rfl : value = other := Except.ok.inj (returned.symm.trans same)
    exact faithful
  · intro faithful
    exact ⟨value,returned,faithful⟩

theorem getI64_sound_iff (found : navigate root dot_path = some node)
    (checked : checkType node .integer = true) :
    getI64.Sound convert root node dot_path ↔ getI64.Fits node := by
  have returned : getI64.run convert root dot_path = .ok (.i64 node.asI64) := by
    have integer : node.isInteger = true := checked
    simp only [run,JsonLoader.getI64,navigateOrThrow_found found,Result.ok_bind,integer,
      Bool.not_true,Bool.false_eq_true,if_false]
    rfl
  rw [sound_returned returned]
  cases node with
  | numberInteger value =>
    refine iff_of_true rfl ?_
    intro n same
    obtain rfl : value.toInt = n := Option.some.inj same
    exact Int64.toInt_lt value
  | numberUnsigned value =>
    have same := toInt64_exact value
    constructor
    · intro faithful n stored
      obtain rfl : (value.toNat : Int) = n := Option.some.inj stored
      have small := same.mp (Option.some.inj faithful).symm
      omega
    · intro fits
      have small := fits value.toNat rfl
      exact congrArg some (same.mpr (by omega)).symm
  | _ => cases checked

theorem getU64_sound (found : navigate root dot_path = some node)
    (checked : checkType node .unsigned = true) : getU64.Sound convert root node dot_path := by
  obtain ⟨integer,stored⟩ := checkType_unsigned checked
  have returned : getU64.run convert root dot_path = .ok (.u64 node.asU64) := by
    rw [run,getU64_found found integer]
    rfl
  exact (sound_returned returned).mpr stored

theorem getU32_sound_iff (found : navigate root dot_path = some node)
    (checked : checkType node .unsigned = true) :
    getU32.Sound convert root node dot_path ↔ getU32.Fits node := by
  obtain ⟨integer,stored⟩ := checkType_unsigned checked
  have run_eq : getU32.run convert root dot_path = (do
      if node.asU64 > 4294967295 then
        configError ("JSON key '" ++ dot_path ++ "' value overflows u32")
      return Value.u32 node.asU64.toUInt32) := by
    rw [run,JsonLoader.getU32,getU64_found found integer,Result.ok_bind]
    split
    · rfl
    · rfl
  have limit : node.asU64 > 4294967295 ↔ ¬ node.asU64.toNat < 2^32 := by
    rw [gt_iff_lt,UInt64.lt_iff_toNat_lt,show (4294967295 : UInt64).toNat = 4294967295 from rfl]
    omega
  by_cases small : node.asU64.toNat < 2^32
  · have returned : getU32.run convert root dot_path = .ok (.u32 node.asU64.toUInt32) := by
      rw [run_eq,if_neg (fun above => limit.mp above small)]
      rfl
    rw [sound_returned returned]
    refine iff_of_true ?_ ?_
    · exact stored.trans (congrArg some ((toUInt32_exact _).mpr small).symm)
    · intro n same
      obtain rfl : (node.asU64.toNat : Int) = n := Option.some.inj (stored.symm.trans same)
      omega
  · refine iff_of_false ?_ ?_
    · rintro ⟨value,returned,-⟩
      rw [run_eq,if_pos (limit.mpr small)] at returned
      cases returned
    · intro fits
      have below := fits _ stored
      omega

theorem getDouble_sound (found : navigate root dot_path = some node)
    (checked : checkType node .double = true) : getDouble.Sound convert root node dot_path := by
  have number : node.isNumber = true := checked
  have returned : getDouble.run convert root dot_path = .ok (.double (node.asDouble convert)) := by
    simp only [run,JsonLoader.getDouble,navigateOrThrow_found found,Result.ok_bind,number,
      Bool.not_true,Bool.false_eq_true,if_false]
    rfl
  apply (sound_returned returned).mpr
  cases node with
  | numberInteger value => rfl
  | numberUnsigned value => rfl
  | numberFloat value => rfl
  | _ => cases checked

theorem array_sound_iff {α : Type} {getter : Getter} {check : Node D → Bool} {read : Node D → α}
    {kind : String} {wrap : List α → Value D} {Stores : Node D → α → Prop}
    {elements : List (Node D)} (found : navigate root dot_path = some (.array elements))
    (runs : getter.run convert root dot_path = (getArray root dot_path check read kind).map wrap)
    (faithful : ∀ values, (wrap values).Faithful convert (.array elements) ↔
      List.Forall₂ Stores elements values) :
    getter.Sound convert root (.array elements) dot_path ↔
      ∀ el ∈ elements, check el = true ∧ Stores el (read el) := by
  rw [← readElements_iff dot_path kind elements,Sound,runs,getArray_found found]
  constructor
  · rintro ⟨value,returned,stored⟩
    cases read_all : readElements dot_path check read kind elements with
    | error failure =>
      rw [read_all] at returned
      cases returned
    | ok values =>
      rw [read_all] at returned
      obtain rfl : wrap values = value := Except.ok.inj returned
      exact ⟨values,rfl,(faithful values).mp stored⟩
  · rintro ⟨values,read_all,stored⟩
    exact ⟨wrap values,by rw [read_all]; rfl,(faithful values).mpr stored⟩

section Arrays

variable {elements : List (Node D)} (found : navigate root dot_path = some (.array elements))
include found

theorem getStringArray_sound_iff :
    getStringArray.Sound convert root (.array elements) dot_path ↔
      getStringArray.Fits (.array elements) := by
  have faithful (texts : List String) :
      (Value.strings texts : Value D).Faithful convert (.array elements) ↔
        List.Forall₂ (fun el text => el = Node.string text) elements texts := by
    rw [Value.Faithful,Node.array.injEq,← List.forall₂_map_right_iff,List.forall₂_eq_eq_eq]
  rw [array_sound_iff found rfl faithful]
  constructor
  · rintro each _ ⟨⟩ el member
    exact ⟨_,(each el member).2⟩
  · intro fits el member
    obtain ⟨text,rfl⟩ := fits elements rfl el member
    exact ⟨rfl,rfl⟩

theorem getU32Array_sound_iff :
    getU32Array.Sound convert root (.array elements) dot_path ↔ getU32Array.Fits (.array elements) := by
  have faithful (values : List UInt32) :
      (Value.u32s values : Value D).Faithful convert (.array elements) ↔ List.Forall₂
        (fun el value => el.integer = some (UInt32.toNat value : Int)) elements values := by
    constructor
    · rintro ⟨_,⟨⟩,stored⟩
      exact stored
    · intro stored
      exact ⟨elements,rfl,stored⟩
  rw [array_sound_iff found rfl faithful]
  constructor
  · rintro each _ ⟨⟩ el member
    exact ⟨_,(each el member).2,UInt32.toNat_lt _⟩
  · intro fits el member
    obtain ⟨n,stored,small⟩ := fits elements rfl el member
    have exact_value : el.isInteger = true ∧ (el.asU64.toNat : Int) = n := by
      cases el with
      | numberUnsigned value => exact ⟨rfl,Option.some.inj stored⟩
      | numberInteger value =>
        have same : value.toInt = n := Option.some.inj stored
        rcases toUInt64_cases value with ⟨-,kept⟩ | ⟨negative,-⟩
        · exact ⟨rfl,kept.trans same⟩
        · omega
      | _ => cases stored
    obtain ⟨integer,same⟩ := exact_value
    refine ⟨integer,stored.trans (congrArg some ?_)⟩
    rw [(toUInt32_exact _).mpr (by omega),same]

theorem getDoubleArray_sound_iff :
    getDoubleArray.Sound convert root (.array elements) dot_path ↔
      getDoubleArray.Fits (.array elements) := by
  have faithful (values : List D) :
      (Value.doubles values).Faithful convert (.array elements) ↔
        List.Forall₂ (fun el value => el.number convert = some value) elements values := by
    constructor
    · rintro ⟨_,⟨⟩,stored⟩
      exact stored
    · intro stored
      exact ⟨elements,rfl,stored⟩
  rw [array_sound_iff found rfl faithful]
  constructor
  · rintro each _ ⟨⟩ el member
    exact (each el member).1
  · intro fits el member
    have number := fits elements rfl el member
    refine ⟨number,?_⟩
    cases el with
    | numberInteger value => rfl
    | numberUnsigned value => rfl
    | numberFloat value => rfl
    | _ => cases number

end Arrays

theorem sound_iff (getter : Getter) (found : navigate root dot_path = some node)
    (checked : checkType node getter.type = true) :
    getter.Sound convert root node dot_path ↔ getter.Fits node := by
  cases getter with
  | getI64 => exact getI64_sound_iff found checked
  | getU32 => exact getU32_sound_iff found checked
  | getU64 => exact iff_of_true (getU64_sound found checked) trivial
  | getDouble => exact iff_of_true (getDouble_sound found checked) trivial
  | getString =>
    cases node with
    | string text =>
      have returned : getString.run convert root dot_path = .ok (.string text) := by
        rw [run,JsonLoader.getString,navigateOrThrow_found found]
        rfl
      exact iff_of_true ((sound_returned returned).mpr rfl) trivial
    | _ => cases checked
  | getBigInt =>
    cases node with
    | string text =>
      have returned : getBigInt.run convert root dot_path = .ok (.string text) := by
        rw [run,JsonLoader.getBigInt,navigateOrThrow_found found]
        rfl
      exact iff_of_true ((sound_returned returned).mpr rfl) trivial
    | _ => cases checked
  | getBool =>
    cases node with
    | boolean value =>
      have returned : getBool.run convert root dot_path = .ok (.bool value) := by
        rw [run,JsonLoader.getBool,navigateOrThrow_found found]
        rfl
      exact iff_of_true ((sound_returned returned).mpr rfl) trivial
    | _ => cases checked
  | sub =>
    cases node with
    | object fields =>
      have returned : sub.run convert root dot_path = .ok (.loader (.object fields)) := by
        rw [run,JsonLoader.sub,navigateOrThrow_found found]
        rfl
      exact iff_of_true ((sound_returned returned).mpr ⟨rfl,fields,rfl⟩) trivial
    | _ => cases checked
  | getStringArray =>
    obtain ⟨elements,rfl⟩ := checkType_array checked
    exact getStringArray_sound_iff found
  | getU32Array =>
    obtain ⟨elements,rfl⟩ := checkType_array checked
    exact getU32Array_sound_iff found
  | getDoubleArray =>
    obtain ⟨elements,rfl⟩ := checkType_array checked
    exact getDoubleArray_sound_iff found

end Getter
end Getters

/-- Where the validator reports nothing, a getter that belongs to a required path and type returns
what the document stores there if and only if that fits. -/
theorem validated_sound_iff (convert : Int → D) {validator : JsonValidator} {root : Node D}
    (valid : validator.validate root = []) {spec : FieldSpec} (member : spec ∈ validator)
    (required : spec.required = true) (getter : Getter) (belongs : getter.type = spec.type) :
    ∃ node, navigate root spec.dot_path = some node ∧
      (getter.Sound convert root node spec.dot_path ↔ getter.Fits node) := by
  obtain ⟨node,found,checked⟩ := validate_checked valid member required
  rw [← belongs] at checked
  exact ⟨node,found,getter.sound_iff found checked⟩

def numberedRoot (value : UInt64) : Node Nat := .object [("n",.numberUnsigned value)]

def numberValidator : JsonValidator := JsonValidator.require [] "n" .unsigned

theorem numberedRoot_node (value : UInt64) :
    navigate (numberedRoot value) "n" = some (.numberUnsigned value) := by
  have path : split "n" '.' = ["n"] := by decide +kernel
  simp [navigate,path,walk,numberedRoot,Node.find]

theorem numberValidator_passes (value : UInt64) :
    numberValidator.validate (numberedRoot value) = [] := by
  have node := numberedRoot_node value
  rw [navigate] at node
  simp [numberValidator,require,validate,fieldErrors,has,numberedRoot_node,node,checkType]

theorem small_number_sound : ∃ node, navigate (numberedRoot 7) "n" = some node ∧
    Getter.getU32.Sound Int.toNat (numberedRoot 7) node "n" := by
  obtain ⟨node,found,sound⟩ := validated_sound_iff Int.toNat (numberValidator_passes 7)
    (List.mem_singleton_self _) rfl .getU32 rfl
  refine ⟨node,found,sound.mpr ?_⟩
  intro n stored
  obtain rfl : Node.numberUnsigned 7 = node :=
    Option.some.inj ((numberedRoot_node 7).symm.trans found)
  obtain rfl : 7 = n := Option.some.inj stored
  decide

/-- An unsigned number that passes, and that the getter does not return. -/
theorem large_number_throws :
    numberValidator.validate (numberedRoot 4294967296) = [] ∧
    getU32 (numberedRoot 4294967296) "n" =
      configError ("JSON key '" ++ "n" ++ "' value overflows u32") ∧
    ¬ Getter.getU32.Sound Int.toNat (numberedRoot 4294967296) (.numberUnsigned 4294967296) "n" := by
  have throws : getU32 (numberedRoot 4294967296) "n" =
      configError ("JSON key '" ++ "n" ++ "' value overflows u32") := by
    rw [getU32,getU64_found (numberedRoot_node _) rfl]
    rfl
  refine ⟨numberValidator_passes _,throws,?_⟩
  rintro ⟨value,returned,-⟩
  rw [Getter.run,throws] at returned
  cases returned

end UavFanet.JsonLoader
