import UavFanet.JsonValidation
import UavFanet.NumberTexts

/-! The getters for integers: on which documents each of them returns nothing but the integer that
is written there. -/
namespace UavFanet.JsonLoader

variable {D : Type}

/-- The integer, or each one of an array, is the one that the node stores. `GetBigInt` hands a text
on as it stands. -/
def Value.Denotes (node : Node D) : Value D → Prop
  | i64 value => node.integer = some value.toInt
  | u64 value => node.integer = some (value.toNat : Int)
  | u32 value => node.integer = some (value.toNat : Int)
  | u32s values => ∃ elements, node = .array elements ∧
      List.Forall₂ (fun el value => el.integer = some (UInt32.toNat value : Int)) elements values
  | string text => node = .string text ∨ ∃ n, node.integer = some n ∧ text = toString n
  | _ => False

inductive IntegerGetter where
  | getI64
  | getU64
  | getU32
  | getU32Array
  | getBigInt
  deriving DecidableEq

namespace IntegerGetter

def run (root : Node D) (dot_path : String) : IntegerGetter → Result (Value D)
  | getI64 => (JsonLoader.getI64 root dot_path).map .i64
  | getU64 => (JsonLoader.getU64 root dot_path).map .u64
  | getU32 => (JsonLoader.getU32 root dot_path).map .u32
  | getU32Array => (JsonLoader.getU32Array root dot_path).map .u32s
  | getBigInt => (JsonLoader.getBigInt root dot_path).map .string

/-- The value is of the type that the getter returns. -/
def Returns : IntegerGetter → Value D → Prop
  | getI64, .i64 _ => True
  | getU64, .u64 _ => True
  | getU32, .u32 _ => True
  | getU32Array, .u32s _ => True
  | getBigInt, .string _ => True
  | _, _ => False

/-- A getter returns what the node stores, and throws where its type cannot. -/
structure ReadsExactly (getter : IntegerGetter) (root : Node D) (dot_path : String) : Prop where
  returned : ∀ value, getter.run root dot_path = .ok value →
    ∃ node, navigate root dot_path = some node ∧ value.Denotes node
  refused : ∀ node, navigate root dot_path = some node →
    (∀ value : Value D, getter.Returns value → ¬ value.Denotes node) →
    ∃ failure, getter.run root dot_path = .error failure

/-- The integers that a getter lets through are within its type: those from `2^63` on are not, for a
signed one, nor are the negative ones for the others; the elements of an array are cut to 32
bits. -/
def Holds (node : Node D) : IntegerGetter → Prop
  | getI64 => ∀ n, node.integer = some n → n < 2^63
  | getU64 => ∀ n, node.integer = some n → 0 ≤ n
  | getU32 => True
  | getU32Array => ∀ elements, node = .array elements → (∀ el ∈ elements, el.isInteger = true) →
      ∀ el ∈ elements, ∀ n, el.integer = some n → 0 ≤ n ∧ n < 2^32
  | getBigInt => ∀ n, node.integer = some n → 0 ≤ n

end IntegerGetter

theorem integer_casts {node : Node D} (integer : node.isInteger = true) :
    ∃ n, node.integer = some n ∧ n < 2^64 ∧ -2^63 ≤ n ∧
      (node.asU64.toNat : Int) = (if 0 ≤ n then n else n+2^64) ∧
      node.asI64.toInt = (if n < 2^63 then n else n-2^64) := by
  cases node with
  | numberInteger value =>
    have above := Int64.le_toInt value
    have below := Int64.toInt_lt value
    refine ⟨value.toInt,rfl,by omega,above,?_,(if_pos below).symm⟩
    rcases toUInt64_cases value with ⟨natural,same⟩ | ⟨negative,shifted⟩
    · rw [if_pos natural]
      exact same
    · rw [if_neg (by omega)]
      exact shifted
  | numberUnsigned value =>
    have bound := value.toNat_lt
    refine ⟨value.toNat,rfl,by omega,by omega,(if_pos (by omega)).symm,?_⟩
    have signed : value.toInt64.toInt = if 2*value.toNat < 2^64 then (value.toNat : Int)
        else value.toNat-2^64 := BitVec.toInt_eq_toNat_cond value.toBitVec
    rw [Node.asI64,signed]
    split
    · rw [if_pos (by omega)]
    · rw [if_neg (by omega)]
  | _ => cases integer

theorem isInteger_of_integer {node : Node D} {n : Int} (stored : node.integer = some n) :
    node.isInteger = true := by
  cases node with
  | numberInteger value => rfl
  | numberUnsigned value => rfl
  | _ => cases stored

section Found

variable {root node : Node D} {dot_path : String}

theorem navigateOrThrow_missing (missing : navigate root dot_path = none) :
    navigateOrThrow root dot_path = configError ("JSON key not found: '" ++ dot_path ++ "'") := by
  simp only [navigateOrThrow,missing]

theorem getI64_cases (found : navigate root dot_path = some node) :
    (node.isInteger = true ∧ getI64 root dot_path = .ok node.asI64) ∨
      node.isInteger = false ∧ ∃ failure, getI64 root dot_path = .error failure := by
  unfold getI64
  rw [navigateOrThrow_found found,Result.ok_bind]
  cases node.isInteger with
  | false => exact .inr ⟨rfl,_,rfl⟩
  | true => exact .inl ⟨rfl,rfl⟩

theorem getU64_cases (found : navigate root dot_path = some node) :
    (node.isInteger = true ∧ getU64 root dot_path = .ok node.asU64) ∨
      node.isInteger = false ∧ ∃ failure, getU64 root dot_path = .error failure := by
  unfold getU64
  rw [navigateOrThrow_found found,Result.ok_bind]
  cases node.isInteger with
  | false => exact .inr ⟨rfl,_,rfl⟩
  | true => exact .inl ⟨rfl,rfl⟩

theorem getBigInt_cases (found : navigate root dot_path = some node) :
    (node.isInteger = true ∧ getBigInt root dot_path = .ok (toString node.asU64.toNat)) ∨
      node.isInteger = false ∧ ((∃ text, node = .string text ∧ getBigInt root dot_path = .ok text) ∨
        ∃ failure, getBigInt root dot_path = .error failure) := by
  unfold getBigInt
  rw [navigateOrThrow_found found,Result.ok_bind]
  cases node with
  | string text => exact .inr ⟨rfl,.inl ⟨text,rfl,rfl⟩⟩
  | numberInteger value => exact .inl ⟨rfl,rfl⟩
  | numberUnsigned value => exact .inl ⟨rfl,rfl⟩
  | _ => exact .inr ⟨rfl,.inr ⟨_,rfl⟩⟩

/-- The check for 32 bits keeps the negative integers out as well, which the casts put far above. -/
theorem getU32_denotes {value : UInt32} (found : navigate root dot_path = some node)
    (returned : getU32 root dot_path = .ok value) : node.integer = some (value.toNat : Int) := by
  obtain ⟨v,wide,narrowed⟩ := Result.bind_ok.mp returned
  split at narrowed
  · cases narrowed
  rename_i inside
  cases narrowed
  rcases getU64_cases found with ⟨integer,read⟩ | ⟨-,failure,threw⟩
  · obtain rfl : node.asU64 = v := Except.ok.inj (read.symm.trans wide)
    obtain ⟨n,stored,-,low,unsigned,-⟩ := integer_casts integer
    have small : node.asU64.toNat ≤ 4294967295 := by
      have := UInt64.le_iff_toNat_le.mp (UInt64.not_lt.mp inside)
      simpa using this
    rw [stored,(toUInt32_exact node.asU64).mpr (by omega),unsigned]
    split
    · rfl
    · rename_i negative
      rw [if_neg negative] at unsigned
      omega
  · rw [threw] at wide
    cases wide

theorem toString_injective {n m : Int} (same : toString n = toString m) : n = m := by
  have first := cppInt_str n
  rw [same,cppInt_str] at first
  exact (Option.some.inj first).symm

theorem asU64_exact (integer : node.isInteger = true) :
    node.integer = some (node.asU64.toNat : Int) ↔ ∀ n, node.integer = some n → 0 ≤ n := by
  obtain ⟨n,stored,-,-,unsigned,-⟩ := integer_casts integer
  rw [stored,unsigned]
  constructor
  · intro kept m same
    obtain rfl : n = m := Option.some.inj same
    have := Option.some.inj kept
    split at this
    · assumption
    · omega
  · intro natural
    rw [if_pos (natural n rfl)]

theorem asU32_exact (integer : node.isInteger = true) :
    node.integer = some (node.asU64.toUInt32.toNat : Int) ↔
      ∀ n, node.integer = some n → 0 ≤ n ∧ n < 2^32 := by
  obtain ⟨n,stored,-,-,unsigned,-⟩ := integer_casts integer
  have cut := node.asU64.toUInt32.toNat_lt
  constructor
  · intro kept m same
    have : m = node.asU64.toUInt32.toNat := Option.some.inj (same.symm.trans kept)
    omega
  · intro natural
    obtain ⟨low,high⟩ := natural n stored
    rw [if_pos low] at unsigned
    rw [stored,(toUInt32_exact node.asU64).mpr (by omega),unsigned]

end Found

namespace IntegerGetter

variable {root node : Node D} {dot_path : String} {getter : IntegerGetter}

theorem map_ok {α β : Type} {wrap : α → β} {read : Result α} {value : β}
    (mapped : read.map wrap = .ok value) : ∃ a, read = .ok a ∧ wrap a = value := by
  cases read with
  | error failure => cases mapped
  | ok a => exact ⟨a,rfl,Except.ok.inj mapped⟩

theorem run_returns {value : Value D} (read : getter.run root dot_path = .ok value) :
    getter.Returns value := by
  cases getter with
  | getI64 | getU64 | getU32 | getU32Array | getBigInt =>
    obtain ⟨a,-,rfl⟩ := map_ok read
    trivial

theorem run_missing (missing : navigate root dot_path = none) :
    ∃ failure, getter.run root dot_path = .error failure := by
  have threw := navigateOrThrow_missing missing
  cases getter with
  | getI64 => exact ⟨_,by rw [run,JsonLoader.getI64,threw]; rfl⟩
  | getU64 => exact ⟨_,by rw [run,JsonLoader.getU64,threw]; rfl⟩
  | getU32 => exact ⟨_,by rw [run,JsonLoader.getU32,JsonLoader.getU64,threw]; rfl⟩
  | getU32Array => exact ⟨_,by rw [run,JsonLoader.getU32Array,getArray,threw]; rfl⟩
  | getBigInt => exact ⟨_,by rw [run,JsonLoader.getBigInt,threw]; rfl⟩

/-- Where something is returned it is of the getter's type, so what the type cannot hold is
refused as soon as all that is returned is right. -/
theorem readsExactly_found_iff (found : navigate root dot_path = some node) :
    getter.ReadsExactly root dot_path ↔
      ∀ value, getter.run root dot_path = .ok value → value.Denotes node := by
  constructor
  · intro exactly value read
    obtain ⟨other,same,denotes⟩ := exactly.returned value read
    obtain rfl : node = other := Option.some.inj (found.symm.trans same)
    exact denotes
  · intro right
    refine ⟨fun value read => ⟨node,found,right value read⟩,fun other same none => ?_⟩
    obtain rfl : node = other := Option.some.inj (found.symm.trans same)
    cases read : getter.run root dot_path with
    | error failure => exact ⟨failure,rfl⟩
    | ok value => exact absurd (right value read) (none value (run_returns read))

theorem getI64_denotes_iff (found : navigate root dot_path = some node) :
    (∀ value, getI64.run root dot_path = .ok value → value.Denotes node) ↔ getI64.Holds node := by
  rcases getI64_cases found with ⟨integer,read⟩ | ⟨other,failure,threw⟩
  · obtain ⟨n,stored,above,-,-,signed⟩ := integer_casts integer
    rw [run,read]
    constructor
    · intro right m same
      obtain rfl : n = m := Option.some.inj (stored.symm.trans same)
      have kept : n = node.asI64.toInt := Option.some.inj (stored.symm.trans (right _ rfl))
      have := Int64.toInt_lt node.asI64
      omega
    · rintro small value ⟨⟩
      rw [if_pos (small n stored)] at signed
      exact stored.trans (congrArg some signed.symm)
  · rw [run,threw]
    refine iff_of_true (fun _ impossible => by cases impossible) (fun n stored => ?_)
    exact absurd (isInteger_of_integer stored) (by simp [other])

theorem getU64_denotes_iff (found : navigate root dot_path = some node) :
    (∀ value, getU64.run root dot_path = .ok value → value.Denotes node) ↔ getU64.Holds node := by
  rcases getU64_cases found with ⟨integer,read⟩ | ⟨other,failure,threw⟩
  · rw [Holds,← asU64_exact integer,run,read]
    constructor
    · intro right
      exact right _ rfl
    · rintro kept value ⟨⟩
      exact kept
  · rw [run,threw]
    refine iff_of_true (fun _ impossible => by cases impossible) (fun n stored => ?_)
    exact absurd (isInteger_of_integer stored) (by simp [other])

theorem getBigInt_denotes_iff (found : navigate root dot_path = some node) :
    (∀ value, getBigInt.run root dot_path = .ok value → value.Denotes node) ↔
      getBigInt.Holds node := by
  rw [run]
  rcases getBigInt_cases found with ⟨integer,read⟩ | ⟨other,read⟩
  · rw [Holds,← asU64_exact integer,read]
    constructor
    · intro right
      rcases right _ rfl with text | ⟨n,stored,same⟩
      · rw [text] at integer
        cases integer
      · have : ((node.asU64.toNat : Nat) : Int) = n := toString_injective same
        rw [stored,this]
    · rintro kept value ⟨⟩
      exact .inr ⟨_,kept,rfl⟩
  · refine iff_of_true ?_ (fun n stored => absurd (isInteger_of_integer stored) (by simp [other]))
    rcases read with ⟨text,same,read⟩ | ⟨failure,threw⟩
    · rw [read]
      rintro value ⟨⟩
      exact .inl same
    · rw [threw]
      rintro value ⟨⟩

theorem getU32Array_denotes_iff (found : navigate root dot_path = some node) :
    (∀ value, getU32Array.run root dot_path = .ok value → value.Denotes node) ↔
      getU32Array.Holds node := by
  cases array : node with
  | array elements =>
    rw [array] at found
    have read (values : List UInt32) : JsonLoader.getU32Array root dot_path = .ok values ↔
        (∀ el ∈ elements, el.isInteger = true) ∧
          values = elements.map (fun el => el.asU64.toUInt32) := by
      rw [JsonLoader.getU32Array,getArray_found found,readElements_ok_iff]
    constructor
    · rintro right _ ⟨⟩ integers el member
      have returned := (read _).mpr ⟨integers,rfl⟩
      obtain ⟨_,⟨⟩,stored⟩ := right _ (congrArg (Except.map Value.u32s) returned)
      rw [List.forall₂_map_right_iff,List.forall₂_same] at stored
      exact (asU32_exact (integers el member)).mp (stored el member)
    · intro fits value returned
      obtain ⟨values,read_all,rfl⟩ := map_ok returned
      obtain ⟨integers,rfl⟩ := (read values).mp read_all
      refine ⟨elements,rfl,?_⟩
      rw [List.forall₂_map_right_iff,List.forall₂_same]
      intro el member
      exact (asU32_exact (integers el member)).mpr (fits elements rfl integers el member)
  | _ =>
    refine iff_of_true ?_ (fun elements same => by cases same)
    intro value returned
    obtain ⟨values,read_all,-⟩ := map_ok returned
    rw [JsonLoader.getU32Array,getArray,navigateOrThrow_found found,array] at read_all
    cases read_all

theorem denotes_iff (getter : IntegerGetter) (found : navigate root dot_path = some node) :
    (∀ value, getter.run root dot_path = .ok value → value.Denotes node) ↔ getter.Holds node := by
  cases getter with
  | getI64 => exact getI64_denotes_iff found
  | getU64 => exact getU64_denotes_iff found
  | getU32 =>
    refine iff_of_true (fun value returned => ?_) trivial
    obtain ⟨v,read,rfl⟩ := map_ok returned
    exact getU32_denotes found read
  | getU32Array => exact getU32Array_denotes_iff found
  | getBigInt => exact getBigInt_denotes_iff found

/-- A getter for integers is exact on a path unless the path leads to an integer, or an array of
integers, that its cast changes. -/
theorem reads_exactly_iff (getter : IntegerGetter) (root : Node D) (dot_path : String) :
    getter.ReadsExactly root dot_path ↔
      ∀ node, navigate root dot_path = some node → getter.Holds node := by
  cases found : navigate root dot_path with
  | none =>
    obtain ⟨failure,threw⟩ : ∃ failure, getter.run root dot_path = .error failure := run_missing found
    refine iff_of_true ⟨fun value read => ?_,fun node same => ?_⟩ (fun node same => ?_)
    · rw [threw] at read
      cases read
    · rw [found] at same
      cases same
    · cases same
  | some node =>
    rw [readsExactly_found_iff found,denotes_iff getter found]
    constructor
    · rintro held other ⟨⟩
      exact held
    · intro held
      exact held node rfl

end IntegerGetter
end UavFanet.JsonLoader
