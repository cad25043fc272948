import UavFanet.Library.BigEndian
import UavFanet.Library.ByteLayout
import UavFanet.Types

/-! `ByteUtils`: integers written to and read from byte buffers, big-endian.
A read outside its buffer has no result. -/
namespace UavFanet.ByteUtils
open Library

def writeU16BE (v : UInt16) : ByteBuffer := BigEndian.encode 2 v.toNat

def writeU32BE (v : UInt32) : ByteBuffer := BigEndian.encode 4 v.toNat

def writeU64BE (v : UInt64) : ByteBuffer := BigEndian.encode 8 v.toNat

def read (buffer : ByteBuffer) (offset count : Nat) : Result ByteBuffer :=
  match ByteLayout.slice buffer offset count with
  | some bytes => .ok bytes
  | none => .error .outOfRange

def readU8 (buffer : ByteBuffer) (offset : Nat) : Result UInt8 := do
  let bytes ← read buffer offset 1
  return UInt8.ofNat (BigEndian.decode bytes)

def readU16BE (buffer : ByteBuffer) (offset : Nat) : Result UInt16 := do
  let bytes ← read buffer offset 2
  return UInt16.ofNat (BigEndian.decode bytes)

def readU32BE (buffer : ByteBuffer) (offset : Nat) : Result UInt32 := do
  let bytes ← read buffer offset 4
  return UInt32.ofNat (BigEndian.decode bytes)

def readU64BE (buffer : ByteBuffer) (offset : Nat) : Result UInt64 := do
  let bytes ← read buffer offset 8
  return UInt64.ofNat (BigEndian.decode bytes)

/-- `memcpy` of `n` bytes into a `std::array`. -/
def readArray (n : Nat) (buffer : ByteBuffer) (offset : Nat) : Result (Vector UInt8 n) :=
  match present : ByteLayout.slice buffer offset n with
  | some bytes => .ok ⟨bytes.toArray,by simpa using ByteLayout.length_slice present⟩
  | none => .error .outOfRange

@[simp] theorem length_writeU16BE (v : UInt16) : (writeU16BE v).length = 2 :=
  BigEndian.length_encode 2 _

@[simp] theorem length_writeU32BE (v : UInt32) : (writeU32BE v).length = 4 :=
  BigEndian.length_encode 4 _

@[simp] theorem length_writeU64BE (v : UInt64) : (writeU64BE v).length = 8 :=
  BigEndian.length_encode 8 _

section Within

variable (buffer : ByteBuffer) (offset : Nat)

theorem read_within (count : Nat) (within : offset+count ≤ buffer.length) :
    ∃ bytes, read buffer offset count = .ok bytes := by
  rw [read,ByteLayout.slice_within within]
  exact ⟨_,rfl⟩

theorem readU8_within (within : offset+1 ≤ buffer.length) : ∃ v, readU8 buffer offset = .ok v := by
  obtain ⟨bytes,present⟩ := read_within buffer offset _ within
  rw [readU8,present]
  exact ⟨_,rfl⟩

theorem readU16BE_within (within : offset+2 ≤ buffer.length) :
    ∃ v, readU16BE buffer offset = .ok v := by
  obtain ⟨bytes,present⟩ := read_within buffer offset _ within
  rw [readU16BE,present]
  exact ⟨_,rfl⟩

theorem readU32BE_within (within : offset+4 ≤ buffer.length) :
    ∃ v, readU32BE buffer offset = .ok v := by
  obtain ⟨bytes,present⟩ := read_within buffer offset _ within
  rw [readU32BE,present]
  exact ⟨_,rfl⟩

theorem readU64BE_within (within : offset+8 ≤ buffer.length) :
    ∃ v, readU64BE buffer offset = .ok v := by
  obtain ⟨bytes,present⟩ := read_within buffer offset _ within
  rw [readU64BE,present]
  exact ⟨_,rfl⟩

theorem readArray_within {n : Nat} (within : offset+n ≤ buffer.length) :
    ∃ v, readArray n buffer offset = .ok v := by
  rw [readArray]
  split
  · exact ⟨_,rfl⟩
  · rename_i missing
    rw [ByteLayout.slice_within within] at missing
    cases missing

end Within

section Prefix

variable (buffer : ByteBuffer) {offset size : Nat}

theorem read_take {count : Nat} (within : offset+count ≤ size) :
    read (buffer.take size) offset count = read buffer offset count := by
  rw [read,ByteLayout.slice_take buffer within,read]

theorem readU8_take (within : offset+1 ≤ size) :
    readU8 (buffer.take size) offset = readU8 buffer offset := by
  rw [readU8,read_take buffer within,readU8]

theorem readU16BE_take (within : offset+2 ≤ size) :
    readU16BE (buffer.take size) offset = readU16BE buffer offset := by
  rw [readU16BE,read_take buffer within,readU16BE]

theorem readU32BE_take (within : offset+4 ≤ size) :
    readU32BE (buffer.take size) offset = readU32BE buffer offset := by
  rw [readU32BE,read_take buffer within,readU32BE]

theorem readU64BE_take (within : offset+8 ≤ size) :
    readU64BE (buffer.take size) offset = readU64BE buffer offset := by
  rw [readU64BE,read_take buffer within,readU64BE]

theorem readArray_take {n : Nat} (within : offset+n ≤ size) :
    readArray n (buffer.take size) offset = readArray n buffer offset := by
  have same := ByteLayout.slice_take buffer within
  unfold readArray
  split
  · rename_i bytes present
    rw [same] at present
    split
    · rename_i others found
      obtain rfl : bytes = others := Option.some.inj (present.symm.trans found)
      rfl
    · rename_i missing
      cases present.symm.trans missing
  · rename_i missing
    rw [same] at missing
    split
    · rename_i bytes present
      cases missing.symm.trans present
    · rfl

end Prefix

section Fields

variable {fields : List ByteBuffer} {offset i : Nat} (start : ByteLayout.offsetOf fields i = offset)
include start

theorem read_field {field : ByteBuffer} {count : Nat} (present : fields[i]? = some field)
    (size : field.length = count) : read fields.flatten offset count = .ok field := by
  rw [read,← start,← size,ByteLayout.slice_flatten present]

theorem readU8_field {v : UInt8} (present : fields[i]? = some [v]) :
    readU8 fields.flatten offset = .ok v := by
  have byte : read fields.flatten offset 1 = .ok [v] := read_field start present rfl
  simp [readU8,byte,BigEndian.decode,BigEndian.decodeFrom,pure,Except.pure]

theorem readU16BE_field {v : UInt16} (present : fields[i]? = some (writeU16BE v)) :
    readU16BE fields.flatten offset = .ok v := by
  have bound := v.toNat_lt
  rw [readU16BE,read_field start present (length_writeU16BE v),Result.ok_bind,writeU16BE,
    BigEndian.decode_encode,Nat.mod_eq_of_lt (by omega),UInt16.ofNat_toNat]
  rfl

theorem readU32BE_field {v : UInt32} (present : fields[i]? = some (writeU32BE v)) :
    readU32BE fields.flatten offset = .ok v := by
  have bound := v.toNat_lt
  rw [readU32BE,read_field start present (length_writeU32BE v),Result.ok_bind,writeU32BE,
    BigEndian.decode_encode,Nat.mod_eq_of_lt (by omega),UInt32.ofNat_toNat]
  rfl

theorem readU64BE_field {v : UInt64} (present : fields[i]? = some (writeU64BE v)) :
    readU64BE fields.flatten offset = .ok v := by
  have bound := v.toNat_lt
  rw [readU64BE,read_field start present (length_writeU64BE v),Result.ok_bind,writeU64BE,
    BigEndian.decode_encode,Nat.mod_eq_of_lt (by omega),UInt64.ofNat_toNat]
  rfl

theorem readArray_field {n : Nat} {v : Vector UInt8 n} (present : fields[i]? = some v.toList) :
    readArray n fields.flatten offset = .ok v := by
  have whole : ByteLayout.slice fields.flatten offset n = some v.toList := by
    have found := ByteLayout.slice_flatten present
    rwa [start,Vector.length_toList] at found
  rw [readArray]
  split
  · rename_i bytes found
    obtain rfl : bytes = v.toList := Option.some.inj (found.symm.trans whole)
    exact congrArg Except.ok (Vector.toArray_inj.mp (Array.toArray_toList))
  · rename_i missing
    cases missing.symm.trans whole

end Fields

section Holds

variable {buffer : ByteBuffer} {offset : Nat}

theorem read_holds {count : Nat} {bytes : ByteBuffer} (present : read buffer offset count = .ok bytes) :
    bytes.length = count ∧ ByteLayout.Holds buffer offset bytes := by
  rw [read] at present
  split at present
  · rename_i found
    cases present
    exact ⟨ByteLayout.length_slice found,ByteLayout.holds_of_slice found⟩
  · cases present

theorem readU8_holds {v : UInt8} (present : readU8 buffer offset = .ok v) :
    ByteLayout.Holds buffer offset [v] := by
  obtain ⟨bytes,found,value⟩ := Result.bind_ok.mp present
  obtain ⟨size,holds⟩ := read_holds found
  obtain ⟨byte,rfl⟩ := List.length_eq_one_iff.mp size
  have same : v = byte := by
    cases value
    simp [BigEndian.decode,BigEndian.decodeFrom]
  rwa [same]

theorem readU16BE_holds {v : UInt16} (present : readU16BE buffer offset = .ok v) :
    ByteLayout.Holds buffer offset (writeU16BE v) := by
  obtain ⟨bytes,found,value⟩ := Result.bind_ok.mp present
  obtain ⟨size,holds⟩ := read_holds found
  have bound := BigEndian.decode_lt bytes
  rw [size] at bound
  cases value
  rwa [writeU16BE,UInt16.toNat_ofNat_of_lt' bound,← size,BigEndian.encode_decode]

theorem readU32BE_holds {v : UInt32} (present : readU32BE buffer offset = .ok v) :
    ByteLayout.Holds buffer offset (writeU32BE v) := by
  obtain ⟨bytes,found,value⟩ := Result.bind_ok.mp present
  obtain ⟨size,holds⟩ := read_holds found
  have bound := BigEndian.decode_lt bytes
  rw [size] at bound
  cases value
  rwa [writeU32BE,UInt32.toNat_ofNat_of_lt' bound,← size,BigEndian.encode_decode]

theorem readU64BE_holds {v : UInt64} (present : readU64BE buffer offset = .ok v) :
    ByteLayout.Holds buffer offset (writeU64BE v) := by
  obtain ⟨bytes,found,value⟩ := Result.bind_ok.mp present
  obtain ⟨size,holds⟩ := read_holds found
  have bound := BigEndian.decode_lt bytes
  rw [size] at bound
  cases value
  rwa [writeU64BE,UInt64.toNat_ofNat_of_lt' bound,← size,BigEndian.encode_decode]

theorem readArray_holds {n : Nat} {v : Vector UInt8 n} (present : readArray n buffer offset = .ok v) :
    ByteLayout.Holds buffer offset v.toList := by
  unfold readArray at present
  split at present
  · rename_i bytes found
    cases present
    exact ByteLayout.holds_of_slice found
  · cases present

theorem readU16BE_of_holds {v : UInt16} (holds : ByteLayout.Holds buffer offset (writeU16BE v)) :
    readU16BE buffer offset = .ok v := by
  have bound := v.toNat_lt
  rw [ByteLayout.Holds,length_writeU16BE] at holds
  rw [readU16BE,read,holds,Result.ok_bind,writeU16BE,BigEndian.decode_encode,
    Nat.mod_eq_of_lt (by omega),UInt16.ofNat_toNat]
  rfl

theorem writeU32BE_injective {v w : UInt32} (same : writeU32BE v = writeU32BE w) : v = w := by
  have v_bound := v.toNat_lt
  have w_bound := w.toNat_lt
  have decoded := congrArg BigEndian.decode same
  rw [writeU32BE,writeU32BE,BigEndian.decode_encode,BigEndian.decode_encode,
    Nat.mod_eq_of_lt (by omega),Nat.mod_eq_of_lt (by omega)] at decoded
  exact UInt32.toNat.inj decoded

theorem readArray_whole {n : Nat} (size : buffer.length = n) :
    ∃ v : Vector UInt8 n, readArray n buffer 0 = .ok v ∧ v.toList = buffer := by
  obtain ⟨v,present⟩ := readArray_within (n := n) buffer 0 (by omega)
  have whole := (ByteLayout.holds_whole (by simp [size])).mp (readArray_holds present)
  exact ⟨v,present,whole.symm⟩

end Holds
end UavFanet.ByteUtils
