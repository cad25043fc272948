import UavFanet.CanonicalPackets
import UavFanet.NumberTexts
import UavFanet.ParameterFiles
import UavFanet.SlaveKeyDelivery

/-! The codecs of big integers, byte by byte as they are written: those of `BigIntOps`, of the
TEK, and of the slave keys that a handover delivers. Each pair of them is inverse. -/
namespace UavFanet
open Library CryptoParamsLoader

namespace BigInt

/-- The loop of `ToBytes` from the last byte to the first, with what is left over. -/
def writeBytes : Nat → Nat → ByteBuffer → Nat × ByteBuffer
  | 0,tmp,buf => (tmp,buf)
  | i+1,tmp,buf => writeBytes i (tmp >>> 8) (buf.set i (UInt8.ofNat (tmp &&& 0xFF)))

def toBytesLoop (n : Int) (bytes : Nat) : Result ByteBuffer :=
  if n < 0 then .error (.cryptoException "ToBytes: negative BigInt cannot be serialised")
  else
    let (tmp,buf) := writeBytes bytes n.toNat (List.replicate bytes 0)
    if tmp ≠ 0 then
      .error (.cryptoException ("ToBytes: BigInt does not fit in " ++ toString bytes ++ " bytes"))
    else .ok buf

def fromBytesLoop (buf : ByteBuffer) : Int :=
  (buf.foldl (fun result byte => result <<< 8 ||| byte.toNat) 0 : Nat)

/-- Lower case, without leading zeros. Negative numbers have no such text. -/
def toHexString (n : Int) : Result String :=
  if n = 0 then .ok "00"
  else if n < 0 then .error (.standardException "cpp_int::str")
  else .ok (String.ofList (Nat.toDigits 16 n.toNat))

/-- Without the `0x` that may come first. -/
def stripHexPrefix (s : List Char) : List Char :=
  match s with
  | '0' :: x :: rest => if x = 'x' ∨ x = 'X' then rest else s
  | _ => s

/-- The text of the second exception goes on with that of `cpp_int`. -/
def fromHexString (s : String) : Result Int :=
  if s.isEmpty then .error (.cryptoException "FromHexString: empty string")
  else
    match cppInt ('0' :: 'x' :: stripHexPrefix s.toList) with
    | some n => .ok n
    | none => .error (.cryptoException "FromHexString: parse error: ")

theorem writeBytes_eq (i tmp : Nat) (buf : ByteBuffer) (room : i ≤ buf.length) :
    writeBytes i tmp buf = (tmp/256^i,BigEndian.encode i tmp ++ buf.drop i) := by
  induction i generalizing tmp buf with
  | zero => simp [writeBytes,BigEndian.encode]
  | succ i ih =>
    have quotient : tmp >>> 8 = tmp/256 := Nat.shiftRight_eq_div_pow tmp 8
    have remainder : tmp &&& 0xFF = tmp%256 := Nat.and_two_pow_sub_one_eq_mod tmp 8
    have tail : (buf.set i (UInt8.ofNat (tmp%256))).drop i =
        UInt8.ofNat (tmp%256) :: buf.drop (i+1) := by
      rw [List.drop_eq_getElem_cons (by simpa using room),List.getElem_set_self,
        List.drop_set_of_lt (by omega)]
    rw [writeBytes,quotient,remainder,ih _ _ (by simp; omega),tail,Nat.div_div_eq_div_mul,
      Nat.pow_succ',BigEndian.encode,List.append_assoc,List.singleton_append]

theorem toBytesLoop_eq (n : Int) (bytes : Nat) : toBytesLoop n bytes = toBytes n bytes := by
  rw [toBytesLoop,toBytes,writeBytes_eq bytes n.toNat _ (by simp)]
  simp

theorem fromBytesLoop_eq (buf : ByteBuffer) : fromBytesLoop buf = fromBytes buf := by
  have step : (fun (result : Nat) (byte : UInt8) => result <<< 8 ||| byte.toNat) =
      fun result byte => result*256+byte.toNat := by
    funext result byte
    rw [← Nat.shiftLeft_add_eq_or_of_lt byte.toNat_lt,Nat.shiftLeft_eq]
  rw [fromBytesLoop,step]
  rfl

theorem toBytes_ok {n : Int} {width : Nat} {buf : ByteBuffer} :
    toBytes n width = .ok buf ↔ buf.length = width ∧ fromBytes buf = n := by
  constructor
  · intro written
    rw [toBytes] at written
    split_ifs at written with negative large
    rw [not_not] at large
    have fits : n.toNat < 256^width := (Nat.div_eq_zero_iff.mp large).resolve_left (by positivity)
    rw [← Except.ok.inj written,fromBytes,BigEndian.decode_encode,Nat.mod_eq_of_lt fits]
    exact ⟨BigEndian.length_encode ..,by omega⟩
  · rintro ⟨rfl,rfl⟩
    rw [fromBytes,toBytes_fits (BigEndian.decode_lt buf),BigEndian.encode_decode]

end BigInt

/-- `to_bytes`: the hexadecimal digits, two to a byte. -/
def Apps.KdcApplication.toBytes (v : Int) : Result ByteBuffer := do
  let hex ← BigInt.toHexString v
  let hex := if (bytes hex).length%2 ≠ 0 then "0" ++ hex else hex
  CryptoParamsLoader.hexBytes (bytes hex)

/-- `%02x` of a byte. -/
def hexPair (byte : UInt8) : List Char :=
  [(byte.toNat/16).digitChar,(byte.toNat%16).digitChar]

/-- `from_bytes`: the digits of the bytes, without the zeros in front of them. -/
def Apps.UavApplication.fromBytes (b : ByteBuffer) : Result Int :=
  match (b.flatMap hexPair).dropWhile (· == '0') with
  | [] => .ok 0
  | hex => BigInt.fromHexString (String.ofList hex)

section Hexadecimal

theorem digits_hexStep (text : List Char) : digits 16 text = text.foldlM hexStep 0 := rfl

theorem hexPairs_value (b : ByteBuffer) (n : Nat) :
    (b.flatMap hexPair).foldlM hexStep n = some (BigEndian.decodeFrom n b) := by
  induction b generalizing n with
  | nil => rfl
  | cons byte rest ih =>
    have small := byte.toNat_lt
    have regrouped : 16*(16*n+byte.toNat/16)+byte.toNat%16 = n*256+byte.toNat := by omega
    rw [List.flatMap_cons,hexPair,List.cons_append,List.singleton_append,List.foldlM_cons,
      hexStep_digitChar n (by omega),Option.bind_eq_bind,Option.bind_some,List.foldlM_cons,
      hexStep_digitChar _ (by omega),Option.bind_eq_bind,Option.bind_some,regrouped,ih]
    rfl

/-- Zeros in front change nothing. -/
theorem dropZeros_value (text : List Char) :
    (text.dropWhile (· == '0')).foldlM hexStep 0 = text.foldlM hexStep 0 := by
  induction text with
  | nil => rfl
  | cons c text ih =>
    by_cases zero : c = '0'
    · rw [zero,List.dropWhile_cons_of_pos (by decide),ih,List.foldlM_cons]
      rfl
    · rw [List.dropWhile_cons_of_neg (by simpa using zero)]

theorem fromHexString_value {c : Char} {rest : List Char} {n : Nat} (leading : c ≠ '0')
    (value : (c::rest).foldlM hexStep 0 = some n) :
    BigInt.fromHexString (String.ofList (c::rest)) = .ok (n : Int) := by
  have present : (String.ofList (c::rest)).isEmpty = false := by
    by_contra empty
    rw [Bool.not_eq_false,String.isEmpty_iff] at empty
    simpa using congrArg String.toList empty
  have kept : BigInt.stripHexPrefix (c::rest) = c::rest := by
    rw [BigInt.stripHexPrefix]
    intro x others same
    exact absurd (List.cons.inj same).1 leading
  have read : cppInt ('0' :: 'x' :: c :: rest) = some (n : Int) := by
    rw [cppInt,magnitude,if_pos (.inl rfl),digits_hexStep,value]
    · rfl
    · intro others same
      exact absurd (List.cons.inj same).1 (by decide)
  rw [BigInt.fromHexString,present,String.toList_ofList,kept,read]
  rfl

/-- The hexadecimal way reads the same integer. -/
theorem Apps.UavApplication.fromBytes_eq (b : ByteBuffer) :
    fromBytes b = .ok (BigInt.fromBytes b) := by
  have value := (dropZeros_value (b.flatMap hexPair)).trans (hexPairs_value b 0)
  have leading := List.head?_dropWhile_not (· == '0') (b.flatMap hexPair)
  rw [fromBytes]
  cases digits : (b.flatMap hexPair).dropWhile (· == '0') with
  | nil =>
    rw [digits] at value
    have zero : BigEndian.decode b = 0 := (Option.some.inj value).symm
    rw [BigInt.fromBytes,zero]
    rfl
  | cons c rest =>
    rw [digits] at value leading
    exact fromHexString_value (by simpa using leading) value

theorem hexBytes_encode {text : List Char} {n : Nat}
    (digits : ∀ c ∈ text, ∃ d < 16, c = Nat.digitChar d) (even : text.length%2 = 0)
    (value : text.foldlM hexStep 0 = some n) :
    CryptoParamsLoader.hexBytes (text.flatMap String.utf8EncodeChar) =
      .ok (BigEndian.encode (text.length/2) n) := by
  obtain ⟨read,parsed,halved,same⟩ := hexBytes_digits text digits even 0
  rw [value] at same
  obtain rfl : n = BigEndian.decode read := Option.some.inj same
  rw [parsed,← halved,Nat.mul_div_cancel_left _ (by omega),BigEndian.encode_decode]

/-- Writing by way of the text makes the bytes of the number, as many as its digits need. -/
theorem Apps.KdcApplication.toBytes_eq (v : Int) : toBytes v = hexBytes v := by
  rw [toBytes,BigInt.toHexString,hexBytes]
  by_cases zero : v = 0
  · rw [zero]
    rfl
  rw [if_neg zero]
  by_cases negative : v < 0
  · rw [if_pos negative,if_pos negative]
    rfl
  obtain ⟨n,rfl⟩ := Int.eq_ofNat_of_zero_le (not_lt.mp negative)
  rw [if_neg negative,if_neg negative,Int.toNat_natCast,Result.ok_bind]
  have digits : ∀ c ∈ Nat.toDigits 16 n, ∃ d < 16, c = Nat.digitChar d :=
    fun c inside => Numerals.mem_toDigits (by decide) inside
  have value : (Nat.toDigits 16 n).foldlM hexStep 0 = some n :=
    Numerals.foldlM_toDigits (by decide) (fun n d small => hexStep_digitChar n small) n
  have size : (bytes (String.ofList (Nat.toDigits 16 n))).length = (Nat.toDigits 16 n).length := by
    rw [bytes,String.toList_ofList,length_digits digits]
  by_cases odd : (Nat.toDigits 16 n).length%2 = 0
  · simp only [size,odd,ne_eq,not_true_eq_false,if_false]
    rw [bytes,String.toList_ofList,hexBytes_encode digits odd value]
    congr 2
    omega
  · simp only [size,ne_eq,odd,not_false_eq_true,if_true]
    rw [bytes,String.toList_append,String.toList_ofList,String.toList_ofList]
    have padded : ∀ c ∈ '0' :: Nat.toDigits 16 n, ∃ d < 16, c = Nat.digitChar d :=
      List.forall_mem_cons.mpr ⟨⟨0,by decide,rfl⟩,digits⟩
    refine (hexBytes_encode padded (by rw [List.length_cons]; omega) value).trans ?_
    rw [List.length_cons]

end Hexadecimal

section Widths

open SlaveKeyDelivery

theorem byteCount_positive (n : Nat) : 0 < byteCount n := by
  have some_digit : 0 < (Nat.toDigits 16 n).length := Nat.length_toDigits_pos
  rw [byteCount]
  omega

/-- Two hexadecimal digits to a byte make as many bytes as the bits do. -/
theorem byteCount_eq (n : Nat) : byteCount n = Packet.wireBytes n := by
  rcases Nat.eq_zero_or_pos n with rfl | positive
  · rfl
  obtain ⟨width,exact_width⟩ := Nat.exists_eq_add_of_lt (byteCount_positive n)
  rw [Nat.zero_add] at exact_width
  rw [exact_width,eq_comm,Packet.wireBytes_eq_iff positive]
  refine ⟨?_,(byteCount_le (by omega)).mp exact_width.le⟩
  rcases Nat.eq_zero_or_pos width with rfl | longer
  · exact positive
  · by_contra short
    have narrower := (byteCount_le longer).mpr (not_le.mp short)
    omega

end Widths

/-- What is written is read back, what is read is written back, and whatever else is thrown out. -/
structure InverseCodecs {V C : Type} (Value : V → Prop) (Code : C → Prop) (write : V → Result C)
    (read : C → Result V) : Prop where
  throws : ∀ v, (∃ failure, write v = .error failure) ↔ ¬ Value v
  written : ∀ v c, write v = .ok c → Code c ∧ read c = .ok v
  read_back : ∀ c, Code c → read c >>= write = .ok c

namespace InverseCodecs

variable {V C : Type} {Value : V → Prop} {Code : C → Prop} {write : V → Result C} {denote : C → V}

/-- A writer that writes just the codes that denote a value. -/
theorem of_denote (writes : ∀ v c, write v = .ok c ↔ Code c ∧ denote c = v)
    (value : ∀ v, Value v ↔ ∃ c, Code c ∧ denote c = v) :
    InverseCodecs Value Code write fun c => .ok (denote c) where
  throws v := by
    have written : (∃ c, write v = .ok c) ↔ Value v := by
      rw [value]
      exact exists_congr fun c => writes v c
    rw [← written]
    cases write v with
    | error failure => simp
    | ok c => simp
  written v c ok := by
    obtain ⟨code,same⟩ := (writes v c).mp ok
    exact ⟨code,congrArg Except.ok same⟩
  read_back c code := (writes (denote c) c).mpr ⟨code,rfl⟩

end InverseCodecs

theorem BigInt.fromBytes_range (n : Int) (width : Nat) :
    0 ≤ n ∧ n < 256^width ↔ ∃ buf : ByteBuffer, buf.length = width ∧ fromBytes buf = n := by
  constructor
  · rintro ⟨natural,below⟩
    obtain ⟨n,rfl⟩ := Int.eq_ofNat_of_zero_le natural
    have fits : n < 256^width := by exact_mod_cast below
    exact ⟨_,toBytes_ok.mp (toBytes_fits fits)⟩
  · rintro ⟨buf,rfl,rfl⟩
    have below := BigEndian.decode_lt buf
    exact ⟨Int.natCast_nonneg _,by rw [fromBytes]; exact_mod_cast below⟩

theorem CrtManager.tekToBigInt_range (T : Int) :
    0 ≤ T ∧ T < 256^32 ↔ ∃ tek : AesGcmKey, True ∧ tekToBigInt tek = T := by
  rw [BigInt.fromBytes_range T 32]
  constructor
  · rintro ⟨buf,size,rfl⟩
    exact ⟨⟨buf.toArray,by simpa using size⟩,trivial,rfl⟩
  · rintro ⟨tek,-,rfl⟩
    exact ⟨tek.toList,tek.length_toList,rfl⟩

section Shortest

open Apps SlaveKeyDelivery

/-- The KDC writes the shortest bytes that denote a number. -/
theorem Apps.KdcApplication.toBytes_ok {v : Int} {b : ByteBuffer} :
    toBytes v = .ok b ↔ BigEndian.Minimal b ∧ BigInt.fromBytes b = v := by
  have shortest (b : ByteBuffer) : byteCount (BigEndian.decode b) = b.length ↔
      BigEndian.Minimal b := by
    rw [byteCount_eq]
    exact Packet.wireBytes_iff_minimal b
  rw [toBytes_eq,KdcApplication.hexBytes]
  by_cases negative : v < 0
  · rw [if_pos negative]
    constructor
    · intro impossible
      cases impossible
    · rintro ⟨-,rfl⟩
      exact absurd negative (not_lt.mpr (Int.natCast_nonneg _))
  obtain ⟨n,rfl⟩ := Int.eq_ofNat_of_zero_le (not_lt.mp negative)
  have fits : n < 256^byteCount n := (byteCount_le (byteCount_positive n)).mp le_rfl
  rw [if_neg negative,Int.toNat_natCast,← byteCount]
  constructor
  · intro written
    obtain rfl : BigEndian.encode (byteCount n) n = b := Except.ok.inj written
    have value : BigEndian.decode (BigEndian.encode (byteCount n) n) = n := by
      rw [BigEndian.decode_encode,Nat.mod_eq_of_lt fits]
    rw [← shortest,BigInt.fromBytes,value,BigEndian.length_encode]
    exact ⟨rfl,rfl⟩
  · rintro ⟨minimal,same⟩
    obtain rfl : BigEndian.decode b = n := Int.ofNat.inj same
    rw [(shortest b).mpr minimal,BigEndian.encode_decode]

end Shortest

theorem Apps.KdcApplication.toBytes_range (v : Int) :
    0 ≤ v ↔ ∃ b, BigEndian.Minimal b ∧ BigInt.fromBytes b = v := by
  constructor
  · intro natural
    have written : ∃ b, toBytes v = .ok b := by
      rw [toBytes_eq,hexBytes,if_neg (not_lt.mpr natural)]
      exact ⟨_,rfl⟩
    obtain ⟨b,written⟩ := written
    exact ⟨b,toBytes_ok.mp written⟩
  · rintro ⟨b,-,rfl⟩
    exact Int.natCast_nonneg _

/-- The integers of a width and the byte strings of that length, the integers of 256 bits and the
keys, and the natural numbers and their shortest byte strings; and a longer one is read as well. -/
theorem integer_codecs_inverse :
    (∀ width, InverseCodecs (fun n : Int => 0 ≤ n ∧ n < 256^width) (·.length = width)
      (BigInt.toBytesLoop · width) fun buf => .ok (BigInt.fromBytesLoop buf)) ∧
    InverseCodecs (fun T : Int => 0 ≤ T ∧ T < 256^32) (fun _ => True) CrtManager.tekFromBigInt
      (fun tek => .ok (CrtManager.tekToBigInt tek)) ∧
    InverseCodecs (fun v : Int => 0 ≤ v) BigEndian.Minimal Apps.KdcApplication.toBytes
      Apps.UavApplication.fromBytes ∧
    ∀ b, Apps.UavApplication.fromBytes b = .ok (BigInt.fromBytesLoop b) := by
  refine ⟨?_,?_,?_,?_⟩
  · intro width
    simp only [BigInt.toBytesLoop_eq,BigInt.fromBytesLoop_eq]
    exact .of_denote (fun n buf => BigInt.toBytes_ok) fun n => BigInt.fromBytes_range n width
  · refine .of_denote (fun T tek => ?_) CrtManager.tekToBigInt_range
    rw [tekFromBigInt_ok,true_and,eq_comm]
  · rw [funext Apps.UavApplication.fromBytes_eq]
    exact .of_denote (fun v b => Apps.KdcApplication.toBytes_ok) Apps.KdcApplication.toBytes_range
  · intro b
    rw [BigInt.fromBytesLoop_eq,Apps.UavApplication.fromBytes_eq]

end UavFanet
