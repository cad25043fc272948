import UavFanet.CryptoParamsLoader

/-! `HexToAesKey` and `HexToGlobalKey` on every string of bytes. -/
namespace UavFanet.HexKeys
open Library UavFanet.ByteUtils UavFanet.CryptoParamsLoader

/-- The two functions but for the text of their exception. -/
def hexToKey (expected : String) (hex : ByteBuffer) : Result Key256 := do
  if hex.length ≠ 64 then .error (.cryptoException expected)
  let key ← hexBytes hex
  readArray 32 key 0

def hexToAesKey (hex : ByteBuffer) : Result AesGcmKey :=
  hexToKey ("HexToAesKey: expected 64 hex chars, got " ++ toString hex.length) hex

def hexToGlobalKey (hex : ByteBuffer) : Result Key256 :=
  hexToKey "HexToGlobalKey: expected 64 hex chars" hex

/-- The loader's function on the bytes of its text. -/
theorem hexToAesKey_bytes (hex : String) :
    CryptoParamsLoader.hexToAesKey hex = hexToAesKey (bytes hex) := rfl

def isHexDigit (byte : UInt8) : Bool := (hexDigit byte).isSome

/-- The number that hexadecimal digits denote. -/
def numeral (hex : ByteBuffer) : Nat :=
  hex.foldl (fun n byte => 16*n+((hexDigit byte).getD 0).toNat) 0

/-- 64 hexadecimal digits are read as the 32 bytes of their number, and every other string is
refused with a `CryptoException`. -/
structure Strict (parse : ByteBuffer → Result Key256) (hex : ByteBuffer) : Prop where
  digits : hex.length = 64 → hex.all isHexDigit = true →
    ∃ key, parse hex = .ok key ∧ BigEndian.decode key.toList = numeral hex
  others : ¬ (hex.length = 64 ∧ hex.all isHexDigit = true) →
    ∃ text, parse hex = .error (.cryptoException text)

theorem offset_lt {byte low high base : UInt8} (inside : low ≤ byte ∧ byte ≤ high)
    (start : base ≤ low) (close : high.toNat < base.toNat+16) : (byte-base).toNat < 16 := by
  have above := UInt8.le_iff_toNat_le.mp (UInt8.le_trans start inside.1)
  have below := UInt8.le_iff_toNat_le.mp inside.2
  rw [UInt8.toNat_sub_of_le _ _ (UInt8.le_iff_toNat_le.mpr above)]
  omega

theorem hexDigit_lt {byte d : UInt8} (digit : hexDigit byte = some d) : d.toNat < 16 := by
  unfold hexDigit at digit
  split at digit
  · rename_i decimal
    cases digit
    exact offset_lt decimal (by decide) (by decide)
  split at digit
  · rename_i small
    cases digit
    exact offset_lt small (by decide) (by decide)
  split at digit
  · rename_i capital
    cases digit
    exact offset_lt capital (by decide) (by decide)
  · cases digit

theorem hexBytes_digits : ∀ hex : ByteBuffer, hex.all isHexDigit = true → hex.length%2 = 0 →
    ∀ n, ∃ read, hexBytes hex = .ok read ∧ 2*read.length = hex.length ∧
      BigEndian.decodeFrom n read =
        hex.foldl (fun n byte => 16*n+((hexDigit byte).getD 0).toNat) n
  | [],_,_,n => ⟨[],rfl,rfl,rfl⟩
  | [_],_,odd,_ => by simp at odd
  | high::low::rest,digits,even,n => by
    simp only [List.all_cons,Bool.and_eq_true] at digits
    obtain ⟨h,high_digit⟩ := Option.isSome_iff_exists.mp digits.1
    obtain ⟨l,low_digit⟩ := Option.isSome_iff_exists.mp digits.2.1
    have h_small := hexDigit_lt high_digit
    have l_small := hexDigit_lt low_digit
    obtain ⟨read,parsed,length,value⟩ := hexBytes_digits rest digits.2.2 (by simp at even; omega)
      (n*256+(16*h.toNat+l.toNat))
    have byte : (16*h+l).toNat = 16*h.toNat+l.toNat := by
      rw [UInt8.toNat_add,UInt8.toNat_mul]
      simp only [UInt8.reduceToNat]
      omega
    refine ⟨(16*h+l)::read,?_,by simp; omega,?_⟩
    · simp only [hexBytes,hexByte,high_digit,low_digit,parsed,Result.ok_bind]
      rfl
    · have regrouped : 16*(16*n+h.toNat)+l.toNat = n*256+(16*h.toNat+l.toNat) := by omega
      rw [BigEndian.decodeFrom,List.foldl_cons,byte]
      rw [BigEndian.decodeFrom] at value
      simp only [List.foldl_cons,high_digit,low_digit,Option.getD_some,regrouped,value]

/-- The only exception of the conversion is that of `std::stoul`. -/
theorem hexByte_error {high low : UInt8} {failure : Failure}
    (threw : hexByte high low = .error failure) : failure = .standardException "stoul" := by
  unfold hexByte at threw
  split at threw
  · cases threw
  · cases threw
  · split at threw
    · cases threw
    · split at threw
      · cases threw
      · cases threw
        rfl
  · cases threw
    rfl

theorem hexBytes_cases : ∀ hex : ByteBuffer, hex.length%2 = 0 →
    (∃ read, hexBytes hex = .ok read ∧ 2*read.length = hex.length) ∨
      hexBytes hex = .error (.standardException "stoul")
  | [],_ => .inl ⟨[],rfl,rfl⟩
  | [_],odd => by simp at odd
  | high::low::rest,even => by
    cases parsed : hexByte high low with
    | error failure =>
      right
      rw [hexBytes,parsed,hexByte_error parsed]
      rfl
    | ok byte =>
      rcases hexBytes_cases rest (by simp at even; omega) with ⟨read,others,length⟩ | threw
      · left
        refine ⟨byte::read,?_,by simp; omega⟩
        rw [hexBytes,parsed,others]
        rfl
      · right
        rw [hexBytes,parsed,threw]
        rfl

section Parsers

variable {expected : String} {hex : ByteBuffer}

theorem hexToKey_size (other : hex.length ≠ 64) :
    hexToKey expected hex = .error (.cryptoException expected) := by
  rw [hexToKey,if_pos other]
  rfl

theorem hexToKey_digits (size : hex.length = 64) (digits : hex.all isHexDigit = true) :
    ∃ key, hexToKey expected hex = .ok key ∧ BigEndian.decode key.toList = numeral hex := by
  obtain ⟨read,parsed,length,value⟩ := hexBytes_digits hex digits (by omega) 0
  obtain ⟨key,array,key_bytes⟩ := readArray_whole (show read.length = 32 by omega)
  refine ⟨key,?_,?_⟩
  · rw [hexToKey,if_neg (not_not.mpr size)]
    simp only [parsed,Result.ok_bind,array]
  · rw [key_bytes]
    exact value

/-- 64 bytes are never refused by an exception of the program's own. -/
theorem hexToKey_never_refuses (size : hex.length = 64) (text : String) :
    hexToKey expected hex ≠ .error (.cryptoException text) := by
  intro refused
  rw [hexToKey,if_neg (not_not.mpr size)] at refused
  rcases hexBytes_cases hex (by omega) with ⟨read,parsed,length⟩ | threw
  · obtain ⟨key,array,-⟩ := readArray_whole (show read.length = 32 by omega)
    simp only [parsed,Result.ok_bind,array] at refused
    cases refused
  · rw [threw] at refused
    cases refused

theorem strict_hexToKey_iff : Strict (hexToKey expected) hex ↔
    hex.length ≠ 64 ∨ hex.all isHexDigit = true := by
  constructor
  · intro strict
    by_contra wrong
    push Not at wrong
    obtain ⟨text,refused⟩ := strict.others (fun both => wrong.2 both.2)
    exact hexToKey_never_refuses wrong.1 text refused
  · intro well
    by_cases size : hex.length = 64
    · have digits : hex.all isHexDigit = true := well.resolve_left (not_not.mpr size)
      exact ⟨fun _ _ => hexToKey_digits size digits,fun other => absurd ⟨size,digits⟩ other⟩
    · exact ⟨fun same => absurd same size,fun _ => ⟨_,hexToKey_size size⟩⟩

end Parsers

/-- The text of the exception may depend on the string. -/
theorem Strict.congr {parse other : ByteBuffer → Result Key256} {hex : ByteBuffer}
    (same : parse hex = other hex) : Strict parse hex ↔ Strict other hex := by
  constructor
  · rintro ⟨digits,others⟩
    rw [same] at digits others
    exact ⟨digits,others⟩
  · rintro ⟨digits,others⟩
    rw [← same] at digits others
    exact ⟨digits,others⟩

theorem strict_hexToAesKey_iff {hex : ByteBuffer} :
    Strict hexToAesKey hex ↔ hex.length ≠ 64 ∨ hex.all isHexDigit = true := by
  rw [← strict_hexToKey_iff]
  exact Strict.congr rfl

/-- Both functions are strict on strings of another length and on strings of digits, and on no
other one: what `std::stoul` makes of each pair of bytes stands. -/
theorem hex_keys_strict_iff (hex : ByteBuffer) :
    (Strict hexToAesKey hex ↔ hex.length ≠ 64 ∨ hex.all isHexDigit = true) ∧
      (Strict hexToGlobalKey hex ↔ hex.length ≠ 64 ∨ hex.all isHexDigit = true) :=
  ⟨strict_hexToAesKey_iff,strict_hexToKey_iff⟩

def laxKey : ByteBuffer := bytes ("0x+7 9ag" ++ String.ofList (List.replicate 56 '0'))

def blankKey : ByteBuffer := bytes (String.ofList (List.replicate 64 ' '))

/-- A key with a prefix, a sign, a blank and a stray letter in it is another key, and one of blanks
is an exception of the standard library. -/
theorem lax_keys :
    (∃ key, hexToAesKey laxKey = .ok key ∧ key.toList.take 5 = [0,7,9,10,0]) ∧
    ¬ Strict hexToAesKey laxKey ∧
    hexToGlobalKey blankKey = .error (.standardException "stoul") ∧
    ¬ Strict hexToGlobalKey blankKey := by
  have lax : ¬ (laxKey.length ≠ 64 ∨ laxKey.all isHexDigit = true) := by decide +kernel
  have blank : ¬ (blankKey.length ≠ 64 ∨ blankKey.all isHexDigit = true) := by decide +kernel
  have read : ((hexToAesKey laxKey).map (·.toList.take 5)) = .ok [0,7,9,10,0] := by decide +kernel
  refine ⟨?_,?_,by decide +kernel,?_⟩
  · cases parsed : hexToAesKey laxKey with
    | error failure =>
      rw [parsed] at read
      cases read
    | ok key =>
      rw [parsed] at read
      exact ⟨key,rfl,Except.ok.inj read⟩
  · rwa [← strict_hexToAesKey_iff] at lax
  · rwa [← strict_hexToKey_iff] at blank

end UavFanet.HexKeys
