import UavFanet.GenCrypto
import UavFanet.Library.Numerals

/-! The numbers of a parameter file as texts: what the loader and the verifier read of those that
the generator writes. -/
namespace UavFanet
open Library CryptoParamsLoader GenCrypto

theorem digitValue_digitChar : ∀ d < 16, digitValue d.digitChar = some d := by decide

theorem digits_toDigits {base : Nat} (large : 1 < base) (small : base ≤ 16) (n : Nat) :
    digits base (Nat.toDigits base n) = some n := by
  apply Numerals.foldlM_toDigits large
  intro n d digit
  rw [digitValue_digitChar d (by omega)]
  simp [digit]

theorem toList_str (n : Int) : (toString n).toList =
    if n < 0 then '-'::Nat.toDigits 10 n.natAbs else Nat.toDigits 10 n.natAbs := by
  cases n with
  | ofNat m => simp [toString,Int.repr]
  | negSucc m => simp [toString,Int.repr]

theorem leading_digit : ∀ d < 10, 0 < d → d.digitChar ≠ '0' ∧ d.digitChar ≠ '-' := by decide

theorem magnitude_toDigits (n : Nat) : magnitude (Nat.toDigits 10 n) = some n := by
  rcases Nat.eq_zero_or_pos n with rfl | positive
  · rfl
  · obtain ⟨d,rest,nonzero,small,split⟩ := Numerals.toDigits_head (by decide : 1 < 10) positive
    have read := digits_toDigits (by decide : 1 < 10) (by decide) n
    rw [split] at read ⊢
    rw [magnitude]
    · exact read
    · intro x others same
      exact absurd (List.cons.inj same).1 (leading_digit d small nonzero).1

theorem cppInt_str (n : Int) : cppInt (toString n).toList = some n := by
  rw [toList_str]
  split
  · rename_i negative
    rw [cppInt,magnitude_toDigits]
    change some (-(n.natAbs : Int)) = some n
    rw [Int.ofNat_natAbs_of_nonpos (by omega),neg_neg]
  · rename_i natural
    have whole : (n.natAbs : Int) = n := by omega
    rcases Nat.eq_zero_or_pos n.natAbs with zero | positive
    · obtain rfl := Int.natAbs_eq_zero.mp zero
      rfl
    · obtain ⟨d,rest,nonzero,small,split⟩ := Numerals.toDigits_head (by decide : 1 < 10) positive
      have read := magnitude_toDigits n.natAbs
      rw [split] at read ⊢
      rw [cppInt,read]
      · exact congrArg some whole
      · intro others same
        exact absurd (List.cons.inj same).1 (leading_digit d small nonzero).2

theorem fromDecString_str (n : Int) : fromDecString (toString n) = .ok n := by
  have read := cppInt_str n
  have present : (toString n).isEmpty = false := by
    by_contra empty
    rw [Bool.not_eq_false,String.isEmpty_iff] at empty
    have digits := toList_str n
    rw [empty,String.toList_empty] at digits
    split at digits
    · cases digits
    · exact Nat.toDigits_ne_nil digits.symm
  rw [fromDecString,present,read]
  rfl

theorem digit_facts : ∀ d < 10, d.digitChar.isDigit = true ∧ d.digitChar.toNat-48 = d ∧
    d.digitChar ≠ '_' ∧ d.digitChar ≠ '-' ∧ d.digitChar ≠ '+' ∧
    VerifyCrypto.blank d.digitChar = false := by decide

theorem moreDigits_digits {text : List Char} (digits : ∀ c ∈ text, ∃ d < 10, c = Nat.digitChar d)
    (n : Nat) : VerifyCrypto.moreDigits n text =
      text.foldlM (fun n c => some (10*n+(c.toNat-48))) n := by
  induction text generalizing n with
  | nil => rfl
  | cons c text ih =>
    obtain ⟨⟨d,small,rfl⟩,rest⟩ := List.forall_mem_cons.mp digits
    obtain ⟨digit,-,plain,-⟩ := digit_facts d small
    rw [VerifyCrypto.moreDigits]
    · rw [if_pos digit,ih rest]
      rfl
    · intro head others same
      exact absurd same plain

theorem unsigned_toDigits (n : Nat) : VerifyCrypto.unsigned (Nat.toDigits 10 n) = some n := by
  have read : (Nat.toDigits 10 n).foldlM (fun n c => some (10*n+(c.toNat-48))) 0 = some n :=
    Numerals.foldlM_toDigits (by decide)
      (fun n d small => by rw [(digit_facts d small).2.1]) n
  have digits : ∀ c ∈ Nat.toDigits 10 n, ∃ d < 10, c = Nat.digitChar d :=
    fun c inside => Numerals.mem_toDigits (by decide) inside
  cases split : Nat.toDigits 10 n with
  | nil => exact absurd split Nat.toDigits_ne_nil
  | cons c rest =>
    rw [split] at read digits
    obtain ⟨⟨d,small,rfl⟩,others⟩ := List.forall_mem_cons.mp digits
    rw [VerifyCrypto.unsigned,if_pos (digit_facts d small).1,moreDigits_digits others,← read]
    simp

theorem strip_plain {text : List Char} (plain : ∀ c ∈ text, VerifyCrypto.blank c = false) :
    VerifyCrypto.strip text = text := by
  have dropped : ∀ others : List Char, (∀ c ∈ others, VerifyCrypto.blank c = false) →
      others.dropWhile VerifyCrypto.blank = others := by
    intro others each
    cases others with
    | nil => rfl
    | cons c rest => exact List.dropWhile_cons_of_neg (by simp [each c])
  have reversed : ∀ c ∈ text.reverse, VerifyCrypto.blank c = false :=
    fun c inside => plain c (List.mem_reverse.mp inside)
  rw [VerifyCrypto.strip,dropped text plain,dropped text.reverse reversed,List.reverse_reverse]

theorem int_str (n : Int) : VerifyCrypto.int (str n) = .ok n := by
  have plain : ∀ c ∈ Nat.toDigits 10 n.natAbs, VerifyCrypto.blank c = false := by
    intro c inside
    obtain ⟨d,small,rfl⟩ := Numerals.mem_toDigits (by decide : 1 < 10) inside
    exact (digit_facts d small).2.2.2.2.2
  have read : VerifyCrypto.signed (VerifyCrypto.strip (toString n).toList) = some n := by
    rw [toList_str]
    split
    · rename_i negative
      rw [strip_plain (List.forall_mem_cons.mpr ⟨by decide,plain⟩),VerifyCrypto.signed,
        unsigned_toDigits,Option.map_some]
      exact congrArg some (by omega)
    · rename_i natural
      rw [strip_plain plain]
      obtain ⟨c,rest,split⟩ := List.exists_cons_of_ne_nil (Nat.toDigits_ne_nil : Nat.toDigits 10 n.natAbs ≠ [])
      have whole := unsigned_toDigits n.natAbs
      obtain ⟨d,small,rfl⟩ := Numerals.mem_toDigits (by decide : 1 < 10)
        (split ▸ List.mem_cons_self : c ∈ Nat.toDigits 10 n.natAbs)
      obtain ⟨-,-,-,minus,plus,-⟩ := digit_facts d small
      rw [split] at whole ⊢
      rw [VerifyCrypto.signed,whole,Option.map_some]
      · exact congrArg some (by omega)
      · intro others same
        exact absurd (List.cons.inj same).1 minus
      · intro others same
        exact absurd (List.cons.inj same).1 plus
  simp only [str,VerifyCrypto.int,read]

/-- One step of reading hexadecimal digits. -/
def hexStep (n : Nat) (c : Char) : Option Nat :=
  (digitValue c).bind fun d => if d < 16 then some (16*n+d) else none

theorem hexStep_digitChar (n : Nat) {d : Nat} (small : d < 16) :
    hexStep n d.digitChar = some (16*n+d) := by
  rw [hexStep,digitValue_digitChar d small,Option.bind_some,if_pos small]

theorem hex_facts : ∀ d < 16,
    String.utf8EncodeChar d.digitChar = [UInt8.ofNat d.digitChar.toNat] ∧
      hexDigit (UInt8.ofNat d.digitChar.toNat) = some (UInt8.ofNat d) := by decide

theorem length_digits {text : List Char} (digits : ∀ c ∈ text, ∃ d < 16, c = Nat.digitChar d) :
    (text.flatMap String.utf8EncodeChar).length = text.length := by
  induction text with
  | nil => rfl
  | cons c text ih =>
    obtain ⟨⟨d,small,rfl⟩,rest⟩ := List.forall_mem_cons.mp digits
    obtain ⟨encoded,-⟩ := hex_facts d small
    rw [List.flatMap_cons,encoded,List.singleton_append,List.length_cons,ih rest,List.length_cons]

theorem hexBytes_digits : ∀ text : List Char, (∀ c ∈ text, ∃ d < 16, c = Nat.digitChar d) →
    text.length%2 = 0 → ∀ n, ∃ read, hexBytes (text.flatMap String.utf8EncodeChar) = .ok read ∧
      2*read.length = text.length ∧ text.foldlM hexStep n = some (BigEndian.decodeFrom n read)
  | [],_,_,n => ⟨[],rfl,rfl,rfl⟩
  | [_],_,odd,_ => by simp at odd
  | high::low::text,digits,even,n => by
    obtain ⟨⟨h,h_small,is_high⟩,after⟩ := List.forall_mem_cons.mp digits
    obtain ⟨⟨l,l_small,is_low⟩,rest⟩ := List.forall_mem_cons.mp after
    obtain ⟨high_byte,high_digit⟩ := hex_facts h h_small
    obtain ⟨low_byte,low_digit⟩ := hex_facts l l_small
    rw [← is_high] at high_byte high_digit
    rw [← is_low] at low_byte low_digit
    obtain ⟨read,parsed,length,value⟩ := hexBytes_digits text rest (by simp at even; omega)
      (n*256+(16*h+l))
    have byte : (16*UInt8.ofNat h+UInt8.ofNat l).toNat = 16*h+l := by
      simp
      omega
    refine ⟨(16*UInt8.ofNat h+UInt8.ofNat l)::read,?_,by simp; omega,?_⟩
    · simp only [List.flatMap_cons,high_byte,low_byte,List.singleton_append,hexBytes,hexByte,
        high_digit,low_digit,parsed,Result.ok_bind]
      rfl
    · have regrouped : 16*(16*n+h)+l = n*256+(16*h+l) := by omega
      have first := hexStep_digitChar n h_small
      have second := hexStep_digitChar (16*n+h) l_small
      rw [← is_high] at first
      rw [← is_low] at second
      simp only [List.foldlM_cons,first,second,Option.bind_eq_bind,Option.bind_some,regrouped,value,
        BigEndian.decodeFrom,List.foldl_cons,byte]

theorem format064x_digits {n : Nat} (small : n < 2^256) :
    (∀ c ∈ (format064x n).toList, ∃ d < 16, c = Nat.digitChar d) ∧
      (format064x n).toList.length = 64 ∧ (format064x n).toList.foldlM hexStep 0 = some n := by
  have width : (Nat.toDigits 16 n).length ≤ 64 :=
    (Nat.length_toDigits_le_iff (by decide) (by decide)).mpr (by omega)
  rw [format064x,String.toList_ofList,List.leftpad]
  refine ⟨?_,?_,?_⟩
  · intro c inside
    rcases List.mem_append.mp inside with padding | digit
    · exact ⟨0,by decide,List.eq_of_mem_replicate padding⟩
    · exact Numerals.mem_toDigits (by decide) digit
  · rw [List.length_append,List.length_replicate]
    omega
  · have padding : ∀ k : Nat, (List.replicate k '0').foldlM hexStep 0 = some 0 := by
      intro k
      induction k with
      | zero => rfl
      | succ k ih =>
        rw [List.replicate_succ,List.foldlM_cons]
        exact ih
    rw [List.foldlM_append,padding,Option.bind_eq_bind,Option.bind_some]
    exact Numerals.foldlM_toDigits (by decide) (fun n d small => hexStep_digitChar n small) n

theorem hexToAesKey_format {n : Nat} (small : n < 2^256) : ∃ key,
    hexToAesKey (format064x n) = .ok key ∧ BigEndian.decode key.toList = n ∧
      (bytes (format064x n)).length = 64 := by
  obtain ⟨digits,length,value⟩ := format064x_digits small
  obtain ⟨read,parsed,halved,same⟩ := hexBytes_digits _ digits (by omega) 0
  have size : (bytes (format064x n)).length = 64 := (length_digits digits).trans length
  have width : read.length = 32 := by omega
  obtain ⟨key,array,key_bytes⟩ := ByteUtils.readArray_whole width
  refine ⟨key,?_,?_,size⟩
  · rw [hexToAesKey,if_neg (not_not.mpr size)]
    simp only [bytes,parsed,Result.ok_bind,array]
  · rw [key_bytes]
    rw [value] at same
    exact (Option.some.inj same).symm

end UavFanet
