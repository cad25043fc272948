import Mathlib.Data.List.Induction
import Mathlib.Data.Nat.Basic
import Mathlib.Algebra.Order.Ring.Nat
import Mathlib.Tactic.Ring

/-! Fixed-width big-endian byte strings and the numbers they denote. -/
namespace UavFanet.Library.BigEndian

def decodeFrom (start : Nat) (bytes : List UInt8) : Nat :=
  bytes.foldl (fun acc byte => acc*256+byte.toNat) start

def decode (bytes : List UInt8) : Nat := decodeFrom 0 bytes

/-- The low `width` bytes of `n`, most significant first. -/
def encode : Nat → Nat → List UInt8
  | 0, _ => []
  | width+1, n => encode width (n/256) ++ [UInt8.ofNat (n%256)]

@[simp] theorem decode_nil : decode [] = 0 := rfl

@[simp] theorem length_encode (width n : Nat) : (encode width n).length = width := by
  induction width generalizing n with
  | zero => rfl
  | succ width ih => simp [encode,ih]

@[simp] theorem decode_concat (front : List UInt8) (byte : UInt8) :
    decode (front ++ [byte]) = decode front*256+byte.toNat := by
  simp [decode,decodeFrom]

@[simp] theorem decode_encode (width n : Nat) : decode (encode width n) = n%256^width := by
  induction width generalizing n with
  | zero => simp [encode,Nat.mod_one]
  | succ width ih =>
    have low : (UInt8.ofNat (n%256)).toNat = n%256 := by
      rw [UInt8.toNat_ofNat']
      omega
    rw [encode,decode_concat,ih,low,Nat.pow_succ',Nat.mod_mul]
    ring

theorem decode_lt (bytes : List UInt8) : decode bytes < 256^bytes.length := by
  induction bytes using List.reverseRecOn with
  | nil => simp
  | append_singleton front byte ih =>
    have last := byte.toNat_lt
    rw [decode_concat,List.length_append,List.length_singleton,Nat.pow_succ]
    omega

theorem encode_decode (bytes : List UInt8) : encode bytes.length (decode bytes) = bytes := by
  induction bytes using List.reverseRecOn with
  | nil => rfl
  | append_singleton front byte ih =>
    have last := byte.toNat_lt
    have quotient : (decode front*256+byte.toNat)/256 = decode front := by omega
    have remainder : (decode front*256+byte.toNat)%256 = byte.toNat := by omega
    rw [decode_concat,List.length_append,List.length_singleton,encode,quotient,remainder,ih,
      UInt8.ofNat_toNat]

theorem decode_injective {left right : List UInt8} (width : left.length = right.length)
    (same : decode left = decode right) : left = right := by
  rw [← encode_decode left,← encode_decode right,width,same]

/-- The first bytes are those of the quotient by what the other bytes hold. -/
theorem take_encode (front back n : Nat) :
    (encode (front+back) n).take front = encode front (n/256^back) := by
  induction back generalizing n with
  | zero => rw [Nat.pow_zero,Nat.div_one,Nat.add_zero,List.take_of_length_le (by simp)]
  | succ back ih =>
    rw [← Nat.add_assoc,encode,List.take_append_of_le_length (by simp),ih,Nat.div_div_eq_div_mul,
      Nat.pow_succ']

@[simp] theorem decode_padded (count : Nat) (bytes : List UInt8) :
    decode (List.replicate count 0 ++ bytes) = decode bytes := by
  induction count with
  | zero => rfl
  | succ count ih =>
    rw [List.replicate_succ,List.cons_append]
    simpa [decode,decodeFrom] using ih

theorem decode_cons (byte : UInt8) (rest : List UInt8) :
    decode (byte :: rest) = byte.toNat*256^rest.length+decode rest := by
  induction rest using List.reverseRecOn with
  | nil => simp [decode,decodeFrom]
  | append_singleton front last ih =>
    rw [← List.cons_append,decode_concat,ih,decode_concat,List.length_append,List.length_singleton,
      Nat.pow_succ]
    ring

/-- As few bytes as the number needs, one for zero. -/
def Minimal (bytes : List UInt8) : Prop :=
  bytes = [0] ∨ ∃ first rest, bytes = first :: rest ∧ first ≠ 0

instance : DecidablePred Minimal := fun bytes =>
  match bytes with
  | [] => isFalse (by simp [Minimal])
  | first :: rest => decidable_of_iff (first :: rest = [0] ∨ first ≠ 0) (by simp [Minimal])

end UavFanet.Library.BigEndian
