import Mathlib.Data.Nat.Bitwise
import Mathlib.Tactic.Common

/-! A 64-bit window below a moving top: bit `k` stands for the number `top-k`. -/
namespace UavFanet.Library.BitWindow

def bit (bitmap : UInt64) (k : Nat) : Bool := bitmap.toNat.testBit k

/-- The window after its top moved up, with the new top marked. -/
def advance (bitmap distance : UInt64) : UInt64 :=
  (if distance ≥ 64 then 0 else bitmap <<< distance) ||| 1

def mark (bitmap offset : UInt64) : UInt64 := bitmap ||| (1 <<< offset)

def marked (bitmap offset : UInt64) : Bool := bitmap &&& (1 <<< offset) != 0

private theorem one_shifted {offset : UInt64} (inside : offset.toNat < 64) :
    ((1 : UInt64) <<< offset).toNat = 2^offset.toNat := by
  have bound : 2^offset.toNat < 2^64 := Nat.pow_lt_pow_right (by decide) inside
  rw [UInt64.toNat_shiftLeft,Nat.mod_eq_of_lt inside,UInt64.toNat_one,Nat.one_shiftLeft,
    Nat.mod_eq_of_lt bound]

theorem marked_eq {bitmap offset : UInt64} (inside : offset.toNat < 64) :
    marked bitmap offset = bit bitmap offset.toNat := by
  have value : (bitmap &&& (1 <<< offset)).toNat =
      2^offset.toNat*(bitmap.toNat.testBit offset.toNat).toNat := by
    rw [UInt64.toNat_and,one_shifted inside,Nat.and_two_pow,Nat.mul_comm]
  rw [marked,bit,Bool.eq_iff_iff,bne_iff_ne,ne_eq,← UInt64.toNat_inj,value]
  cases bitmap.toNat.testBit offset.toNat <;> simp

theorem bit_mark {bitmap offset : UInt64} (inside : offset.toNat < 64) (k : Nat) :
    bit (mark bitmap offset) k = (bit bitmap k || decide (k = offset.toNat)) := by
  rw [mark,bit,UInt64.toNat_or,one_shifted inside,Nat.testBit_or,Nat.testBit_two_pow,bit]
  simp only [eq_comm]

theorem bit_advance {bitmap distance : UInt64} {k : Nat} (inside : k < 64) :
    bit (advance bitmap distance) k =
      (decide (k = 0) || (decide (distance.toNat ≤ k) && bit bitmap (k-distance.toNat))) := by
  have one : Nat.testBit 1 k = decide (k = 0) := by
    simpa [eq_comm] using @Nat.testBit_two_pow 0 k
  rw [advance,bit,UInt64.toNat_or,Nat.testBit_or,UInt64.toNat_one,one,Bool.or_comm]
  congr 1
  split
  · rename_i far
    have beyond : 64 ≤ distance.toNat := UInt64.le_iff_toNat_le.mp far
    simp [show ¬ distance.toNat ≤ k by omega]
  · rename_i near
    have within : distance.toNat < 64 := by
      have := UInt64.le_iff_toNat_le.not.mp near
      simpa using this
    rw [UInt64.toNat_shiftLeft,Nat.mod_eq_of_lt within,Nat.testBit_mod_two_pow,
      Nat.testBit_shiftLeft,bit]
    simp [inside]

end UavFanet.Library.BitWindow
