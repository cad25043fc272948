import Mathlib.Data.List.GetD
import Mathlib.Data.Vector.Basic
import Mathlib.Tactic.Common

/-! A ring of the last `n` written values, and the history that it holds. -/
namespace UavFanet.Library.RingBuffer

variable {α : Type} {n : Nat}

/-- Counting backwards from the slot before `head`, the ring holds the newest values of
`history` (newest first); slots never written hold `free`. -/
def Holds (ring : Vector α n) (head : Fin n) (free : α) (history : List α) : Prop :=
  ∀ (i : Nat) (bound : i < n), ring[i] = history.getD ((head+n-1-i)%n) free

private theorem age {head i : Nat} (head_bound : head < n) (bound : i < n) :
    (head+n-1-i)%n = if i < head then head-1-i else head+n-1-i := by
  split
  · rw [show head+n-1-i = head-1-i+n by omega,Nat.add_mod_right,Nat.mod_eq_of_lt (by omega)]
  · exact Nat.mod_eq_of_lt (by omega)

theorem empty (head : Fin n) (free : α) : Holds (Vector.replicate n free) head free [] := by
  intro i bound
  simp

theorem push {ring : Vector α n} {head : Fin n} {free : α} {history : List α}
    (held : Holds ring head free history) (x : α) (next : Fin n)
    (advanced : next.val = (head.val+1)%n) :
    Holds (ring.set head x) next free (x::history) := by
  intro i bound
  have head_bound := head.isLt
  have next_value : next.val = if head.val+1 = n then 0 else head.val+1 := by
    rw [advanced]
    split
    · rename_i wrapped
      rw [wrapped,Nat.mod_self]
    · exact Nat.mod_eq_of_lt (by omega)
  by_cases written : i = head
  · have newest : (next.val+n-1-i)%n = 0 := by
      rw [age next.isLt bound]
      split_ifs at * <;> omega
    rw [newest]
    simp [written]
  · have older : (next.val+n-1-i)%n = (head.val+n-1-i)%n+1 := by
      rw [age next.isLt bound,age head_bound bound]
      split_ifs at * <;> omega
    rw [older,List.getD_cons_succ,← held i bound]
    exact Vector.getElem_set_ne _ _ (Ne.symm written)

/-- A value is in the ring iff it is among the last `n` written, or marks a free slot. -/
theorem mem_iff {ring : Vector α n} {head : Fin n} {free : α} {history : List α}
    (held : Holds ring head free history) (x : α) :
    x ∈ ring ↔ x ∈ history.take n ∨ (x = free ∧ history.length < n) := by
  have head_bound := head.isLt
  constructor
  · intro member
    obtain ⟨i,bound,rfl⟩ := Vector.mem_iff_getElem.mp member
    rw [held i bound]
    have young : (head.val+n-1-i)%n < n := Nat.mod_lt _ (by omega)
    by_cases inside : (head.val+n-1-i)%n < history.length
    · left
      rw [List.getD_eq_getElem _ _ inside]
      exact List.mem_take_iff_getElem.mpr ⟨_,by omega,rfl⟩
    · right
      exact ⟨List.getD_eq_default _ _ (by omega),by omega⟩
  · intro recent
    obtain ⟨k,young,same⟩ : ∃ k, k < n ∧ history.getD k free = x := by
      rcases recent with member | ⟨rfl,short⟩
      · obtain ⟨k,bound,same⟩ := List.mem_take_iff_getElem.mp member
        exact ⟨k,by omega,by rw [List.getD_eq_getElem _ _ (by omega),same]⟩
      · exact ⟨history.length,short,List.getD_eq_default _ _ (by omega)⟩
    refine Vector.mem_iff_getElem.mpr
      ⟨if k < head then head-1-k else head+n-1-k,by split_ifs <;> omega,?_⟩
    rw [held _ (by split_ifs <;> omega),← same,
      age head_bound (by split_ifs <;> omega)]
    congr 1
    split_ifs <;> omega

end UavFanet.Library.RingBuffer
