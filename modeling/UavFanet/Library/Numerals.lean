import Mathlib.Data.Nat.Basic
import Mathlib.Data.List.Basic

/-! Numerals in a positional base: what a reader of digits makes of the digits of a number. -/
namespace UavFanet.Library.Numerals

variable {base : Nat} (large : 1 < base)
include large

theorem toDigits_induction {motive : Nat → List Char → Prop}
    (digit : ∀ d < base, motive d [d.digitChar])
    (more : ∀ n d, 0 < n → d < base → motive n (Nat.toDigits base n) →
      motive (base*n+d) (Nat.toDigits base n ++ [d.digitChar])) (n : Nat) :
    motive n (Nat.toDigits base n) := by
  induction n using Nat.strong_induction_on with
  | _ n ih =>
    rw [Nat.toDigits_eq_if large]
    split
    · exact digit n ‹_›
    · rename_i wide
      have whole : base*(n/base)+n%base = n := Nat.div_add_mod n base
      have positive : 0 < n/base := Nat.div_pos (by omega) (by omega)
      have last := more (n/base) (n%base) positive (Nat.mod_lt n (by omega))
        (ih _ (Nat.div_lt_self (by omega) large))
      rwa [whole] at last

theorem mem_toDigits {n : Nat} {c : Char} (inside : c ∈ Nat.toDigits base n) :
    ∃ d < base, c = d.digitChar := by
  induction n using toDigits_induction large with
  | digit d small => exact ⟨d,small,List.mem_singleton.mp inside⟩
  | more n d _ small ih =>
    rcases List.mem_append.mp inside with front | last
    · exact ih front
    · exact ⟨d,small,List.mem_singleton.mp last⟩

theorem toDigits_head {n : Nat} (positive : 0 < n) :
    ∃ d rest, 0 < d ∧ d < base ∧ Nat.toDigits base n = d.digitChar::rest := by
  induction n using toDigits_induction large with
  | digit d small => exact ⟨d,[],positive,small,rfl⟩
  | more n d above small ih =>
    obtain ⟨first,rest,nonzero,digit,split⟩ := ih above
    exact ⟨first,rest ++ [d.digitChar],nonzero,digit,by rw [split,List.cons_append]⟩

/-- A reader that takes in one digit after another reads the number. -/
theorem foldlM_toDigits {step : Nat → Char → Option Nat}
    (steps : ∀ n, ∀ d < base, step n d.digitChar = some (base*n+d)) (n : Nat) :
    (Nat.toDigits base n).foldlM step 0 = some n := by
  induction n using toDigits_induction large with
  | digit d small => simp [steps 0 d small]
  | more n d _ small ih =>
    rw [List.foldlM_append,ih]
    simp [steps n d small]

end UavFanet.Library.Numerals
