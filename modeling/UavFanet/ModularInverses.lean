import UavFanet.BigInt
import Mathlib.RingTheory.Coprime.Lemmas

/-! `ModInverse` on every integer: for a negative one the remainders of the loop change their sign
with every step, and the loop may end at `-1`. -/
namespace UavFanet.BigInt

/-- What `ModInverse` is to do with `a` and `m`. -/
structure InverseFound (a m : Int) : Prop where
  inverse : Int.gcd a m = 1 → ∃ b, modInverse a m = .ok b ∧ 0 ≤ b ∧ b < m ∧ a*b ≡ 1 [ZMOD m]
  throws : (∃ failure, modInverse a m = .error failure) ↔ Int.gcd a m ≠ 1

/-- Two remainders of opposite signs, with coefficients that add up to the modulus. -/
structure Opposite (m : Nat) (old_r r : Int) (old_s s : Nat) : Prop where
  decreasing : r.natAbs < old_r.natAbs
  above : 0 < old_r → r ≤ 0
  below : old_r < 0 → 0 ≤ r
  positive : 0 < s
  product : old_r.natAbs*s+r.natAbs*old_s = m
  first : old_s = 0 → 0 < old_r
  ended : r = 0 → 2*old_s ≤ s ∧ (0 < old_r → 2*old_s < s)

theorem tdiv_opposite {old_r r : Int} (above : 0 < old_r → r ≤ 0) (below : old_r < 0 → 0 ≤ r) :
    old_r.tdiv r = -((old_r.natAbs/r.natAbs : Nat) : Int) := by
  have size : (old_r.tdiv r).natAbs = old_r.natAbs/r.natAbs := Int.natAbs_tdiv old_r r
  have sign : old_r.tdiv r ≤ 0 := by
    by_cases negative : old_r < 0
    · have flipped : 0 ≤ (-old_r).tdiv r := Int.tdiv_nonneg (by omega) (below negative)
      rw [Int.neg_tdiv] at flipped
      omega
    · by_cases zero : old_r = 0
      · simp [zero]
      · exact Int.tdiv_nonpos_of_nonneg_of_nonpos (by omega) (above (by omega))
  rw [← size]
  omega

theorem tmod_nonpos {a : Int} (b : Int) (nonpos : a ≤ 0) : a.tmod b ≤ 0 := by
  have flipped := Int.tmod_nonneg (a := -a) b (by omega)
  rw [Int.neg_tmod] at flipped
  omega

namespace Opposite

variable {m : Nat} {old_r r : Int} {old_s s : Nat}

/-- One pass of the loop: the signs swap, and the coefficients only grow. -/
theorem next (opposite : Opposite m old_r r old_s s) (nonzero : r ≠ 0) :
    Opposite m r (old_r.tmod r) s (old_s+old_r.natAbs/r.natAbs*s) := by
  have divisor : 0 < r.natAbs := Int.natAbs_pos.mpr nonzero
  have remainder : (old_r.tmod r).natAbs = old_r.natAbs%r.natAbs := Int.natAbs_tmod old_r r
  have split := Nat.div_add_mod old_r.natAbs r.natAbs
  have smaller := opposite.decreasing
  have positive := opposite.positive
  refine ⟨?_,?_,?_,?_,?_,?_,?_⟩
  · rw [remainder]
    exact Nat.mod_lt _ divisor
  · intro up
    apply tmod_nonpos
    have := opposite.above
    omega
  · intro down
    apply Int.tmod_nonneg
    have := opposite.below
    omega
  · have quotient : 0 < old_r.natAbs/r.natAbs := Nat.div_pos (by omega) divisor
    have := Nat.mul_pos quotient positive
    omega
  · rw [remainder,← opposite.product]
    calc r.natAbs*(old_s+old_r.natAbs/r.natAbs*s)+old_r.natAbs%r.natAbs*s
        = (r.natAbs*(old_r.natAbs/r.natAbs)+old_r.natAbs%r.natAbs)*s+r.natAbs*old_s := by ring
      _ = old_r.natAbs*s+r.natAbs*old_s := by rw [split]
  · omega
  · intro vanished
    have exact_quotient : r.natAbs*(old_r.natAbs/r.natAbs) = old_r.natAbs := by
      rw [vanished] at remainder
      simp only [Int.natAbs_zero] at remainder
      omega
    have quotient : 2 ≤ old_r.natAbs/r.natAbs := by
      by_contra small
      have : old_r.natAbs/r.natAbs ≤ 1 := by omega
      have := Nat.mul_le_mul_left r.natAbs this
      omega
    have doubled : 2*s ≤ old_r.natAbs/r.natAbs*s := Nat.mul_le_mul_right s quotient
    refine ⟨by omega,fun up => ?_⟩
    have later : old_s ≠ 0 := by
      intro start
      have := opposite.above (opposite.first start)
      omega
    omega

/-- The loop ends with a coefficient in the lower half of the modulus, and not in its middle where
it ends above zero. -/
theorem final {e_s e_old : Int} (opposite : Opposite m old_r r old_s s) (old_eq : e_old = old_s)
    (new_eq : e_s = s) :
    0 ≤ (inverseLoop old_r r e_old e_s).2 ∧
      2*((inverseLoop old_r r e_old e_s).1.natAbs*(inverseLoop old_r r e_old e_s).2) ≤ m ∧
      (0 < (inverseLoop old_r r e_old e_s).1 →
        2*((inverseLoop old_r r e_old e_s).1.natAbs*(inverseLoop old_r r e_old e_s).2) < m) := by
  induction old_r, r, e_old, e_s using inverseLoop.induct generalizing old_s s with
  | case1 old_r e_old e_s =>
    subst old_eq new_eq
    rw [inverseLoop,if_pos rfl]
    obtain ⟨half,inside⟩ := opposite.ended rfl
    have product := opposite.product
    rw [Int.natAbs_zero,Nat.zero_mul,Nat.add_zero] at product
    refine ⟨by omega,?_,fun up => ?_⟩
    · have scaled := Nat.mul_le_mul_left old_r.natAbs half
      have : (old_r.natAbs : Int)*(2*old_s) ≤ m := by
        rw [← product]
        exact_mod_cast scaled
      linarith
    · have scaled := Nat.mul_lt_mul_of_pos_left (inside up) (Int.natAbs_pos.mpr (ne_of_gt up))
      have : (old_r.natAbs : Int)*(2*old_s) < m := by
        rw [← product]
        exact_mod_cast scaled
      linarith
  | case2 old_r r e_old e_s nonzero ih =>
    rw [inverseLoop,if_neg nonzero]
    rw [sub_tdiv_mul] at ih ⊢
    apply ih (opposite.next nonzero) new_eq
    rw [tdiv_opposite opposite.above opposite.below,old_eq,new_eq]
    push_cast
    ring

end Opposite

theorem opposite_start {a : Int} {m : Nat} (negative : a < 0) (large : 1 < m) :
    Opposite m m (a.tmod m) 0 1 where
  decreasing := by
    rw [Int.natAbs_tmod,Int.natAbs_natCast]
    exact Nat.mod_lt _ (by omega)
  above _ := tmod_nonpos _ (le_of_lt negative)
  below down := absurd down (by omega)
  positive := by decide
  product := by simp
  first _ := by omega
  ended _ := ⟨by decide,fun _ => by decide⟩

theorem inverseLoop_negative {a m : Int} (negative : a < 0) (large : 1 < m) :
    0 ≤ (inverseLoop a m 1 0).2 ∧
      2*((inverseLoop a m 1 0).1.natAbs*(inverseLoop a m 1 0).2) ≤ m ∧
      (0 < (inverseLoop a m 1 0).1 →
        2*((inverseLoop a m 1 0).1.natAbs*(inverseLoop a m 1 0).2) < m) := by
  obtain ⟨n,rfl⟩ := Int.eq_ofNat_of_zero_le (show 0 ≤ m by omega)
  have nonzero : (n : Int) ≠ 0 := by omega
  rw [inverseLoop,if_neg nonzero,sub_tdiv_mul]
  exact (opposite_start negative (by omega)).final rfl (by simp)

theorem modInverse_error {a m : Int} (large : 1 < m) (other : (inverseLoop a m 1 0).1 ≠ 1) :
    modInverse a m =
      .error (.cryptoException "ModInverse: gcd != 1, inverse does not exist") := by
  simp only [modInverse,not_le.mpr large,if_false,ne_eq,other,not_false_eq_true,if_true]

/-- A negative number is inverted if and only if its inverse lies in the lower half. -/
theorem ends_at_one_iff {a m : Int} (negative : a < 0) (large : 1 < m)
    (coprime : Int.gcd a m = 1) :
    (inverseLoop a m 1 0).1 = 1 ↔ ∃ k, 0 < k ∧ 2*k < m ∧ a*k ≡ 1 [ZMOD m] := by
  obtain ⟨size,bezout⟩ := modInverse_spec a m
  obtain ⟨natural,half,inside⟩ := inverseLoop_negative negative large
  rw [size,coprime] at half inside
  simp only [Nat.cast_one,one_mul] at half inside
  generalize ended : inverseLoop a m 1 0 = e at size bezout natural half inside ⊢
  constructor
  · intro one
    rw [one] at bezout
    have inverse : a*e.2 ≡ 1 [ZMOD m] := by
      rw [mul_comm]
      exact bezout.symm
    refine ⟨e.2,?_,inside (by omega),inverse⟩
    by_contra zero
    have vanished : e.2 = 0 := by omega
    rw [vanished,mul_zero] at inverse
    have := Int.le_of_dvd one_pos (Int.modEq_zero_iff_dvd.mp inverse.symm)
    omega
  · rintro ⟨k,positive,below,inverse⟩
    by_contra other
    have minus : e.1 = -1 := by omega
    rw [minus] at bezout
    have opposed : (k+e.2)*a ≡ 0 [ZMOD m] := by
      have added := inverse.add bezout.symm
      rwa [mul_comm a k,← add_mul,add_neg_cancel] at added
    have divides : m ∣ k+e.2 :=
      (Int.isCoprime_iff_gcd_eq_one.mpr coprime).symm.dvd_of_dvd_mul_right
        (Int.modEq_zero_iff_dvd.mp opposed)
    have := Int.le_of_dvd (by omega) divides
    omega

theorem inverseFound_of_one {a m : Int} (large : 1 < m) (one : (inverseLoop a m 1 0).1 = 1) :
    InverseFound a m := by
  obtain ⟨returned,inverse⟩ := modInverse_of_one large one
  have coprime : Int.gcd a m = 1 := by
    rw [← (modInverse_spec a m).1,one]
    rfl
  refine ⟨fun _ => ⟨_,returned,Int.emod_nonneg _ (by omega),Int.emod_lt_of_pos _ (by omega),inverse⟩,?_⟩
  rw [returned]
  simp [coprime]

/-- `ModInverse` is right on every number that is not negative, and throws for want of an inverse
whenever there is none. A negative number with an inverse in the upper half it refuses, too. -/
theorem modInverse_found_iff (a m : Int) (large : 1 < m) :
    InverseFound a m ↔
      0 ≤ a ∨ Int.gcd a m ≠ 1 ∨ ∃ k, 0 < k ∧ 2*k < m ∧ a*k ≡ 1 [ZMOD m] := by
  have size := (modInverse_spec a m).1
  by_cases coprime : Int.gcd a m = 1
  · by_cases natural : 0 ≤ a
    · have one : (inverseLoop a m 1 0).1 = 1 := by
        have nonneg : 0 ≤ (inverseLoop a m 1 0).1 := inverseLoop_nonneg natural (by omega)
        omega
      exact ⟨fun _ => .inl natural,fun _ => inverseFound_of_one large one⟩
    · have ended := ends_at_one_iff (by omega) large coprime
      constructor
      · intro found
        refine .inr (.inr (ended.mp ?_))
        by_contra other
        exact found.throws.mp ⟨_,modInverse_error large other⟩ coprime
      · rintro (nonneg | shared | lower)
        · exact absurd nonneg natural
        · exact absurd coprime shared
        · exact inverseFound_of_one large (ended.mpr lower)
  · have other : (inverseLoop a m 1 0).1 ≠ 1 := by
      intro one
      rw [one] at size
      exact coprime size.symm
    refine ⟨fun _ => .inr (.inl coprime),fun _ => ⟨fun one => absurd one coprime,?_⟩⟩
    exact ⟨fun _ => coprime,fun _ => ⟨_,modInverse_error large other⟩⟩

theorem modInverse_found_seven : InverseFound (-2) 7 :=
  (modInverse_found_iff (-2) 7 (by decide)).mpr (.inr (.inr ⟨3,by decide,by decide,by decide⟩))

/-- Modulo 3, `-1` is its own inverse, 2: `ModInverse` throws. -/
theorem modInverse_minus_one : Int.gcd (-1) 3 = 1 ∧ (-1)*2 ≡ 1 [ZMOD 3] ∧
    modInverse (-1) 3 =
      .error (.cryptoException "ModInverse: gcd != 1, inverse does not exist") ∧
    ¬ InverseFound (-1) 3 := by
  have threw : modInverse (-1) 3 =
      .error (.cryptoException "ModInverse: gcd != 1, inverse does not exist") := by
    decide +kernel
  refine ⟨by decide,by decide,threw,fun found => ?_⟩
  exact found.throws.mp ⟨_,threw⟩ (by decide)

end UavFanet.BigInt
