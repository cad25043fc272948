import Mathlib.Data.Int.ModEq
import Mathlib.FieldTheory.Finite.Basic
import Mathlib.RingTheory.Coprime.Lemmas
import Mathlib.Tactic.Linarith
import Mathlib.Tactic.Ring

/-! Integer congruences over lists of pairwise coprime moduli, and powers that
return their base modulo a prime. -/
namespace UavFanet.Library.Congruence

theorem isCoprime_prod {m : ℤ} {moduli : List ℤ} (coprime : ∀ k ∈ moduli, IsCoprime m k) :
    IsCoprime m moduli.prod := by
  induction moduli with
  | nil => exact isCoprime_one_right
  | cons k rest ih =>
    rw [List.prod_cons]
    exact (coprime k (by simp)).mul_right (ih (fun j member => coprime j (by simp [member])))

theorem prod_dvd {moduli : List ℤ} {a : ℤ} (coprime : moduli.Pairwise IsCoprime)
    (each : ∀ m ∈ moduli, m ∣ a) : moduli.prod ∣ a := by
  induction moduli with
  | nil => simp
  | cons m rest ih =>
    rw [List.pairwise_cons] at coprime
    have head : m ∣ a := each m (by simp)
    have tail : rest.prod ∣ a := ih coprime.2 (fun k member => each k (by simp [member]))
    rw [List.prod_cons]
    exact (isCoprime_prod coprime.1).mul_dvd head tail

theorem cofactor {ι : Type} {modulus : ι → ℤ} {xs : List ι}
    (coprime : xs.Pairwise (fun a b => IsCoprime (modulus a) (modulus b))) {x : ι}
    (member : x ∈ xs) :
    ∃ rest, (xs.map modulus).prod = modulus x*rest ∧ IsCoprime (modulus x) rest := by
  induction xs with
  | nil => simp at member
  | cons y ys ih =>
    rw [List.pairwise_cons] at coprime
    rw [List.map_cons,List.prod_cons]
    rcases List.mem_cons.mp member with rfl | inside
    · refine ⟨(ys.map modulus).prod,rfl,isCoprime_prod ?_⟩
      intro m found
      obtain ⟨z,present,rfl⟩ := List.mem_map.mp found
      exact coprime.1 z present
    · obtain ⟨rest,split,apart⟩ := ih coprime.2 inside
      exact ⟨modulus y*rest,by rw [split]; ring,(coprime.1 x inside).symm.mul_right apart⟩

theorem modEq_prod {moduli : List ℤ} {a b : ℤ} (coprime : moduli.Pairwise IsCoprime)
    (each : ∀ m ∈ moduli, a ≡ b [ZMOD m]) : a ≡ b [ZMOD moduli.prod] :=
  Int.modEq_iff_dvd.mpr (prod_dvd coprime (fun m member => (each m member).dvd))

theorem eq_of_modEq {a b n : ℤ} (same : a ≡ b [ZMOD n]) (a0 : 0 ≤ a) (an : a < n)
    (b0 : 0 ≤ b) (bn : b < n) : a = b := by
  have reduced : a % n = b % n := same
  rwa [Int.emod_eq_of_lt a0 an,Int.emod_eq_of_lt b0 bn] at reduced

section Sums

variable {ι : Type} {modulus : ι → ℤ}

/-- Terms that every other modulus divides add up to one term modulo its own modulus. -/
theorem sum_modEq (term : ι → ℤ) {xs : List ι}
    (apart : xs.Pairwise (fun a b => modulus a ∣ term b ∧ modulus b ∣ term a))
    {x : ι} (member : x ∈ xs) : (xs.map term).sum ≡ term x [ZMOD modulus x] := by
  induction xs with
  | nil => simp at member
  | cons y rest ih =>
    rw [List.pairwise_cons] at apart
    rw [List.map_cons,List.sum_cons]
    rcases List.mem_cons.mp member with rfl | inside
    · have vanish : modulus x ∣ (rest.map term).sum :=
        List.dvd_sum (by
          intro value found
          obtain ⟨z,present,rfl⟩ := List.mem_map.mp found
          exact (apart.1 z present).1)
      simpa using (Int.ModEq.refl (term x)).add (Int.modEq_zero_iff_dvd.mpr vanish)
    · have other : term y ≡ 0 [ZMOD modulus x] :=
        Int.modEq_zero_iff_dvd.mpr (apart.1 x inside).2
      simpa using other.add (ih apart.2 inside)

private theorem sum_filter (term : ι → ℤ) (keep : ι → Bool) (xs : List ι) :
    ((xs.filter keep).map term).sum = (xs.map (fun x => if keep x then term x else 0)).sum := by
  induction xs with
  | nil => rfl
  | cons x xs ih => cases kept : keep x <;> simp [kept,ih]

theorem sum_filter_modEq (term : ι → ℤ) (keep : ι → Bool) {xs : List ι}
    (apart : xs.Pairwise (fun a b => modulus a ∣ term b ∧ modulus b ∣ term a))
    {x : ι} (member : x ∈ xs) :
    ((xs.filter keep).map term).sum ≡ (if keep x then term x else 0) [ZMOD modulus x] := by
  rw [sum_filter]
  refine sum_modEq (fun y => if keep y then term y else 0) (apart.imp ?_) member
  intro a b ⟨left,right⟩
  constructor
  · cases keep b <;> simp [left]
  · cases keep a <;> simp [right]

end Sums

/-- Fermat: exponents that agree modulo `p-1` give powers that agree modulo `p`, also for the
multiples of `p`. -/
theorem pow_modEq_pow {p a b : ℕ} (prime : p.Prime) (a0 : 0 < a) (b0 : 0 < b)
    (same : a ≡ b [MOD p-1]) (t : ℤ) : t^a ≡ t^b [ZMOD p] := by
  have : Fact p.Prime := ⟨prime⟩
  wlog order : a ≤ b generalizing a b
  · exact (this b0 a0 same.symm (by omega)).symm
  rw [← ZMod.intCast_eq_intCast_iff,Int.cast_pow,Int.cast_pow]
  by_cases zero : (t : ZMod p) = 0
  · rw [zero,zero_pow (by omega),zero_pow (by omega)]
  · obtain ⟨c,split⟩ := (Nat.modEq_iff_dvd' order).mp same
    have exponent : b = a+(p-1)*c := by omega
    rw [exponent,pow_add,pow_mul,ZMod.pow_card_sub_one_eq_one zero,one_pow,mul_one]

end UavFanet.Library.Congruence
