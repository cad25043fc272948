import UavFanet.BigInt
import UavFanet.Library.Congruence

/-! `CRT`: the one residue below the product of the moduli, and when there is none to return. -/
namespace UavFanet.BigInt
open Library

/-- The residue that `CRT` is to find. -/
structure CommonResidue (remainders moduli : List Int) (x : Int) : Prop where
  nonneg : 0 ≤ x
  below : x < moduli.prod
  congruent : ∀ pair ∈ remainders.zip moduli, x ≡ pair.1 [ZMOD pair.2]

theorem pairwiseCoprime_iff (moduli : List Int) :
    pairwiseCoprime moduli = true ↔ moduli.Pairwise IsCoprime := by
  induction moduli with
  | nil => simp [pairwiseCoprime]
  | cons modulus moduli ih =>
    rw [pairwiseCoprime,Bool.and_eq_true,List.pairwise_cons,ih,List.all_eq_true]
    simp [gcd,Int.isCoprime_iff_gcd_eq_one]

theorem zip_moduli {remainders moduli : List Int} (same : remainders.length = moduli.length) :
    (remainders.zip moduli).map Prod.snd = moduli :=
  List.map_snd_zip (le_of_eq same.symm)

theorem prod_moduli_pos {moduli : List Int} (large : ∀ modulus ∈ moduli, 1 < modulus) :
    0 < moduli.prod := by
  apply List.prod_pos
  intro modulus member
  have := large modulus member
  omega

section Terms

variable {pairs : List (Int × Int)} {M : Int}

/-- The term for a pair is its remainder modulo its own modulus and nothing modulo the others. -/
structure Term (pairs : List (Int × Int)) (M : Int) (pair : Int × Int) (term : Int) : Prop where
  produced : crtTerm M pair.1 pair.2 = .ok term
  own : term ≡ pair.1 [ZMOD pair.2]
  others : ∀ other ∈ pairs, IsCoprime other.2 pair.2 → other.2 ∣ term

theorem crtTerm_ok (product : M = (pairs.map Prod.snd).prod)
    (coprime : pairs.Pairwise (fun a b => IsCoprime a.2 b.2)) (large : ∀ pair ∈ pairs, 1 < pair.2)
    {pair : Int × Int} (member : pair ∈ pairs) : ∃ term, Term pairs M pair term := by
  obtain ⟨Mi,split,apart⟩ := Congruence.cofactor coprime member
  rw [← product] at split
  have modulus1 := large pair member
  have modulus0 : pair.2 ≠ 0 := by omega
  have positive : 0 < M := by
    rw [product]
    apply prod_moduli_pos
    intro modulus found
    obtain ⟨other,present,rfl⟩ := List.mem_map.mp found
    exact large other present
  have Mi0 : 0 ≤ Mi := by
    rw [split] at positive
    exact le_of_lt (pos_of_mul_pos_right positive (by omega))
  have quotient : divide M pair.2 = .ok Mi := by
    rw [divide,if_neg modulus0,split,Int.mul_tdiv_cancel_left _ modulus0]
  obtain ⟨yi,inverted,inverse⟩ :=
    modInverse_coprime Mi0 modulus1 (Int.isCoprime_iff_gcd_eq_one.mp apart.symm)
  refine ⟨pair.1*Mi*yi,by simp only [crtTerm,quotient,inverted,Result.ok_bind],?_,?_⟩
  · calc pair.1*Mi*yi = pair.1*(Mi*yi) := mul_assoc ..
      _ ≡ pair.1*1 [ZMOD pair.2] := inverse.mul_left _
      _ = pair.1 := mul_one _
  · intro other present coprime_other
    have whole : other.2 ∣ pair.2*Mi := by
      rw [← split,product]
      exact List.dvd_prod (List.mem_map_of_mem present)
    rw [mul_assoc]
    exact ((coprime_other.dvd_of_dvd_mul_left whole).mul_right yi).mul_left pair.1

theorem crtSum_ok {term : Int × Int → Int}
    (produced : ∀ pair ∈ pairs, crtTerm M pair.1 pair.2 = .ok (term pair)) (result : Int) :
    crtSum M result pairs = .ok (result+(pairs.map term).sum) := by
  induction pairs generalizing result with
  | nil => simp [crtSum]
  | cons pair rest ih =>
    have first := produced pair (by simp)
    have others := ih (fun other member => produced other (by simp [member])) (result+term pair)
    rw [crtSum,first,Result.ok_bind,others,List.map_cons,List.sum_cons,add_assoc]

end Terms

section Moduli

variable {remainders moduli : List Int}

/-- For pairwise coprime moduli the sum has every remainder. -/
theorem crtSum_congruent (large : ∀ modulus ∈ moduli, 1 < modulus)
    (coprime : moduli.Pairwise IsCoprime) (same : remainders.length = moduli.length) :
    ∃ sum, crtSum moduli.prod 0 (remainders.zip moduli) = .ok sum ∧
      ∀ pair ∈ remainders.zip moduli, sum ≡ pair.1 [ZMOD pair.2] := by
  have projected := zip_moduli same
  have pairs_coprime : (remainders.zip moduli).Pairwise (fun a b => IsCoprime a.2 b.2) := by
    rw [← projected] at coprime
    exact List.pairwise_map.mp coprime
  have terms : ∀ pair ∈ remainders.zip moduli, ∃ term,
      Term (remainders.zip moduli) moduli.prod pair term :=
    fun pair member => crtTerm_ok (by rw [projected]) pairs_coprime
      (fun other present => large other.2 (List.of_mem_zip present).2) member
  choose! term terms using terms
  have apart : (remainders.zip moduli).Pairwise (fun a b => a.2 ∣ term b ∧ b.2 ∣ term a) := by
    refine pairs_coprime.imp_of_mem ?_
    intro a b left right coprime_pair
    exact ⟨(terms b right).others a left coprime_pair,
      (terms a left).others b right coprime_pair.symm⟩
  have summed := crtSum_ok (fun pair member => (terms pair member).produced) 0
  rw [zero_add] at summed
  refine ⟨_,summed,fun pair member => ?_⟩
  exact (Congruence.sum_modEq term apart member).trans (terms pair member).own

theorem CommonResidue.unique (coprime : moduli.Pairwise IsCoprime)
    (same : remainders.length = moduli.length) {x y : Int}
    (first : CommonResidue remainders moduli x) (second : CommonResidue remainders moduli y) :
    x = y := by
  refine Congruence.eq_of_modEq (Congruence.modEq_prod coprime ?_) first.nonneg first.below
    second.nonneg second.below
  intro modulus member
  rw [← zip_moduli same] at member
  obtain ⟨pair,present,rfl⟩ := List.mem_map.mp member
  exact (first.congruent pair present).trans (second.congruent pair present).symm

theorem crt_ok (large : ∀ modulus ∈ moduli, 1 < modulus) (coprime : moduli.Pairwise IsCoprime)
    (same : remainders.length = moduli.length) (nonempty : remainders ≠ []) :
    ∃ x, crt remainders moduli = .ok x ∧ ∀ y, CommonResidue remainders moduli y ↔ y = x := by
  have positive := prod_moduli_pos large
  obtain ⟨sum,summed,congruent⟩ := crtSum_congruent large coprime same
  have reduced : CommonResidue remainders moduli (sum%moduli.prod) := by
    refine ⟨Int.emod_nonneg _ (by omega),Int.emod_lt_of_pos _ positive,?_⟩
    intro pair member
    have divides : pair.2 ∣ moduli.prod := List.dvd_prod (List.of_mem_zip member).2
    exact ((Int.mod_modEq _ _).of_dvd divides).trans (congruent pair member)
  refine ⟨sum%moduli.prod,?_,fun y => ⟨fun residue => residue.unique coprime same reduced,?_⟩⟩
  · have checked := (pairwiseCoprime_iff moduli).mpr coprime
    have filled : remainders.isEmpty = false := by simpa using nonempty
    simp only [crt,same,filled,checked,summed,Result.ok_bind,mod_positive positive]
    simp
  · rintro rfl
    exact reduced

theorem crt_error
    (refused : remainders = [] ∨ remainders.length ≠ moduli.length ∨ ¬ moduli.Pairwise IsCoprime) :
    ∃ text, crt remainders moduli = .error (.cryptoException text) := by
  unfold crt
  by_cases same : remainders.length ≠ moduli.length
  · exact ⟨_,if_pos same⟩
  · rw [if_neg same]
    by_cases empty : remainders.isEmpty = true
    · exact ⟨_,if_pos empty⟩
    · have shared : pairwiseCoprime moduli = false := by
        rw [← Bool.not_eq_true,pairwiseCoprime_iff]
        rcases refused with nothing | differ | shared
        · exact absurd (by simp [nothing]) empty
        · exact absurd differ same
        · exact shared
      exact ⟨_,by rw [if_neg empty,shared]; rfl⟩

end Moduli

/-- `CRT` on moduli greater than 1: the common residue where there is exactly one, and an
exception otherwise. -/
theorem crt_correct (remainders moduli : List Int) (large : ∀ modulus ∈ moduli, 1 < modulus) :
    (moduli.Pairwise IsCoprime → remainders.length = moduli.length → remainders ≠ [] →
      ∃ x, crt remainders moduli = .ok x ∧ ∀ y, CommonResidue remainders moduli y ↔ y = x) ∧
    ((∃ failure, crt remainders moduli = .error failure) ↔
      remainders = [] ∨ remainders.length ≠ moduli.length ∨ ¬ moduli.Pairwise IsCoprime) := by
  refine ⟨crt_ok large,?_⟩
  constructor
  · rintro ⟨failure,threw⟩
    by_contra accepted
    push Not at accepted
    obtain ⟨nonempty,same,coprime⟩ := accepted
    obtain ⟨x,returned,-⟩ := crt_ok large coprime same nonempty
    rw [returned] at threw
    cases threw
  · intro refused
    obtain ⟨text,threw⟩ := crt_error refused
    exact ⟨_,threw⟩

/-- Sun Tzu's problem, with one remainder written as a negative number. -/
theorem crt_correct_three : ∃ x, crt [2,-2,2] [3,5,7] = .ok x ∧
    ∀ y, CommonResidue [2,-2,2] [3,5,7] y ↔ y = x :=
  (crt_correct [2,-2,2] [3,5,7] (by decide)).1
    ((pairwiseCoprime_iff [3,5,7]).mp (by decide)) rfl (by decide)

end UavFanet.BigInt
