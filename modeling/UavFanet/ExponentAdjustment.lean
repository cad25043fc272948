import UavFanet.TokenGeneration

/-! Which of the loops that add `n_total` end. The halves of the primes decide it: the half of
five is two, the only even one, and over an even total the additions keep the parity. -/
namespace UavFanet.ExponentAdjustment
open Library UavFanet.BigInt UavFanet.CrtManager UavFanet.KeyGroup UavFanet.TokenGeneration

/-- The test accepts exactly the primes among the numbers it is asked about. -/
def Exact (millerRabin : Int → Bool) : Prop :=
  ∀ n : ℕ, 3 < n → n%2 = 1 → (millerRabin n = true ↔ n.Prime)

/-- Pairs of safe primes as `IsSafePrime` accepts them, all distinct. -/
structure Accepted (millerRabin : Int → Bool) (prime_pairs : List (Int × Int)) : Prop where
  safe : ∀ pair ∈ prime_pairs,
    isSafePrime millerRabin pair.1 = true ∧ isSafePrime millerRabin pair.2 = true
  distinct : (prime_pairs.flatMap (fun pair => [pair.1,pair.2])).Nodup

def HasFive (pair : Int × Int) : Prop := pair.1 = 5 ∨ pair.2 = 5

section Primes

variable {millerRabin : Int → Bool}

theorem isProbablePrime_natural (exact : Exact millerRabin) {n : Int}
    (probable : isProbablePrime millerRabin n = true) : ∃ k : ℕ, n = k ∧ k.Prime := by
  unfold isProbablePrime at probable
  split_ifs at probable with small two three even
  · exact ⟨2,two,Nat.prime_two⟩
  · exact ⟨3,three,Nat.prime_three⟩
  · have nonneg : 0 ≤ n := by omega
    obtain ⟨k,rfl⟩ := Int.eq_ofNat_of_zero_le nonneg
    rw [Int.tmod_eq_emod_of_nonneg nonneg] at even
    exact ⟨k,rfl,(exact k (by omega) (by omega)).mp probable⟩

theorem isSafePrime_natural (exact : Exact millerRabin) {p : Int}
    (accepted : isSafePrime millerRabin p = true) :
    ∃ x : ℕ, computeX p = x ∧ p = 2*x+1 ∧ x.Prime := by
  unfold isSafePrime at accepted
  split at accepted
  · cases accepted
  · rename_i probable
    obtain ⟨k,rfl,prime⟩ := isProbablePrime_natural exact (by simpa using probable)
    obtain ⟨x,half,half_prime⟩ := isProbablePrime_natural exact accepted
    have positive := half_prime.two_le
    have truncated := half
    rw [Int.tdiv_eq_ediv_of_nonneg (by have := prime.two_le; omega)] at truncated
    refine ⟨x,half,?_,half_prime⟩
    rcases prime.eq_two_or_odd with rfl | odd
    · omega
    · omega

end Primes

/-- The slave of an accepted pair. -/
structure HalvedKey (sk : SlaveKeyEntry) : Prop where
  halves : ∃ x y : ℕ, x.Prime ∧ y.Prime ∧ sk.p_i = 2*x+1 ∧ sk.q_i = 2*y+1 ∧ sk.xy_i = x*y
  apart : sk.p_i ≠ sk.q_i
  exponent : sk.e_i%2 = 1

theorem HalvedKey.large {sk : SlaveKeyEntry} (key : HalvedKey sk) : 1 < sk.xy_i := by
  obtain ⟨x,y,x_prime,y_prime,_,_,product⟩ := key.halves
  have bound : 2*2 ≤ x*y := Nat.mul_le_mul x_prime.two_le y_prime.two_le
  rw [product]
  exact_mod_cast (by omega : 1 < x*y)

theorem HalvedKey.odd {sk : SlaveKeyEntry} (key : HalvedKey sk)
    (without : ¬HasFive (sk.p_i,sk.q_i)) : sk.xy_i%2 = 1 := by
  obtain ⟨x,y,x_prime,y_prime,p_half,q_half,product⟩ := key.halves
  obtain ⟨p_other,q_other⟩ := not_or.mp without
  have x_odd : x%2 = 1 := x_prime.eq_two_or_odd.resolve_left (by
    rintro rfl
    exact p_other (by simpa using p_half))
  have y_odd : y%2 = 1 := y_prime.eq_two_or_odd.resolve_left (by
    rintro rfl
    exact q_other (by simpa using q_half))
  have odd : x*y%2 = 1 := by rw [Nat.mul_mod,x_odd,y_odd]
  rw [product]
  exact_mod_cast odd

/-- One half of the pair is two, the other is another prime. -/
theorem HalvedKey.two_mod_four {sk : SlaveKeyEntry} (key : HalvedKey sk)
    (five : HasFive (sk.p_i,sk.q_i)) : sk.xy_i%4 = 2 := by
  obtain ⟨x,y,x_prime,y_prime,p_half,q_half,product⟩ := key.halves
  have apart := key.apart
  rw [product]
  rcases five with p_five | q_five
  · have x_two : x = 2 := by
      simp only at p_five
      omega
    have y_odd : y%2 = 1 := y_prime.eq_two_or_odd.resolve_left (by omega)
    subst x_two
    push_cast
    omega
  · have y_two : y = 2 := by
      simp only at q_five
      omega
    have x_odd : x%2 = 1 := x_prime.eq_two_or_odd.resolve_left (by omega)
    subst y_two
    push_cast
    omega

section Reduction

variable {n e r : Int}

theorem reduceExponent_four (reduced : reduceExponent n e = .ok r) : r%4 = 1 := by
  obtain ⟨start,_,adjusted⟩ := Result.bind_ok.mp reduced
  unfold adjust at adjusted
  split at adjusted
  · rename_i ended
    obtain ⟨k,_,_,stopped,same⟩ := (Loop.whileDo_eq_some _ _ _).mp ended
    rw [same] at stopped
    cases adjusted
    simpa using stopped
  · cases adjusted

theorem reduceExponent_even (positive : 0 < n) (even : n%4 = 2) :
    reduceExponent n e ≠ .error .diverges ↔ e%2 = 1 := by
  have parity : e%n%2 = e%2 := Int.emod_emod_of_dvd e (by omega)
  simp only [reduceExponent,mod_positive positive,Result.ok_bind]
  generalize e%n = start at parity
  constructor
  · intro ends
    by_contra stuck
    -- Every exponent that the additions reach is even.
    have none : Loop.whileDo (fun e => e%4 != 1) (· + n) 3 start = none := by
      simp [Loop.whileDo,show start%4 ≠ 1 by omega,show (start+n)%4 ≠ 1 by omega,
        show (start+n+n)%4 ≠ 1 by omega,show (start+n+n+n)%4 ≠ 1 by omega]
    simp [adjust,none] at ends
  · intro odd
    by_cases one : start%4 = 1
    · simp [adjust,Loop.whileDo,one]
    · simp [adjust,Loop.whileDo,one,show (start+n)%4 = 1 by omega]

end Reduction

section Generation

variable {millerRabin : Int → Bool} {rng : Nat → List UInt64} {prime_pairs : List (Int × Int)}

theorem slaveKey_halved (exact : Exact millerRabin) {position : Nat} {draws : List UInt64}
    {p q : Int} (p_safe : isSafePrime millerRabin p = true)
    (q_safe : isSafePrime millerRabin q = true) (apart : p ≠ q) {sk : SlaveKeyEntry}
    (produced : slaveKey position draws p q = .ok sk) :
    HalvedKey sk ∧ (sk.p_i,sk.q_i) = (p,q) ∧ sk.uav_index = UInt32.ofNat position := by
  obtain ⟨e,drawn,produced⟩ := Result.bind_ok.mp produced
  obtain ⟨d,_,produced⟩ := Result.bind_ok.mp produced
  obtain ⟨draw,_,rfl,_⟩ := drawExponent_ok drawn
  obtain ⟨x,x_value,p_half,x_prime⟩ := isSafePrime_natural exact p_safe
  obtain ⟨y,y_value,q_half,y_prime⟩ := isSafePrime_natural exact q_safe
  cases produced
  refine ⟨⟨⟨x,y,x_prime,y_prime,p_half,q_half,?_⟩,apart,?_⟩,rfl,rfl⟩
  · simp only [x_value]
    exact congrArg _ y_value
  · simp only [generateEi]
    omega

theorem slaveKeys_halved (exact : Exact millerRabin) {position : Nat}
    (safe : ∀ pair ∈ prime_pairs,
      isSafePrime millerRabin pair.1 = true ∧ isSafePrime millerRabin pair.2 = true)
    (apart : ∀ pair ∈ prime_pairs, pair.1 ≠ pair.2) {generated : List SlaveKeyEntry}
    (ok : slaveKeys rng position prime_pairs = .ok generated) :
    (∀ sk ∈ generated, HalvedKey sk) ∧
      generated.map (fun sk => (sk.p_i,sk.q_i)) = prime_pairs ∧
      generated.map (·.uav_index) = (List.range' position prime_pairs.length).map UInt32.ofNat := by
  induction prime_pairs generalizing position generated with
  | nil =>
    cases ok
    simp
  | cons pair prime_pairs ih =>
    obtain ⟨sk,produced,ok⟩ := Result.bind_ok.mp ok
    obtain ⟨rest,generates,ok⟩ := Result.bind_ok.mp ok
    cases ok
    obtain ⟨p_safe,q_safe⟩ := safe pair (by simp)
    obtain ⟨key,pair_same,index⟩ :=
      slaveKey_halved exact p_safe q_safe (apart pair (by simp)) produced
    obtain ⟨keys,pairs,indices⟩ := ih (fun pair member => safe pair (by simp [member]))
      (fun pair member => apart pair (by simp [member])) generates
    refine ⟨?_,by simp [pair_same,pairs],by simp [index,indices,List.range'_succ]⟩
    intro other member
    rcases List.mem_cons.mp member with rfl | inside
    · exact key
    · exact keys other inside

theorem slaves_coprime {slaves : List SlaveKeyEntry}
    (distinct : (prime_pairs.flatMap (fun pair => [pair.1,pair.2])).Nodup)
    (keys : ∀ sk ∈ slaves, HalvedKey sk)
    (same : slaves.map (fun sk => (sk.p_i,sk.q_i)) = prime_pairs) :
    slaves.Pairwise (fun a b => IsCoprime a.xy_i b.xy_i) := by
  have across := (distinct_pairwise distinct).2
  rw [← same,List.pairwise_map] at across
  refine across.imp_of_mem ?_
  rintro a b a_member b_member ⟨pp,pq,qp,qq⟩
  obtain ⟨x,y,x_prime,y_prime,p_half,q_half,product⟩ := (keys a a_member).halves
  obtain ⟨u,v,u_prime,v_prime,u_half,v_half,other⟩ := (keys b b_member).halves
  rw [product,other,← Nat.cast_mul,← Nat.cast_mul]
  refine Nat.isCoprime_iff_coprime.mpr (Nat.Coprime.mul_left ?_ ?_)
  · exact Nat.Coprime.mul_right ((Nat.coprime_primes x_prime u_prime).mpr (by omega))
      ((Nat.coprime_primes x_prime v_prime).mpr (by omega))
  · exact Nat.Coprime.mul_right ((Nat.coprime_primes y_prime u_prime).mpr (by omega))
      ((Nat.coprime_primes y_prime v_prime).mpr (by omega))

end Generation

/-- The slaves that key generation makes of accepted pairs. -/
structure HalvedGroup (prime_pairs : List (Int × Int)) (slaves : List SlaveKeyEntry) : Prop where
  halved : ∀ sk ∈ slaves, HalvedKey sk
  pairs : slaves.map (fun sk => (sk.p_i,sk.q_i)) = prime_pairs
  indices : slaves.map (·.uav_index) = (List.range prime_pairs.length).map UInt32.ofNat
  based : Basis slaves

namespace HalvedGroup

variable {prime_pairs : List (Int × Int)} {slaves : List SlaveKeyEntry} {sk : SlaveKeyEntry}

theorem total_positive (group : HalvedGroup prime_pairs slaves) :
    0 < (slaves.map (·.xy_i)).prod := by
  refine List.prod_pos ?_
  intro modulus found
  obtain ⟨sk,member,rfl⟩ := List.mem_map.mp found
  have := (group.halved sk member).large
  omega

theorem total_odd (group : HalvedGroup prime_pairs slaves)
    (without : ∀ sk ∈ slaves, ¬HasFive (sk.p_i,sk.q_i)) : (slaves.map (·.xy_i)).prod%2 = 1 := by
  have odd : Odd (slaves.map (·.xy_i)).prod := by
    refine List.prod_induction Odd (fun _ _ => Odd.mul) odd_one ?_
    intro modulus found
    obtain ⟨sk,member,rfl⟩ := List.mem_map.mp found
    exact Int.odd_iff.mpr ((group.halved sk member).odd (without sk member))
  exact Int.odd_iff.mp odd

/-- The other moduli are coprime to the even one. -/
theorem total_even (group : HalvedGroup prime_pairs slaves) (member : sk ∈ slaves)
    (five : HasFive (sk.p_i,sk.q_i)) : (slaves.map (·.xy_i)).prod%4 = 2 := by
  obtain ⟨rest,split,coprime⟩ := Congruence.cofactor group.based.coprime member
  have two := (group.halved sk member).two_mod_four five
  have even : (2 : Int) ∣ sk.xy_i := by omega
  have odd : ¬(2 : Int) ∣ rest :=
    (Int.prime_two.coprime_iff_not_dvd).mp (coprime.of_isCoprime_of_dvd_left even)
  rw [split,Int.mul_emod,two]
  omega

theorem contributions_parity (group : HalvedGroup prime_pairs slaves) (member : sk ∈ slaves)
    (five : HasFive (sk.p_i,sk.q_i)) (keep : SlaveKeyEntry → Bool) :
    ((slaves.filter keep).map contribution).sum%2 = if keep sk then 1 else 0 := by
  have two := (group.halved sk member).two_mod_four five
  have even : (2 : Int) ∣ sk.xy_i := by omega
  have sum := (Congruence.sum_filter_modEq contribution keep group.based.cross member).of_dvd even
  have own := (group.based.basis sk member).of_dvd even
  have odd := (group.halved sk member).exponent
  have parity : ((slaves.filter keep).map contribution).sum%2 =
    (if keep sk then contribution sk else 0)%2 := sum
  have own_parity : contribution sk%2 = sk.e_i%2 := own
  rw [parity]
  split
  · omega
  · rfl

theorem contribution_parity (group : HalvedGroup prime_pairs slaves) (member : sk ∈ slaves)
    (five : HasFive (sk.p_i,sk.q_i)) {other : SlaveKeyEntry} (present : other ∈ slaves) :
    contribution other%2 = if sk = other then 1 else 0 := by
  have two := (group.halved sk member).two_mod_four five
  have even : (2 : Int) ∣ sk.xy_i := by omega
  have odd := (group.halved sk member).exponent
  have parity : contribution other%2 = (if sk = other then sk.e_i else 0)%2 :=
    (group.based.contribution_residue present member).of_dvd even
  rw [parity]
  split
  · exact odd
  · rfl

end HalvedGroup

/-- The call is in no endless addition. It may throw, or need more draws. -/
def Ends {α : Type} (outcome : Result α) : Prop := outcome ≠ .error .diverges

section Calls

variable {α β : Type}

theorem ends_bind {first : Result α} {next : α → Result β} (after : ∀ value, Ends (next value)) :
    Ends (first >>= next) ↔ Ends first := by
  cases first with
  | error failure => simp [Ends]
  | ok value =>
    rw [Result.ok_bind]
    simp only [after value,true_iff]
    simp [Ends]

theorem modPow_ends (base exp modulus : Int) : Ends (modPow base exp modulus) := by
  unfold modPow
  split_ifs <;> simp [Ends]

theorem drawExponent_ends (xy : Int) (draws : List UInt64) : Ends (drawExponent xy draws) := by
  induction draws with
  | nil => simp [drawExponent,Ends]
  | cons draw draws ih =>
    simp only [drawExponent]
    split
    · exact ih
    · simp [Ends]

theorem slaveKeys_ends (rng : Nat → List UInt64) (position : Nat) (prime_pairs : List (Int × Int)) :
    Ends (slaveKeys rng position prime_pairs) := by
  induction prime_pairs generalizing position with
  | nil => simp [slaveKeys,Ends]
  | cons pair prime_pairs ih =>
    cases produced : slaveKey position (rng position) pair.1 pair.2 with
    | ok sk =>
      simp only [slaveKeys,produced,Result.ok_bind]
      exact (ends_bind (by simp [Ends])).mpr (ih (position+1))
    | error failure =>
      have ends : Ends (slaveKey position (rng position) pair.1 pair.2) := by
        refine (ends_bind ?_).mpr (drawExponent_ends _ _)
        intro e_i
        exact (ends_bind (by simp [Ends])).mpr (modPow_ends _ _ _)
      rw [produced] at ends
      simpa [slaveKeys,produced,Ends] using ends

end Calls

/-- Over an odd total every start ends, over an even one every odd start. -/
theorem HalvedGroup.reduction_ends {prime_pairs : List (Int × Int)} {slaves : List SlaveKeyEntry}
    (group : HalvedGroup prime_pairs slaves) (exponent : Int) :
    Ends (reduceExponent (slaves.map (·.xy_i)).prod exponent) ↔
      ∀ sk ∈ slaves, HasFive (sk.p_i,sk.q_i) → exponent%2 = 1 := by
  by_cases found : ∃ sk ∈ slaves, HasFive (sk.p_i,sk.q_i)
  · obtain ⟨sk,member,five⟩ := found
    have ends := reduceExponent_even (e := exponent) group.total_positive
      (group.total_even member five)
    exact ends.trans ⟨fun odd _ _ _ => odd,fun odd => odd sk member five⟩
  · have without : ∀ sk ∈ slaves, ¬HasFive (sk.p_i,sk.q_i) :=
      fun sk member five => found ⟨sk,member,five⟩
    obtain ⟨r,reduced,_⟩ :=
      reduceExponent_ok exponent group.total_positive (group.total_odd without)
    rw [reduced]
    simp only [Ends,ne_eq,reduceCtorEq,not_false_eq_true,true_iff]
    exact fun sk member five => absurd five (without sk member)

section Keys

variable {millerRabin : Int → Bool} {rng : Nat → List UInt64} {prime_pairs : List (Int × Int)}

theorem generated_group (exact : Exact millerRabin) (accepted : Accepted millerRabin prime_pairs)
    {generated : List SlaveKeyEntry} (generates : slaveKeys rng 0 prime_pairs = .ok generated) :
    ∃ slaves, withBases (generated.map (·.xy_i)).prod generated = .ok slaves ∧
      slaves.map (·.xy_i) = generated.map (·.xy_i) ∧ HalvedGroup prime_pairs slaves := by
  obtain ⟨inside,_⟩ := distinct_pairwise accepted.distinct
  obtain ⟨keys,pairs,indices⟩ := slaveKeys_halved exact accepted.safe inside generates
  obtain ⟨slaves,bases,same,based⟩ := withBases_basis (fun sk member => (keys sk member).large)
    (slaves_coprime accepted.distinct keys pairs)
  refine ⟨slaves,bases,withoutBasis_moduli same,?_,?_,?_,based⟩
  · intro sk member
    obtain ⟨other,present,equal⟩ := withoutBasis_mem same member
    obtain ⟨halves,apart,exponent⟩ := keys other present
    have bare : HalvedKey (withoutBasis other) := ⟨halves,apart,exponent⟩
    rw [equal] at bare
    exact ⟨bare.halves,bare.apart,bare.exponent⟩
  · have mapped := congrArg (List.map (fun sk => (sk.p_i,sk.q_i))) same
    simp only [List.map_map,Function.comp_def,withoutBasis] at mapped
    exact mapped.trans pairs
  · have mapped := congrArg (List.map (·.uav_index)) same
    simp only [List.map_map,Function.comp_def,withoutBasis] at mapped
    rw [mapped,indices,List.range_eq_range']

/-- Modulo two the sum of all contributions is that of the slave with the five. -/
theorem mKeyGen_ends (exact : Exact millerRabin) (accepted : Accepted millerRabin prime_pairs) :
    Ends (mKeyGen rng prime_pairs) := by
  cases generates : slaveKeys rng 0 prime_pairs with
  | error failure =>
    have ends := slaveKeys_ends rng 0 prime_pairs
    rw [generates] at ends
    simpa [mKeyGen,generates,Ends] using ends
  | ok generated =>
    obtain ⟨slaves,bases,moduli,group⟩ := generated_group exact accepted generates
    rw [← moduli] at bases
    simp only [mKeyGen,generates,Result.ok_bind,← moduli,bases]
    refine (ends_bind (by simp [Ends])).mpr ((group.reduction_ends _).mpr ?_)
    intro sk member five
    simpa using group.contributions_parity member five (fun _ => true)

theorem mKeyGen_group (exact : Exact millerRabin) (accepted : Accepted millerRabin prime_pairs)
    {mkg : MKeyGenResult} (ok : mKeyGen rng prime_pairs = .ok mkg) :
    HalvedGroup prime_pairs mkg.slaves ∧ mkg.n_total = (mkg.slaves.map (·.xy_i)).prod ∧
      mkg.eM%4 = 1 := by
  obtain ⟨generated,generates,ok⟩ := Result.bind_ok.mp ok
  obtain ⟨slaves,bases,moduli,group⟩ := generated_group exact accepted generates
  simp only [bases,Result.ok_bind] at ok
  obtain ⟨eM,reduced,ok⟩ := Result.bind_ok.mp ok
  cases ok
  exact ⟨group,by rw [moduli],reduceExponent_four reduced⟩

end Keys

/-- The tokens that a group hands out: generated for a member list, then updated. -/
inductive Issued (mkg : MKeyGenResult) : MTokenResult → Prop where
  | generated {user_indices : List UInt32} {T : Int} {cluster_id : UInt32} {mt : MTokenResult}
      (ok : mTokenGen mkg user_indices T cluster_id = .ok mt) : Issued mkg mt
  | joined {current mt : MTokenResult} {index : UInt32} (issued : Issued mkg current)
      (ok : joKeyUpdate mkg current index = .ok mt) : Issued mkg mt
  | left {current mt : MTokenResult} {index : UInt32} (issued : Issued mkg current)
      (ok : leKeyUpdate mkg current index = .ok mt) : Issued mkg mt

theorem updatedToken_four {mkg : MKeyGenResult} {current mt : MTokenResult} {exponent : Int}
    {user_indices : List UInt32}
    (ok : updatedToken mkg current exponent user_indices = .ok mt) : mt.e_MK%4 = 1 := by
  obtain ⟨e_MK,reduced,ok⟩ := Result.bind_ok.mp ok
  obtain ⟨MT_K,_,ok⟩ := Result.bind_ok.mp ok
  cases ok
  exact reduceExponent_four reduced

theorem Issued.four {mkg : MKeyGenResult} {mt : MTokenResult} (issued : Issued mkg mt) :
    mt.e_MK%4 = 1 := by
  induction issued with
  | generated ok =>
    obtain ⟨e_MK,reduced,ok⟩ := Result.bind_ok.mp ok
    obtain ⟨MT_K,_,ok⟩ := Result.bind_ok.mp ok
    cases ok
    exact reduceExponent_four reduced
  | joined _ ok _ =>
    unfold joKeyUpdate at ok
    split at ok
    · cases ok
    · exact updatedToken_four ok
  | left _ ok _ =>
    unfold leKeyUpdate at ok
    split at ok
    · cases ok
    · exact updatedToken_four ok

namespace HalvedGroup

variable {prime_pairs : List (Int × Int)} {mkg : MKeyGenResult}

/-- The slave of a pair carries the pair's position, as far as 32 bits number it. -/
theorem getElem?_slaves (group : HalvedGroup prime_pairs mkg.slaves) (position : Nat) :
    (mkg.slaves[position]?).map (fun sk => ((sk.p_i,sk.q_i),sk.uav_index)) =
      prime_pairs[position]?.map (fun pair => (pair,UInt32.ofNat position)) := by
  have pair := congrArg (fun listed => listed[position]?) group.pairs
  have index := congrArg (fun listed => listed[position]?) group.indices
  simp only [List.getElem?_map] at pair index
  cases found : mkg.slaves[position]? with
  | none => simp_all
  | some sk =>
    rw [found] at pair index
    have within : position < prime_pairs.length := by
      by_contra outside
      simp [List.getElem?_eq_none (Nat.le_of_not_lt outside)] at pair
    rw [List.getElem?_range within] at index
    simp_all

theorem findSlave_position (group : HalvedGroup prime_pairs mkg.slaves) (index : UInt32) :
    findSlave mkg index = mkg.slaves[index.toNat]? := by
  have indexed : ∀ position sk, mkg.slaves[position]? = some sk →
      sk.uav_index = UInt32.ofNat position := by
    intro position sk found
    have slave := group.getElem?_slaves position
    rw [found] at slave
    obtain ⟨pair,_,same⟩ := Option.map_eq_some_iff.mp slave.symm
    exact (Prod.mk.inj same).2.symm
  have earlier : ∀ position sk, mkg.slaves[position]? = some sk → position < index.toNat →
      sk.uav_index ≠ index := by
    rintro position sk found before rfl
    have bound := sk.uav_index.toNat_lt
    have number := congrArg UInt32.toNat (indexed position sk found)
    rw [UInt32.toNat_ofNat_of_lt' (Nat.lt_trans before bound)] at number
    omega
  unfold findSlave
  cases found : mkg.slaves[index.toNat]? with
  | none =>
    refine List.find?_eq_none.mpr ?_
    intro sk member
    obtain ⟨position,at_position⟩ := List.mem_iff_getElem?.mp member
    have length := List.getElem?_eq_none_iff.mp found
    have within := (List.getElem?_eq_some_iff.mp at_position).1
    simpa using earlier position sk at_position (by omega)
  | some sk =>
    obtain ⟨within,same⟩ := List.getElem?_eq_some_iff.mp found
    refine List.find?_eq_some_iff_getElem.mpr ⟨?_,index.toNat,within,same,?_⟩
    · simp [indexed index.toNat sk found]
    · intro position before
      have present := List.getElem?_eq_getElem (Nat.lt_trans before within)
      simpa using earlier position _ present before

theorem mTokenGen_ends (group : HalvedGroup prime_pairs mkg.slaves)
    (total : mkg.n_total = (mkg.slaves.map (·.xy_i)).prod) (four : mkg.eM%4 = 1)
    (user_indices : List UInt32) (T : Int) (cluster_id : UInt32) :
    Ends (mTokenGen mkg user_indices T cluster_id) ↔
      ∀ sk ∈ mkg.slaves, HasFive (sk.p_i,sk.q_i) → inGroup user_indices sk = true := by
  unfold mTokenGen
  rw [ends_bind (fun _ => (ends_bind (by simp [Ends])).mpr (modPow_ends _ _ _)),total,
    group.reduction_ends]
  refine forall₂_congr (fun sk member => forall_congr' (fun five => ?_))
  have outside := group.contributions_parity member five (fun sk => !inGroup user_indices sk)
  cases inside : inGroup user_indices sk with
  | true =>
    simp only [inside,Bool.not_true,Bool.false_eq_true,if_false] at outside
    simp only [iff_true]
    omega
  | false =>
    simp only [inside,Bool.not_false,if_true] at outside
    simp only [Bool.false_eq_true,iff_false]
    omega

theorem updatedToken_ends (group : HalvedGroup prime_pairs mkg.slaves)
    (total : mkg.n_total = (mkg.slaves.map (·.xy_i)).prod) {current : MTokenResult}
    (four : current.e_MK%4 = 1) {slave : SlaveKeyEntry} (present : slave ∈ mkg.slaves)
    {exponent : Int} (user_indices : List UInt32)
    (moved : exponent = current.e_MK+contribution slave ∨
      exponent = current.e_MK-contribution slave) :
    Ends (updatedToken mkg current exponent user_indices) ↔ ¬HasFive (slave.p_i,slave.q_i) := by
  unfold updatedToken
  rw [ends_bind (fun _ => (ends_bind (by simp [Ends])).mpr (modPow_ends _ _ _)),total,
    group.reduction_ends]
  constructor
  · intro odd five
    have parity := group.contribution_parity present five present
    have := odd slave present five
    rw [if_pos rfl] at parity
    omega
  · intro without sk member five
    have apart : sk ≠ slave := by
      rintro rfl
      exact without five
    have parity := group.contribution_parity member five present
    rw [if_neg apart] at parity
    omega

theorem found_pair (group : HalvedGroup prime_pairs mkg.slaves) (index : UInt32) :
    prime_pairs[index.toNat]? = (findSlave mkg index).map (fun sk => (sk.p_i,sk.q_i)) := by
  rw [group.findSlave_position,← List.getElem?_map,group.pairs]

theorem joKeyUpdate_ends (group : HalvedGroup prime_pairs mkg.slaves)
    (total : mkg.n_total = (mkg.slaves.map (·.xy_i)).prod) {current : MTokenResult}
    (four : current.e_MK%4 = 1) (index : UInt32) :
    Ends (joKeyUpdate mkg current index) ↔
      ∀ pair, prime_pairs[index.toNat]? = some pair → ¬HasFive pair := by
  rw [group.found_pair]
  cases found : findSlave mkg index with
  | none => simp [joKeyUpdate,found,Ends]
  | some slave =>
    have present := List.mem_of_find?_eq_some found
    simp only [joKeyUpdate,found,Option.map_some,Option.some.injEq,forall_eq']
    exact group.updatedToken_ends total four present _ (.inl rfl)

theorem leKeyUpdate_ends (group : HalvedGroup prime_pairs mkg.slaves)
    (total : mkg.n_total = (mkg.slaves.map (·.xy_i)).prod) {current : MTokenResult}
    (four : current.e_MK%4 = 1) (index : UInt32) :
    Ends (leKeyUpdate mkg current index) ↔
      ∀ pair, prime_pairs[index.toNat]? = some pair → ¬HasFive pair := by
  rw [group.found_pair]
  cases found : findSlave mkg index with
  | none => simp [leKeyUpdate,found,Ends]
  | some slave =>
    have present := List.mem_of_find?_eq_some found
    simp only [leKeyUpdate,found,Option.map_some,Option.some.injEq,forall_eq']
    exact group.updatedToken_ends total four present _ (.inr rfl)

theorem inGroup_positions (group : HalvedGroup prime_pairs mkg.slaves)
    (user_indices : List UInt32) :
    (∀ sk ∈ mkg.slaves, HasFive (sk.p_i,sk.q_i) → inGroup user_indices sk = true) ↔
      ∀ position pair, prime_pairs[position]? = some pair → HasFive pair →
        UInt32.ofNat position ∈ user_indices := by
  constructor
  · intro every position pair found five
    have slave := group.getElem?_slaves position
    rw [found,Option.map_some] at slave
    obtain ⟨sk,at_position,same⟩ := Option.map_eq_some_iff.mp slave
    obtain ⟨same_pair,same_index⟩ := Prod.mk.inj same
    subst same_pair
    rw [← same_index,← inGroup_iff]
    exact every sk (List.mem_of_getElem? at_position) five
  · intro every sk member five
    obtain ⟨position,at_position⟩ := List.mem_iff_getElem?.mp member
    have slave := group.getElem?_slaves position
    rw [at_position,Option.map_some] at slave
    obtain ⟨pair,found,same⟩ := Option.map_eq_some_iff.mp slave.symm
    obtain ⟨same_pair,same_index⟩ := Prod.mk.inj same
    rw [inGroup_iff,← same_index]
    exact every position pair found (same_pair ▸ five)

end HalvedGroup

/-- Key generation never hangs on accepted pairs. A token hangs when its members leave out the
slave whose pair has the five, an update when it is that slave who joins or leaves. -/
theorem adjustments_end_iff {millerRabin : Int → Bool} (exact : Exact millerRabin)
    {prime_pairs : List (Int × Int)} (accepted : Accepted millerRabin prime_pairs)
    (rng : Nat → List UInt64) :
    Ends (mKeyGen rng prime_pairs) ∧ ∀ mkg, mKeyGen rng prime_pairs = .ok mkg →
      (∀ user_indices T cluster_id, Ends (mTokenGen mkg user_indices T cluster_id) ↔
        ∀ position pair, prime_pairs[position]? = some pair → HasFive pair →
          UInt32.ofNat position ∈ user_indices) ∧
      ∀ current, Issued mkg current → ∀ index,
        (Ends (joKeyUpdate mkg current index) ↔
          ∀ pair, prime_pairs[index.toNat]? = some pair → ¬HasFive pair) ∧
        (Ends (leKeyUpdate mkg current index) ↔
          ∀ pair, prime_pairs[index.toNat]? = some pair → ¬HasFive pair) := by
  refine ⟨mKeyGen_ends exact accepted,?_⟩
  intro mkg ok
  obtain ⟨group,total,four⟩ := mKeyGen_group exact accepted ok
  constructor
  · intro user_indices T cluster_id
    rw [group.mTokenGen_ends total four,group.inGroup_positions]
  · intro current issued index
    exact ⟨group.joKeyUpdate_ends total issued.four index,
      group.leKeyUpdate_ends total issued.four index⟩

def primeTest (n : Int) : Bool := decide n.toNat.Prime

theorem primeTest_exact : Exact primeTest := by
  intro n _ _
  simp [primeTest]

/-- Five with another safe prime, and a second pair. -/
def fivePairs : List (Int × Int) := [(5,7),(11,23)]

/-- The first draw gives `e = 5`, which slave 1 has to reject. -/
def fiveDraws : Nat → List UInt64 := fun _ => [0,1]

def fiveSlaves : MKeyGenResult where
  eM := 449
  n_total := 330
  slaves := [
    { uav_index := 0, uav_id := 0, e_i := 5, d_i := 5, n_i := 35, x_i := 2, y_i := 3,
      Mi := 55, Ni := 1, xy_i := 6, p_i := 5, q_i := 7 },
    { uav_index := 1, uav_id := 1, e_i := 9, d_i := 49, n_i := 253, x_i := 5, y_i := 11,
      Mi := 6, Ni := 46, xy_i := 55, p_i := 11, q_i := 23 }]

theorem fivePairs_accepted : Accepted primeTest fivePairs where
  safe := by decide +kernel
  distinct := by decide

theorem fiveSlaves_generated : mKeyGen fiveDraws fivePairs = .ok fiveSlaves := by decide +kernel

theorem five_adjustments_end :
    Ends (mKeyGen fiveDraws fivePairs) ∧ Ends (mTokenGen fiveSlaves [1,0] 2 0) ∧
      ¬Ends (mTokenGen fiveSlaves [1] 2 0) := by
  obtain ⟨ends,calls⟩ := adjustments_end_iff primeTest_exact fivePairs_accepted fiveDraws
  obtain ⟨tokens,_⟩ := calls fiveSlaves fiveSlaves_generated
  refine ⟨ends,(tokens _ _ _).mpr ?_,fun token => ?_⟩
  · intro position pair found five
    match position with
    | 0 => decide
    | 1 => decide
    | position+2 => simp [fivePairs] at found
  · have member := (tokens _ _ _).mp token 0 (5,7) rfl (.inl rfl)
    exact absurd member (by decide)

/-- Without slave 0 the exponent starts at 174 and moves by 330: it stays even. -/
theorem five_left_out_hangs :
    Accepted primeTest fivePairs ∧ mKeyGen fiveDraws fivePairs = .ok fiveSlaves ∧
      mTokenGen fiveSlaves [1] 2 0 = .error .diverges ∧
      (mTokenGen fiveSlaves [0,1] 2 0 >>= fun current => leKeyUpdate fiveSlaves current 0) =
        .error .diverges ∧
      ∀ fuel, Loop.whileDo (fun e => e%4 != 1) (· + fiveSlaves.n_total) fuel 174 = none := by
  refine ⟨fivePairs_accepted,fiveSlaves_generated,by decide +kernel,by decide +kernel,?_⟩
  intro fuel
  exact adjust_diverges (by decide) fuel

end UavFanet.ExponentAdjustment
