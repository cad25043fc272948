import UavFanet.CrtManager
import UavFanet.Library.Congruence
import Mathlib.FieldTheory.Finite.Basic
import Mathlib.Data.Nat.Totient
import Mathlib.Tactic.IntervalCases

/-! What `MKeyGen` establishes: inverse exponents for every slave, a CRT basis
over pairwise coprime moduli and a master exponent with all slave residues. -/
namespace UavFanet.KeyGroup
open Library UavFanet.BigInt UavFanet.CrtManager

/-- A safe prime above five, so that its half is an odd prime. -/
structure SafePrime (p : Int) : Prop where
  large : 5 < p
  prime : p.toNat.Prime
  half : ((p-1)/2).toNat.Prime

/-- The inputs of key generation: pairs of safe primes that are all distinct. -/
structure SafePairs (prime_pairs : List (Int × Int)) : Prop where
  safe : ∀ pair ∈ prime_pairs, SafePrime pair.1 ∧ SafePrime pair.2
  distinct : (prime_pairs.flatMap (fun pair => [pair.1,pair.2])).Nodup

theorem SafePrime.natural {p : Int} (safe : SafePrime p) :
    ∃ x : ℕ, computeX p = x ∧ p = 2*x+1 ∧ x.Prime ∧ 2 < x := by
  have odd : p%2 = 1 := by
    rcases safe.prime.eq_two_or_odd with two | odd
    · have := safe.large
      omega
    · have := safe.large
      omega
  refine ⟨((p-1)/2).toNat,?_,?_,safe.half,?_⟩
  · have := safe.large
    rw [computeX,Int.tdiv_eq_ediv_of_nonneg (by omega)]
    omega
  · have := safe.large
    omega
  · have := safe.large
    omega

theorem SafePrime.of_natural {p : ℕ} (large : 5 < p) (prime : p.Prime) (half : ((p-1)/2).Prime) :
    SafePrime p where
  large := by omega
  prime := by rwa [Int.toNat_natCast]
  half := by
    have same : (((p : Int)-1)/2).toNat = (p-1)/2 := by omega
    rwa [same]

/-- `d_i` is the inverse of `e_i` modulo `4*x*y`: its exponent is one less than
Euler's totient of that modulus. -/
theorem computeDi_inverse {e x y : ℕ} (x_prime : x.Prime) (y_prime : y.Prime) (x_odd : 2 < x)
    (y_odd : 2 < y) (apart : x ≠ y) (four : e%4 = 1) (coprime : e.Coprime (x*y)) :
    ∃ d : ℕ, computeDi e x y = .ok (d : Int) ∧ (e*d : ℤ) ≡ 1 [ZMOD 4*x*y] := by
  have totient : Nat.totient (4*(x*y)) = 2*(x-1)*(y-1) := by
    have four_x : Nat.Coprime 4 x :=
      (Nat.Coprime.pow_left 2 ((Nat.coprime_primes Nat.prime_two x_prime).mpr (by omega)))
    have four_y : Nat.Coprime 4 y :=
      (Nat.Coprime.pow_left 2 ((Nat.coprime_primes Nat.prime_two y_prime).mpr (by omega)))
    rw [Nat.totient_mul (four_x.mul_right four_y),
      Nat.totient_mul ((Nat.coprime_primes x_prime y_prime).mpr apart),
      Nat.totient_prime x_prime,Nat.totient_prime y_prime,show Nat.totient 4 = 2 by decide,mul_assoc]
  have coprime_four : e.Coprime 4 := by
    have step : Nat.gcd 4 e = Nat.gcd (e%4) 4 := Nat.gcd_rec 4 e
    rw [Nat.coprime_comm,Nat.Coprime,step,four]
    decide
  have euler : e^(2*(x-1)*(y-1)) ≡ 1 [MOD 4*(x*y)] :=
    totient ▸ Nat.ModEq.pow_totient (coprime_four.mul_right coprime)
  have exponent : 0 < 2*(x-1)*(y-1) := by
    have := Nat.mul_pos (show 0 < x-1 by omega) (show 0 < y-1 by omega)
    nlinarith
  have cast_exponent : (2*((x:ℤ)-1)*((y:ℤ)-1)-1) = ((2*(x-1)*(y-1)-1 : ℕ) : ℤ) := by
    rw [Nat.cast_sub exponent]
    push_cast [Nat.cast_sub (show 1 ≤ x by omega),Nat.cast_sub (show 1 ≤ y by omega)]
    ring
  have positive : (0 : ℤ) < 4*x*y := by
    have := Nat.mul_pos (show 0 < x by omega) (show 0 < y by omega)
    nlinarith
  refine ⟨e^(2*(x-1)*(y-1)-1)%(4*x*y),?_,?_⟩
  · rw [computeDi,cast_exponent,modPow_nonneg (by positivity) (by positivity) positive,
      Int.toNat_natCast]
    push_cast
    rfl
  · have reduced : ((e^(2*(x-1)*(y-1)-1)%(4*x*y) : ℕ) : ℤ) ≡ e^(2*(x-1)*(y-1)-1) [ZMOD 4*x*y] := by
      push_cast
      exact Int.mod_modEq _ _
    calc (e*((e^(2*(x-1)*(y-1)-1)%(4*x*y) : ℕ) : ℤ) : ℤ)
        ≡ e*e^(2*(x-1)*(y-1)-1) [ZMOD 4*x*y] := reduced.mul_left _
      _ = ((e^(2*(x-1)*(y-1)) : ℕ) : ℤ) := by
          rw [← pow_succ',Nat.sub_add_cancel exponent]
          push_cast
          rfl
      _ ≡ 1 [ZMOD 4*x*y] := by
          have cast := (Int.natCast_modEq_iff).mpr euler
          rwa [show ((4*(x*y) : ℕ) : ℤ) = 4*x*y by push_cast; ring] at cast

private theorem adjust_ok {n r : Int} (odd : n%2 = 1) :
    ∃ k : ℕ, k ≤ 3 ∧ adjust n r = .ok (r+k*n) ∧ (r+k*n)%4 = 1 := by
  -- Adding an odd number runs through all residues modulo four.
  have start : n%4 = 1 ∨ n%4 = 3 := by omega
  by_cases zero : r%4 = 1
  · exact ⟨0,by omega,by simp [adjust,Loop.whileDo,zero],by simpa using zero⟩
  · by_cases one : (r+n)%4 = 1
    · exact ⟨1,by omega,by simp [adjust,Loop.whileDo,zero,one],by simpa using one⟩
    · by_cases two : (r+n+n)%4 = 1
      · refine ⟨2,by omega,?_,by omega⟩
        simp [adjust,Loop.whileDo,zero,one,two]
        ring
      · have three : (r+n+n+n)%4 = 1 := by omega
        refine ⟨3,by omega,?_,by omega⟩
        simp [adjust,Loop.whileDo,zero,one,two,three]
        ring

theorem adjust_diverges {n e : Int} (stuck : adjust n e = .error .diverges) (fuel : Nat) :
    Loop.whileDo (fun e => e%4 != 1) (· + n) fuel e = none := by
  have running : Loop.whileDo (fun e => e%4 != 1) (· + n) 3 e = none := by
    unfold adjust at stuck
    split at stuck
    · cases stuck
    · assumption
  refine Loop.whileDo_periodic (fun k => ?_) running fuel
  have shifted : (· + n)^[k+(3+1)] e = (· + n)^[k] e+4*n := by
    simp only [add_right_iterate]
    push_cast
    ring
  have residue : ((· + n)^[k] e+4*n)%4 = ((· + n)^[k] e)%4 := by omega
  rw [shifted,residue]

/-- Over an odd positive modulus the reduced exponent is the one residue class
modulo `4*n` that is one modulo four. -/
theorem reduceExponent_ok {n : Int} (e : Int) (positive : 0 < n) (odd : n%2 = 1) :
    ∃ r, reduceExponent n e = .ok r ∧ 0 ≤ r ∧ r < 4*n ∧ r%4 = 1 ∧ r ≡ e [ZMOD n] := by
  have low := Int.emod_nonneg e (show n ≠ 0 by omega)
  have high := Int.emod_lt_of_pos e positive
  obtain ⟨k,bound,adjusted,one⟩ := adjust_ok (r := e%n) odd
  have added : 0 ≤ (k : Int)*n ∧ (k : Int)*n ≤ 3*n := by
    constructor
    · positivity
    · nlinarith
  refine ⟨e%n+k*n,?_,by omega,by omega,one,?_⟩
  · simp only [reduceExponent,mod_positive positive,Result.ok_bind,adjusted]
  · calc e%n+k*n ≡ e+0 [ZMOD n] :=
          (Int.mod_modEq e n).add (Int.modEq_zero_iff_dvd.mpr (Dvd.intro_left _ rfl))
      _ = e := add_zero e

/-- One slave's key material: an RSA modulus of two safe primes with exponents
that are inverse modulo `4*x*y`. -/
structure SlaveKey (sk : SlaveKeyEntry) : Prop where
  p_safe : SafePrime sk.p_i
  q_safe : SafePrime sk.q_i
  apart : sk.p_i ≠ sk.q_i
  modulus : sk.n_i = sk.p_i*sk.q_i
  halves : sk.p_i = 2*sk.x_i+1 ∧ sk.q_i = 2*sk.y_i+1
  exponentModulus : sk.xy_i = sk.x_i*sk.y_i
  four : sk.e_i%4 = 1
  coprime : IsCoprime sk.e_i sk.xy_i
  inverse : sk.e_i*sk.d_i ≡ 1 [ZMOD 4*sk.xy_i]
  decryption : 0 ≤ sk.d_i

theorem drawExponent_ok {xy e : Int} {draws : List UInt64} (drawn : drawExponent xy draws = .ok e) :
    ∃ draw ∈ draws, e = generateEi draw ∧ BigInt.gcd e xy = 1 := by
  induction draws with
  | nil => cases drawn
  | cons draw draws ih =>
    simp only [drawExponent] at drawn
    split at drawn
    · obtain ⟨found,member,spec⟩ := ih drawn
      exact ⟨found,by simp [member],spec⟩
    · rename_i accepted
      cases drawn
      exact ⟨draw,by simp,rfl,by simpa using accepted⟩

theorem drawExponent_total {xy : Int} {draws : List UInt64}
    (admissible : ∃ draw ∈ draws, BigInt.gcd (generateEi draw) xy = 1) :
    ∃ e, drawExponent xy draws = .ok e := by
  induction draws with
  | nil => simp at admissible
  | cons draw draws ih =>
    obtain ⟨found,member,coprime⟩ := admissible
    simp only [drawExponent]
    split
    · rename_i rejected
      rcases List.mem_cons.mp member with rfl | inside
      · exact absurd coprime rejected
      · exact ih ⟨found,inside,coprime⟩
    · exact ⟨_,rfl⟩

theorem slaveKey_ok (position : Nat) {draws : List UInt64} {p q : Int} (p_safe : SafePrime p)
    (q_safe : SafePrime q) (apart : p ≠ q) {e : Int}
    (drawn : drawExponent (computeX p*computeY q) draws = .ok e) :
    ∃ sk, slaveKey position draws p q = .ok sk ∧ SlaveKey sk ∧ sk.p_i = p ∧ sk.q_i = q ∧
      sk.uav_index = UInt32.ofNat position := by
  obtain ⟨x,x_value,p_value,x_prime,x_odd⟩ := p_safe.natural
  obtain ⟨y,y_value,q_value,y_prime,y_odd⟩ := q_safe.natural
  have y_same : computeY q = y := y_value
  obtain ⟨draw,_,rfl,one⟩ := drawExponent_ok drawn
  have natural : generateEi draw = ((4*(draw.toNat+1)+1 : ℕ) : ℤ) := by
    simp only [generateEi]
    push_cast
    rfl
  rw [x_value,y_same] at one drawn
  have coprime : (4*(draw.toNat+1)+1).Coprime (x*y) := by
    rw [natural] at one
    simp only [BigInt.gcd,← Int.natCast_mul,Int.gcd_natCast_natCast] at one
    exact_mod_cast one
  obtain ⟨d,computed,inverse⟩ := computeDi_inverse x_prime y_prime x_odd y_odd
    (by rintro rfl; exact apart (by omega)) (by omega) coprime
  rw [← natural] at computed inverse
  refine ⟨_,by simp only [slaveKey,x_value,y_same,drawn,computed,Result.ok_bind]; rfl,?_,rfl,rfl,rfl⟩
  exact {
    p_safe, q_safe, apart
    modulus := rfl
    halves := ⟨p_value,q_value⟩
    exponentModulus := rfl
    four := by
      simp only [natural]
      omega
    coprime := by
      rw [natural,← Int.natCast_mul]
      exact Nat.isCoprime_iff_coprime.mpr coprime
    inverse := by rwa [← mul_assoc]
    decryption := by simp }

theorem distinct_pairwise {prime_pairs : List (Int × Int)}
    (distinct : (prime_pairs.flatMap (fun pair => [pair.1,pair.2])).Nodup) :
    (∀ pair ∈ prime_pairs, pair.1 ≠ pair.2) ∧ prime_pairs.Pairwise (fun a b =>
      a.1 ≠ b.1 ∧ a.1 ≠ b.2 ∧ a.2 ≠ b.1 ∧ a.2 ≠ b.2) := by
  obtain ⟨inside,across⟩ := List.nodup_flatMap.mp distinct
  constructor
  · intro pair member
    simpa using inside pair member
  · refine across.imp ?_
    intro a b disjoint
    simp only [List.disjoint_cons_left,List.mem_cons,List.not_mem_nil,or_false,not_or] at disjoint
    tauto

theorem slaveKeys_ok {rng : Nat → List UInt64} {position : Nat} {prime_pairs : List (Int × Int)}
    {generated : List SlaveKeyEntry}
    (safe : ∀ pair ∈ prime_pairs, SafePrime pair.1 ∧ SafePrime pair.2)
    (apart : ∀ pair ∈ prime_pairs, pair.1 ≠ pair.2)
    (ok : slaveKeys rng position prime_pairs = .ok generated) :
    (∀ sk ∈ generated, SlaveKey sk) ∧ generated.map (fun sk => (sk.p_i,sk.q_i)) = prime_pairs ∧
      generated.map (·.uav_index) = (List.range' position prime_pairs.length).map UInt32.ofNat := by
  induction prime_pairs generalizing position generated with
  | nil =>
    cases ok
    simp
  | cons pair prime_pairs ih =>
    obtain ⟨p,q⟩ := pair
    obtain ⟨sk,produced,ok⟩ := Result.bind_ok.mp ok
    obtain ⟨rest,generates,ok⟩ := Result.bind_ok.mp ok
    cases ok
    obtain ⟨e,drawn,_⟩ := Result.bind_ok.mp produced
    obtain ⟨p_safe,q_safe⟩ := safe (p,q) (by simp)
    obtain ⟨sk',same,key,p_same,q_same,index⟩ :=
      slaveKey_ok position p_safe q_safe (apart (p,q) (by simp)) drawn
    rw [produced] at same
    cases same
    obtain ⟨keys,pairs,indices⟩ := ih (fun pair member => safe pair (by simp [member]))
      (fun pair member => apart pair (by simp [member])) generates
    refine ⟨?_,by simp [p_same,q_same,pairs],by simp [index,indices,List.range'_succ]⟩
    rintro sk' (_ | ⟨_,member⟩)
    · exact key
    · exact keys sk' member

theorem slaveKeys_total {rng : Nat → List UInt64} (position : Nat)
    {prime_pairs : List (Int × Int)}
    (safe : ∀ pair ∈ prime_pairs, SafePrime pair.1 ∧ SafePrime pair.2)
    (apart : ∀ pair ∈ prime_pairs, pair.1 ≠ pair.2)
    (admissible : ∀ i p q, prime_pairs[i]? = some (p,q) →
      ∃ draw ∈ rng (position+i), BigInt.gcd (generateEi draw) (computeX p*computeY q) = 1) :
    ∃ generated, slaveKeys rng position prime_pairs = .ok generated := by
  induction prime_pairs generalizing position with
  | nil => exact ⟨[],rfl⟩
  | cons pair prime_pairs ih =>
    obtain ⟨p,q⟩ := pair
    obtain ⟨e,drawn⟩ := drawExponent_total (admissible 0 p q rfl)
    obtain ⟨p_safe,q_safe⟩ := safe (p,q) (by simp)
    obtain ⟨sk,produced,_⟩ :=
      slaveKey_ok position p_safe q_safe (apart (p,q) (by simp)) drawn
    obtain ⟨rest,generates⟩ := ih (position+1)
      (fun pair member => safe pair (by simp [member]))
      (fun pair member => apart pair (by simp [member]))
      (fun i p q found => by
        have shifted := admissible (i+1) p q (by simpa using found)
        rwa [show position+(i+1) = position+1+i by omega] at shifted)
    simp only [Nat.add_zero] at produced
    exact ⟨sk::rest,by simp only [slaveKeys,produced,generates,Result.ok_bind]⟩

def withoutBasis (sk : SlaveKeyEntry) : SlaveKeyEntry := { sk with Mi := 0, Ni := 0 }

theorem slaveKey_withoutBasis {sk other : SlaveKeyEntry} (same : withoutBasis sk = withoutBasis other)
    (key : SlaveKey sk) : SlaveKey other := by
  have bare : SlaveKey (withoutBasis sk) := { key with }
  rw [same] at bare
  exact { bare with }

private theorem withBasis_ok {n_total Mi : Int} {sk : SlaveKeyEntry} (large : 1 < sk.xy_i)
    (split : n_total = sk.xy_i*Mi) (coprime : IsCoprime sk.xy_i Mi) (nonneg : 0 ≤ Mi) :
    ∃ Ni, withBasis n_total sk = .ok { sk with Mi, Ni } ∧ Mi*Ni ≡ 1 [ZMOD sk.xy_i] := by
  obtain ⟨Ni,inverted,inverse⟩ :=
    modInverse_coprime nonneg large (Int.isCoprime_iff_gcd_eq_one.mp coprime.symm)
  refine ⟨Ni,?_,inverse⟩
  have nonzero : sk.xy_i ≠ 0 := by omega
  have quotient : divide n_total sk.xy_i = .ok Mi := by
    rw [divide,if_neg nonzero,split,Int.mul_tdiv_cancel_left _ nonzero]
  simp only [withBasis,quotient,inverted,Result.ok_bind]

private theorem withBases_ok (n_total : Int) (slaves : List SlaveKeyEntry)
    (each : ∀ sk ∈ slaves, 1 < sk.xy_i ∧
      ∃ Mi, n_total = sk.xy_i*Mi ∧ IsCoprime sk.xy_i Mi ∧ 0 ≤ Mi) :
    ∃ based, withBases n_total slaves = .ok based ∧
      based.map withoutBasis = slaves.map withoutBasis ∧
      ∀ sk ∈ based, n_total = sk.xy_i*sk.Mi ∧ sk.Mi*sk.Ni ≡ 1 [ZMOD sk.xy_i] := by
  induction slaves with
  | nil => exact ⟨[],rfl,rfl,by simp⟩
  | cons sk slaves ih =>
    obtain ⟨large,Mi,split,coprime,nonneg⟩ := each sk (by simp)
    obtain ⟨Ni,produced,inverse⟩ := withBasis_ok large split coprime nonneg
    obtain ⟨based,bases,same,spec⟩ := ih (fun sk member => each sk (by simp [member]))
    refine ⟨_,by simp only [withBases,produced,bases,Result.ok_bind]; rfl,by simp [same,withoutBasis],?_⟩
    rintro sk' (_ | ⟨_,member⟩)
    · exact ⟨split,inverse⟩
    · exact spec sk' member

/-- What step 3 establishes: each contribution is the slave's exponent modulo its own modulus
and nothing modulo the others. -/
structure Basis (slaves : List SlaveKeyEntry) : Prop where
  coprime : slaves.Pairwise (fun a b => IsCoprime a.xy_i b.xy_i)
  basis : ∀ sk ∈ slaves, contribution sk ≡ sk.e_i [ZMOD sk.xy_i]
  cross : slaves.Pairwise (fun a b => a.xy_i ∣ contribution b ∧ b.xy_i ∣ contribution a)

theorem Basis.contribution_residue {slaves : List SlaveKeyEntry} (based : Basis slaves)
    {sk other : SlaveKeyEntry} (member : sk ∈ slaves) (present : other ∈ slaves) :
    contribution sk ≡ (if other = sk then other.e_i else 0) [ZMOD other.xy_i] := by
  by_cases same : other = sk
  · subst same
    simpa using based.basis other present
  · have symmetric : Std.Symm (fun a b : SlaveKeyEntry =>
        a.xy_i ∣ contribution b ∧ b.xy_i ∣ contribution a) := ⟨fun a b both => both.symm⟩
    rw [if_neg same]
    exact Int.modEq_zero_iff_dvd.mpr (based.cross.forall present member same).1

/-- A master key whose slaves have coprime moduli, contribute their own exponent
modulo their own modulus and nothing modulo the others. -/
structure MasterKey (mkg : MKeyGenResult) : Prop where
  slave : ∀ sk ∈ mkg.slaves, SlaveKey sk
  total : mkg.n_total = (mkg.slaves.map (·.xy_i)).prod
  coprime : mkg.slaves.Pairwise (fun a b => IsCoprime a.xy_i b.xy_i)
  basis : ∀ sk ∈ mkg.slaves, contribution sk ≡ sk.e_i [ZMOD sk.xy_i]
  cross : mkg.slaves.Pairwise (fun a b => a.xy_i ∣ contribution b ∧ b.xy_i ∣ contribution a)
  range : 0 ≤ mkg.eM ∧ mkg.eM < 4*mkg.n_total
  four : mkg.eM%4 = 1
  master : ∀ sk ∈ mkg.slaves, mkg.eM ≡ sk.e_i [ZMOD sk.xy_i]

theorem MasterKey.based {mkg : MKeyGenResult} (master : MasterKey mkg) : Basis mkg.slaves :=
  ⟨master.coprime,master.basis,master.cross⟩

/-- The keys with other fleet numbers: key generation counts the slaves of one group, the files
number on through the clusters. -/
def renumbered (number : SlaveKeyEntry → UInt32) (mkg : MKeyGenResult) : MKeyGenResult :=
  { mkg with slaves := mkg.slaves.map (fun sk => { sk with uav_id := number sk }) }

theorem SlaveKey.of_renumbered {sk : SlaveKeyEntry} {uav_id : UInt32}
    (key : SlaveKey { sk with uav_id }) : SlaveKey sk :=
  { key with }

theorem MasterKey.of_renumbered {number : SlaveKeyEntry → UInt32} {mkg : MKeyGenResult}
    (master : MasterKey (renumbered number mkg)) : MasterKey mkg := by
  have listed : ∀ sk ∈ mkg.slaves, { sk with uav_id := number sk } ∈ (renumbered number mkg).slaves :=
    fun sk member => List.mem_map_of_mem member
  obtain ⟨slave,total,coprime,basis,cross,range,four,residue⟩ := master
  rw [renumbered,List.map_map] at total
  rw [renumbered,List.pairwise_map] at coprime cross
  exact {
    slave := fun sk member => (slave _ (listed sk member)).of_renumbered
    total := total
    coprime := coprime
    basis := fun sk member => basis { sk with uav_id := number sk } (listed sk member)
    cross := cross
    range := range
    four := four
    master := fun sk member => residue { sk with uav_id := number sk } (listed sk member) }

theorem SlaveKey.exponentModulus_odd {sk : SlaveKeyEntry} (key : SlaveKey sk) :
    2 < sk.xy_i ∧ sk.xy_i%2 = 1 := by
  obtain ⟨x,_,p_value,x_prime,x_odd⟩ := key.p_safe.natural
  obtain ⟨y,_,q_value,y_prime,y_odd⟩ := key.q_safe.natural
  have x_same : sk.x_i = x := by
    have := key.halves.1
    omega
  have y_same : sk.y_i = y := by
    have := key.halves.2
    omega
  have x_mod := x_prime.eq_two_or_odd
  have y_mod := y_prime.eq_two_or_odd
  rw [key.exponentModulus,x_same,y_same]
  constructor
  · have : 3*3 ≤ x*y := Nat.mul_le_mul x_odd y_odd
    exact_mod_cast (by omega : 2 < x*y)
  · have : x*y%2 = 1 := by
      rw [Nat.mul_mod,show x%2 = 1 by omega,show y%2 = 1 by omega]
    exact_mod_cast this

theorem SlaveKey.modulus_positive {sk : SlaveKeyEntry} (key : SlaveKey sk) : 0 < sk.n_i := by
  have p_large := key.p_safe.large
  have q_large := key.q_safe.large
  rw [key.modulus]
  positivity

private theorem halves_coprime {p q x y : Int} (p_safe : SafePrime p) (q_safe : SafePrime q)
    (apart : p ≠ q) (p_half : p = 2*x+1) (q_half : q = 2*y+1) : IsCoprime x y := by
  obtain ⟨x',_,p_value,x_prime,_⟩ := p_safe.natural
  obtain ⟨y',_,q_value,y_prime,_⟩ := q_safe.natural
  have x_same : x = x' := by omega
  have y_same : y = y' := by omega
  rw [x_same,y_same]
  exact Nat.isCoprime_iff_coprime.mpr ((Nat.coprime_primes x_prime y_prime).mpr (by omega))

private theorem slaves_coprime {slaves : List SlaveKeyEntry} {prime_pairs : List (Int × Int)}
    (pairs : SafePairs prime_pairs) (keys : ∀ sk ∈ slaves, SlaveKey sk)
    (same : slaves.map (fun sk => (sk.p_i,sk.q_i)) = prime_pairs) :
    slaves.Pairwise (fun a b => IsCoprime a.xy_i b.xy_i) := by
  have across := (distinct_pairwise pairs.distinct).2
  rw [← same,List.pairwise_map] at across
  refine across.imp_of_mem ?_
  rintro a b a_member b_member ⟨pp,pq,qp,qq⟩
  have ka := keys a a_member
  have kb := keys b b_member
  rw [ka.exponentModulus,kb.exponentModulus]
  exact IsCoprime.mul_left
    ((halves_coprime ka.p_safe kb.p_safe pp ka.halves.1 kb.halves.1).mul_right
      (halves_coprime ka.p_safe kb.q_safe pq ka.halves.1 kb.halves.2))
    ((halves_coprime ka.q_safe kb.p_safe qp ka.halves.2 kb.halves.1).mul_right
      (halves_coprime ka.q_safe kb.q_safe qq ka.halves.2 kb.halves.2))

theorem total_odd {slaves : List SlaveKeyEntry} (keys : ∀ sk ∈ slaves, SlaveKey sk) :
    0 < (slaves.map (·.xy_i)).prod ∧ (slaves.map (·.xy_i)).prod%2 = 1 := by
  induction slaves with
  | nil => simp
  | cons sk slaves ih =>
    obtain ⟨large,odd⟩ := (keys sk (by simp)).exponentModulus_odd
    obtain ⟨positive,rest_odd⟩ := ih (fun sk member => keys sk (by simp [member]))
    rw [List.map_cons,List.prod_cons,Int.mul_emod,odd,rest_odd]
    exact ⟨by positivity,by decide⟩

theorem withoutBasis_mem {slaves generated : List SlaveKeyEntry}
    (same : slaves.map withoutBasis = generated.map withoutBasis) {sk : SlaveKeyEntry}
    (member : sk ∈ slaves) : ∃ other ∈ generated, withoutBasis other = withoutBasis sk := by
  have image : withoutBasis sk ∈ generated.map withoutBasis :=
    same ▸ List.mem_map_of_mem member
  exact List.mem_map.mp image

theorem withoutBasis_moduli {slaves generated : List SlaveKeyEntry}
    (same : slaves.map withoutBasis = generated.map withoutBasis) :
    slaves.map (·.xy_i) = generated.map (·.xy_i) := by
  have mapped := congrArg (List.map (·.xy_i)) same
  simpa only [List.map_map,Function.comp_def,withoutBasis] using mapped

theorem withBases_basis {generated : List SlaveKeyEntry} (large : ∀ sk ∈ generated, 1 < sk.xy_i)
    (coprime : generated.Pairwise (fun a b => IsCoprime a.xy_i b.xy_i)) :
    ∃ slaves, withBases (generated.map (·.xy_i)).prod generated = .ok slaves ∧
      slaves.map withoutBasis = generated.map withoutBasis ∧ Basis slaves := by
  have positive : 0 < (generated.map (·.xy_i)).prod := by
    refine List.prod_pos ?_
    intro modulus found
    obtain ⟨sk,member,rfl⟩ := List.mem_map.mp found
    have := large sk member
    omega
  obtain ⟨slaves,bases,same,spec⟩ := withBases_ok (generated.map (·.xy_i)).prod generated (by
      intro sk member
      obtain ⟨rest,split,apart⟩ := Congruence.cofactor coprime member
      have above := large sk member
      refine ⟨above,rest,split,apart,?_⟩
      rw [split] at positive
      exact ((mul_pos_iff_of_pos_left (by omega)).mp positive).le)
  have coprime' : slaves.Pairwise (fun a b => IsCoprime a.xy_i b.xy_i) := by
    have mapped : (generated.map (·.xy_i)).Pairwise IsCoprime := List.pairwise_map.mpr coprime
    rw [← withoutBasis_moduli same] at mapped
    exact List.pairwise_map.mp mapped
  have vanish : ∀ a ∈ slaves, ∀ b ∈ slaves, IsCoprime a.xy_i b.xy_i → a.xy_i ∣ contribution b := by
    intro a a_member b b_member apart
    have divides : a.xy_i ∣ b.xy_i*b.Mi := by
      rw [← (spec b b_member).1,(spec a a_member).1]
      exact Dvd.intro _ rfl
    exact ((apart.dvd_of_dvd_mul_left divides).mul_left b.e_i).mul_right b.Ni
  refine ⟨slaves,bases,same,coprime',?_,?_⟩
  · intro sk member
    have scaled := (spec sk member).2.mul_left sk.e_i
    rwa [mul_one,← mul_assoc] at scaled
  · exact coprime'.imp_of_mem (fun a_member b_member apart =>
      ⟨vanish _ a_member _ b_member apart,vanish _ b_member _ a_member apart.symm⟩)

private theorem master_ok {generated : List SlaveKeyEntry} (keys : ∀ sk ∈ generated, SlaveKey sk)
    (coprime : generated.Pairwise (fun a b => IsCoprime a.xy_i b.xy_i)) :
    ∃ slaves eM,
      withBases (generated.map (·.xy_i)).prod generated = .ok slaves ∧
      reduceExponent (generated.map (·.xy_i)).prod (slaves.map contribution).sum = .ok eM ∧
      slaves.map withoutBasis = generated.map withoutBasis ∧
      MasterKey { eM, n_total := (generated.map (·.xy_i)).prod, slaves } := by
  obtain ⟨positive,odd⟩ := total_odd keys
  obtain ⟨slaves,bases,same,based⟩ := withBases_basis (by
      intro sk member
      have := (keys sk member).exponentModulus_odd.1
      omega) coprime
  obtain ⟨eM,reduced,low,high,four,residue⟩ :=
    reduceExponent_ok (slaves.map contribution).sum positive odd
  have moduli := withoutBasis_moduli same
  refine ⟨slaves,eM,bases,reduced,same,?_⟩
  exact {
    slave := by
      intro sk member
      obtain ⟨other,present,equal⟩ := withoutBasis_mem same member
      exact slaveKey_withoutBasis equal (keys other present)
    total := by rw [moduli]
    coprime := based.coprime
    basis := based.basis
    cross := based.cross
    four
    range := ⟨low,high⟩
    master := by
      intro sk member
      have divides : sk.xy_i ∣ (generated.map (·.xy_i)).prod := by
        rw [← moduli]
        exact List.dvd_prod (List.mem_map_of_mem member)
      exact ((residue.of_dvd divides).trans
        (Congruence.sum_modEq contribution based.cross member)).trans (based.basis sk member) }

/-- `MKeyGen` on distinct safe primes fails only while its draws are rejected. What it
returns is a key group with one slave for each pair, indexed by position. -/
theorem mKeyGen_ok {rng : Nat → List UInt64} {prime_pairs : List (Int × Int)}
    {mkg : MKeyGenResult} (pairs : SafePairs prime_pairs) (ok : mKeyGen rng prime_pairs = .ok mkg) :
    MasterKey mkg ∧ mkg.slaves.map (fun sk => (sk.p_i,sk.q_i)) = prime_pairs ∧
      mkg.slaves.map (·.uav_index) = (List.range prime_pairs.length).map UInt32.ofNat := by
  obtain ⟨generated,generates,ok⟩ := Result.bind_ok.mp ok
  obtain ⟨keys,same_pairs,indices⟩ := slaveKeys_ok pairs.safe (distinct_pairwise pairs.distinct).1 generates
  obtain ⟨slaves,eM,bases,reduced,same,group⟩ := master_ok keys (slaves_coprime pairs keys same_pairs)
  simp only [bases,reduced,Result.ok_bind,Except.ok.injEq] at ok
  subst ok
  refine ⟨group,?_,?_⟩
  · have mapped := congrArg (List.map (fun sk => (sk.p_i,sk.q_i))) same
    simp only [List.map_map,Function.comp_def,withoutBasis] at mapped
    exact mapped.trans same_pairs
  · have mapped := congrArg (List.map (·.uav_index)) same
    simp only [List.map_map,Function.comp_def,withoutBasis] at mapped
    rw [mapped,indices,List.range_eq_range']

theorem mKeyGen_total {rng : Nat → List UInt64} {prime_pairs : List (Int × Int)}
    (pairs : SafePairs prime_pairs)
    (admissible : ∀ i p q, prime_pairs[i]? = some (p,q) →
      ∃ draw ∈ rng i, BigInt.gcd (generateEi draw) (computeX p*computeY q) = 1) :
    ∃ mkg, mKeyGen rng prime_pairs = .ok mkg := by
  obtain ⟨generated,generates⟩ := slaveKeys_total 0 pairs.safe (distinct_pairwise pairs.distinct).1
    (by simpa only [Nat.zero_add] using admissible)
  obtain ⟨keys,same_pairs,_⟩ := slaveKeys_ok pairs.safe (distinct_pairwise pairs.distinct).1 generates
  obtain ⟨slaves,eM,bases,reduced,_⟩ := master_ok keys (slaves_coprime pairs keys same_pairs)
  exact ⟨_,by simp only [mKeyGen,generates,bases,reduced,Result.ok_bind]; rfl⟩

def twoPairs : List (Int × Int) := [(7,11),(23,47)]

/-- The first draw gives `e = 5`, which slave 0 has to reject. -/
def twoDraws : Nat → List UInt64 := fun _ => [0,2]

def twoSlaves : MKeyGenResult where
  eM := 14173
  n_total := 3795
  slaves := [
    { uav_index := 0, uav_id := 0, e_i := 13, d_i := 37, n_i := 77, x_i := 3, y_i := 5,
      Mi := 253, Ni := 7, xy_i := 15, p_i := 7, q_i := 11 },
    { uav_index := 1, uav_id := 1, e_i := 5, d_i := 405, n_i := 1081, x_i := 11, y_i := 23,
      Mi := 15, Ni := 135, xy_i := 253, p_i := 23, q_i := 47 }]

theorem twoPairs_safe : SafePairs twoPairs where
  safe := by
    have each : SafePrime 7 ∧ SafePrime 11 ∧ SafePrime 23 ∧ SafePrime 47 := by
      refine ⟨?_,?_,?_,?_⟩ <;> exact ⟨by decide,by decide +kernel,by decide +kernel⟩
    intro pair member
    rcases List.mem_cons.mp member with rfl | member
    · exact ⟨each.1,each.2.1⟩
    · rw [List.mem_singleton.mp member]
      exact each.2.2
  distinct := by decide

theorem twoSlaves_generated : mKeyGen twoDraws twoPairs = .ok twoSlaves := by decide +kernel

end UavFanet.KeyGroup
