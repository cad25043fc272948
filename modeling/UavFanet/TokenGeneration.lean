import UavFanet.KeyGroup

/-! The exponent of a token determines its members: one residue class for each
member set, reached alike by fresh generation and by joins and leaves. -/
namespace UavFanet.TokenGeneration
open Library UavFanet.BigInt UavFanet.CrtManager UavFanet.KeyGroup

/-- The exponent that carries the members' own exponents and nothing else. -/
structure TokenExponent (mkg : MKeyGenResult) (members : List UInt32) (e : Int) : Prop where
  range : 0 ≤ e ∧ e < 4*mkg.n_total
  four : e%4 = 1
  residue : ∀ sk ∈ mkg.slaves, e ≡ (if inGroup members sk then sk.e_i else 0) [ZMOD sk.xy_i]

@[simp] theorem inGroup_iff {members : List UInt32} {sk : SlaveKeyEntry} :
    inGroup members sk = true ↔ sk.uav_index ∈ members := by
  simp [inGroup]

variable {mkg : MKeyGenResult}

theorem total_ok (master : MasterKey mkg) : 0 < mkg.n_total ∧ mkg.n_total%2 = 1 := by
  rw [master.total]
  exact total_odd master.slave

theorem modulus_dvd_total (master : MasterKey mkg) {sk : SlaveKeyEntry} (member : sk ∈ mkg.slaves) :
    sk.xy_i ∣ mkg.n_total := by
  rw [master.total]
  exact List.dvd_prod (List.mem_map_of_mem member)

private theorem four_coprime {m : Int} (odd : m%2 = 1) : IsCoprime 4 m := by
  have two : IsCoprime 2 m := (Int.prime_two.coprime_iff_not_dvd).mpr (by omega)
  exact two.mul_left two

theorem TokenExponent.unique (master : MasterKey mkg) {members : List UInt32} {e f : Int}
    (left : TokenExponent mkg members e) (right : TokenExponent mkg members f) : e = f := by
  have every : ((4 : ℤ)::mkg.slaves.map (·.xy_i)).Pairwise IsCoprime := by
    refine List.pairwise_cons.mpr ⟨?_,List.pairwise_map.mpr master.coprime⟩
    intro modulus found
    obtain ⟨sk,member,rfl⟩ := List.mem_map.mp found
    have sk_odd := (master.slave sk member).exponentModulus_odd.2
    exact four_coprime (master.slave sk member).exponentModulus_odd.2
  have same : e ≡ f [ZMOD ((4 : ℤ)::mkg.slaves.map (·.xy_i)).prod] := by
    refine Congruence.modEq_prod every ?_
    intro modulus found
    rcases List.mem_cons.mp found with rfl | inside
    · exact (left.four.trans right.four.symm : e%4 = f%4)
    · obtain ⟨sk,member,rfl⟩ := List.mem_map.mp inside
      exact (left.residue sk member).trans (right.residue sk member).symm
  rw [List.prod_cons,← master.total] at same
  exact Congruence.eq_of_modEq same left.range.1 left.range.2 right.range.1 right.range.2

theorem reduceExponent_token (master : MasterKey mkg) {members : List UInt32} {exponent : Int}
    (residue : ∀ sk ∈ mkg.slaves,
      exponent ≡ (if inGroup members sk then sk.e_i else 0) [ZMOD sk.xy_i]) :
    ∃ e, reduceExponent mkg.n_total exponent = .ok e ∧ TokenExponent mkg members e := by
  obtain ⟨positive,odd⟩ := total_ok master
  obtain ⟨e,reduced,low,high,four,same⟩ := reduceExponent_ok exponent positive odd
  refine ⟨e,reduced,⟨low,high⟩,four,?_⟩
  intro sk member
  exact (same.of_dvd (modulus_dvd_total master member)).trans (residue sk member)

theorem groupModulus_positive (master : MasterKey mkg) (members : List UInt32) :
    0 < groupModulus mkg.slaves members := by
  refine List.prod_pos ?_
  intro n found
  obtain ⟨sk,kept,rfl⟩ := List.mem_map.mp found
  exact (master.slave sk (List.mem_of_mem_filter kept)).modulus_positive

/-- The token of a member set: all fields that depend on the members. -/
structure TokenFor (mkg : MKeyGenResult) (members : List UInt32) (T : Int)
    (mt : MTokenResult) : Prop where
  exponent : TokenExponent mkg members mt.e_MK
  modulus : mt.N_group = groupModulus mkg.slaves members
  power : modPow T mt.e_MK mt.N_group = .ok mt.MT_K
  secret : mt.T = T
  users : mt.user_indices = members

theorem TokenFor.unique (master : MasterKey mkg) {members : List UInt32} {T : Int}
    {left right : MTokenResult} (first : TokenFor mkg members T left)
    (second : TokenFor mkg members T right) :
    left.e_MK = right.e_MK ∧ left.N_group = right.N_group ∧ left.MT_K = right.MT_K := by
  have exponents := first.exponent.unique master second.exponent
  have moduli := first.modulus.trans second.modulus.symm
  have powers := first.power
  rw [exponents,moduli,second.power,Except.ok.injEq] at powers
  exact ⟨exponents,moduli,powers.symm⟩

theorem TokenFor.regroup {members others : List UInt32} {T : Int} {mt : MTokenResult}
    (token : TokenFor mkg members T mt) (same : ∀ i, i ∈ others ↔ i ∈ members) :
    TokenFor mkg others T { mt with user_indices := others } := by
  have grouped : inGroup others = inGroup members := by
    funext sk
    rw [Bool.eq_iff_iff,inGroup_iff,inGroup_iff]
    exact same sk.uav_index
  refine ⟨⟨token.exponent.range,token.exponent.four,?_⟩,?_,token.power,token.secret,rfl⟩
  · rw [grouped]
    exact token.exponent.residue
  · rw [groupModulus,grouped]
    exact token.modulus

theorem modPow_total (T : Int) {e N : Int} (e0 : 0 ≤ e) (positive : 0 < N) :
    ∃ power, modPow T e N = .ok power := by
  simp only [modPow,show N ≠ 0 by omega,show ¬ e < 0 by omega,if_false]
  exact ⟨_,rfl⟩

theorem mTokenGen_ok (master : MasterKey mkg) (members : List UInt32) (T : Int)
    (cluster_id : UInt32) :
    ∃ mt, mTokenGen mkg members T cluster_id = .ok mt ∧ TokenFor mkg members T mt := by
  have residue : ∀ sk ∈ mkg.slaves,
      mkg.eM-((mkg.slaves.filter (fun sk => !inGroup members sk)).map contribution).sum ≡
        (if inGroup members sk then sk.e_i else 0) [ZMOD sk.xy_i] := by
    intro sk member
    have outside := Congruence.sum_filter_modEq contribution (fun sk => !inGroup members sk)
      master.cross member
    have difference := (master.master sk member).sub outside
    cases inside : inGroup members sk with
    | true => simpa [inside] using difference
    | false =>
      simp only [inside,Bool.not_false,if_true] at difference
      simpa [inside] using difference.trans ((Int.ModEq.refl sk.e_i).sub (master.basis sk member))
  obtain ⟨e,reduced,exponent⟩ := reduceExponent_token master residue
  obtain ⟨power,powered⟩ :=
    modPow_total T exponent.range.1 (groupModulus_positive master members)
  exact ⟨_,by simp only [mTokenGen,reduced,powered,Result.ok_bind]; rfl,
    exponent,rfl,powered,rfl,rfl⟩

private theorem power_modEq {p x modulus : Int} {a b : ℕ} (safe : SafePrime p) (half : p = 2*x+1)
    (divides : 2*x ∣ modulus) (a0 : 0 < a) (b0 : 0 < b) (same : (a : ℤ) ≡ b [ZMOD modulus])
    (t : ℤ) : t^a ≡ t^b [ZMOD p] := by
  have large := safe.large
  have small : ((p.toNat-1 : ℕ) : ℤ) = 2*x := by omega
  have natural : a ≡ b [MOD p.toNat-1] := by
    rw [← Int.natCast_modEq_iff,small]
    exact same.of_dvd divides
  have fermat := Congruence.pow_modEq_pow safe.prime a0 b0 natural t
  rwa [Int.toNat_of_nonneg (show 0 ≤ p by omega)] at fermat

/-- RSA: exponents that agree modulo `4*x*y` give the same power modulo the slave's modulus, also
where the base shares a factor with it. -/
theorem power_modulus {sk : SlaveKeyEntry} (key : SlaveKey sk) {a b : ℕ} (a0 : 0 < a) (b0 : 0 < b)
    (same : (a : ℤ) ≡ b [ZMOD 4*sk.xy_i]) (t : ℤ) : t^a ≡ t^b [ZMOD sk.n_i] := by
  have p_part := power_modEq key.p_safe key.halves.1
    (by rw [key.exponentModulus]; exact ⟨2*sk.y_i,by ring⟩) a0 b0 same t
  have q_part := power_modEq key.q_safe key.halves.2
    (by rw [key.exponentModulus]; exact ⟨2*sk.x_i,by ring⟩) a0 b0 same t
  have primes : IsCoprime sk.p_i sk.q_i := by
    have p_large := key.p_safe.large
    have q_large := key.q_safe.large
    have naturals := Nat.isCoprime_iff_coprime.mpr
      ((Nat.coprime_primes key.p_safe.prime key.q_safe.prime).mpr (by
        have := key.apart
        omega))
    rwa [Int.toNat_of_nonneg (by omega),Int.toNat_of_nonneg (by omega)] at naturals
  rw [key.modulus]
  exact Int.modEq_iff_dvd.mpr (primes.mul_dvd p_part.dvd q_part.dvd)

theorem decryption_positive {sk : SlaveKeyEntry} (key : SlaveKey sk) : 0 < sk.d_i.toNat := by
  have nonneg := key.decryption
  have large := key.exponentModulus_odd.1
  rcases eq_or_ne sk.d_i 0 with zero | nonzero
  · have inverse := key.inverse.dvd
    rw [zero,mul_zero,sub_zero] at inverse
    have := Int.le_of_dvd (by omega) inverse
    omega
  · omega

theorem exponents_modEq {sk : SlaveKeyEntry} (key : SlaveKey sk) {e f : ℤ} (four : e%4 = f%4)
    (residue : e ≡ f [ZMOD sk.xy_i]) : e ≡ f [ZMOD 4*sk.xy_i] :=
  Int.modEq_iff_dvd.mpr ((four_coprime key.exponentModulus_odd.2).mul_dvd
    (show e ≡ f [ZMOD 4] from four).dvd residue.dvd)

theorem slaveDecrypt_power {sk : SlaveKeyEntry} (key : SlaveKey sk) {T e N MT_K : ℤ} (nonneg : 0 ≤ T)
    (e0 : 0 ≤ e) (positive : 0 < N) (divides : sk.n_i ∣ N) (power : modPow T e N = .ok MT_K) :
    slaveDecrypt sk MT_K = .ok (T^(e.toNat*sk.d_i.toNat)%sk.n_i) := by
  rw [modPow_nonneg nonneg e0 positive,Except.ok.injEq] at power
  have MT_nonneg : 0 ≤ MT_K := power ▸ Int.emod_nonneg _ (by omega)
  have decrypted : MT_K^sk.d_i.toNat ≡ T^(e.toNat*sk.d_i.toNat) [ZMOD sk.n_i] := by
    calc MT_K^sk.d_i.toNat
        = (T^e.toNat%N)^sk.d_i.toNat := by rw [power]
      _ ≡ (T^e.toNat)^sk.d_i.toNat [ZMOD sk.n_i] := ((Int.mod_modEq _ _).of_dvd divides).pow _
      _ = T^(e.toNat*sk.d_i.toNat) := (pow_mul _ _ _).symm
  rw [slaveDecrypt,modPow_nonneg MT_nonneg key.decryption key.modulus_positive]
  exact congrArg Except.ok decrypted

/-- Every slave of the token's group recovers the secret modulo its own modulus. -/
theorem slaveDecrypt_token (master : MasterKey mkg) {members : List UInt32} {T : Int}
    {mt : MTokenResult} (nonneg : 0 ≤ T) (token : TokenFor mkg members T mt)
    {sk : SlaveKeyEntry} (member : sk ∈ mkg.slaves) (inside : sk.uav_index ∈ members) :
    slaveDecrypt sk mt.MT_K = .ok (T%sk.n_i) := by
  have key := master.slave sk member
  have e0 := token.exponent.range.1
  have divides : sk.n_i ∣ groupModulus mkg.slaves members :=
    List.dvd_prod (List.mem_map_of_mem (List.mem_filter.mpr ⟨member,inGroup_iff.mpr inside⟩))
  have power := token.power
  rw [token.modulus] at power
  have residue : mt.e_MK ≡ sk.e_i [ZMOD sk.xy_i] := by
    have found := token.exponent.residue sk member
    rwa [if_pos (inGroup_iff.mpr inside)] at found
  have own : mt.e_MK*sk.d_i ≡ 1 [ZMOD 4*sk.xy_i] :=
    ((exponents_modEq key (token.exponent.four.trans key.four.symm) residue).mul_right _).trans
      key.inverse
  have inverse : ((mt.e_MK.toNat*sk.d_i.toNat : ℕ) : ℤ) ≡ (1 : ℕ) [ZMOD 4*sk.xy_i] := by
    rw [Nat.cast_mul,Int.toNat_of_nonneg e0,Int.toNat_of_nonneg key.decryption]
    exact own
  have e_positive : 0 < mt.e_MK.toNat := by
    have := token.exponent.four
    omega
  have whole := power_modulus key (Nat.mul_pos e_positive (decryption_positive key)) one_pos inverse T
  rw [pow_one] at whole
  rw [slaveDecrypt_power key nonneg e0 (groupModulus_positive master members) divides power]
  exact congrArg Except.ok whole

/-- End to end: for every distinct safe primes and admissible draws, key generation and
token generation succeed for every member list and secret, and every slave in the list
recovers the secret modulo its own modulus. -/
theorem members_recover_secret {rng : Nat → List UInt64} {prime_pairs : List (Int × Int)}
    (pairs : SafePairs prime_pairs)
    (admissible : ∀ i p q, prime_pairs[i]? = some (p,q) →
      ∃ draw ∈ rng i, BigInt.gcd (generateEi draw) (computeX p*computeY q) = 1) :
    ∃ mkg, mKeyGen rng prime_pairs = .ok mkg ∧
      mkg.slaves.map (·.n_i) = prime_pairs.map (fun pair => pair.1*pair.2) ∧
      mkg.slaves.map (·.uav_index) = (List.range prime_pairs.length).map UInt32.ofNat ∧
      ∀ (S : List UInt32) (T : Int) (cluster_id : UInt32), 0 ≤ T →
        ∃ mt, mTokenGen mkg S T cluster_id = .ok mt ∧
          ∀ sk ∈ mkg.slaves, sk.uav_index ∈ S → slaveDecrypt sk mt.MT_K = .ok (T%sk.n_i) := by
  obtain ⟨mkg,generated⟩ := mKeyGen_total pairs admissible
  obtain ⟨master,same,indices⟩ := mKeyGen_ok pairs generated
  refine ⟨mkg,generated,?_,indices,?_⟩
  · have products : mkg.slaves.map (·.n_i) = mkg.slaves.map (fun sk => sk.p_i*sk.q_i) :=
      List.map_congr_left (fun sk member => (master.slave sk member).modulus)
    rw [products,← same,List.map_map]
    rfl
  · intro S T cluster_id nonneg
    obtain ⟨mt,produced,token⟩ := mTokenGen_ok master S T cluster_id
    exact ⟨mt,produced,fun sk member inside => slaveDecrypt_token master nonneg token member inside⟩

/-- A secret that shares the factor 7 with the first modulus and exceeds it. -/
theorem two_members_recover_385 : ∃ mkg mt, mKeyGen twoDraws twoPairs = .ok mkg ∧
    mTokenGen mkg [0,1] 385 0 = .ok mt ∧
    ∀ sk ∈ mkg.slaves, sk.uav_index ∈ [0,1] → slaveDecrypt sk mt.MT_K = .ok (385%sk.n_i) := by
  obtain ⟨mkg,generated,_,_,recover⟩ := members_recover_secret twoPairs_safe
    (show ∀ i p q, twoPairs[i]? = some (p,q) → ∃ draw ∈ twoDraws i,
        BigInt.gcd (generateEi draw) (computeX p*computeY q) = 1 by
      intro i p q found
      match i with
      | 0 =>
        cases found
        exact ⟨2,by decide,by decide +kernel⟩
      | 1 =>
        cases found
        exact ⟨0,by decide,by decide +kernel⟩)
  obtain ⟨mt,produced,each⟩ := recover [0,1] 385 0 (by decide)
  exact ⟨mkg,mt,generated,produced,each⟩

end UavFanet.TokenGeneration
