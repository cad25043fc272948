import UavFanet.GenCrypto
import Mathlib.Algebra.Order.BigOperators.GroupWithZero.List

/-! What the generator of parameter files has made sure of when it writes a cluster: its checks
alone leave only positive exponents, tokens and keys. -/
namespace UavFanet
open Library MkeMgkm

namespace MkeMgkm

theorem floorMod_ok {a b r : Int} : floorMod a b = .ok r ↔ b ≠ 0 ∧ a.fmod b = r := by
  by_cases zero : b = 0
  · simp [floorMod,zero]
  · simp [floorMod,zero]

theorem floorDiv_ok {a b r : Int} : floorDiv a b = .ok r ↔ b ≠ 0 ∧ a.fdiv b = r := by
  by_cases zero : b = 0
  · simp [floorDiv,zero]
  · simp [floorDiv,zero]

theorem pow_ok {base exp modulus r : Int} (natural : 0 ≤ exp)
    (raised : pow base exp modulus = .ok r) : (base^exp.toNat).fmod modulus = r := by
  unfold pow at raised
  split at raised
  · cases raised
  · rw [if_neg (by omega)] at raised
    exact Except.ok.inj raised

theorem pow_nonneg {base exp modulus r : Int} (positive : 0 < modulus)
    (raised : pow base exp modulus = .ok r) : 0 ≤ r := by
  unfold pow at raised
  split at raised
  · cases raised
  split at raised
  · split at raised
    · rw [← Except.ok.inj raised]
      exact Int.fmod_nonneg_of_pos _ positive
    · cases raised
  · rw [← Except.ok.inj raised]
    exact Int.fmod_nonneg_of_pos _ positive

/-- The loop only adds, and ends at one modulo four. -/
theorem reduce_positive {n_total e r : Int} (positive : 0 < n_total)
    (reduced : reduce n_total e = .ok r) : 0 < r := by
  obtain ⟨rest,remainder,adjusted⟩ := Result.bind_ok.mp reduced
  obtain ⟨-,rfl⟩ := floorMod_ok.mp remainder
  have low := Int.fmod_nonneg_of_pos e positive
  unfold CrtManager.adjust at adjusted
  split at adjusted
  · rename_i last ended
    obtain ⟨k,-,-,stopped,same⟩ := (Loop.whileDo_eq_some 3 _ last).mp ended
    obtain rfl := Except.ok.inj adjusted
    rw [same] at stopped
    simp only [add_right_iterate] at same
    have more : 0 ≤ k • n_total := nsmul_nonneg (by omega) k
    have residue : last%4 = 1 := by simpa using stopped
    omega
  · cases adjusted

/-- What holds of a key pair before its coefficients are known. -/
structure Slave.Paired (slave : Slave) : Prop where
  halves : 0 < slave.n_i → 0 ≤ slave.xy_i
  inverse : 0 < slave.xy_i → 0 ≤ slave.d_i

theorem halves_nonneg {p q : Int} (positive : 0 < p*q) :
    0 ≤ (p-1).fdiv 2*(q-1).fdiv 2 := by
  rw [Int.fdiv_eq_ediv_of_nonneg _ (by omega),Int.fdiv_eq_ediv_of_nonneg _ (by omega)]
  rcases pos_and_pos_or_neg_and_neg_of_mul_pos positive with ⟨above,right⟩ | ⟨below,right⟩
  · exact Int.mul_nonneg (by omega) (by omega)
  · exact Int.mul_nonneg_of_nonpos_of_nonpos (by omega) (by omega)

theorem keyPair_ok {index p q : Int} {draws rest : List (BitVec 512)} {slave : Slave}
    (paired : keyPair index p q draws = .ok (slave,rest)) :
    slave.index = index ∧ slave.Paired := by
  obtain ⟨⟨e,others⟩,-,paired⟩ := Result.bind_ok.mp paired
  obtain ⟨d,raised,paired⟩ := Result.bind_ok.mp paired
  cases paired
  refine ⟨rfl,halves_nonneg,fun positive => ?_⟩
  have halves : 0 < (p-1).fdiv 2*(q-1).fdiv 2 := positive
  have modulus : 0 < 4*(p-1).fdiv 2*(q-1).fdiv 2 := by
    rw [mul_assoc]
    omega
  exact pow_nonneg modulus raised

theorem keyPairs_ok {primes : List (Int × Int)} {index : Int} {draws : List (BitVec 512)}
    {slaves : List Slave} (paired : keyPairs index primes draws = .ok slaves) :
    slaves.length = primes.length ∧ ∀ slave ∈ slaves,
      slave.Paired ∧ index ≤ slave.index ∧ slave.index < index+primes.length := by
  induction primes generalizing index draws slaves with
  | nil =>
    obtain rfl : [] = slaves := Except.ok.inj paired
    exact ⟨rfl,by simp⟩
  | cons pair primes ih =>
    obtain ⟨⟨slave,rest⟩,first,paired⟩ := Result.bind_ok.mp paired
    obtain ⟨others,tail,paired⟩ := Result.bind_ok.mp paired
    obtain rfl : slave::others = slaves := Except.ok.inj paired
    obtain ⟨place,sound⟩ := keyPair_ok first
    obtain ⟨length,rest_sound⟩ := ih tail
    refine ⟨by simp [length],List.forall_mem_cons.mpr ⟨⟨sound,?_⟩,fun other inside => ?_⟩⟩
    · rw [List.length_cons]
      omega
    · obtain ⟨other_sound,low,high⟩ := rest_sound other inside
      rw [List.length_cons]
      exact ⟨other_sound,by omega,by omega⟩

theorem coefficients_ok {n_total : Int} {slave filled : Slave}
    (computed : coefficients n_total slave = .ok filled) : slave.xy_i ≠ 0 ∧
      filled.n_i = slave.n_i ∧ filled.d_i = slave.d_i ∧ filled.index = slave.index := by
  obtain ⟨Mi,divided,computed⟩ := Result.bind_ok.mp computed
  obtain ⟨Ni,-,computed⟩ := Result.bind_ok.mp computed
  obtain rfl := Except.ok.inj computed
  exact ⟨(floorDiv_ok.mp divided).1,rfl,rfl,rfl⟩

theorem mKeyGen_ok {primes : List (Int × Int)} {draws : List (BitVec 512)} {mkg : Mkg}
    (generated : mKeyGen primes draws = .ok mkg)
    (moduli : ∀ slave ∈ mkg.slaves, 0 < slave.n_i) :
    mkg.slaves.length = primes.length ∧ 0 < mkg.n_total ∧ 0 < mkg.eM ∧
      ∀ slave ∈ mkg.slaves, 0 ≤ slave.d_i ∧ 0 ≤ slave.index ∧ slave.index < primes.length := by
  obtain ⟨pairs,paired,generated⟩ := Result.bind_ok.mp generated
  obtain ⟨slaves,filled,generated⟩ := Result.bind_ok.mp generated
  obtain ⟨eM,reduced,generated⟩ := Result.bind_ok.mp generated
  obtain rfl := Except.ok.inj generated
  obtain ⟨length,sound⟩ := keyPairs_ok paired
  obtain ⟨ahead,behind⟩ := Result.mapM_mem filled
  have shares : ∀ slave ∈ pairs, 0 < slave.xy_i := by
    intro slave inside
    obtain ⟨other,other_inside,computed⟩ := ahead slave inside
    obtain ⟨nonzero,same,-⟩ := coefficients_ok computed
    have low := (sound slave inside).1.halves (same ▸ moduli other other_inside)
    omega
  have n_total : 0 < (pairs.map (·.xy_i)).prod := by
    apply List.prod_pos
    simpa using shares
  have width := (Result.mapM_ok.mp filled).length_eq.symm.trans length
  refine ⟨width,n_total,reduce_positive n_total reduced,fun slave inside => ?_⟩
  obtain ⟨pair,pair_inside,computed⟩ := behind slave inside
  obtain ⟨-,-,d_i,index⟩ := coefficients_ok computed
  obtain ⟨facts,low,high⟩ := sound pair pair_inside
  rw [d_i,index]
  exact ⟨facts.inverse (shares pair pair_inside),low,by omega⟩

theorem mTokenGen_ok {mkg : Mkg} {user_indices : List Int} {message : Int} {mtoken : Mtoken}
    (generated : mTokenGen mkg user_indices message = .ok mtoken)
    (moduli : ∀ slave ∈ mkg.slaves, 0 < slave.n_i) :
    0 ≤ mtoken.MT_K ∧ mtoken.message = message ∧ mtoken.user_indices = user_indices := by
  obtain ⟨e_MK,-,generated⟩ := Result.bind_ok.mp generated
  obtain ⟨MT_K,raised,generated⟩ := Result.bind_ok.mp generated
  obtain rfl := Except.ok.inj generated
  refine ⟨pow_nonneg ?_ raised,rfl,rfl⟩
  apply List.prod_pos
  intro n_i inside
  obtain ⟨slave,member,rfl⟩ := List.mem_map.mp inside
  exact moduli slave (List.mem_of_mem_filter member)

/-- Only a positive exponent applied to a positive token recovers a number above one. -/
theorem recovers_positive {mtoken : Mtoken} {slave : Slave}
    (recovered : recovers mtoken slave = .ok true) (natural : 0 ≤ slave.d_i)
    (token : 0 ≤ mtoken.MT_K) (large : 1 < mtoken.message) (fits : mtoken.message < slave.n_i) :
    0 < slave.d_i ∧ 0 < mtoken.MT_K := by
  obtain ⟨text,raised,recovered⟩ := Result.bind_ok.mp recovered
  obtain ⟨expected,remainder,recovered⟩ := Result.bind_ok.mp recovered
  have same : text = expected := of_decide_eq_true (Except.ok.inj recovered)
  have power := pow_ok natural raised
  have message := (floorMod_ok.mp remainder).2
  rw [Int.fmod_eq_of_lt (by omega) fits] at message
  constructor
  · by_contra zero
    have none_left : slave.d_i.toNat = 0 := by omega
    rw [none_left,pow_zero,Int.fmod_eq_of_lt (by omega) (by omega)] at power
    omega
  · by_contra zero
    have empty : mtoken.MT_K = 0 := by omega
    have positive : slave.d_i.toNat ≠ 0 := by
      intro none_left
      rw [none_left,pow_zero,Int.fmod_eq_of_lt (by omega) (by omega)] at power
      omega
    rw [empty,zero_pow positive,Int.zero_fmod] at power
    omega

theorem verifyMtoken_ok {mkg : Mkg} {mtoken : Mtoken}
    (verified : verifyMtoken mkg mtoken = .ok true) {slave : Slave} (inside : slave ∈ mkg.slaves)
    (member : slave.index ∈ mtoken.user_indices) : recovers mtoken slave = .ok true := by
  obtain ⟨verdicts,each,verified⟩ := Result.bind_ok.mp verified
  have every := List.all_eq_true.mp (Except.ok.inj verified)
  have grouped : slave ∈ mkg.group mtoken.user_indices :=
    List.mem_filter.mpr ⟨inside,decide_eq_true member⟩
  obtain ⟨verdict,present,recovered⟩ := (Result.mapM_mem each).1 slave grouped
  have good : verdict = true := every verdict present
  rw [recovered,good]

end MkeMgkm

namespace GenCrypto

/-- What the generator has checked of a cluster when it writes it. -/
structure Sound (args : Args) (generated : Generated) : Prop where
  counted : (generated.mkg.slaves.length : Int) = args.uavs_per_cluster
  exponent : 0 < generated.mkg.eM
  token : 0 < generated.mtoken.MT_K
  tek_low : 1 < generated.tek_int
  tek_high : generated.tek_int < 2^256
  slaves : ∀ slave ∈ generated.mkg.slaves, 0 < slave.n_i ∧ 0 < slave.d_i
  indices : generated.all_indices = (range args.uavs_per_cluster).map Int.ofNat

theorem length_slice {α : Type} {items : List α} {start count : Int} (low : 0 ≤ start)
    (natural : 0 ≤ count) (within : start+count ≤ items.length) :
    ((slice items start (start+count)).length : Int) = count := by
  have stop : ¬ start+count < 0 := by omega
  simp only [slice,if_neg (show ¬ start < 0 by omega),if_neg stop,List.length_drop,List.length_take]
  omega

/-- A drawn key is below every modulus, and all of them are positive. -/
theorem drawTekInt_ok {min_ni tek_int : Int} {draws : List Key256}
    (drawn : drawTekInt min_ni draws = .ok tek_int) :
    1 < tek_int ∧ tek_int < min_ni ∧ tek_int < 2^256 := by
  induction draws with
  | nil => cases drawn
  | cons bytes draws ih =>
    obtain ⟨tek_i,remainder,drawn⟩ := Result.bind_ok.mp drawn
    split at drawn
    · rename_i large
      obtain rfl := Except.ok.inj drawn
      obtain ⟨nonzero,same⟩ := floorMod_ok.mp remainder
      have raw := BigEndian.decode_lt bytes.toList
      rw [Vector.length_toList] at raw
      have positive : 0 < min_ni := by
        by_contra negative
        have small := fmod_negative (BigEndian.decode bytes.toList) (show min_ni < 0 by omega)
        omega
      rw [Int.fmod_eq_emod_of_nonneg _ positive.le] at same
      have high := Int.emod_lt_of_pos (BigEndian.decode bytes.toList : Int) positive
      have below : (BigEndian.decode bytes.toList : Int)%min_ni ≤ BigEndian.decode bytes.toList := by
        lift min_ni to ℕ using positive.le
        exact_mod_cast Nat.mod_le _ _
      exact ⟨large,by omega,by omega⟩
    · exact ih drawn

theorem generateCluster_ok {args : Args} {all_primes : List (Int × Int)} {draws : Draws} {c : Nat}
    {generated : Generated} (uavs : 0 ≤ args.uavs_per_cluster)
    (within : c*args.uavs_per_cluster+args.uavs_per_cluster ≤ all_primes.length)
    (written : generateCluster args all_primes draws c = .ok generated) : Sound args generated := by
  obtain ⟨mkg,key_generated,written⟩ := Result.bind_ok.mp written
  obtain ⟨tek_int,drawn,written⟩ := Result.bind_ok.mp written
  obtain ⟨mtoken,token_generated,written⟩ := Result.bind_ok.mp written
  obtain ⟨verified,all_recover,written⟩ := Result.bind_ok.mp written
  cases verified with
  | false => cases written
  | true =>
    obtain rfl := Except.ok.inj written
    unfold makeTekInt at drawn
    split at drawn
    · cases drawn
    · rename_i min_ni smallest
      obtain ⟨tek_low,below,tek_high⟩ := drawTekInt_ok drawn
      have moduli : ∀ slave ∈ mkg.slaves, tek_int < slave.n_i := by
        intro slave inside
        have least := (List.min?_eq_some_iff.mp smallest).2 _ (List.mem_map_of_mem inside)
        exact lt_of_lt_of_le below least
      have positive : ∀ slave ∈ mkg.slaves, 0 < slave.n_i := by
        intro slave inside
        have large := moduli slave inside
        omega
      obtain ⟨length,-,exponent,facts⟩ := mKeyGen_ok key_generated positive
      obtain ⟨token,message,indices⟩ := mTokenGen_ok token_generated positive
      have low : 0 ≤ c*args.uavs_per_cluster := Int.mul_nonneg (by omega) uavs
      have width := length_slice low uavs within
      rw [← length] at width
      have recovered : ∀ slave ∈ mkg.slaves, 0 < slave.d_i ∧ 0 < mtoken.MT_K := by
        intro slave inside
        obtain ⟨natural,first,last⟩ := facts slave inside
        have member : slave.index ∈ mtoken.user_indices := by
          rw [indices]
          refine List.mem_map.mpr ⟨slave.index.toNat,List.mem_range.mpr ?_,?_⟩
          · omega
          · exact Int.toNat_of_nonneg first
        exact recovers_positive (verifyMtoken_ok all_recover inside member) natural token
          (message ▸ tek_low) (message ▸ moduli slave inside)
      have nonempty : mkg.slaves ≠ [] := by
        intro empty
        rw [empty] at smallest
        cases smallest
      obtain ⟨slave,inside⟩ := List.exists_mem_of_ne_nil _ nonempty
      exact ⟨width,exponent,(recovered slave inside).2,tek_low,tek_high,
        fun slave inside => ⟨positive slave inside,(recovered slave inside).1⟩,rfl⟩

end GenCrypto
end UavFanet
