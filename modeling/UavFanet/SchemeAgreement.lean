import UavFanet.GeneratedKeys
import UavFanet.KeyGroup
import UavFanet.ModularInverses
import UavFanet.Library.Agreement

/-! The script and the manager compute the same scheme: from the same primes and exponents, the
same keys, and along any updates the same tokens and verdicts. -/
namespace UavFanet
open Library

/-- A member joins the group of a token or leaves it. -/
inductive Update where
  | join (index : UInt32)
  | leave (index : UInt32)

namespace MkeMgkm

def update (mkg : Mkg) (mtoken : Mtoken) : Update → Result Mtoken
  | .join index => joKeyUpdate mkg mtoken index.toNat
  | .leave index => leKeyUpdate mkg mtoken index.toNat

/-- Keys, a token for some of the members, its updates, and what the check of it says. -/
def scheme (primes : List (Int × Int)) (draws : List (BitVec 512)) (user_indices : List UInt32) (T : Int)
    (updates : List Update) : Result (Mkg × Mtoken × Bool) := do
  let mkg ← mKeyGen primes draws
  let mtoken ← mTokenGen mkg (user_indices.map fun index => (index.toNat : Int)) T
  let mtoken ← updates.foldlM (update mkg) mtoken
  let verified ← verifyMtoken mkg mtoken
  return (mkg,mtoken,verified)

end MkeMgkm

namespace CrtManager

def update (mkg : MKeyGenResult) (mtoken : MTokenResult) : Update → Result MTokenResult
  | .join index => joKeyUpdate mkg mtoken index
  | .leave index => leKeyUpdate mkg mtoken index

/-- The manager verifies the cluster that holds the keys and the token. -/
def scheme (rng : Nat → List UInt64) (primes : List (Int × Int)) (user_indices : List UInt32) (T : Int)
    (updates : List Update) : Result (MKeyGenResult × MTokenResult × Bool) := do
  let mkg ← mKeyGen rng primes
  let mtoken ← mTokenGen mkg user_indices T 0
  let mtoken ← updates.foldlM (update mkg) mtoken
  let verified ← verifyCluster [{ emptyCluster with mkg, mtoken }] 0
  return (mkg,mtoken,verified)

end CrtManager

namespace SchemeAgreement
open MkeMgkm

/-- A slave of the script for a slave of the manager. -/
def slave (sk : SlaveKeyEntry) : Slave where
  index := sk.uav_index.toNat
  e_i := sk.e_i
  d_i := sk.d_i
  n_i := sk.n_i
  x_i := sk.x_i
  y_i := sk.y_i
  Mi := sk.Mi
  Ni := sk.Ni
  xy_i := sk.xy_i
  p_i := sk.p_i
  q_i := sk.q_i

def keys (mkg : CrtManager.MKeyGenResult) : Mkg where
  eM := mkg.eM
  n_total := mkg.n_total
  N_global := (mkg.slaves.map (·.n_i)).prod
  slaves := mkg.slaves.map slave

def users (user_indices : List UInt32) : List Int := user_indices.map fun index => (index.toNat : Int)

def token (mtoken : CrtManager.MTokenResult) : Mtoken where
  MT_K := mtoken.MT_K
  e_MK := mtoken.e_MK
  N_group := mtoken.N_group
  message := mtoken.T
  user_indices := users mtoken.user_indices

/-- Keys as they are generated: positive moduli, and every slave at its index. -/
structure Usable (mkg : CrtManager.MKeyGenResult) : Prop where
  total : 0 < mkg.n_total
  moduli : ∀ sk ∈ mkg.slaves, 0 < sk.n_i ∧ 0 ≤ sk.d_i
  placed : ∀ (k : Nat) (sk : SlaveKeyEntry), mkg.slaves[k]? = some sk → sk.uav_index.toNat = k

/-- A loop that goes on for ever in the one does so in the other. -/
def Likewise (failure other : Failure) : Prop := failure = .diverges ↔ other = .diverges

section Tokens

theorem floorMod_positive {a b : Int} (positive : 0 < b) : floorMod a b = .ok (a%b) := by
  rw [floorMod,if_neg (by omega),Int.fmod_eq_emod_of_nonneg _ (by omega)]

theorem pow_natural {base exp modulus : Int} (natural : 0 ≤ exp) (positive : 0 < modulus) :
    pow base exp modulus = .ok (base^exp.toNat%modulus) := by
  rw [pow,if_neg (by omega),if_neg (by omega),Int.fmod_eq_emod_of_nonneg _ (by omega)]

theorem reduce_agrees {n_total : Int} (positive : 0 < n_total) (e : Int) :
    Agree Likewise (fun a b => a = b ∧ 0 < b) (reduce n_total e) (CrtManager.reduceExponent n_total e) := by
  have same : reduce n_total e = CrtManager.reduceExponent n_total e := by
    rw [reduce,CrtManager.reduceExponent,BigInt.mod_positive positive,floorMod_positive positive]
  rw [← same]
  cases reduced : reduce n_total e with
  | ok r => exact .ok ⟨rfl,reduce_positive positive reduced⟩
  | error failure => exact .error Iff.rfl

theorem pow_agrees {base exp modulus : Int} (natural : 0 ≤ base) (exponent : 0 ≤ exp)
    (positive : 0 < modulus) :
    Agree Likewise (fun a b => a = b ∧ 0 ≤ b) (pow base exp modulus) (BigInt.modPow base exp modulus) := by
  rw [BigInt.modPow_nonneg natural exponent positive,pow_natural exponent positive]
  exact .ok ⟨rfl,Int.emod_nonneg _ (by omega)⟩

theorem mem_users {index : UInt32} {user_indices : List UInt32} :
    (index.toNat : Int) ∈ users user_indices ↔ index ∈ user_indices := by
  rw [users,List.mem_map]
  constructor
  · rintro ⟨other,inside,same⟩
    exact UInt32.toNat_inj.mp (Int.ofNat_inj.mp same) ▸ inside
  · intro inside
    exact ⟨index,inside,rfl⟩

theorem inGroup_iff {user_indices : List UInt32} {sk : SlaveKeyEntry} :
    CrtManager.inGroup user_indices sk = true ↔ (slave sk).index ∈ users user_indices := by
  rw [slave,mem_users,CrtManager.inGroup,List.any_eq_true]
  simp only [beq_iff_eq,exists_eq_right']

variable {mkg : CrtManager.MKeyGenResult}

theorem group_eq (user_indices : List UInt32) :
    (keys mkg).group (users user_indices) =
      (mkg.slaves.filter (CrtManager.inGroup user_indices)).map slave := by
  rw [Mkg.group,keys,List.filter_map]
  congr 1
  refine List.filter_congr fun sk _ => ?_
  rw [Bool.eq_iff_iff,inGroup_iff,Function.comp_apply,decide_eq_true_iff]

theorem outside_eq (user_indices : List UInt32) :
    (((keys mkg).slaves.filter (·.index ∉ users user_indices)).map Slave.share).sum =
      ((mkg.slaves.filter fun sk => !CrtManager.inGroup user_indices sk).map
        CrtManager.contribution).sum := by
  rw [keys,List.filter_map,List.map_map]
  congr 2
  refine List.filter_congr fun sk _ => ?_
  rw [Bool.eq_iff_iff,Bool.not_eq_true',← Bool.not_eq_true,inGroup_iff,Function.comp_apply,
    decide_eq_true_iff]

theorem groupModulus_eq (user_indices : List UInt32) :
    (((keys mkg).group (users user_indices)).map (·.n_i)).prod =
      CrtManager.groupModulus mkg.slaves user_indices := by
  rw [group_eq,List.map_map]
  rfl

theorem groupModulus_pos (usable : Usable mkg) (user_indices : List UInt32) :
    0 < CrtManager.groupModulus mkg.slaves user_indices := by
  refine List.prod_pos ?_
  intro n_i found
  obtain ⟨sk,inside,rfl⟩ := List.mem_map.mp found
  exact (usable.moduli sk (List.mem_filter.mp inside).1).1

/-- The tokens are the same, and what the keys are raised to is natural. -/
def Alike (T : Int) (mtoken : Mtoken) (other : CrtManager.MTokenResult) : Prop :=
  mtoken = token other ∧ other.T = T ∧ 0 ≤ other.MT_K

theorem token_agrees (usable : Usable mkg) {T : Int} (natural : 0 ≤ T) (user_indices : List UInt32)
    (exponent : Int) (cluster_id version : UInt32) :
    Agree Likewise (Alike T) (MkeMgkm.token (keys mkg) (users user_indices) T exponent) (do
      let e_MK ← CrtManager.reduceExponent mkg.n_total exponent
      let MT_K ← BigInt.modPow T e_MK (CrtManager.groupModulus mkg.slaves user_indices)
      return { MT_K, e_MK, T, N_group := CrtManager.groupModulus mkg.slaves user_indices
               user_indices, cluster_id, version }) := by
  rw [MkeMgkm.token]
  refine (reduce_agrees usable.total exponent).bind ?_
  rintro _ e_MK ⟨rfl,positive⟩
  simp only [groupModulus_eq]
  refine (pow_agrees natural positive.le (groupModulus_pos usable user_indices)).bind ?_
  rintro _ MT_K ⟨rfl,raised⟩
  exact .ok ⟨rfl,rfl,raised⟩

theorem mTokenGen_agrees (usable : Usable mkg) {T : Int} (natural : 0 ≤ T) (user_indices : List UInt32)
    (cluster_id : UInt32) :
    Agree Likewise (Alike T) (mTokenGen (keys mkg) (users user_indices) T)
      (CrtManager.mTokenGen mkg user_indices T cluster_id) := by
  rw [mTokenGen,outside_eq]
  exact token_agrees usable natural user_indices _ cluster_id 1

theorem findSlave_eq (usable : Usable mkg) (index : UInt32) :
    CrtManager.findSlave mkg index = mkg.slaves[index.toNat]? := by
  cases found : CrtManager.findSlave mkg index with
  | some sk =>
    obtain ⟨k,inside⟩ := List.mem_iff_getElem?.mp (List.mem_of_find?_eq_some found)
    have named := List.find?_some found
    rw [← beq_iff_eq.mp named,usable.placed k sk inside,inside]
  | none =>
    cases there : mkg.slaves[index.toNat]? with
    | none => rfl
    | some sk =>
      rw [CrtManager.findSlave,List.find?_eq_none] at found
      have named := usable.placed _ sk there
      exact absurd (beq_iff_eq.mpr (UInt32.toNat_inj.mp named)) (found sk (List.mem_of_getElem? there))

theorem slaveAt_agrees (usable : Usable mkg) (index : UInt32) :
    slaveAt (keys mkg) index.toNat = match CrtManager.findSlave mkg index with
      | some sk => .ok (slave sk)
      | none => .error indexError := by
  rw [findSlave_eq usable,slaveAt,keys,List.getElem?_map]
  cases mkg.slaves[index.toNat]? with
  | none => rfl
  | some sk => rfl

theorem update_agrees (usable : Usable mkg) {T : Int} (natural : 0 ≤ T) {mtoken : Mtoken}
    {other : CrtManager.MTokenResult} (alike : Alike T mtoken other) (change : Update) :
    Agree Likewise (Alike T) (MkeMgkm.update (keys mkg) mtoken change) (CrtManager.update mkg other change) := by
  obtain ⟨rfl,rfl,-⟩ := alike
  cases change with
  | join index =>
    rw [MkeMgkm.update,CrtManager.update,MkeMgkm.joKeyUpdate,CrtManager.joKeyUpdate,
      slaveAt_agrees usable]
    cases CrtManager.findSlave mkg index with
    | none => exact .error (by simp [Likewise,indexError])
    | some sk =>
      have added : (token other).user_indices ++ [(index.toNat : Int)] =
          users (other.user_indices ++ [index]) := by
        simp [token,users]
      simp only [Result.ok_bind,added]
      exact token_agrees usable natural (other.user_indices ++ [index]) _ other.cluster_id (other.version+1)
  | leave index =>
    rw [MkeMgkm.update,CrtManager.update,MkeMgkm.leKeyUpdate,CrtManager.leKeyUpdate,
      slaveAt_agrees usable]
    cases CrtManager.findSlave mkg index with
    | none => exact .error (by simp [Likewise,indexError])
    | some sk =>
      have removed : (token other).user_indices.filter (· ≠ (index.toNat : Int)) =
          users (other.user_indices.filter (· != index)) := by
        rw [token,users,users,List.filter_map]
        congr 1
        refine List.filter_congr fun user _ => ?_
        rw [Bool.eq_iff_iff,Function.comp_apply,decide_eq_true_iff,bne_iff_ne,ne_eq,ne_eq,Int.ofNat_inj,
          UInt32.toNat_inj]
      simp only [Result.ok_bind,removed]
      exact token_agrees usable natural _ _ other.cluster_id (other.version+1)

theorem recovers_eq (usable : Usable mkg) {other : CrtManager.MTokenResult}
    {sk : SlaveKeyEntry} (inside : sk ∈ mkg.slaves) :
    recovers (token other) (slave sk) =
      .ok (decide (other.MT_K^sk.d_i.toNat%sk.n_i = other.T%sk.n_i)) := by
  obtain ⟨positive,natural⟩ := usable.moduli sk inside
  have decrypted : slaveDecrypt (slave sk) (token other).MT_K = .ok (other.MT_K^sk.d_i.toNat%sk.n_i) :=
    pow_natural natural positive
  have expected : floorMod (token other).message (slave sk).n_i = .ok (other.T%sk.n_i) :=
    floorMod_positive positive
  rw [recovers,decrypted,expected]
  rfl

theorem mapM_pure {α β : Type} {items : List α} {each : α → Result β} {value : α → β}
    (known : ∀ item ∈ items, each item = .ok (value item)) : items.mapM each = .ok (items.map value) := by
  induction items with
  | nil => rfl
  | cons item items ih =>
    rw [List.mapM_cons,known item List.mem_cons_self,
      ih fun other inside => known other (List.mem_cons_of_mem _ inside)]
    rfl

/-- The script asks every member, the manager stops at the first that does not recover the secret. -/
theorem verify_agrees (usable : Usable mkg) {T : Int} {mtoken : Mtoken} {other : CrtManager.MTokenResult}
    (alike : Alike T mtoken other) :
    ∃ verified, verifyMtoken (keys mkg) mtoken = .ok verified ∧
      CrtManager.verifyCluster [{ CrtManager.emptyCluster with mkg, mtoken := other }] 0 =
        .ok verified := by
  obtain ⟨rfl,-,raised⟩ := alike
  let test (sk : SlaveKeyEntry) : Bool := decide (other.MT_K^sk.d_i.toNat%sk.n_i = other.T%sk.n_i)
  refine ⟨(mkg.slaves.filter (CrtManager.inGroup other.user_indices)).all test,?_,?_⟩
  · have verdicts : ((keys mkg).group (users other.user_indices)).mapM (recovers (token other)) =
        .ok ((mkg.slaves.filter (CrtManager.inGroup other.user_indices)).map test) := by
      rw [group_eq,List.mapM_map]
      exact mapM_pure fun sk inside => recovers_eq usable (List.mem_filter.mp inside).1
    rw [verifyMtoken]
    change (((keys mkg).group (users other.user_indices)).mapM (recovers (token other)) >>= _) = _
    rw [verdicts,Result.ok_bind,List.all_map]
    rfl
  · have early : ∀ slaves : List SlaveKeyEntry, (∀ sk ∈ slaves, sk ∈ mkg.slaves) →
        CrtManager.verifyCluster.verifySlaves
          { CrtManager.emptyCluster with mkg, mtoken := other } slaves =
        .ok ((slaves.filter (CrtManager.inGroup other.user_indices)).all test) := by
      intro slaves
      induction slaves with
      | nil => exact fun _ => rfl
      | cons sk slaves ih =>
        intro known
        have rest := ih fun sk inside => known sk (List.mem_cons_of_mem _ inside)
        obtain ⟨positive,natural⟩ := usable.moduli sk (known sk List.mem_cons_self)
        rw [CrtManager.verifyCluster.verifySlaves]
        by_cases member : CrtManager.inGroup other.user_indices sk = true
        · rw [if_pos member,List.filter_cons_of_pos member,List.all_cons,
            BigInt.modPow_nonneg raised natural positive,BigInt.mod_positive positive,Result.ok_bind,
            Result.ok_bind]
          by_cases recovered : other.MT_K^sk.d_i.toNat%sk.n_i = other.T%sk.n_i
          · have passes : test sk = true := decide_eq_true recovered
            rw [if_neg (not_not.mpr recovered),rest,passes,Bool.true_and]
          · have fails : test sk = false := decide_eq_false recovered
            rw [if_pos recovered,fails,Bool.false_and]
        · rw [if_neg member,List.filter_cons_of_neg member,rest]
    exact early mkg.slaves fun _ inside => inside

end Tokens

section Keys

theorem egcd_spec {a b : Int} (a_natural : 0 ≤ a) (b_natural : 0 ≤ b) :
    (egcd a b).1 = Int.gcd a b ∧ a*(egcd a b).2.1+b*(egcd a b).2.2 = Int.gcd a b := by
  induction a, b using egcd.induct with
  | case1 a =>
    rw [egcd,if_pos rfl,Int.gcd_zero_right]
    constructor
    · omega
    · simp only [mul_one,mul_zero,add_zero]
      omega
  | case2 a b nonzero g x1 y1 ended ih =>
    obtain ⟨divisor,bezout⟩ := ih b_natural (Int.fmod_nonneg_of_pos a (by omega))
    have same : Int.gcd b (a.fmod b) = Int.gcd a b := by
      rw [Int.fmod_eq_emod_of_nonneg _ b_natural,Int.gcd_comm,Int.gcd_emod]
    rw [egcd,if_neg nonzero]
    refine ⟨divisor.trans (by rw [same]),?_⟩
    rw [same] at bezout
    rw [← bezout]
    have split := Int.mul_fdiv_add_fmod a b
    simp only
    linear_combination (-(egcd b (a.fmod b)).2.2)*split

theorem unique_inverse {a m u v : Int} (first : a*u ≡ 1 [ZMOD m]) (second : a*v ≡ 1 [ZMOD m]) :
    u ≡ v [ZMOD m] := by
  calc u = u*1 := (mul_one u).symm
    _ ≡ u*(a*v) [ZMOD m] := (second.mul_left u).symm
    _ = a*u*v := by ring
    _ ≡ 1*v [ZMOD m] := first.mul_right v
    _ = v := one_mul v

/-- Both find the only inverse in the range. -/
theorem inverse_agrees {a m : Int} (natural : 0 ≤ a) (large : 1 < m) :
    Agree Likewise (fun u v => u = v) (inverse a m) (BigInt.modInverse a m) := by
  obtain ⟨divisor,bezout⟩ := egcd_spec natural (show 0 ≤ m by omega)
  have size := (BigInt.modInverse_spec a m).1
  have above : 0 ≤ (BigInt.inverseLoop a m 1 0).1 := BigInt.inverseLoop_nonneg natural (by omega)
  have script : inverse a m = if (egcd a m).1 ≠ 1 then
      .error (.scriptException "Exception" "Inverse doesn't exist")
    else floorMod (egcd a m).2.1 m := rfl
  rw [script,divisor]
  by_cases coprime : Int.gcd a m = 1
  · have one : (BigInt.inverseLoop a m 1 0).1 = 1 := by omega
    obtain ⟨returned,inverted⟩ := BigInt.modInverse_of_one large one
    rw [coprime] at bezout
    have found : a*(egcd a m).2.1 ≡ 1 [ZMOD m] := by
      have multiple : a*(egcd a m).2.1+m*(egcd a m).2.2 ≡ a*(egcd a m).2.1 [ZMOD m] :=
        Int.add_modEq_left_iff.mpr (dvd_mul_right m _)
      rw [bezout] at multiple
      exact multiple.symm
    rw [coprime,if_neg (by simp),floorMod_positive (show 0 < m by omega),returned]
    have same := unique_inverse found inverted
    exact .ok (same.trans (Int.emod_emod_of_dvd _ dvd_rfl))
  · have other : (BigInt.inverseLoop a m 1 0).1 ≠ 1 := by omega
    rw [if_pos (by omega),BigInt.modInverse_error large other]
    exact .error (by simp [Likewise])

/-- Natural numbers throughout, and room for an inverse. -/
structure Sized (sk : SlaveKeyEntry) : Prop where
  modulus : 0 < sk.n_i
  exponent : 0 ≤ sk.d_i
  large : 1 < sk.xy_i

def Based (sk based : SlaveKeyEntry) : Prop := ∃ Mi Ni, based = { sk with Mi, Ni }

theorem coefficients_agrees {n_total : Int} (natural : 0 ≤ n_total) {sk : SlaveKeyEntry}
    (large : 1 < sk.xy_i) :
    Agree Likewise (fun a b => a = slave b ∧ Based sk b) (coefficients n_total (slave sk))
      (CrtManager.withBasis n_total sk) := by
  have script : floorDiv n_total (slave sk).xy_i = .ok (n_total/sk.xy_i) := by
    change floorDiv n_total sk.xy_i = _
    rw [floorDiv,if_neg (by omega),Int.fdiv_eq_ediv_of_nonneg n_total (by omega)]
  have manager : BigInt.divide n_total sk.xy_i = .ok (n_total/sk.xy_i) := by
    rw [BigInt.divide,if_neg (by omega),Int.tdiv_eq_ediv_of_nonneg natural]
  rw [coefficients,CrtManager.withBasis,script,manager,Result.ok_bind,Result.ok_bind]
  refine (inverse_agrees (Int.ediv_nonneg natural (by omega)) large).bind ?_
  rintro _ Ni rfl
  exact .ok ⟨rfl,_,_,rfl⟩

theorem bases_agree {n_total : Int} (natural : 0 ≤ n_total) {slaves : List SlaveKeyEntry}
    (large : ∀ sk ∈ slaves, 1 < sk.xy_i) :
    Agree Likewise (fun as bs => as = bs.map slave ∧ List.Forall₂ Based slaves bs)
      ((slaves.map slave).mapM (coefficients n_total)) (CrtManager.withBases n_total slaves) := by
  induction slaves with
  | nil => exact .ok ⟨rfl,.nil⟩
  | cons sk slaves ih =>
    rw [List.map_cons,List.mapM_cons,CrtManager.withBases]
    refine (coefficients_agrees natural (large sk List.mem_cons_self)).bind ?_
    rintro _ based ⟨rfl,kept⟩
    refine (ih fun other inside => large other (List.mem_cons_of_mem _ inside)).bind ?_
    rintro _ rest ⟨rfl,others⟩
    exact .ok ⟨rfl,.cons kept others⟩

theorem based_getElem? {slaves based : List SlaveKeyEntry} (all : List.Forall₂ Based slaves based)
    {k : Nat} {sk : SlaveKeyEntry} (found : based[k]? = some sk) :
    ∃ before, slaves[k]? = some before ∧ Based before sk := by
  induction all generalizing k with
  | nil => cases found
  | cons first _ ih =>
    cases k with
    | zero =>
      obtain rfl := Option.some.inj found
      exact ⟨_,rfl,first⟩
    | succ k => exact ih found

theorem half_eq {p : Int} (large : 5 ≤ p) : (p-1).fdiv 2 = BigInt.computeX p ∧ 2 ≤ BigInt.computeX p := by
  rw [BigInt.computeX,Int.fdiv_eq_ediv_of_nonneg _ (by omega),Int.tdiv_eq_ediv_of_nonneg (by omega)]
  exact ⟨rfl,by omega⟩

theorem computeD_eq {e x y d : Int} (natural : 0 ≤ e) (x_large : 2 ≤ x) (y_large : 2 ≤ y)
    (raised : computeD e x y = .ok d) : BigInt.computeDi e x y = .ok d ∧ 0 ≤ d := by
  have modulus : 0 < 4*x*y := by positivity
  have exponent : 0 ≤ 2*(x-1)*(y-1)-1 := by nlinarith
  rw [computeD,pow_natural exponent modulus] at raised
  obtain rfl := Except.ok.inj raised
  exact ⟨BigInt.modPow_nonneg natural exponent modulus,Int.emod_nonneg _ (by omega)⟩

/-- One exponent for each pair decides on all of its numbers. -/
theorem pairs_agree {primes : List (Int × Int)} (large : ∀ pair ∈ primes, 5 ≤ pair.1 ∧ 5 ≤ pair.2)
    (position : Nat) (few : position+primes.length ≤ 2^32) {rng : Nat → List UInt64}
    {draws : List (BitVec 512)} {pairs : List Slave} {generated : List SlaveKeyEntry}
    (scripted : keyPairs position primes draws = .ok pairs)
    (managed : CrtManager.slaveKeys rng position primes = .ok generated)
    (same : pairs.map (·.e_i) = generated.map (·.e_i)) :
    pairs = generated.map slave ∧ (∀ sk ∈ generated, Sized sk) ∧
      ∀ (k : Nat) (sk : SlaveKeyEntry), generated[k]? = some sk → sk.uav_index.toNat = position+k := by
  induction primes generalizing position draws pairs generated with
  | nil =>
    obtain rfl := Except.ok.inj scripted
    obtain rfl := Except.ok.inj managed
    exact ⟨rfl,by simp,by simp⟩
  | cons pair primes ih =>
    obtain ⟨p,q⟩ := pair
    obtain ⟨p_large,q_large⟩ := large (p,q) List.mem_cons_self
    obtain ⟨x_same,x_large⟩ := half_eq p_large
    obtain ⟨y_same,y_large⟩ := half_eq q_large
    obtain ⟨⟨first,others⟩,paired,scripted⟩ := Result.bind_ok.mp scripted
    obtain ⟨rest,later,scripted⟩ := Result.bind_ok.mp scripted
    obtain rfl := Except.ok.inj scripted
    obtain ⟨sk,produced,managed⟩ := Result.bind_ok.mp managed
    obtain ⟨sks,further,managed⟩ := Result.bind_ok.mp managed
    obtain rfl := Except.ok.inj managed
    obtain ⟨first_same,rest_same⟩ := List.cons.inj same
    rw [List.length_cons] at few
    obtain ⟨tail_same,sized,placed⟩ := ih (fun other inside => large other (List.mem_cons_of_mem _ inside))
      (position+1) (by omega) (by exact_mod_cast later) further rest_same
    obtain ⟨⟨e,draws_left⟩,-,paired⟩ := Result.bind_ok.mp paired
    obtain ⟨d,raised,paired⟩ := Result.bind_ok.mp paired
    obtain ⟨rfl,-⟩ := Prod.mk.inj (Except.ok.inj paired)
    obtain ⟨e_i,drawn,produced⟩ := Result.bind_ok.mp produced
    obtain ⟨d_i,powered,produced⟩ := Result.bind_ok.mp produced
    obtain rfl := Except.ok.inj produced
    obtain rfl : e = e_i := first_same
    have natural : 0 ≤ e := by
      obtain ⟨draw,-,rfl,-⟩ := KeyGroup.drawExponent_ok drawn
      simp only [BigInt.generateEi]
      omega
    rw [x_same,y_same] at raised
    obtain ⟨computed,exponent⟩ := computeD_eq natural x_large y_large raised
    obtain rfl : d = d_i := Except.ok.inj (computed.symm.trans powered)
    have index : (UInt32.ofNat position).toNat = position := UInt32.toNat_ofNat_of_lt' (by simp only [UInt32.size]; omega)
    refine ⟨?_,?_,?_⟩
    · rw [tail_same]
      simp only [List.map_cons,slave,index,x_same,y_same]
      rfl
    · intro other inside
      rcases List.mem_cons.mp inside with rfl | inside
      · have modulus : 0 < p*q := by positivity
        have room : 1 < BigInt.computeX p*BigInt.computeX q := by nlinarith
        exact ⟨modulus,exponent,room⟩
      · exact sized other inside
    · intro k other found
      cases k with
      | zero =>
        obtain rfl := Option.some.inj found
        exact index
      | succ k =>
        have there := placed k other found
        omega

theorem mKeyGen_agrees {primes : List (Int × Int)} (large : ∀ pair ∈ primes, 5 ≤ pair.1 ∧ 5 ≤ pair.2)
    (few : primes.length ≤ 2^32) {rng : Nat → List UInt64} {draws : List (BitVec 512)}
    {pairs : List Slave} {generated : List SlaveKeyEntry}
    (scripted : keyPairs 0 primes draws = .ok pairs)
    (managed : CrtManager.slaveKeys rng 0 primes = .ok generated)
    (same : pairs.map (·.e_i) = generated.map (·.e_i)) :
    Agree Likewise (fun mkg other => mkg = keys other ∧ Usable other) (mKeyGen primes draws)
      (CrtManager.mKeyGen rng primes) := by
  obtain ⟨rfl,sized,placed⟩ := pairs_agree large 0 (by omega) scripted managed same
  have totals : ((generated.map slave).map (·.xy_i)).prod = (generated.map (·.xy_i)).prod := by
    rw [List.map_map]
    rfl
  have positive : 0 < (generated.map (·.xy_i)).prod := by
    refine List.prod_pos ?_
    intro xy found
    obtain ⟨sk,inside,rfl⟩ := List.mem_map.mp found
    have := (sized sk inside).large
    omega
  rw [mKeyGen,CrtManager.mKeyGen,scripted,managed,Result.ok_bind,Result.ok_bind,totals]
  refine (bases_agree positive.le fun sk inside => (sized sk inside).large).bind ?_
  rintro _ slaves ⟨rfl,based⟩
  have shares : ((slaves.map slave).map Slave.share).sum = (slaves.map CrtManager.contribution).sum := by
    rw [List.map_map]
    rfl
  rw [shares]
  refine (reduce_agrees positive _).bind ?_
  rintro _ eM ⟨rfl,-⟩
  refine .ok ⟨?_,positive,?_,?_⟩
  · simp only [keys,List.map_map]
    rfl
  · intro sk inside
    obtain ⟨k,there⟩ := List.mem_iff_getElem?.mp inside
    obtain ⟨before,known,Mi,Ni,rfl⟩ := based_getElem? based there
    have fits := sized before (List.mem_of_getElem? known)
    exact ⟨fits.modulus,fits.exponent⟩
  · intro k sk found
    obtain ⟨before,known,Mi,Ni,rfl⟩ := based_getElem? based found
    exact (placed k before known).trans (Nat.zero_add k)

end Keys

theorem of_map {α β : Type} {f : α → β} {result : Result α} {b : β} (mapped : result.map f = .ok b) :
    ∃ a, result = .ok a ∧ f a = b := by
  cases result with
  | ok a => exact ⟨a,rfl,Except.ok.inj mapped⟩
  | error failure => cases mapped

/-- From primes that are not too small and the same exponents the script and the manager compute
the same keys, tokens and verdicts, or neither gets there. -/
theorem schemes_agree {primes : List (Int × Int)} (large : ∀ pair ∈ primes, 5 ≤ pair.1 ∧ 5 ≤ pair.2)
    (few : primes.length ≤ 2^32) {rng : Nat → List UInt64} {draws : List (BitVec 512)}
    {exponents : List Int}
    (scripted : (keyPairs 0 primes draws).map (List.map Slave.e_i) = .ok exponents)
    (managed : (CrtManager.slaveKeys rng 0 primes).map (List.map SlaveKeyEntry.e_i) = .ok exponents)
    (user_indices : List UInt32) {T : Int} (natural : 0 ≤ T) (updates : List Update) :
    Agree Likewise
      (fun run other => run.1 = keys other.1 ∧ run.2.1 = token other.2.1 ∧ run.2.2 = other.2.2)
      (MkeMgkm.scheme primes draws user_indices T updates)
      (CrtManager.scheme rng primes user_indices T updates) := by
  obtain ⟨pairs,paired,from_script⟩ := of_map scripted
  obtain ⟨generated,generates,from_manager⟩ := of_map managed
  refine (mKeyGen_agrees large few paired generates (from_script.trans from_manager.symm)).bind ?_
  rintro _ mkg ⟨rfl,usable⟩
  refine (mTokenGen_agrees usable natural user_indices 0).bind ?_
  intro first other_first begun
  refine (Agree.foldlM begun fun mtoken other alike change _ =>
    update_agrees usable natural alike change).bind ?_
  intro mtoken other alike
  obtain ⟨verified,script,manager⟩ := verify_agrees usable alike
  rw [script,manager]
  exact .ok ⟨rfl,alike.1,rfl⟩

theorem schemes_agree_two :
    Agree Likewise
      (fun run other => run.1 = keys other.1 ∧ run.2.1 = token other.2.1 ∧ run.2.2 = other.2.2)
      (MkeMgkm.scheme [(11,23),(47,59)] [3,4] [0] 7 [.join 1,.leave 0])
      (CrtManager.scheme (fun k => [UInt64.ofNat k+2]) [(11,23),(47,59)] [0] 7 [.join 1,.leave 0]) :=
  @schemes_agree _ (by decide) (by decide) (fun k => [UInt64.ofNat k+2]) [3,4] [13,17]
    (by decide +kernel) (by decide +kernel) [0] 7 (by decide) [.join 1,.leave 0]

end SchemeAgreement
end UavFanet
