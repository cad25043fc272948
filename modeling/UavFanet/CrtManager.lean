import UavFanet.BigInt
import UavFanet.CryptoParams
import UavFanet.Library.Loop
import UavFanet.Primitives

/-! `CrtManager`: master key generation, token generation and its incremental
join and leave updates, and the runtime operations on the cluster table. -/
namespace UavFanet.CrtManager
open Library UavFanet.BigInt

structure MKeyGenResult where
  eM : Int
  n_total : Int
  slaves : List SlaveKeyEntry
  deriving DecidableEq,Repr

structure MTokenResult where
  MT_K : Int
  e_MK : Int
  T : Int
  N_group : Int
  user_indices : List UInt32
  cluster_id : UInt32
  version : UInt32
  deriving DecidableEq,Repr

structure ClusterState where
  cluster_id : UInt32
  mkg : MKeyGenResult
  mtoken : MTokenResult
  tek : AesGcmKey
  rekey_count : UInt32
  initialized : Bool
  deriving DecidableEq,Repr

/-- `while (Mod(e, 4) != 1) e += n_total`. Four additions return to the residue
the loop started from, so a run still going after three never ends. -/
def adjust (n_total e : Int) : Result Int :=
  match Loop.whileDo (fun e => e%4 != 1) (· + n_total) 3 e with
  | some adjusted => .ok adjusted
  | none => .error .diverges

def reduceExponent (n_total e : Int) : Result Int := do
  let reduced ← mod e n_total
  adjust n_total reduced

/-- `do e_i = GenerateEi(rng) while (Gcd(e_i, x*y) != 1)` over the outputs of `rng`. -/
def drawExponent (xy : Int) : List UInt64 → Result Int
  | [] => .error .drawsExhausted
  | draw::draws =>
    let e_i := generateEi draw
    if BigInt.gcd e_i xy ≠ 1 then drawExponent xy draws else .ok e_i

/-- Step 1 for the pair at one position; `Mi` and `Ni` are filled in by step 3. -/
def slaveKey (position : Nat) (draws : List UInt64) (p q : Int) : Result SlaveKeyEntry := do
  let x := computeX p
  let y := computeY q
  let e_i ← drawExponent (x*y) draws
  let d_i ← computeDi e_i x y
  .ok { uav_index := UInt32.ofNat position, uav_id := UInt32.ofNat position, e_i, d_i,
        n_i := p*q, x_i := x, y_i := y, Mi := 0, Ni := 0, xy_i := x*y, p_i := p, q_i := q }

/-- Each pair seeds a generator of its own: `rng k` lists what the one of pair `k` draws. -/
def slaveKeys (rng : Nat → List UInt64) : Nat → List (Int × Int) → Result (List SlaveKeyEntry)
  | _, [] => .ok []
  | position, (p,q)::prime_pairs => do
    let sk ← slaveKey position (rng position) p q
    let rest ← slaveKeys rng (position+1) prime_pairs
    .ok (sk::rest)

def withBasis (n_total : Int) (sk : SlaveKeyEntry) : Result SlaveKeyEntry := do
  let Mi ← divide n_total sk.xy_i
  let Ni ← modInverse Mi sk.xy_i
  .ok { sk with Mi, Ni }

def withBases (n_total : Int) : List SlaveKeyEntry → Result (List SlaveKeyEntry)
  | [] => .ok []
  | sk::slaves => do
    let based ← withBasis n_total sk
    let rest ← withBases n_total slaves
    .ok (based::rest)

def contribution (sk : SlaveKeyEntry) : Int := sk.e_i*sk.Mi*sk.Ni

def mKeyGen (rng : Nat → List UInt64) (prime_pairs : List (Int × Int)) : Result MKeyGenResult := do
  let generated ← slaveKeys rng 0 prime_pairs
  let n_total := (generated.map (·.xy_i)).prod
  let slaves ← withBases n_total generated
  let eM ← reduceExponent n_total (slaves.map contribution).sum
  .ok { eM, n_total, slaves }

def inGroup (user_indices : List UInt32) (sk : SlaveKeyEntry) : Bool :=
  user_indices.any (fun idx => sk.uav_index == idx)

def groupModulus (slaves : List SlaveKeyEntry) (user_indices : List UInt32) : Int :=
  ((slaves.filter (inGroup user_indices)).map (·.n_i)).prod

def mTokenGen (mkg : MKeyGenResult) (user_indices : List UInt32) (T : Int) (cluster_id : UInt32) :
    Result MTokenResult := do
  let outside := mkg.slaves.filter (fun sk => !inGroup user_indices sk)
  let e_MK ← reduceExponent mkg.n_total (mkg.eM-(outside.map contribution).sum)
  let N_group := groupModulus mkg.slaves user_indices
  let MT_K ← modPow T e_MK N_group
  .ok { MT_K, e_MK, T, N_group, user_indices, cluster_id, version := 1 }

def findSlave (mkg : MKeyGenResult) (index : UInt32) : Option SlaveKeyEntry :=
  mkg.slaves.find? (fun sk => sk.uav_index == index)

def updatedToken (mkg : MKeyGenResult) (current : MTokenResult) (exponent : Int)
    (user_indices : List UInt32) : Result MTokenResult := do
  let e_MK ← reduceExponent mkg.n_total exponent
  let N_group := groupModulus mkg.slaves user_indices
  let MT_K ← modPow current.T e_MK N_group
  .ok { MT_K, e_MK, T := current.T, N_group, user_indices, cluster_id := current.cluster_id,
        version := current.version+1 }

def joKeyUpdate (mkg : MKeyGenResult) (current : MTokenResult) (join_slave_index : UInt32) :
    Result MTokenResult :=
  match findSlave mkg join_slave_index with
  | none => .error (.cryptoException
      ("JoKeyUpdate: slave index " ++ toString join_slave_index ++ " not found"))
  | some join_slave =>
    updatedToken mkg current (current.e_MK+contribution join_slave)
      (current.user_indices ++ [join_slave_index])

def leKeyUpdate (mkg : MKeyGenResult) (current : MTokenResult) (leave_slave_index : UInt32) :
    Result MTokenResult :=
  match findSlave mkg leave_slave_index with
  | none => .error (.cryptoException
      ("LeKeyUpdate: slave index " ++ toString leave_slave_index ++ " not found"))
  | some leave_slave =>
    updatedToken mkg current (current.e_MK-contribution leave_slave)
      (current.user_indices.filter (· != leave_slave_index))

def slaveDecrypt (slave : SlaveKeyEntry) (MT_K : Int) : Result Int := modPow MT_K slave.d_i slave.n_i

def verifySlaveDecrypt (slave : SlaveKeyEntry) (MT_K T : Int) : Result Bool := do
  let recovered ← slaveDecrypt slave MT_K
  let T_mod ← mod T slave.n_i
  .ok (recovered == T_mod)

def tekFromBigInt (T : Int) : Result AesGcmKey := do
  let bytes ← toBytes T 32
  let padded := if bytes.length < 32 then List.replicate (32-bytes.length) 0 ++ bytes else bytes
  AesGcm.keyFromBytes padded

def tekToBigInt (tek : AesGcmKey) : Int := fromBytes tek.toList

/-- `SHA256(old_tek || timestamp || nonce)` with the old key in front once more, as
`DeriveKey` hashes its input key before the context. -/
def rotateTek (crypto : Primitives) (old_tek : AesGcmKey) (timestamp_us : UInt64)
    (nonce : Nonce128) : AesGcmKey :=
  AesGcm.deriveKey crypto old_tek
    (old_tek.toList ++ BigEndian.encode 8 timestamp_us.toNat ++ nonce.toList)

abbrev Clusters := List ClusterState

def getClusterState (clusters : Clusters) (cluster_id : UInt32) : Result ClusterState :=
  match clusters[cluster_id.toNat]? with
  | some cs => .ok cs
  | none => .error (.invalidArgumentException
      ("CrtManager: invalid cluster_id " ++ toString cluster_id))

/-- The table after the call, which a throw can leave changed, and the call's outcome. -/
def processJoin (clusters : Clusters) (cluster_id joining_uav_index : UInt32) :
    Clusters × Result MTokenResult :=
  match getClusterState clusters cluster_id with
  | .error failure => (clusters,.error failure)
  | .ok cs =>
    match joKeyUpdate cs.mkg cs.mtoken joining_uav_index with
    | .error failure => (clusters,.error failure)
    | .ok mtoken =>
      (clusters.set cluster_id.toNat { cs with mtoken, rekey_count := cs.rekey_count+1 },.ok mtoken)

/-- `nonce` is what `RandomNonce128` gives, which throws when the generator fails. The
token is replaced before that call, the TEK and the counter after it. -/
def processLeave (crypto : Primitives) (nonce : Result Nonce128) (now_us : UInt64)
    (clusters : Clusters) (cluster_id leaving_uav_index : UInt32) :
    Clusters × Result MTokenResult :=
  match getClusterState clusters cluster_id with
  | .error failure => (clusters,.error failure)
  | .ok cs =>
    match leKeyUpdate cs.mkg cs.mtoken leaving_uav_index with
    | .error failure => (clusters,.error failure)
    | .ok mtoken =>
      match nonce with
      | .error failure => (clusters.set cluster_id.toNat { cs with mtoken },.error failure)
      | .ok nonce =>
        let tek := rotateTek crypto cs.tek now_us nonce
        (clusters.set cluster_id.toNat
          { cs with mtoken, tek, rekey_count := cs.rekey_count+1 },.ok mtoken)

def verifyCluster (clusters : Clusters) (cluster_id : UInt32) : Result Bool := do
  let cs ← getClusterState clusters cluster_id
  let rec verifySlaves : List SlaveKeyEntry → Result Bool
    | [] => .ok true
    | sk::slaves =>
      if inGroup cs.mtoken.user_indices sk then do
        let recovered ← modPow cs.mtoken.MT_K sk.d_i sk.n_i
        let T_mod ← mod cs.mtoken.T sk.n_i
        if recovered ≠ T_mod then .ok false else verifySlaves slaves
      else verifySlaves slaves
  verifySlaves cs.mkg.slaves

/-- The key material that a manager takes from the entry of its cluster. -/
def loadedKeys (cp : ClusterCryptoEntry) : MKeyGenResult :=
  { eM := cp.eM, n_total := cp.n_total, slaves := cp.slave_keys }

def loadedCluster (cp : ClusterCryptoEntry) : ClusterState where
  cluster_id := cp.cluster_id
  mkg := loadedKeys cp
  mtoken := { MT_K := cp.MT_K, e_MK := cp.e_MK, T := cp.tek_int, N_group := cp.N_group,
              user_indices := cp.user_indices, cluster_id := cp.cluster_id, version := 1 }
  tek := cp.tek
  rekey_count := 0
  initialized := true

/-- What `resize` puts into the table. -/
def emptyCluster : ClusterState where
  cluster_id := 0
  mkg := { eM := 0, n_total := 0, slaves := [] }
  mtoken := { MT_K := 0, e_MK := 0, T := 0, N_group := 0, user_indices := [], cluster_id := 0,
              version := 0 }
  tek := Vector.replicate 32 0
  rekey_count := 0
  initialized := false

/-- Entries go where their `cluster_id` says, and the index is not checked. -/
def loadFromParams (params : CryptoParamsFile) : Result Clusters :=
  params.clusters.foldlM
    (fun clusters cp =>
      if cp.cluster_id.toNat < clusters.length then
        .ok (clusters.set cp.cluster_id.toNat (loadedCluster cp))
      else .error .outOfRange)
    (List.replicate params.num_clusters.toNat emptyCluster)

/-- The table has `m_num_clusters` entries. -/
def verifyAll (clusters : Clusters) : Result Bool :=
  let rec verifyFrom : List Nat → Result Bool
    | [] => .ok true
    | c::rest => do
      let verified ← verifyCluster clusters (UInt32.ofNat c)
      if !verified then .ok false else verifyFrom rest
  verifyFrom (List.range clusters.length)

end UavFanet.CrtManager
