import UavFanet.MulticastManager

/-! `TekManager` with its rotations, and `MtkDistributionManager`, which hands the TEK of a
cluster to an SKDC and has it broadcast. -/
namespace UavFanet.Apps
open UavFanet.ByteUtils UavFanet.Packet

structure TekRecord where
  cluster_id : UInt32 := 0
  tek : AesGcmKey := zeroKey
  tek_int : Int := 0
  version : UInt32 := 1
  created_at : UInt64 := 0
  expires_at : UInt64 := 0
  valid : Bool := false
  deriving DecidableEq,Repr

/-- `TEK_LIFETIME_US`, one minute. -/
def tekLifetimeUs : UInt64 := 60*1000000

structure TekManager where
  m_params : Option CryptoParamsFile := none
  m_teks : Fin 3 → TekRecord := fun _ => {}
  m_hmac_key : HmacKey
  m_rotations : UInt64 := 0

/-- Nobody looks at what `RAND_bytes` returns. -/
structure RotationDraws where
  ts : UInt64
  nonce : Nonce128
  created_at : UInt64
  deriving DecidableEq,Repr

namespace TekManager

/-- `Initialize`. The clusters of the file count by position. -/
def initializeTeks (now : UInt64) (mgr : TekManager) : TekManager :=
  match mgr.m_params with
  | none => mgr
  | some file => { mgr with
      m_teks := fun c => match file.clusters[c]? with
        | some cp => { cluster_id := UInt32.ofNat c, tek := cp.tek, tek_int := cp.tek_int, version := 1
                       created_at := now, expires_at := now+tekLifetimeUs, valid := true }
        | none => mgr.m_teks c }

def getTek (mgr : TekManager) (cluster_id : UInt32) : AesGcmKey :=
  match clusterSlot cluster_id with
  | none => zeroKey
  | some c => (mgr.m_teks c).tek

def getTekInt (mgr : TekManager) (cluster_id : UInt32) : Int :=
  match clusterSlot cluster_id with
  | none => 0
  | some c => (mgr.m_teks c).tek_int

def getVersion (mgr : TekManager) (cluster_id : UInt32) : UInt32 :=
  match clusterSlot cluster_id with
  | none => 0
  | some c => (mgr.m_teks c).version

/-- `HMAC(m_hmac_key, TEK_old || timestamp || nonce)`. -/
def rotatedTek (crypto : Primitives) (draws : RotationDraws) (c : Fin 3) (mgr : TekManager) :
    AesGcmKey :=
  Hmac.compute crypto mgr.m_hmac_key
    ((mgr.m_teks c).tek.toList ++ writeU64BE draws.ts ++ draws.nonce.toList)

def doRotate (crypto : Primitives) (draws : RotationDraws) (cluster_id : UInt32) (mgr : TekManager) :
    TekManager :=
  match clusterSlot cluster_id with
  | none => mgr
  | some c =>
    let tek := mgr.rotatedTek crypto draws c
    { mgr with
      m_teks := Function.update mgr.m_teks c { mgr.m_teks c with
        tek
        tek_int := BigInt.fromBytes tek.toList
        version := (mgr.m_teks c).version+1
        created_at := draws.created_at
        expires_at := draws.created_at+tekLifetimeUs }
      m_rotations := mgr.m_rotations+1 }

def rotateOnLeave (crypto : Primitives) (draws : RotationDraws) (cluster_id : UInt32)
    (mgr : TekManager) : TekManager := doRotate crypto draws cluster_id mgr

def rotateOnTimer (crypto : Primitives) (draws : RotationDraws) (cluster_id : UInt32)
    (mgr : TekManager) : TekManager := doRotate crypto draws cluster_id mgr

/-- The integer of the TEK stays the one of the key before. -/
def updateTek (now : UInt64) (cluster_id : UInt32) (new_tek : AesGcmKey) (version : UInt32)
    (mgr : TekManager) : TekManager :=
  match clusterSlot cluster_id with
  | none => mgr
  | some c => { mgr with
      m_teks := Function.update mgr.m_teks c { mgr.m_teks c with
        tek := new_tek
        version
        valid := true
        created_at := now
        expires_at := now+tekLifetimeUs } }

section Integers

variable {crypto : Primitives} {mgr : TekManager} {c : Fin 3}

theorem doRotate_same (draws : RotationDraws) :
    ((mgr.doRotate crypto draws (UInt32.ofNat c)).m_teks c).tek_int =
      BigInt.fromBytes (mgr.rotatedTek crypto draws c).toList := by
  simp [doRotate]

theorem doRotate_other {k : UInt32} (draws : RotationDraws) (apart : clusterSlot k ≠ some c) :
    (mgr.doRotate crypto draws k).m_teks c = mgr.m_teks c := by
  unfold doRotate
  split
  · rfl
  · rename_i d slot
    apply Function.update_of_ne
    rintro rfl
    exact apart slot

theorem updateTek_tek_int (now : UInt64) (k : UInt32) (tek : AesGcmKey) (version : UInt32) :
    ((mgr.updateTek now k tek version).m_teks c).tek_int = (mgr.m_teks c).tek_int := by
  unfold updateTek
  split
  · rfl
  · rename_i d slot
    by_cases same : c = d
    · subst same
      simp
    · simp [same]

theorem initializeTeks_tek_int {now : UInt64} {hmac_key : HmacKey} {file : CryptoParamsFile}
    {cp : ClusterCryptoEntry} (entry : file.clusters[c]? = some cp) :
    ((initializeTeks now { m_params := some file, m_hmac_key := hmac_key }).m_teks c).tek_int =
      cp.tek_int := by
  simp only [initializeTeks,entry]

end Integers

end TekManager

structure DistributionRecord where
  cluster_id : UInt32 := 0
  last_version : UInt32 := 0
  last_broadcast : UInt64 := 0
  total_broadcasts : UInt64 := 0
  total_bytes : UInt64 := 0
  pending : Bool := false
  deriving DecidableEq,Repr

structure MtkDistributionManager where
  m_records : Fin 3 → DistributionRecord := fun c => { cluster_id := UInt32.ofNat c }

structure BroadcastDraws where
  packet : BuildDraws
  now : UInt64

namespace MtkDistributionManager

/-- What `BroadcastMtk` writes down after the SKDC's call returned. -/
def recordBroadcast (now : UInt64) (c : Fin 3) (version : UInt32) (mgr : MtkDistributionManager) :
    MtkDistributionManager :=
  let record := mgr.m_records c
  { m_records := Function.update mgr.m_records c { record with
      last_version := version
      last_broadcast := now
      total_broadcasts := record.total_broadcasts+1
      total_bytes := record.total_bytes+892
      pending := false } }

/-- `BroadcastMtk` with an SKDC that is not null. -/
def broadcastMtk (draws : BroadcastDraws) (cluster_id : UInt32) (tek_mgr : TekManager)
    (skdc : SkdcApplication) (mgr : MtkDistributionManager) :
    MtkDistributionManager × SkdcApplication × Result Unit :=
  match clusterSlot cluster_id with
  | none => (mgr,skdc,.ok ())
  | some c =>
    match skdc.updateTek draws.packet (tek_mgr.getTek cluster_id) with
    | (skdc,.error failure) => (mgr,skdc,.error failure)
    | (skdc,.ok _) =>
      (mgr.recordBroadcast draws.now c (tek_mgr.getVersion cluster_id),skdc,.ok ())

end MtkDistributionManager
end UavFanet.Apps
