import UavFanet.JoinEvent
import UavFanet.TekManager

/-! The managers of joins, leaves, rekeys, handovers and compromises over the group and TEK
managers that they share: every call with the state it leaves, also where it throws. -/
namespace UavFanet.Apps
open UavFanet.ByteUtils UavFanet.Packet

structure LeaveRecord where
  uav_id : UInt32 := 0
  uav_index : UInt32 := 0
  cluster_id : UInt32 := 0
  revoked : Bool := false
  rekey_done : Bool := false
  new_version : UInt32 := 0
  deriving DecidableEq,Repr

structure LeaveEventManager where
  m_history : List LeaveRecord := []
  m_total_leaves : UInt64 := 0
  m_force_revokes : UInt64 := 0

inductive RekeyCause where
  | leave
  | compromise
  | periodic
  | kdcInit
  | handover
  deriving DecidableEq,Repr

structure RekeyEvent where
  cluster_id : UInt32
  old_version : UInt32
  new_version : UInt32
  reason : RekeyCause
  success : Bool
  deriving DecidableEq,Repr

structure RekeyManager where
  m_history : List RekeyEvent := []
  m_total_rekeys : UInt64 := 0
  m_cluster_rekeys : Fin 3 → UInt64 := fun _ => 0

structure HandoverRecord where
  uav_id : UInt32
  old_cluster : UInt32
  new_cluster : UInt32
  old_uav_index : UInt32
  new_uav_index : UInt32
  leave_ok : Bool
  join_ok : Bool
  old_rekey_done : Bool
  new_rekey_done : Bool
  deriving DecidableEq,Repr

structure HandoverManager where
  m_history : List HandoverRecord := []
  m_total_handovers : UInt64 := 0
  m_failed_handovers : UInt64 := 0

inductive CompromiseReason where
  | hmacFailure
  | replayAttack
  | invalidTek
  | anomalousRate
  | externalReport
  deriving DecidableEq,Repr

structure CompromiseEvent where
  uav_id : UInt32
  cluster_id : UInt32
  uav_index : UInt32
  reason : CompromiseReason
  revoked : Bool
  deriving DecidableEq,Repr

/-- Of the pointer to the leave manager counts whether it is set. -/
structure CompromiseDetector where
  m_leave_mgr : Bool := true
  m_history : List CompromiseEvent := []
  m_compromised : List UInt32 := []
  m_revoked : List UInt32 := []
  m_total_detections : UInt64 := 0
  m_total_revocations : UInt64 := 0

def CompromiseDetector.isCompromised (detector : CompromiseDetector) (uav_id : UInt32) : Bool :=
  uav_id ∈ detector.m_compromised

def CompromiseDetector.isRevoked (detector : CompromiseDetector) (uav_id : UInt32) : Bool :=
  uav_id ∈ detector.m_revoked

/-- The managers and the SKDCs they are handed. A null pointer is `none`. -/
structure Managers where
  mc : MulticastManager
  tek : TekManager
  dist : Option MtkDistributionManager := some {}
  join : JoinEventManager := {}
  leave : LeaveEventManager := {}
  rekey : RekeyManager := {}
  handover : HandoverManager := {}
  detector : CompromiseDetector := {}
  skdcs : Fin 3 → Option SkdcApplication := fun _ => none

structure JoinDraws where
  hmac_key : Result HmacKey
  packet : BuildDraws
  broadcast : BroadcastDraws

structure LeaveDraws where
  rotation : RotationDraws
  second : RotationDraws
  broadcast : BroadcastDraws

structure TekDraws where
  ts : UInt64
  nonce : Nonce128
  update_us : UInt64
  second_us : UInt64
  broadcast : BroadcastDraws

namespace Managers

/-- The condition `skdc && m_dist_mgr` of every distribution. -/
def linked (state : Managers) (skdc : Option (Fin 3)) : Bool :=
  (skdc.bind state.skdcs).isSome && state.dist.isSome

/-- `BroadcastMtk` where both pointers are set. -/
def broadcastMtk (draws : BroadcastDraws) (cluster_id : UInt32) (skdc : Option (Fin 3))
    (state : Managers) : Managers × Result Unit :=
  match skdc,skdc.bind state.skdcs,state.dist with
  | some k,some app,some dist =>
    let (dist,app,sent) := dist.broadcastMtk draws cluster_id state.tek app
    ({ state with dist := some dist, skdcs := Function.update state.skdcs k (some app) },sent)
  | _,_,_ => (state,.ok ())

/-- `if (skdc && m_dist_mgr) m_dist_mgr->OnMemberJoined(…)`. -/
def onMemberJoined (draws : BroadcastDraws) (cluster_id : UInt32) (skdc : Option (Fin 3))
    (state : Managers) : Managers × Result Unit :=
  if state.linked skdc then state.broadcastMtk draws cluster_id skdc else (state,.ok ())

/-- `if (skdc && m_dist_mgr) m_dist_mgr->OnMemberLeft(…)`, which rotates the TEK itself. -/
def onMemberLeft (crypto : Primitives) (rotation : RotationDraws) (draws : BroadcastDraws)
    (cluster_id : UInt32) (skdc : Option (Fin 3)) (state : Managers) : Managers × Result Unit :=
  if state.linked skdc then
    { state with tek := state.tek.rotateOnLeave crypto rotation cluster_id }.broadcastMtk draws
      cluster_id skdc
  else (state,.ok ())

/-- `if (skdc && m_dist_mgr) m_dist_mgr->OnTekRotated(…)`. -/
def onTekRotated (now : UInt64) (draws : BroadcastDraws) (cluster_id : UInt32) (new_tek : AesGcmKey)
    (version : UInt32) (skdc : Option (Fin 3)) (state : Managers) : Managers × Result Unit :=
  if state.linked skdc then
    { state with tek := state.tek.updateTek now cluster_id new_tek version }.broadcastMtk draws
      cluster_id skdc
  else (state,.ok ())

def recordJoin (record : JoinRecord) (state : Managers) : Managers :=
  { state with join := { state.join with m_history := state.join.m_history ++ [record] } }

/-- `JoinEventManager::ProcessJoin`. Its argument `uav_app` is not used. -/
def processJoin (crypto : Primitives) (draws : JoinDraws) (uav_id uav_index cluster_id : UInt32)
    (skdc : Option (Fin 3)) (state : Managers) : Managers × Result Bool :=
  let record : JoinRecord := { uav_id, uav_index, cluster_id }
  let state := { state with
    join := { state.join with m_total_joins := state.join.m_total_joins+1 } }
  let request : Result Bool := do
    let hmac_key ← draws.hmac_key
    let join_pkt ← JoinEventManager.buildJoinPacket draws.packet uav_id uav_index cluster_id
    return JoinEventManager.authenticateJoin crypto join_pkt hmac_key
  match request with
  | .error failure => (state,.error failure)
  | .ok false =>
    let state := { state with
      join := { state.join with m_failed_joins := state.join.m_failed_joins+1 } }
    (state.recordJoin record,.ok false)
  | .ok true =>
    match state.mc.addMember cluster_id uav_index uav_id with
    | (mc,.error failure) => ({ state with mc },.error failure)
    | (mc,.ok _) =>
      -- A refused member counts as joined.
      match { state with mc }.onMemberJoined draws.broadcast cluster_id skdc with
      | (state,.error failure) => (state,.error failure)
      | (state,.ok _) =>
        (state.recordJoin { record with authenticated := true, joined := true, tek_received := true },
          .ok true)

def recordLeave (record : LeaveRecord) (state : Managers) : Managers :=
  { state with leave := { state.leave with m_history := state.leave.m_history ++ [record] } }

/-- `LeaveEventManager::DoLeave`. -/
def doLeave (crypto : Primitives) (draws : LeaveDraws) (uav_id uav_index cluster_id : UInt32)
    (skdc : Option (Fin 3)) (forced : Bool) (state : Managers) : Managers × Result Bool :=
  match state.mc.removeMember cluster_id uav_index uav_id with
  | (mc,.error failure) => ({ state with mc },.error failure)
  | (mc,.ok removed) =>
    let state := { state with mc }
    let record : LeaveRecord := { uav_id, uav_index, cluster_id, revoked := removed || forced }
    if !record.revoked then (state.recordLeave record,.ok false)
    else
      let state := { state with tek := state.tek.rotateOnLeave crypto draws.rotation cluster_id }
      let record := { record with new_version := state.tek.getVersion cluster_id }
      match state.onMemberLeft crypto draws.second draws.broadcast cluster_id skdc with
      | (state,.error failure) => (state,.error failure)
      | (state,.ok _) => (state.recordLeave { record with rekey_done := true },.ok true)

def processLeave (crypto : Primitives) (draws : LeaveDraws) (uav_id uav_index cluster_id : UInt32)
    (skdc : Option (Fin 3)) (state : Managers) : Managers × Result Bool :=
  { state with leave := { state.leave with
      m_total_leaves := state.leave.m_total_leaves+1 } }.doLeave crypto draws uav_id uav_index
    cluster_id skdc false

def forceRevoke (crypto : Primitives) (draws : LeaveDraws) (uav_id uav_index cluster_id : UInt32)
    (skdc : Option (Fin 3)) (state : Managers) : Managers × Result Bool :=
  { state with leave := { state.leave with
      m_total_leaves := state.leave.m_total_leaves+1
      m_force_revokes := state.leave.m_force_revokes+1 } }.doLeave crypto draws uav_id uav_index
    cluster_id skdc true

/-- `SHA256(TEK_old || timestamp || nonce)`. -/
def deriveTek (crypto : Primitives) (old_tek : AesGcmKey) (timestamp_us : UInt64)
    (nonce : Nonce128) : AesGcmKey :=
  crypto.sha256 (old_tek.toList ++ writeU64BE timestamp_us ++ nonce.toList)

/-- `RekeyManager::TriggerRekey`. -/
def triggerRekey (crypto : Primitives) (draws : TekDraws) (cluster_id : UInt32)
    (reason : RekeyCause) (skdc : Option (Fin 3)) (state : Managers) : Managers × Result Bool :=
  match clusterSlot cluster_id with
  | none => (state,.ok false)
  | some c =>
    let old_version := state.tek.getVersion cluster_id
    let new_tek := deriveTek crypto (state.tek.getTek cluster_id) draws.ts draws.nonce
    let new_ver := old_version+1
    let state := { state with
      tek := state.tek.updateTek draws.update_us cluster_id new_tek new_ver }
    let event : RekeyEvent := {
      cluster_id, old_version, new_version := state.tek.getVersion cluster_id, reason
      success := true }
    match state.onTekRotated draws.second_us draws.broadcast cluster_id new_tek new_ver skdc with
    | (state,.error failure) => (state,.error failure)
    | (state,.ok _) =>
      ({ state with rekey := {
          m_history := state.rekey.m_history ++ [event]
          m_total_rekeys := state.rekey.m_total_rekeys+1
          m_cluster_rekeys := Function.update state.rekey.m_cluster_rekeys c
            (state.rekey.m_cluster_rekeys c+1) } },.ok true)

/-- The slot that `ProcessHandover` picks in the new cluster, from the size of its group. -/
def newIndex (mc : MulticastManager) (new_cluster : UInt32) : UInt32 := mc.getGroupSize new_cluster%6

/-- `HandoverManager::ProcessHandover`; each cluster's SKDC is handed along. -/
def processHandover (crypto : Primitives) (leaving : LeaveDraws) (joining : JoinDraws)
    (uav_id old_uav_index old_cluster new_cluster : UInt32) (state : Managers) :
    Managers × Result Bool :=
  if old_cluster = new_cluster then (state,.ok false)
  else
    match clusterSlot old_cluster,clusterSlot new_cluster with
    | some old,some new =>
      let state := { state with handover := { state.handover with
        m_total_handovers := state.handover.m_total_handovers+1 } }
      match state.processLeave crypto leaving uav_id old_uav_index old_cluster (some old) with
      | (state,.error failure) => (state,.error failure)
      | (state,.ok leave_ok) =>
        let new_uav_index := newIndex state.mc new_cluster
        match state.processJoin crypto joining uav_id new_uav_index new_cluster (some new) with
        | (state,.error failure) => (state,.error failure)
        | (state,.ok join_ok) =>
          let record : HandoverRecord := {
            uav_id, old_cluster, new_cluster, old_uav_index, new_uav_index, leave_ok, join_ok
            old_rekey_done := leave_ok, new_rekey_done := join_ok }
          let failed := !leave_ok || !join_ok
          ({ state with handover := { state.handover with
              m_history := state.handover.m_history ++ [record]
              m_failed_handovers := state.handover.m_failed_handovers+(if failed then 1 else 0) } },
            .ok !failed)
    | _,_ => (state,.ok false)

/-- The end of `HandleCompromise`, after the revocation if there was one. -/
def recordCompromise (event : CompromiseEvent) (state : Managers) : Managers :=
  { state with detector := { state.detector with
      m_history := state.detector.m_history ++ [event]
      m_revoked := state.detector.m_revoked ++ (if event.revoked then [event.uav_id] else [])
      m_total_revocations := state.detector.m_total_revocations+(if event.revoked then 1 else 0) } }

/-- `CompromiseDetector::HandleCompromise`, which all reports lead to. -/
def handleCompromise (crypto : Primitives) (draws : LeaveDraws)
    (uav_id cluster_id uav_index : UInt32) (reason : CompromiseReason) (skdc : Option (Fin 3))
    (state : Managers) : Managers × Result Unit :=
  if state.detector.isRevoked uav_id then (state,.ok ())
  else
    let detector := { state.detector with
      m_total_detections := state.detector.m_total_detections+1
      m_compromised := if state.detector.isCompromised uav_id then state.detector.m_compromised
        else state.detector.m_compromised ++ [uav_id] }
    let state := { state with detector }
    let event : CompromiseEvent := { uav_id, cluster_id, uav_index, reason, revoked := false }
    if state.detector.m_leave_mgr && (skdc.bind state.skdcs).isSome then
      match state.forceRevoke crypto draws uav_id uav_index cluster_id skdc with
      | (state,.error failure) => (state,.error failure)
      | (state,.ok revoked) => (state.recordCompromise { event with revoked },.ok ())
    else (state.recordCompromise event,.ok ())

end Managers
end UavFanet.Apps
