import UavFanet.CryptoParams
import UavFanet.HandoverProtocol
import UavFanet.MtkPacket
import UavFanet.KdcApp
import Std.Data.ExtTreeSet

/-! `SkdcApplication`: its cluster's keys and token, the broadcast of the token, the
entry points that change keys or members, and the relay of telemetry to the KDC. -/
namespace UavFanet.Apps
open Library UavFanet.ByteUtils UavFanet.Packet UavFanet.Replay UavFanet.Handover

abbrev Members := Std.ExtTreeSet UInt32 compare

theorem nodup_toList (members : Members) : members.toList.Nodup := by
  refine Std.ExtTreeSet.distinct_toList.imp ?_
  rintro first second differs rfl
  exact differs Std.ReflCmp.compare_self

structure SkdcState where
  cluster_id : UInt32 := 0
  rekey_version : UInt32 := 1
  current_tek : AesGcmKey := zeroKey
  hmac_key : HmacKey := zeroKey
  mt_k : Int := 0
  n_group : Int := 0
  e_mk : Int := 0
  tek_received : Bool := false
  members : Members := ∅

structure PendingHO where
  blob : SlaveKeyBlob
  new_index : UInt32
  deriving DecidableEq,Repr

/-- The address of each WiFi node, where it has an IPv4 stack. -/
structure TopologyResult where
  wifi_nodes : List (Option UInt32)
  deriving DecidableEq,Repr

/-- Sockets are told apart by being open only. `rekey_timeouts` holds what `TriggerRekey`
scheduled: a version and the number of members at that time. -/
structure SkdcApplication where
  m_cluster_id : UInt32 := 0
  node_id : UInt32 := 0
  m_topo : Option TopologyResult := none
  m_params : Option CryptoParamsFile := none
  m_state : SkdcState := {}
  m_wifi_socket : Bool := false
  m_forward_socket : Bool := false
  m_join_acc_socket : Bool := false
  m_gk : GlobalKey := zeroKey
  m_pending_ho : Std.ExtTreeMap UInt32 PendingHO compare := ∅
  m_seq : SequenceCounter := {}
  m_mtk_count : UInt64 := 0
  m_rekey_count : UInt64 := 0
  m_data_rx_count : UInt64 := 0
  m_rekey_send_times : Std.ExtTreeMap UInt32 Nat compare := ∅
  m_rekey_ack_map : Std.ExtTreeMap UInt32 Members compare := ∅
  rekey_timeouts : List (UInt32 × Nat) := []

structure MtkBroadcast where
  packet : MtkPacket
  wire : ByteBuffer
  deriving DecidableEq,Repr

inductive RekeyStatus where
  | ok
  | timeout
  deriving DecidableEq,Repr

structure RekeyRecord where
  tek_version : UInt32
  send_time : Nat
  latency : Nat
  members : Nat
  received : Nat
  status : RekeyStatus
  deriving DecidableEq,Repr

structure RekeyDraws where
  epoch_us : UInt64
  sim_now : Nat
  packet : BuildDraws

namespace SkdcApplication

/-- The members that `InitializeState` inserts: six, from `cluster_id*6` on. -/
def initialMembers (cluster_id : UInt32) : Members :=
  Std.ExtTreeSet.ofList [cluster_id*6,cluster_id*6+1,cluster_id*6+2,cluster_id*6+3,
    cluster_id*6+4,cluster_id*6+5] compare

theorem mem_initialMembers {cluster_id uav : UInt32} : uav ∈ initialMembers cluster_id ↔
    uav ∈ [cluster_id*6,cluster_id*6+1,cluster_id*6+2,cluster_id*6+3,cluster_id*6+4,
      cluster_id*6+5] := by
  rw [initialMembers,Std.ExtTreeSet.mem_ofList,List.contains_iff_mem]

theorem initialMembers_cluster {c : Fin 3} {uav : UInt32}
    (inside : uav ∈ initialMembers (UInt32.ofNat c)) : uav.toNat/6 = c := by
  rw [mem_initialMembers] at inside
  simp only [List.mem_cons,List.not_mem_nil,or_false] at inside
  rcases inside with rfl | rfl | rfl | rfl | rfl | rfl
  all_goals
    revert c
    decide

theorem initialMembers_apart {c d : Fin 3} {uav : UInt32}
    (here : uav ∈ initialMembers (UInt32.ofNat c)) (there : uav ∈ initialMembers (UInt32.ofNat d)) :
    c = d :=
  Fin.ext ((initialMembers_cluster here).symm.trans (initialMembers_cluster there))

/-- Entries count by position. Without parameters the HMAC key is drawn. -/
def initializeState (random_key : Result HmacKey) (app : SkdcApplication) :
    Result SkdcApplication := do
  let state := { app.m_state with
    cluster_id := app.m_cluster_id, rekey_version := 1, tek_received := false }
  match app.m_params.bind (fun file => file.clusters[app.m_cluster_id.toNat]?) with
  | some cp =>
    return { app with m_state := { state with
      current_tek := cp.tek
      mt_k := cp.MT_K
      n_group := cp.N_group
      e_mk := cp.e_MK
      tek_received := true
      hmac_key := Hmac.keyFromAesKey cp.tek
      members := state.members ∪ initialMembers app.m_cluster_id } }
  | none =>
    let hmac_key ← random_key
    return { app with m_state := { state with hmac_key } }

theorem initializeState_loaded {app : SkdcApplication} {file : CryptoParamsFile}
    {cp : ClusterCryptoEntry} (random_key : Result HmacKey) (params : app.m_params = some file)
    (position : file.clusters[app.m_cluster_id.toNat]? = some cp) :
    initializeState random_key app = .ok { app with m_state := { app.m_state with
      cluster_id := app.m_cluster_id
      rekey_version := 1
      current_tek := cp.tek
      mt_k := cp.MT_K
      n_group := cp.N_group
      e_mk := cp.e_MK
      tek_received := true
      hmac_key := Hmac.keyFromAesKey cp.tek
      members := app.m_state.members ∪ initialMembers app.m_cluster_id } } := by
  rw [initializeState,params,Option.bind_some,position]
  rfl

def broadcastMtk (draws : BuildDraws) (app : SkdcApplication) :
    SkdcApplication × Result (Option MtkBroadcast) :=
  if !app.m_wifi_socket then (app,.ok none)
  else if !app.m_state.tek_received then (app,.ok none)
  else if app.m_state.mt_k ≤ 0 then (app,.ok none)
  else
    let (built,m_seq) := MtkPacket.build draws app.m_cluster_id (UInt16.ofNat app.node_id.toNat)
      app.m_state.rekey_version app.m_state.mt_k app.m_state.n_group app.m_seq
    let app := { app with m_seq }
    let sent : Result MtkBroadcast := do
      let packet ← built
      let wire ← packet.serialize
      return { packet, wire := wire ++ List.replicate 32 0 }
    match sent with
    | .error failure => (app,.error failure)
    | .ok broadcast => ({ app with m_mtk_count := app.m_mtk_count+1 },.ok (some broadcast))

def rotatedTek (crypto : Primitives) (state : SkdcState) (epoch_us : UInt64) : AesGcmKey :=
  Hmac.compute crypto state.hmac_key (state.current_tek.toList ++ writeU64BE epoch_us)

def triggerRekey (crypto : Primitives) (draws : RekeyDraws) (app : SkdcApplication) :
    SkdcApplication × Result (Option MtkBroadcast) :=
  let version := app.m_state.rekey_version+1
  -- The HMAC key and the token stay as they are.
  broadcastMtk draws.packet { app with
    m_state := { app.m_state with
      rekey_version := version
      current_tek := rotatedTek crypto app.m_state draws.epoch_us }
    m_rekey_count := app.m_rekey_count+1
    m_rekey_send_times := app.m_rekey_send_times.insert version draws.sim_now
    m_rekey_ack_map := app.m_rekey_ack_map.insert version ∅
    rekey_timeouts := app.rekey_timeouts ++ [(version,app.m_state.members.size)] }

def receiveFromKdc (draws : BuildDraws) (buf : ByteBuffer) (app : SkdcApplication) :
    SkdcApplication × Result (Option MtkBroadcast) :=
  if buf.length < 16 then (app,.ok none)
  else
    match readU32BE buf 0 with
    | .error failure => (app,.error failure)
    | .ok cluster => if cluster ≠ app.m_cluster_id then (app,.ok none) else broadcastMtk draws app

def processJoin (crypto : Primitives) (draws : RekeyDraws) (uav_id _uav_index : UInt32)
    (app : SkdcApplication) : SkdcApplication × Result (Option MtkBroadcast) :=
  triggerRekey crypto draws { app with
    m_state := { app.m_state with members := app.m_state.members.insert uav_id } }

def processLeave (crypto : Primitives) (draws : RekeyDraws) (uav_id : UInt32)
    (app : SkdcApplication) : SkdcApplication × Result (Option MtkBroadcast) :=
  triggerRekey crypto draws { app with
    m_state := { app.m_state with members := app.m_state.members.erase uav_id } }

def updateTek (draws : BuildDraws) (tek : AesGcmKey) (app : SkdcApplication) :
    SkdcApplication × Result (Option MtkBroadcast) :=
  broadcastMtk draws { app with
    m_state := { app.m_state with
      current_tek := tek, tek_received := true, hmac_key := Hmac.keyFromAesKey tek } }

def periodicBroadcast (draws : BuildDraws) (app : SkdcApplication) :
    SkdcApplication × Result (Option MtkBroadcast) := broadcastMtk draws app

def sendJoinAccept (crypto : Primitives) (iv : Result GcmIv) (now_us : UInt64)
    (uav_id new_idx : UInt32) (blob : SlaveKeyBlob) (app : SkdcApplication) :
    Result (Option (UInt32 × ByteBuffer)) :=
  match app.m_topo with
  | none => .ok none
  | some topo =>
    if !app.m_join_acc_socket then .ok none
    else do
      let wire ← buildJoinAccept crypto iv now_us uav_id app.m_cluster_id new_idx blob app.m_gk
      let wifi_idx := uav_id+3
      return (topo.wifi_nodes[wifi_idx.toNat]?).join.map fun uav_ip => (uav_ip,wire)

def receiveSlaveKeyFwd (crypto : Primitives) (iv : Result GcmIv) (now_us : UInt64)
    (buf : ByteBuffer) (app : SkdcApplication) :
    SkdcApplication × Result (Option (UInt32 × ByteBuffer)) :=
  match parseSlaveFwd crypto buf app.m_gk with
  | .error failure => (app,.error failure)
  | .ok none => (app,.ok none)
  | .ok (some fwd) =>
    if fwd.new_cluster ≠ app.m_cluster_id then (app,.ok none)
    else
      let pending : PendingHO := { blob := fwd.blob, new_index := fwd.blob.uav_index }
      let app := { app with m_pending_ho := app.m_pending_ho.insert fwd.uav_id pending }
      (app,app.sendJoinAccept crypto iv now_us fwd.uav_id fwd.blob.uav_index fwd.blob)

def receiveKeyAck (crypto : Primitives) (draws : RekeyDraws) (buf : ByteBuffer)
    (app : SkdcApplication) : SkdcApplication × Result (Option MtkBroadcast) :=
  match parseKeyAck crypto buf app.m_gk with
  | .error failure => (app,.error failure)
  | .ok none => (app,.ok none)
  | .ok (some ack) =>
    if ack.new_cluster ≠ app.m_cluster_id then (app,.ok none)
    else processJoin crypto draws ack.uav_id ack.new_index
      { app with m_pending_ho := app.m_pending_ho.erase ack.uav_id }

/-- The members that acknowledged a version; `operator[]` makes an empty entry. -/
def acknowledged (app : SkdcApplication) (tek_version : UInt32) : Members :=
  (app.m_rekey_ack_map[tek_version]?).getD ∅

def onUavRekeyAck (sim_now : Nat) (uav_id tek_version : UInt32) (app : SkdcApplication) :
    SkdcApplication × Option RekeyRecord :=
  match app.m_rekey_send_times[tek_version]? with
  | none => (app,none)
  | some send_time =>
    let acks := (app.acknowledged tek_version).insert uav_id
    if acks.size ≥ app.m_state.members.size then
      ({ app with
          m_rekey_send_times := app.m_rekey_send_times.erase tek_version
          m_rekey_ack_map := app.m_rekey_ack_map.erase tek_version },
        some { tek_version, send_time, latency := sim_now-send_time
               members := app.m_state.members.size, received := acks.size, status := .ok })
    else ({ app with m_rekey_ack_map := app.m_rekey_ack_map.insert tek_version acks },none)

def rekeyTimeout (sim_now : Nat) (ver : UInt32) (exp : Nat) (app : SkdcApplication) :
    SkdcApplication × Option RekeyRecord :=
  let app := { app with rekey_timeouts := app.rekey_timeouts.erase (ver,exp) }
  match app.m_rekey_send_times[ver]? with
  | none => (app,none)
  | some send_time =>
    ({ app with
        m_rekey_send_times := app.m_rekey_send_times.erase ver
        m_rekey_ack_map := app.m_rekey_ack_map.erase ver },
      some { tek_version := ver, send_time, latency := sim_now-send_time, members := exp
             received := (app.acknowledged ver).size, status := .timeout })

structure DataOutcome where
  telemetry : Option ByteBuffer := none
  forwarded : Option ByteBuffer := none
  deriving DecidableEq,Repr

/-- The code after the label `forward_to_kdc`. -/
def forwardToKdc (crypto : Primitives) (iv : Result GcmIv) (plaintext : ByteBuffer)
    (app : SkdcApplication) : Result (Option ByteBuffer) :=
  if !app.m_forward_socket || app.m_topo.isNone then .ok none
  else
    Result.caught do
      let enc ← AesGcm.encrypt crypto iv app.m_state.current_tek plaintext
        (forwardAad app.m_cluster_id)
      let fwd := writeU32BE app.m_cluster_id ++ enc.iv.toList ++ enc.tag.toList ++
        writeU32BE (UInt32.ofNat enc.ciphertext.length) ++ enc.ciphertext
      return Hmac.appendHmac crypto app.m_state.hmac_key fwd

def openData (crypto : Primitives) (pkt_data : ByteBuffer) (app : SkdcApplication) :
    Result (Option ByteBuffer) := do
  let body_off := 48
  if pkt_data.length < body_off+56 then return none
  let ct_len ← readU32BE pkt_data (body_off+20)
  let iv ← readArray 12 pkt_data (body_off+24)
  let tag ← readArray 16 pkt_data (body_off+40)
  if pkt_data.length < body_off+56+ct_len.toNat then return none
  let ct ← read pkt_data (body_off+56) ct_len.toNat
  -- Taken for cluster and sender.
  let aad ← read pkt_data 2 4
  (AesGcm.decrypt crypto app.m_state.current_tek iv ct tag aad).caught

def relayData (crypto : Primitives) (iv : Result GcmIv) (wire : ByteBuffer)
    (app : SkdcApplication) : Result DataOutcome := do
  if wire.length < 136 then return {}
  let pkt_data := wire.take (wire.length-32)
  let recv_hmac := wire.drop (wire.length-32)
  if !Hmac.verify crypto app.m_state.hmac_key pkt_data recv_hmac then
    -- The jump to `forward_to_kdc`: the plaintext is still the empty string.
    let forwarded ← app.forwardToKdc crypto iv []
    return { forwarded }
  else
    match ← app.openData crypto pkt_data with
    | none => return {}
    | some plaintext =>
      let forwarded ← app.forwardToKdc crypto iv plaintext
      return { telemetry := some plaintext, forwarded }

def receiveDataFromUav (crypto : Primitives) (iv : Result GcmIv) (wire : ByteBuffer)
    (app : SkdcApplication) : SkdcApplication × Result DataOutcome :=
  ({ app with m_data_rx_count := app.m_data_rx_count+1 },app.relayData crypto iv wire)

end SkdcApplication
end UavFanet.Apps
