import UavFanet.ByteUtils
import UavFanet.CryptoParams
import UavFanet.HandoverProtocol

/-! `KdcApplication`: the per-cluster keys it starts with, their renewal and the control
packets about it, the reception of telemetry that the SKDCs forward, and the slave keys that it
forwards for handovers. -/
namespace UavFanet.Apps
open Library UavFanet.ByteUtils UavFanet.Handover

def zeroKey : Key256 := Vector.replicate 32 0

structure KdcClusterState where
  cluster_id : UInt32 := 0
  skdc_node : UInt32 := 0
  current_tek : AesGcmKey := zeroKey
  current_mt_k : Int := 0
  rekey_version : UInt32 := 1
  member_count : UInt32 := 6
  initialized : Bool := false
  deriving DecidableEq,Repr

/-- Of the socket and of the topology counts whether they are set. -/
structure KdcApplication where
  m_params : Option CryptoParamsFile := none
  m_clusters : Vector KdcClusterState 3 := Vector.replicate 3 {}
  m_telemetry_rx_count : UInt64 := 0
  m_socket : Bool := false
  m_topo : Bool := false
  m_tx_count : UInt64 := 0
  m_rekey_count : UInt64 := 0
  m_gk : GlobalKey := zeroKey
  deriving DecidableEq,Repr

structure Telemetry where
  cluster : UInt32
  payload : ByteBuffer
  deriving DecidableEq,Repr

/-- What a `SLAVE_FWD` hands to a UAV, and the datagram to the SKDC of the new cluster. -/
structure SlaveForward where
  uav_id : UInt32
  new_cluster : UInt32
  new_idx : UInt32
  wire : ByteBuffer
  deriving DecidableEq,Repr

def forwardAad (cluster : UInt32) : ByteBuffer :=
  writeU16BE (UInt16.ofNat cluster.toNat) ++ writeU16BE 0xFFFF

namespace KdcApplication

/-- One turn of the loop of `InitializeClusters`; the clusters of the file count by position. -/
def initializeCluster (params : Option CryptoParamsFile) (c : Fin 3) (state : KdcClusterState) :
    KdcClusterState :=
  let state := { state with
    cluster_id := UInt32.ofNat c
    skdc_node := UInt32.ofNat c+1
    rekey_version := 1
    member_count := 6 }
  match params.bind (fun file => file.clusters[c]?) with
  | some entry => { state with
      current_tek := entry.tek, current_mt_k := entry.MT_K, initialized := true }
  | none => state

def initializeClusters (app : KdcApplication) : KdcApplication :=
  { app with m_clusters := app.m_clusters.mapFinIdx fun c state inside =>
      initializeCluster app.m_params ⟨c,inside⟩ state }

def getTek (app : KdcApplication) (cluster : UInt32) : AesGcmKey :=
  if known : cluster.toNat < 3 then (app.m_clusters.get ⟨cluster.toNat,known⟩).current_tek
  else zeroKey

/-- `SendControlPacket` about a cluster. Of the key it carries the first eight bytes. -/
def controlPacket (app : KdcApplication) (cluster : Fin 3) (tek : AesGcmKey) : ByteBuffer :=
  writeU32BE (UInt32.ofNat cluster) ++ writeU32BE (app.m_clusters.get cluster).rekey_version ++
    tek.toList.take 8

def sendTekToSkdc (cluster : UInt32) (app : KdcApplication) : KdcApplication × Option ByteBuffer :=
  if !app.m_socket || !app.m_topo then (app,none)
  else if known : cluster.toNat < 3 then
    let c : Fin 3 := ⟨cluster.toNat,known⟩
    ({ app with m_tx_count := app.m_tx_count+1 },
      some (app.controlPacket c (app.m_clusters.get c).current_tek))
  else (app,none)

def triggerRekey (generated : Result AesGcmKey) (cluster : UInt32) (app : KdcApplication) :
    KdcApplication × Result (Option ByteBuffer) :=
  if known : cluster.toNat < 3 then
    let cs := app.m_clusters.get ⟨cluster.toNat,known⟩
    let cs := { cs with rekey_version := cs.rekey_version+1 }
    let app := { app with
      m_clusters := app.m_clusters.set cluster.toNat cs known
      m_rekey_count := app.m_rekey_count+1 }
    match generated with
    | .error failure => (app,.error failure)
    | .ok current_tek =>
      let app := { app with
        m_clusters := app.m_clusters.set cluster.toNat { cs with current_tek } known }
      let (app,sent) := app.sendTekToSkdc cluster
      (app,.ok sent)
  else (app,.ok none)

theorem sendTekToSkdc_clusters (cluster : UInt32) (app : KdcApplication) :
    (app.sendTekToSkdc cluster).1.m_clusters = app.m_clusters := by
  unfold sendTekToSkdc
  split
  · rfl
  · split
    · rfl
    · rfl

theorem get_set_same (clusters : Vector KdcClusterState 3) {c : Nat} (known : c < 3)
    (cs : KdcClusterState) : (clusters.set c cs known).get ⟨c,known⟩ = cs :=
  Vector.getElem_set_self known

theorem getTek_triggerRekey (generated : Result AesGcmKey) (cluster : UInt32)
    (app : KdcApplication) : (app.triggerRekey generated cluster).1.getTek cluster =
      if cluster.toNat < 3 then generated.toOption.getD (app.getTek cluster)
      else app.getTek cluster := by
  unfold triggerRekey
  by_cases known : cluster.toNat < 3
  · simp only [dif_pos known,if_pos known]
    cases generated with
    | error failure =>
      simp only [getTek,dif_pos known,get_set_same,Except.toOption,Option.getD_none]
    | ok tek =>
      simp only [getTek,dif_pos known,sendTekToSkdc_clusters,get_set_same,Except.toOption,
        Option.getD_some]
  · simp only [dif_neg known,if_neg known]

def openTelemetry (crypto : Primitives) (app : KdcApplication) (wire : ByteBuffer) :
    Result (Option Telemetry) := do
  if wire.length < 68 then return none
  let pkt_data := wire.take (wire.length-32)
  let recv_hmac := wire.drop (wire.length-32)
  let cid ← readU32BE pkt_data 0
  if known : cid.toNat < 3 then
    let current_tek := (app.m_clusters.get ⟨cid.toNat,known⟩).current_tek
    let hmac_key := Hmac.keyFromAesKey current_tek
    if !Hmac.verify crypto hmac_key pkt_data recv_hmac then return none
    if pkt_data.length < 36 then return none
    let iv ← readArray 12 pkt_data 4
    let tag ← readArray 16 pkt_data 16
    let ct_len ← readU32BE pkt_data 32
    -- The sum is taken in 32 bits.
    if pkt_data.length < (36+ct_len).toNat then return none
    let ct ← read pkt_data 36 ct_len.toNat
    let plaintext ← (AesGcm.decrypt crypto current_tek iv ct tag (forwardAad cid)).caught
    return plaintext.map fun payload => { cluster := cid, payload }
  else return none

def receiveTelemetryFromSkdc (crypto : Primitives) (app : KdcApplication) (wire : ByteBuffer) :
    KdcApplication × Result (Option Telemetry) :=
  ({ app with m_telemetry_rx_count := app.m_telemetry_rx_count+1 },app.openTelemetry crypto wire)

/-- `to_bytes`: two hexadecimal digits to a byte. Negative numbers have none. -/
def hexBytes (v : Int) : Result ByteBuffer :=
  if v < 0 then .error (.standardException "cpp_int::str")
  else .ok (BigEndian.encode (((Nat.toDigits 16 v.toNat).length+1)/2) v.toNat)

/-- `none` where nothing is sent. The clusters of the file count by their identifiers. -/
def forwardSlaveKey (crypto : Primitives) (iv : Result GcmIv) (uav_id new_cluster _old_index : UInt32)
    (app : KdcApplication) : Result (Option SlaveForward) :=
  match app.m_params with
  | none => .ok none
  | some params =>
    if !app.m_topo then .ok none
    else if new_cluster ≥ 3 then .ok none
    else if params.uavs_per_cluster = 0 then .error .outOfRange
    else
      let new_idx := uav_id%params.uavs_per_cluster
      match params.getCluster new_cluster with
      | none => .ok none
      | some nc =>
        match nc.getSlaveKey new_idx with
        | none => .ok none
        | some sk => do
          let d_i_bytes ← hexBytes sk.d_i
          let n_i_bytes ← hexBytes sk.n_i
          let e_i_bytes ← hexBytes sk.e_i
          let Mi_bytes ← hexBytes sk.Mi
          let Ni_bytes ← hexBytes sk.Ni
          let blob := { uav_index := new_idx, cluster_id := new_cluster, d_i_bytes, n_i_bytes,
                        e_i_bytes, Mi_bytes, Ni_bytes }
          let wire ← buildSlaveFwd crypto iv uav_id new_cluster blob app.m_gk
          return if app.m_socket then some { uav_id, new_cluster, new_idx, wire } else none

def receiveHandoverNotify (crypto : Primitives) (iv : Result GcmIv) (buf : ByteBuffer)
    (app : KdcApplication) : Result (Option SlaveForward) := do
  match ← parseNotify crypto buf app.m_gk with
  | none => return none
  | some np => app.forwardSlaveKey crypto iv np.uav_id np.new_cluster np.old_index

end KdcApplication
end UavFanet.Apps
