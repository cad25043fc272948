import UavFanet.SkdcApp
import UavFanet.Library.Run

/-! The entry points of an SKDC as the events of its runs: what each leaves of the
state, and what a token broadcast says about the state it is sent from. -/
namespace UavFanet.Apps
open Library UavFanet.ByteUtils UavFanet.Packet UavFanet.Handover

inductive SkdcCall where
  | triggerRekey (draws : RekeyDraws)
  | updateTek (draws : BuildDraws) (tek : AesGcmKey)
  | processJoin (draws : RekeyDraws) (uav_id uav_index : UInt32)
  | processLeave (draws : RekeyDraws) (uav_id : UInt32)
  | receiveFromKdc (draws : BuildDraws) (buf : ByteBuffer)
  | periodicBroadcast (draws : BuildDraws)
  | receiveSlaveKeyFwd (iv : Result GcmIv) (now_us : UInt64) (buf : ByteBuffer)
  | receiveKeyAck (draws : RekeyDraws) (buf : ByteBuffer)
  | receiveDataFromUav (iv : Result GcmIv) (buf : ByteBuffer)
  | onUavRekeyAck (sim_now : Nat) (uav_id tek_version : UInt32)
  | rekeyTimeout (sim_now : Nat) (ver : UInt32) (exp : Nat)

namespace SkdcCall

def sent (outcome : SkdcApplication × Result (Option MtkBroadcast)) :
    SkdcApplication × Option MtkBroadcast := (outcome.1,outcome.2.toOption.join)

def perform (crypto : Primitives) (app : SkdcApplication) :
    SkdcCall → SkdcApplication × Option MtkBroadcast
  | triggerRekey draws => sent (app.triggerRekey crypto draws)
  | updateTek draws tek => sent (app.updateTek draws tek)
  | processJoin draws uav_id uav_index => sent (app.processJoin crypto draws uav_id uav_index)
  | processLeave draws uav_id => sent (app.processLeave crypto draws uav_id)
  | receiveFromKdc draws buf => sent (app.receiveFromKdc draws buf)
  | periodicBroadcast draws => sent (app.periodicBroadcast draws)
  | receiveSlaveKeyFwd iv now_us buf => ((app.receiveSlaveKeyFwd crypto iv now_us buf).1,none)
  | receiveKeyAck draws buf => sent (app.receiveKeyAck crypto draws buf)
  | receiveDataFromUav iv buf => ((app.receiveDataFromUav crypto iv buf).1,none)
  | onUavRekeyAck sim_now uav_id tek_version => ((app.onUavRekeyAck sim_now uav_id tek_version).1,none)
  | rekeyTimeout sim_now ver exp => ((app.rekeyTimeout sim_now ver exp).1,none)

/-- The acknowledgement that makes `receiveKeyAck` run `ProcessJoin`. -/
def joining (crypto : Primitives) (app : SkdcApplication) (buf : ByteBuffer) : Option SlaveAckPkt :=
  match parseKeyAck crypto buf app.m_gk with
  | .ok (some ack) => if ack.new_cluster = app.m_cluster_id then some ack else none
  | _ => none

inductive KeyChange where
  | rotate (epoch_us : UInt64)
  | install (tek : AesGcmKey)
  deriving DecidableEq

def keyChange (crypto : Primitives) (app : SkdcApplication) : SkdcCall → Option KeyChange
  | triggerRekey draws => some (.rotate draws.epoch_us)
  | processJoin draws _ _ => some (.rotate draws.epoch_us)
  | processLeave draws _ => some (.rotate draws.epoch_us)
  | receiveKeyAck draws buf => (joining crypto app buf).map fun _ => .rotate draws.epoch_us
  | updateTek _ tek => some (.install tek)
  | _ => none

inductive MemberChange where
  | join (uav_id : UInt32)
  | leave (uav_id : UInt32)

def memberChange (crypto : Primitives) (app : SkdcApplication) : SkdcCall → Option MemberChange
  | processJoin _ uav_id _ => some (.join uav_id)
  | processLeave _ uav_id => some (.leave uav_id)
  | receiveKeyAck _ buf => (joining crypto app buf).map fun ack => .join ack.uav_id
  | _ => none

end SkdcCall

namespace SkdcState
open SkdcCall

def withMembers (state : SkdcState) : Option MemberChange → SkdcState
  | none => state
  | some (.join uav_id) => { state with members := state.members.insert uav_id }
  | some (.leave uav_id) => { state with members := state.members.erase uav_id }

def withKeys (crypto : Primitives) (state : SkdcState) : Option KeyChange → SkdcState
  | none => state
  | some (.rotate epoch_us) => { state with
      rekey_version := state.rekey_version+1
      current_tek := SkdcApplication.rotatedTek crypto state epoch_us }
  | some (.install tek) => { state with
      current_tek := tek, tek_received := true, hmac_key := Hmac.keyFromAesKey tek }

section Frames

variable (crypto : Primitives) (state : SkdcState) (members : Option MemberChange)
  (keys : Option KeyChange)

@[simp] theorem withMembers_current_tek : (state.withMembers members).current_tek = state.current_tek := by
  rcases members with _ | ⟨_ | _⟩ <;> rfl

@[simp] theorem withMembers_hmac_key : (state.withMembers members).hmac_key = state.hmac_key := by
  rcases members with _ | ⟨_ | _⟩ <;> rfl

@[simp] theorem withMembers_mt_k : (state.withMembers members).mt_k = state.mt_k := by
  rcases members with _ | ⟨_ | _⟩ <;> rfl

@[simp] theorem withMembers_n_group : (state.withMembers members).n_group = state.n_group := by
  rcases members with _ | ⟨_ | _⟩ <;> rfl

@[simp] theorem withMembers_rekey_version :
    (state.withMembers members).rekey_version = state.rekey_version := by
  rcases members with _ | ⟨_ | _⟩ <;> rfl

@[simp] theorem withKeys_mt_k : (state.withKeys crypto keys).mt_k = state.mt_k := by
  rcases keys with _ | ⟨_ | _⟩ <;> rfl

@[simp] theorem withKeys_n_group : (state.withKeys crypto keys).n_group = state.n_group := by
  rcases keys with _ | ⟨_ | _⟩ <;> rfl

@[simp] theorem withKeys_members : (state.withKeys crypto keys).members = state.members := by
  rcases keys with _ | ⟨_ | _⟩ <;> rfl

@[simp] theorem withKeys_withMembers_current_tek :
    ((state.withMembers members).withKeys crypto keys).current_tek =
      (state.withKeys crypto keys).current_tek := by
  rcases keys with _ | ⟨_ | _⟩
  · exact withMembers_current_tek state members
  · simp only [withKeys,SkdcApplication.rotatedTek,withMembers_current_tek,withMembers_hmac_key]
  · rfl

@[simp] theorem withKeys_withMembers_hmac_key :
    ((state.withMembers members).withKeys crypto keys).hmac_key =
      (state.withKeys crypto keys).hmac_key := by
  rcases keys with _ | ⟨_ | _⟩
  · exact withMembers_hmac_key state members
  · exact withMembers_hmac_key state members
  · rfl

end Frames
end SkdcState

namespace SkdcApplication

/-- A broadcast reports a cluster's token and version in a datagram its receivers can parse. -/
structure Announces (app : SkdcApplication) (broadcast : MtkBroadcast) : Prop where
  cluster : broadcast.packet.body.cluster_id = app.m_cluster_id
  version : broadcast.packet.body.version = app.m_state.rekey_version
  mtk : broadcast.packet.body.mtk = app.m_state.mt_k
  n_group : broadcast.packet.body.n_group = app.m_state.n_group
  magic : broadcast.packet.header.magic = packetMagic
  kind : broadcast.packet.header.packet_type = .mtkPacket
  wire : ∃ bytes, broadcast.packet.serialize = .ok bytes ∧
    broadcast.wire = bytes ++ List.replicate 32 0

theorem broadcastMtk_frame (draws : BuildDraws) (app : SkdcApplication) :
    ∃ seq count, (broadcastMtk draws app).1 = { app with m_seq := seq, m_mtk_count := count } := by
  rw [broadcastMtk]
  split
  · exact ⟨_,_,rfl⟩
  split
  · exact ⟨_,_,rfl⟩
  split
  · exact ⟨_,_,rfl⟩
  · simp only
    split
    · exact ⟨_,_,rfl⟩
    · exact ⟨_,_,rfl⟩

theorem triggerRekey_frame (crypto : Primitives) (draws : RekeyDraws) (app : SkdcApplication) :
    ∃ seq count, (triggerRekey crypto draws app).1 = { app with
      m_state := { app.m_state with
        rekey_version := app.m_state.rekey_version+1
        current_tek := rotatedTek crypto app.m_state draws.epoch_us }
      m_rekey_count := app.m_rekey_count+1
      m_rekey_send_times := app.m_rekey_send_times.insert (app.m_state.rekey_version+1) draws.sim_now
      m_rekey_ack_map := app.m_rekey_ack_map.insert (app.m_state.rekey_version+1) ∅
      rekey_timeouts := app.rekey_timeouts ++
        [(app.m_state.rekey_version+1,app.m_state.members.size)]
      m_seq := seq, m_mtk_count := count } := by
  obtain ⟨seq,count,frame⟩ := broadcastMtk_frame draws.packet { app with
    m_state := { app.m_state with
      rekey_version := app.m_state.rekey_version+1
      current_tek := rotatedTek crypto app.m_state draws.epoch_us }
    m_rekey_count := app.m_rekey_count+1
    m_rekey_send_times := app.m_rekey_send_times.insert (app.m_state.rekey_version+1) draws.sim_now
    m_rekey_ack_map := app.m_rekey_ack_map.insert (app.m_state.rekey_version+1) ∅
    rekey_timeouts := app.rekey_timeouts ++
      [(app.m_state.rekey_version+1,app.m_state.members.size)] }
  exact ⟨seq,count,frame⟩

theorem broadcastMtk_announces {draws : BuildDraws} {app : SkdcApplication} {broadcast : MtkBroadcast}
    (sent : (broadcastMtk draws app).2 = .ok (some broadcast)) : app.Announces broadcast := by
  rw [broadcastMtk] at sent
  split at sent
  · cases sent
  split at sent
  · cases sent
  split at sent
  · cases sent
  simp only at sent
  split at sent
  · cases sent
  · rename_i made
    cases sent
    obtain ⟨packet,built,made⟩ := Result.bind_ok.mp made
    obtain ⟨bytes,written,made⟩ := Result.bind_ok.mp made
    cases made
    obtain ⟨magic,kind,cluster,version,mtk,n_group,-⟩ := MtkPacket.build_ok built
    exact ⟨cluster,version,mtk,n_group,magic,kind,bytes,written,rfl⟩

theorem receiveKeyAck_joining (crypto : Primitives) (draws : RekeyDraws) (buf : ByteBuffer)
    (app : SkdcApplication) : (app.receiveKeyAck crypto draws buf).1 =
      (SkdcCall.joining crypto app buf).elim app fun ack =>
        (processJoin crypto draws ack.uav_id ack.new_index
          { app with m_pending_ho := app.m_pending_ho.erase ack.uav_id }).1 := by
  unfold receiveKeyAck SkdcCall.joining
  cases parsed : parseKeyAck crypto buf app.m_gk with
  | error failure => rfl
  | ok outcome =>
    cases outcome with
    | none => rfl
    | some ack =>
      by_cases here : ack.new_cluster = app.m_cluster_id
      · simp only [here,ne_eq,not_true_eq_false,if_false,if_true,Option.elim_some]
      · simp only [here,ne_eq,not_false_eq_true,if_true,if_false,Option.elim_none]

end SkdcApplication

namespace SkdcCall
open SkdcApplication

/-- What a call does: the state it leaves, the cluster it keeps, what it broadcasts. -/
structure Effect (before : SkdcApplication) (state : SkdcState)
    (result : SkdcApplication × Option MtkBroadcast) : Prop where
  state : result.1.m_state = state
  cluster : result.1.m_cluster_id = before.m_cluster_id
  announces : ∀ broadcast, result.2 = some broadcast → result.1.Announces broadcast

theorem Effect.quiet {before after : SkdcApplication} (same : after.m_state = before.m_state)
    (cluster : after.m_cluster_id = before.m_cluster_id) :
    Effect before before.m_state (after,none) :=
  ⟨same,cluster,fun _ impossible => nomatch impossible⟩

theorem Effect.broadcast (draws : BuildDraws) {before app : SkdcApplication} {state : SkdcState}
    (reached : app.m_state = state) (cluster : app.m_cluster_id = before.m_cluster_id) :
    Effect before state (sent (app.broadcastMtk draws)) := by
  subst reached
  obtain ⟨seq,count,frame⟩ := broadcastMtk_frame draws app
  refine ⟨by rw [sent,frame],by rw [sent,frame]; exact cluster,?_⟩
  intro broadcast emitted
  have made : (app.broadcastMtk draws).2 = .ok (some broadcast) := by
    simp only [sent] at emitted
    cases outcome : (app.broadcastMtk draws).2 with
    | error failure => simp [outcome,Except.toOption] at emitted
    | ok value => simpa [outcome,Except.toOption] using emitted
  obtain ⟨reported,version,mtk,n_group,magic,kind,wire⟩ := broadcastMtk_announces made
  rw [sent,frame]
  exact ⟨reported,version,mtk,n_group,magic,kind,wire⟩

theorem Effect.rekey (crypto : Primitives) (draws : RekeyDraws) {before app : SkdcApplication}
    {state : SkdcState} (reached : app.m_state.withKeys crypto (some (.rotate draws.epoch_us)) = state)
    (cluster : app.m_cluster_id = before.m_cluster_id) :
    Effect before state (sent (app.triggerRekey crypto draws)) := by
  rw [SkdcApplication.triggerRekey]
  exact Effect.broadcast draws.packet reached cluster

/-- Every call changes members, then keys, and broadcasts at most once, last of all. -/
theorem perform_effect (crypto : Primitives) (app : SkdcApplication) (call : SkdcCall) :
    Effect app ((app.m_state.withMembers (call.memberChange crypto app)).withKeys crypto
      (call.keyChange crypto app)) (call.perform crypto app) := by
  cases call with
  | triggerRekey draws => exact Effect.rekey crypto draws rfl rfl
  | updateTek draws tek =>
    simp only [perform,SkdcApplication.updateTek]
    exact Effect.broadcast draws rfl rfl
  | processJoin draws uav_id uav_index =>
    simp only [perform,SkdcApplication.processJoin]
    exact Effect.rekey crypto draws rfl rfl
  | processLeave draws uav_id =>
    simp only [perform,SkdcApplication.processLeave]
    exact Effect.rekey crypto draws rfl rfl
  | receiveFromKdc draws buf =>
    simp only [perform,SkdcApplication.receiveFromKdc]
    split
    · exact Effect.quiet rfl rfl
    split
    · exact Effect.quiet rfl rfl
    split
    · exact Effect.quiet rfl rfl
    · exact Effect.broadcast draws rfl rfl
  | periodicBroadcast draws => exact Effect.broadcast draws rfl rfl
  | receiveSlaveKeyFwd iv now_us buf =>
    simp only [perform,SkdcApplication.receiveSlaveKeyFwd]
    split
    · exact Effect.quiet rfl rfl
    · exact Effect.quiet rfl rfl
    · split
      · exact Effect.quiet rfl rfl
      · exact Effect.quiet rfl rfl
  | receiveKeyAck draws buf =>
    simp only [perform,SkdcApplication.receiveKeyAck,memberChange,keyChange,joining]
    cases parsed : parseKeyAck crypto buf app.m_gk with
    | error failure => exact Effect.quiet rfl rfl
    | ok outcome =>
      cases outcome with
      | none => exact Effect.quiet rfl rfl
      | some ack =>
        by_cases here : ack.new_cluster = app.m_cluster_id
        · simp only [here,ne_eq,not_true_eq_false,if_false,if_true,SkdcApplication.processJoin]
          exact Effect.rekey crypto draws rfl rfl
        · simp only [here,ne_eq,not_false_eq_true,if_false,if_true]
          exact Effect.quiet rfl rfl
  | receiveDataFromUav iv buf => exact Effect.quiet rfl rfl
  | onUavRekeyAck sim_now uav_id tek_version =>
    simp only [perform,SkdcApplication.onUavRekeyAck]
    split
    · exact Effect.quiet rfl rfl
    · split
      · exact Effect.quiet rfl rfl
      · exact Effect.quiet rfl rfl
  | rekeyTimeout sim_now ver exp =>
    simp only [perform,SkdcApplication.rekeyTimeout]
    split
    · exact Effect.quiet rfl rfl
    · exact Effect.quiet rfl rfl

end SkdcCall

def loadedTek : AesGcmKey := (Vector.replicate 32 0).set 31 2

/-- One cluster of six UAVs. The token carries the integer of the TEK, two. -/
def sampleEntry : ClusterCryptoEntry where
  cluster_id := 0
  skdc_id := 1
  num_uavs := 6
  eM := 16890021938993478973
  n_total := 4524113019373253295
  N_global := 27009147924680312986133
  N_group := 27009147924680312986133
  tek := loadedTek
  tek_int := 2
  MT_K := 24904538995484444441791
  e_MK := 16890021938993478973
  user_indices := [0,1,2,3,4,5]
  slave_keys := [
    { uav_index := 0, uav_id := 0, e_i := 13, d_i := 37, n_i := 77, x_i := 3, y_i := 5,
      Mi := 301607534624883553, Ni := 7, xy_i := 15, p_i := 7, q_i := 11 },
    { uav_index := 1, uav_id := 1, e_i := 5, d_i := 405, n_i := 1081, x_i := 11, y_i := 23,
      Mi := 17881869641791515, Ni := 106, xy_i := 253, p_i := 23, q_i := 47 },
    { uav_index := 2, uav_id := 2, e_i := 5, d_i := 3805, n_i := 4897, x_i := 29, y_i := 41,
      Mi := 3804973102921155, Ni := 569, xy_i := 1189, p_i := 59, q_i := 83 },
    { uav_index := 3, uav_id := 3, e_i := 5, d_i := 14077, n_i := 17869, x_i := 53, y_i := 83,
      Mi := 1028441241048705, Ni := 1993, xy_i := 4399, p_i := 107, q_i := 167 },
    { uav_index := 4, uav_id := 4, e_i := 5, d_i := 24137, n_i := 40633, x_i := 89, y_i := 113,
      Mi := 449847173050935, Ni := 3376, xy_i := 10057, p_i := 179, q_i := 227 },
    { uav_index := 5, uav_id := 5, e_i := 5, d_i := 36261, n_i := 91261, x_i := 131, y_i := 173,
      Mi := 199625513805465, Ni := 19197, xy_i := 22663, p_i := 263, q_i := 347 }]

def sampleFile : CryptoParamsFile where
  num_clusters := 1
  uavs_per_cluster := 6
  total_uavs := 6
  clusters := [sampleEntry]

def secondEntry : ClusterCryptoEntry where
  cluster_id := 1
  skdc_id := 2
  num_uavs := 6
  eM := 5
  n_total := 554828602863813161912495235247
  N_global := 2320806233482515404295773662391029
  N_group := 2320806233482515404295773662391029
  tek := (Vector.replicate 32 0).set 31 3
  tek_int := 3
  MT_K := 243
  e_MK := 5
  user_indices := [0,1,2,3,4,5]
  slave_keys := [
    { uav_index := 0, uav_id := 6, e_i := 5, d_i := 109405, n_i := 137497, x_i := 179, y_i := 191,
      Mi := 16228278184907811340270123, Ni := 24491, xy_i := 34189, p_i := 359, q_i := 383 },
    { uav_index := 1, uav_id := 7, e_i := 5, d_i := 133649, n_i := 223693, x_i := 233, y_i := 239,
      Mi := 9963341585357680642025881, Ni := 53686, xy_i := 55687, p_i := 467, q_i := 479 },
    { uav_index := 2, uav_id := 8, e_i := 5, d_i := 56425, n_i := 283189, x_i := 251, y_i := 281,
      Mi := 7866450253984959264897637, Ni := 35161, xy_i := 70531, p_i := 503, q_i := 563 },
    { uav_index := 3, uav_id := 9, e_i := 5, d_i := 252449, n_i := 422053, x_i := 293, y_i := 359,
      Mi := 5274687963948141518557381, Ni := 86972, xy_i := 105187, p_i := 587, q_i := 719 },
    { uav_index := 4, uav_id := 10, e_i := 5, d_i := 577885, n_i := 724057, x_i := 419, y_i := 431,
      Mi := 3072327787760124713645323, Ni := 165786, xy_i := 180589, p_i := 839, q_i := 863 },
    { uav_index := 5, uav_id := 11, e_i := 5, d_i := 348021, n_i := 871921, x_i := 443, y_i := 491,
      Mi := 2550783644489355403642519, Ni := 16577, xy_i := 217513, p_i := 887, q_i := 983 }]

def thirdEntry : ClusterCryptoEntry where
  cluster_id := 2
  skdc_id := 3
  num_uavs := 6
  eM := 5
  n_total := 16237230837927701713676608577759383
  N_global := 67080506521131870065974079546580910789
  N_group := 67080506521131870065974079546580910789
  tek := (Vector.replicate 32 0).set 31 5
  tek_int := 5
  MT_K := 3125
  e_MK := 5
  user_indices := [0,1,2,3,4,5]
  slave_keys := [
    { uav_index := 0, uav_id := 12, e_i := 5, d_i := 724409, n_i := 1209553, x_i := 509, y_i := 593,
      Mi := 53794699913952569478482123059, Ni := 247961, xy_i := 301837, p_i := 1019, q_i := 1187 },
    { uav_index := 1, uav_id := 13, e_i := 5, d_i := 669717, n_i := 1676881, x_i := 641, y_i := 653,
      Mi := 38791873431701762210359025971, Ni := 84521, xy_i := 418573, p_i := 1283, q_i := 1307 },
    { uav_index := 2, uav_id := 14, e_i := 5, d_i := 1080233, n_i := 1803073, x_i := 659, y_i := 683,
      Mi := 36074959037557907992447424839, Ni := 223732, xy_i := 450097, p_i := 1319, q_i := 1367 },
    { uav_index := 3, uav_id := 15, e_i := 5, d_i := 1282121, n_i := 2139793, x_i := 719, y_i := 743,
      Mi := 30394448020051218350738760799, Ni := 205806, xy_i := 534217, p_i := 1439, q_i := 1487 },
    { uav_index := 4, uav_id := 16, e_i := 5, d_i := 1970077, n_i := 2465737, x_i := 761, y_i := 809,
      Mi := 26374169109228962791585154167, Ni := 183422, xy_i := 615649, p_i := 1523, q_i := 1619 },
    { uav_index := 5, uav_id := 17, e_i := 5, d_i := 1389093, n_i := 3476461, x_i := 911, y_i := 953,
      Mi := 18702544092579216263940446401, Ni := 691344, xy_i := 868183, p_i := 1823, q_i := 1907 }]

def fleetFile : CryptoParamsFile where
  num_clusters := 3
  uavs_per_cluster := 6
  total_uavs := 18
  clusters := [sampleEntry,secondEntry,thirdEntry]

def idleSkdc : SkdcApplication := { node_id := 1, m_params := some sampleFile, m_wifi_socket := true }

def startedSkdc : SkdcApplication := { idleSkdc with m_state := {
  current_tek := loadedTek, hmac_key := loadedTek, mt_k := sampleEntry.MT_K
  n_group := sampleEntry.N_group, e_mk := sampleEntry.e_MK, tek_received := true
  members := ∅ ∪ SkdcApplication.initialMembers 0 } }

def samplePacketDraws : BuildDraws where
  body_us := 1700000000000000
  body_nonce := .ok (Vector.replicate 16 1)
  token_us := 1700000000000000
  token_nonce := .ok (Vector.replicate 16 2)

def sampleRekeyDraws : RekeyDraws where
  epoch_us := 1700000000000000
  sim_now := 0
  packet := samplePacketDraws

/-- What two rotations make of the loaded key, one after the other at the time above. -/
def rotatedOnce : AesGcmKey := ⟨#[27,90,94,57,165,57,166,219,51,128,227,35,251,216,201,191,196,176,249,240,
  120,7,136,141,205,91,204,27,67,123,22,167],rfl⟩

def rotatedTwice : AesGcmKey := ⟨#[230,142,195,210,41,110,183,207,12,135,182,123,77,76,73,93,3,243,142,244,
  45,252,155,98,228,75,214,210,29,59,255,187],rfl⟩

/-- HMAC-SHA256 where those two rotations call it; nothing below calls the other primitives. -/
def rotationCrypto : Primitives where
  sha256 _ := zeroKey
  hmacSha256 key message :=
    if key = loadedTek ∧ message = loadedTek.toList ++ writeU64BE 1700000000000000 then rotatedOnce
    else if key = loadedTek ∧ message = rotatedOnce.toList ++ writeU64BE 1700000000000000 then
      rotatedTwice
    else zeroKey
  gcmEncrypt _ _ text _ := (text,Vector.replicate 16 0)
  gcmDecrypt _ _ _ _ _ := none

end UavFanet.Apps
