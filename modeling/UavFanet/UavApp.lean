import UavFanet.DataPacket
import UavFanet.HandoverProtocol
import UavFanet.KdcApp
import UavFanet.RekeyPacket

/-! `UavApplication`: the keys a UAV starts with, its check of a received token, the
reception of broadcasts and the sending of encrypted data. -/
namespace UavFanet.Apps
open Library UavFanet.ByteUtils UavFanet.Packet UavFanet.Replay UavFanet.Handover

structure UavState where
  uav_id : UInt32 := 0
  uav_index : UInt32 := 0
  cluster_id : UInt32 := 0
  tek_valid : Bool := false
  d_i : Int := 0
  n_i : Int := 0
  e_i : Int := 0
  current_tek : AesGcmKey := zeroKey
  hmac_key : HmacKey := zeroKey
  rekey_version : UInt32 := 0
  data_seq : UInt32 := 0
  deriving DecidableEq,Repr

/-- `m_skdc_app` says whether the SKDC to acknowledge to is set; `m_topo` is the WiFi address
of each SKDC node, where it has an IPv4 stack. -/
structure UavApplication where
  m_uav_id : UInt32 := 0
  m_uav_index : UInt32 := 0
  m_cluster_id : UInt32 := 0
  m_params : Option CryptoParamsFile := none
  m_state : UavState := {}
  m_skdc_app : Bool := false
  m_send_socket : Bool := false
  m_topo : Option (List (Option UInt32)) := none
  m_ack_send_socket : Bool := false
  m_gk : GlobalKey := zeroKey
  m_seq : SequenceCounter := {}
  m_data_sent : UInt64 := 0
  m_mtk_received : UInt64 := 0
  m_rekey_count : UInt64 := 0
  deriving DecidableEq,Repr

def peekType (wire : ByteBuffer) : PacketType :=
  match wire with
  | high :: low :: _ :: packet_type :: _ =>
    if UInt16.ofNat (high.toNat*256+low.toNat) ≠ packetMagic then .unknown else ⟨packet_type⟩
  | _ => .unknown

theorem peekType_serialize {header : BaseHeader} (genuine : header.magic = packetMagic)
    (rest : ByteBuffer) : peekType (header.serialize ++ rest) = header.packet_type := by
  have magic : writeU16BE 0x5541 = [0x55,0x41] := rfl
  simp [BaseHeader.serialize,BaseHeader.fields,genuine,magic,peekType,packetMagic]

/-- What became of a datagram: whether a token in it was decrypted, if it came to that,
and the version acknowledged to the SKDC. -/
structure Reception where
  decrypted : Option Bool := none
  ack : Option UInt32 := none
  deriving DecidableEq,Repr

namespace UavApplication

def initializeSlaveKey (app : UavApplication) : UavApplication :=
  match app.m_params.bind (fun file => file.getCluster app.m_cluster_id) with
  | none => app
  | some cluster =>
    match cluster.getSlaveKey app.m_uav_index with
    | none => app
    | some sk =>
      { app with m_state := { app.m_state with
          d_i := sk.d_i
          n_i := sk.n_i
          e_i := sk.e_i
          current_tek := cluster.tek
          tek_valid := true
          hmac_key := Hmac.keyFromAesKey cluster.tek } }

theorem initializeSlaveKey_loaded {app : UavApplication} {file : CryptoParamsFile}
    {cluster : ClusterCryptoEntry} {sk : SlaveKeyEntry} (params : app.m_params = some file)
    (found : file.getCluster app.m_cluster_id = some cluster)
    (slave : cluster.getSlaveKey app.m_uav_index = some sk) :
    app.initializeSlaveKey = { app with m_state := { app.m_state with
      d_i := sk.d_i
      n_i := sk.n_i
      e_i := sk.e_i
      current_tek := cluster.tek
      tek_valid := true
      hmac_key := Hmac.keyFromAesKey cluster.tek } } := by
  simp only [initializeSlaveKey,params,Option.bind_some,found,slave]

def matchesTek (cluster : ClusterCryptoEntry) (n recovered : Int) : Result Bool :=
  if cluster.tek_int > 0 then do
    let expected ← BigInt.mod cluster.tek_int n
    return recovered == expected
  else return false

/-- The loop over the other clusters: the first whose own slave key explains the token is
taken over. -/
def tryClusters (file : CryptoParamsFile) (mt_k : Int) (app : UavApplication) :
    List UInt32 → Result (Option UavApplication)
  | [] => .ok none
  | c :: rest =>
    if c = app.m_cluster_id then tryClusters file mt_k app rest
    else
      match file.getCluster c with
      | none => tryClusters file mt_k app rest
      | some cl =>
        match cl.getSlaveKey (app.m_uav_index%6) with
        | none => tryClusters file mt_k app rest
        | some sk => do
          let rec2 ← BigInt.modPow mt_k sk.d_i sk.n_i
          if ← matchesTek cl sk.n_i rec2 then
            return some { app with
              m_cluster_id := c
              m_state := { app.m_state with
                d_i := sk.d_i
                n_i := sk.n_i
                e_i := sk.e_i
                cluster_id := c
                current_tek := cl.tek
                hmac_key := Hmac.keyFromAesKey cl.tek } }
          else tryClusters file mt_k app rest

def verifyMtk (mt_k recovered : Int) (app : UavApplication) : Result (Option UavApplication) :=
  match app.m_params with
  | none => .ok none
  | some file => do
    let own ← match file.getCluster app.m_cluster_id with
      | none => .ok false
      | some cluster => matchesTek cluster app.m_state.n_i recovered
    if own then return some app
    else tryClusters file mt_k app ((List.range file.num_clusters.toNat).map UInt32.ofNat)

/-- The application after a call that returns `true`; `none` where it returns `false`. -/
def decryptMtk (mt_k _n_group : Int) (app : UavApplication) : Result (Option UavApplication) :=
  if app.m_state.d_i ≤ 0 ∨ app.m_state.n_i ≤ 0 then .ok none
  else do
    let recovered ← BigInt.modPow mt_k app.m_state.d_i app.m_state.n_i
    let verified ← app.verifyMtk mt_k recovered
    return verified.map fun app => { app with
      m_state := { app.m_state with tek_valid := true }
      m_mtk_received := app.m_mtk_received+1 }

def Decrypts (cluster : ClusterCryptoEntry) (d n mt_k : Int) : Prop :=
  ∃ recovered, BigInt.modPow mt_k d n = .ok recovered ∧ 0 < cluster.tek_int ∧
    BigInt.mod cluster.tek_int n = .ok recovered

/-- The assignments of the loop over the other clusters. -/
def takeOver (c : UInt32) (cl : ClusterCryptoEntry) (sk : SlaveKeyEntry) (app : UavApplication) :
    UavApplication :=
  { app with
    m_cluster_id := c
    m_state := { app.m_state with
      d_i := sk.d_i
      n_i := sk.n_i
      e_i := sk.e_i
      cluster_id := c
      current_tek := cl.tek
      hmac_key := Hmac.keyFromAesKey cl.tek } }

theorem matchesTek_true {cluster : ClusterCryptoEntry} {n recovered : Int}
    (matched : matchesTek cluster n recovered = .ok true) :
    0 < cluster.tek_int ∧ BigInt.mod cluster.tek_int n = .ok recovered := by
  rw [matchesTek] at matched
  split at matched
  · rename_i positive
    obtain ⟨expected,reduced,equal⟩ := Result.bind_ok.mp matched
    obtain rfl : recovered = expected := beq_iff_eq.mp (Except.ok.inj equal)
    exact ⟨positive,reduced⟩
  · cases Except.ok.inj matched

theorem tryClusters_some {file : CryptoParamsFile} {mt_k : Int} {app taken : UavApplication}
    (clusters : List UInt32) (returned : tryClusters file mt_k app clusters = .ok (some taken)) :
    ∃ c cl sk, c ≠ app.m_cluster_id ∧ file.getCluster c = some cl ∧
      cl.getSlaveKey (app.m_uav_index%6) = some sk ∧ Decrypts cl sk.d_i sk.n_i mt_k ∧
      taken = app.takeOver c cl sk := by
  induction clusters with
  | nil => cases returned
  | cons c rest ih =>
    rw [tryClusters] at returned
    split at returned
    · exact ih returned
    rename_i foreign
    split at returned
    · exact ih returned
    rename_i cl found
    split at returned
    · exact ih returned
    rename_i sk slave
    obtain ⟨rec2,power,returned⟩ := Result.bind_ok.mp returned
    obtain ⟨matched,explained,returned⟩ := Result.bind_ok.mp returned
    cases matched with
    | false => exact ih returned
    | true =>
      obtain ⟨positive,reduced⟩ := matchesTek_true explained
      cases Except.ok.inj returned
      exact ⟨c,cl,sk,foreign,found,slave,⟨rec2,power,positive,reduced⟩,rfl⟩

/-- A token is accepted for the own cluster, whose keys stay, or for another one, whose keys
are taken over. -/
theorem decryptMtk_some {app verified : UavApplication} {mt_k n_group : Int}
    (returned : app.decryptMtk mt_k n_group = .ok (some verified)) :
    0 < app.m_state.d_i ∧ ∃ file taken, app.m_params = some file ∧
      verified = { taken with
        m_state := { taken.m_state with tek_valid := true }
        m_mtk_received := taken.m_mtk_received+1 } ∧
      ((taken = app ∧ ∃ cluster, file.getCluster app.m_cluster_id = some cluster ∧
          Decrypts cluster app.m_state.d_i app.m_state.n_i mt_k) ∨
        ∃ c cl sk, c ≠ app.m_cluster_id ∧ file.getCluster c = some cl ∧
          cl.getSlaveKey (app.m_uav_index%6) = some sk ∧ Decrypts cl sk.d_i sk.n_i mt_k ∧
          taken = app.takeOver c cl sk) := by
  rw [decryptMtk] at returned
  split at returned
  · cases returned
  rename_i loaded
  refine ⟨by omega,?_⟩
  obtain ⟨recovered,power,returned⟩ := Result.bind_ok.mp returned
  obtain ⟨verifies,found_out,returned⟩ := Result.bind_ok.mp returned
  obtain ⟨taken,rfl,rfl⟩ := Option.map_eq_some_iff.mp (Except.ok.inj returned)
  rw [verifyMtk] at found_out
  split at found_out
  · cases found_out
  rename_i file params
  refine ⟨file,taken,params,rfl,?_⟩
  cases found : file.getCluster app.m_cluster_id with
  | none =>
    rw [found] at found_out
    exact .inr (tryClusters_some _ found_out)
  | some cluster =>
    rw [found] at found_out
    obtain ⟨own,explained,found_out⟩ := Result.bind_ok.mp found_out
    cases own with
    | true =>
      obtain ⟨positive,reduced⟩ := matchesTek_true explained
      cases Except.ok.inj found_out
      exact .inl ⟨rfl,cluster,rfl,recovered,power,positive,reduced⟩
    | false => exact .inr (tryClusters_some _ found_out)

theorem decryptMtk_rekey_version {app verified : UavApplication} {mt_k n_group : Int}
    (returned : app.decryptMtk mt_k n_group = .ok (some verified)) :
    verified.m_state.rekey_version = app.m_state.rekey_version := by
  obtain ⟨-,file,taken,-,rfl,⟨rfl,-⟩ | ⟨c,cl,sk,-,-,-,-,rfl⟩⟩ := decryptMtk_some returned
  · rfl
  · rfl

def processMtkPacket (wire : ByteBuffer) (app : UavApplication) :
    UavApplication × Result Reception :=
  match (MtkPacket.deserializeNoHmac wire).caught with
  | .error failure => (app,.error failure)
  | .ok none => (app,.ok {})
  | .ok (some pkt) =>
    if pkt.body.cluster_id ≠ app.m_cluster_id then (app,.ok {})
    else if pkt.body.version ≤ app.m_state.rekey_version then (app,.ok {})
    else
      -- The version is taken over before the token is looked at.
      let app := { app with m_state := { app.m_state with rekey_version := pkt.body.version } }
      match (app.decryptMtk pkt.body.mtk pkt.body.n_group).caught with
      | .error failure => (app,.error failure)
      | .ok none => (app,.ok {})
      | .ok (some none) => (app,.ok { decrypted := some false })
      | .ok (some (some app)) =>
        (app,.ok {
          decrypted := some true
          ack := if app.m_skdc_app then some pkt.body.version else none })

def withVersion (version : UInt32) (app : UavApplication) : UavApplication :=
  { app with m_state := { app.m_state with rekey_version := version } }

/-- What a packet of tokens leaves: of one for the own cluster that is newer than the last its version
in any case, and what the token does if it is decrypted. -/
theorem processMtkPacket_parsed {wire : ByteBuffer} {pkt : MtkPacket}
    (parsed : MtkPacket.deserializeNoHmac wire = .ok pkt) (app : UavApplication) :
    (app.processMtkPacket wire).1 =
      if pkt.body.cluster_id = app.m_cluster_id ∧ app.m_state.rekey_version < pkt.body.version then
        ((app.withVersion pkt.body.version).decryptMtk pkt.body.mtk pkt.body.n_group).toOption.join.getD
          (app.withVersion pkt.body.version)
      else app := by
  rw [processMtkPacket,parsed]
  simp only [Result.caught]
  by_cases own : pkt.body.cluster_id = app.m_cluster_id
  · by_cases stale : pkt.body.version ≤ app.m_state.rekey_version
    · have old : ¬ app.m_state.rekey_version < pkt.body.version := UInt32.not_lt.mpr stale
      simp only [own,ne_eq,not_true_eq_false,if_false,if_pos stale,old,and_false]
    · have newer : app.m_state.rekey_version < pkt.body.version := UInt32.not_le.mp stale
      simp only [own,ne_eq,not_true_eq_false,if_false,if_neg stale,newer,and_self,if_true]
      rw [← withVersion]
      cases outcome : (app.withVersion pkt.body.version).decryptMtk pkt.body.mtk pkt.body.n_group with
      | error failure => cases failure <;> rfl
      | ok decrypted => cases decrypted <;> rfl
  · simp only [own,ne_eq,not_false_eq_true,if_true,false_and,if_false]

def processRekeyPacket (crypto : Primitives) (wire : ByteBuffer) (app : UavApplication) :
    UavApplication × Result Reception :=
  match (RekeyPacket.deserialize crypto wire app.m_state.hmac_key).caught with
  | .error failure => (app,.error failure)
  | .ok none => (app,.ok {})
  | .ok (some pkt) =>
    if pkt.body.cluster_id ≠ app.m_cluster_id then (app,.ok {})
    else
      let app := { app with m_rekey_count := app.m_rekey_count+1 }
      match (app.decryptMtk pkt.body.mtk 0).caught with
      | .error failure => (app,.error failure)
      | .ok none => (app,.ok {})
      | .ok (some decrypted) =>
        -- Acknowledged whatever the token decrypts to.
        (decrypted.getD app,.ok {
          decrypted := some decrypted.isSome
          ack := if app.m_skdc_app then some pkt.body.version else none })

def receivePacket (crypto : Primitives) (buf : ByteBuffer) (app : UavApplication) :
    UavApplication × Result Reception :=
  if buf.length < 4 then (app,.ok {})
  else if buf.length < 32 then (app,.ok {})
  else if peekType buf = .mtkPacket then app.processMtkPacket buf
  else if peekType buf = .rekeyPacket then app.processRekeyPacket crypto buf
  else (app,.ok {})

def sendData (crypto : Primitives) (draws : DataDraws) (payload : ByteBuffer)
    (app : UavApplication) : UavApplication × Result (Option ByteBuffer) :=
  if !app.m_send_socket then (app,.ok none)
  else if !app.m_state.tek_valid then (app,.ok none)
  else
    -- The data counter moves on whatever `Build` does.
    let app := { app with m_state := { app.m_state with data_seq := app.m_state.data_seq+1 } }
    let (built,m_seq) := DataPacket.build crypto draws (UInt16.ofNat app.m_cluster_id.toNat)
      (UInt16.ofNat app.m_uav_id.toNat) (UInt16.ofNat (app.m_cluster_id+100).toNat)
      app.m_state.data_seq payload app.m_state.current_tek app.m_seq
    let app := { app with m_seq }
    match built with
    | .error failure => (app,.error failure)
    | .ok pkt =>
      ({ app with m_data_sent := app.m_data_sent+1 },
        .ok (some (Hmac.appendHmac crypto app.m_state.hmac_key pkt.serialize)))

/-- The bytes of each number are read as one big-endian integer. The HMAC key and the TEK stay. -/
def updateSlaveKey (blob : SlaveKeyBlob) (new_cluster new_index : UInt32) (app : UavApplication) :
    UavApplication :=
  { app with
    m_cluster_id := new_cluster
    m_uav_index := new_index
    m_state := { app.m_state with
      d_i := BigInt.fromBytes blob.d_i_bytes
      n_i := BigInt.fromBytes blob.n_i_bytes
      e_i := BigInt.fromBytes blob.e_i_bytes
      cluster_id := new_cluster
      uav_index := new_index
      tek_valid := false } }

/-- The acknowledgement with the address it goes to. -/
def sendKeyAck (crypto : Primitives) (now_us : UInt64) (new_cluster new_index : UInt32)
    (app : UavApplication) : Option (UInt32 × ByteBuffer) :=
  match app.m_topo with
  | none => none
  | some skdc_nodes =>
    if !app.m_ack_send_socket then none
    else
      let wire := buildKeyAck crypto now_us app.m_uav_id new_cluster new_index app.m_gk
      (skdc_nodes[new_cluster.toNat]?).join.map fun skdc_wifi => (skdc_wifi,wire)

def receiveJoinAccept (crypto : Primitives) (now_us : UInt64) (buf : ByteBuffer)
    (app : UavApplication) : UavApplication × Result (Option (UInt32 × ByteBuffer)) :=
  match parseJoinAccept crypto buf app.m_gk with
  | .error failure => (app,.error failure)
  | .ok none => (app,.ok none)
  | .ok (some accept) =>
    if accept.uav_id ≠ app.m_uav_id then (app,.ok none)
    else
      let app := app.updateSlaveKey accept.blob accept.new_cluster accept.new_index
      (app,.ok (app.sendKeyAck crypto now_us accept.new_cluster accept.new_index))

end UavApplication
end UavFanet.Apps
