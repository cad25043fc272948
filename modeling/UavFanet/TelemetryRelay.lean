import UavFanet.SkdcRuns
import UavFanet.UavApp

/-! Telemetry from a UAV over its SKDC to the KDC: what the SKDC makes of a UAV's packet,
what the KDC makes of the SKDC's, and which packets the SKDC passes on. -/
namespace UavFanet.TelemetryRelay
open Library UavFanet.ByteUtils UavFanet.Packet UavFanet.Replay UavFanet.Apps SkdcApplication

/-- The SKDC's HMAC key is made of its TEK, and the KDC holds that TEK for its cluster. -/
structure SharedWithKdc (skdc : SkdcApplication) (kdc : KdcApplication) : Prop where
  hmac_key : skdc.m_state.hmac_key = Hmac.keyFromAesKey skdc.m_state.current_tek
  tek : ∃ inside : skdc.m_cluster_id.toNat < 3,
    (kdc.m_clusters.get ⟨_,inside⟩).current_tek = skdc.m_state.current_tek

structure SharedWithUav (uav : UavApplication) (skdc : SkdcApplication) : Prop where
  cluster : uav.m_cluster_id = skdc.m_cluster_id
  tek : uav.m_state.current_tek = skdc.m_state.current_tek
  hmac_key : uav.m_state.hmac_key = Hmac.keyFromAesKey uav.m_state.current_tek

/-- The four bytes that the SKDC takes for cluster and sender. -/
def headerAad (header : BaseHeader) : ByteBuffer :=
  [header.version,header.packet_type.raw,header.flags.raw,header.priority.raw]

theorem openData_serialize (crypto : Primitives) (app : SkdcApplication) (pkt : DataPacket)
    (short : pkt.body.ciphertext.length < 2^32) :
    openData crypto pkt.serialize app = (AesGcm.decrypt crypto app.m_state.current_tek
      pkt.body.aes_iv pkt.body.ciphertext pkt.body.aes_tag (headerAad pkt.header)).caught := by
  -- Two cuts of the same bytes; in the second, bytes 2 to 5 are one field.
  have layout : pkt.serialize =
      (pkt.header.serialize :: pkt.header.nonce.toList :: pkt.body.fields).flatten := by
    simp [DataPacket.serialize,BaseHeader.serializeNonce,DataBody.serialize]
  have front : pkt.serialize = [writeU16BE pkt.header.magic,headerAad pkt.header,
      (pkt.header.fields.drop 5).flatten ++ (pkt.header.serializeNonce ++ pkt.body.serialize)].flatten := by
    simp [DataPacket.serialize,BaseHeader.serialize,BaseHeader.fields,headerAad]
  have size := pkt.length_serialize
  have counted : (UInt32.ofNat pkt.body.ciphertext.length).toNat = pkt.body.ciphertext.length :=
    UInt32.toNat_ofNat_of_lt' short
  have ct_len : readU32BE pkt.serialize (48+20) =
      .ok (UInt32.ofNat pkt.body.ciphertext.length) := by
    rw [layout]
    exact readU32BE_field (i := 6) (by simp [ByteLayout.offsetOf,DataBody.fields]) rfl
  have iv : readArray 12 pkt.serialize (48+24) = .ok pkt.body.aes_iv := by
    rw [layout]
    exact readArray_field (i := 7) (by simp [ByteLayout.offsetOf,DataBody.fields]) rfl
  have tag : readArray 16 pkt.serialize (48+40) = .ok pkt.body.aes_tag := by
    rw [layout]
    exact readArray_field (i := 9) (by simp [ByteLayout.offsetOf,DataBody.fields]) rfl
  have ct : read pkt.serialize (48+56) pkt.body.ciphertext.length = .ok pkt.body.ciphertext := by
    rw [layout]
    exact read_field (i := 10) (by simp [ByteLayout.offsetOf,DataBody.fields]) rfl rfl
  have aad : read pkt.serialize 2 4 = .ok (headerAad pkt.header) := by
    rw [front]
    exact read_field (i := 1) (by simp [ByteLayout.offsetOf]) rfl rfl
  have whole : ¬ pkt.serialize.length < 48+56 := by omega
  have complete : ¬ pkt.serialize.length < 48+56+pkt.body.ciphertext.length := by omega
  simp only [openData,if_neg whole,ct_len,iv,tag,counted,if_neg complete,ct,aad,Result.ok_bind]

theorem sendData_ok {crypto : Primitives} {draws : DataDraws} {payload wire : ByteBuffer}
    {uav : UavApplication} (sent : (uav.sendData crypto draws payload).2 = .ok (some wire)) :
    ∃ pkt data_seq, (DataPacket.build crypto draws (UInt16.ofNat uav.m_cluster_id.toNat)
        (UInt16.ofNat uav.m_uav_id.toNat) (UInt16.ofNat (uav.m_cluster_id+100).toNat) data_seq
        payload uav.m_state.current_tek uav.m_seq).1 = .ok pkt ∧
      wire = Hmac.appendHmac crypto uav.m_state.hmac_key pkt.serialize := by
  simp only [UavApplication.sendData] at sent
  split at sent
  · cases sent
  split at sent
  · cases sent
  split at sent
  · cases sent
  · rename_i pkt built
    cases sent
    exact ⟨pkt,_,built,rfl⟩

theorem headerAad_ne_dataAad {header : BaseHeader} (version : header.version = protocolVersion)
    {cluster_id : UInt32} (inside : cluster_id.toNat < 3) (uav_id : UInt16) :
    headerAad header ≠ DataPacket.dataAad (UInt16.ofNat cluster_id.toNat) uav_id := by
  intro same
  have first := congrArg List.head? same
  have small : cluster_id.toNat = 0 ∨ cluster_id.toNat = 1 ∨ cluster_id.toNat = 2 := by omega
  rw [headerAad,version,DataPacket.dataAad,List.head?_cons] at first
  rcases small with zero | one | two
  · rw [zero] at first
    cases first
  · rw [one] at first
    cases first
  · rw [two] at first
    cases first

/-- Whatever a UAV sends, its SKDC drops: the tag does not match the wrong associated data. -/
theorem sent_dropped {crypto : Primitives} (authenticated : Authenticated crypto)
    {uav : UavApplication} {skdc : SkdcApplication} (shared : SharedWithUav uav skdc)
    (hmac_key : skdc.m_state.hmac_key = Hmac.keyFromAesKey skdc.m_state.current_tek)
    (inside : skdc.m_cluster_id.toNat < 3) {draws : DataDraws} {payload wire : ByteBuffer}
    (sent : (uav.sendData crypto draws payload).2 = .ok (some wire)) (iv : Result GcmIv) :
    relayData crypto iv wire skdc = .ok {} := by
  obtain ⟨pkt,data_seq,built,rfl⟩ := sendData_ok sent
  obtain ⟨-,version,-,-,-,-,-,enc,encrypted,aes_iv,aes_tag,ciphertext⟩ := DataPacket.build_ok built
  have aad_size := DataPacket.length_dataAad (UInt16.ofNat uav.m_cluster_id.toNat)
    (UInt16.ofNat uav.m_uav_id.toNat)
  have short := AesGcm.length_ciphertext encrypted authenticated.inverts (by omega)
  -- The UAV seals under cluster and sender; what stands at bytes 2 to 5 is something else.
  have differs := headerAad_ne_dataAad version (shared.cluster ▸ inside)
    (UInt16.ofNat uav.m_uav_id.toNat)
  have refused := AesGcm.decrypt_other encrypted authenticated aad_size rfl differs
  have opened : openData crypto pkt.serialize skdc = .ok none := by
    rw [openData_serialize crypto skdc pkt (by rw [ciphertext]; omega),aes_iv,aes_tag,ciphertext,
      ← shared.tek]
    exact refused
  have same_key : uav.m_state.hmac_key = skdc.m_state.hmac_key := by
    rw [shared.hmac_key,hmac_key,shared.tek]
  have long : ¬ (Hmac.appendHmac crypto skdc.m_state.hmac_key pkt.serialize).length < 136 := by
    rw [Hmac.length_appendHmac,DataPacket.length_serialize]
    omega
  rw [same_key,relayData,if_neg long]
  simp only [Hmac.take_appendHmac,Hmac.verify_appendHmac,opened,Bool.not_true,Bool.false_eq_true,
    if_false,Result.ok_bind]
  rfl

def forwardFields (cluster : UInt32) (enc : AesGcm.AesGcmResult) : List ByteBuffer :=
  [writeU32BE cluster,enc.iv.toList,enc.tag.toList,
    writeU32BE (UInt32.ofNat enc.ciphertext.length),enc.ciphertext]

@[simp] theorem length_forwardAad (cluster : UInt32) : (forwardAad cluster).length = 4 := by
  simp [forwardAad]

theorem forwardToKdc_ok {crypto : Primitives} {iv : Result GcmIv} {plaintext fwd : ByteBuffer}
    {app : SkdcApplication} (forwarded : forwardToKdc crypto iv plaintext app = .ok (some fwd)) :
    ∃ enc, AesGcm.encrypt crypto iv app.m_state.current_tek plaintext
        (forwardAad app.m_cluster_id) = .ok enc ∧
      fwd = Hmac.appendHmac crypto app.m_state.hmac_key
        (forwardFields app.m_cluster_id enc).flatten := by
  rw [forwardToKdc] at forwarded
  split at forwarded
  · cases forwarded
  · obtain ⟨enc,encrypted,made⟩ := Result.bind_ok.mp (Result.caught_some.mp forwarded)
    cases made
    exact ⟨enc,encrypted,by simp [forwardFields]⟩

/-- Whatever text the SKDC forwards, the KDC reads that text under the SKDC's cluster. -/
theorem openTelemetry_forwardToKdc {crypto : Primitives} (authenticated : Authenticated crypto)
    {skdc : SkdcApplication} {kdc : KdcApplication} (shared : SharedWithKdc skdc kdc)
    {iv : Result GcmIv} {plaintext fwd : ByteBuffer} (short : plaintext.length < 2^31)
    (forwarded : forwardToKdc crypto iv plaintext skdc = .ok (some fwd)) :
    kdc.openTelemetry crypto fwd =
      .ok (some { cluster := skdc.m_cluster_id, payload := plaintext }) := by
  obtain ⟨enc,encrypted,rfl⟩ := forwardToKdc_ok forwarded
  obtain ⟨inside,tek⟩ := shared.tek
  have small := AesGcm.length_ciphertext encrypted authenticated.inverts
    ((length_forwardAad _).trans_lt (by omega))
  have counted : (UInt32.ofNat enc.ciphertext.length).toNat = enc.ciphertext.length :=
    UInt32.toNat_ofNat_of_lt' (Nat.lt_trans small (by decide))
  have total : (36+UInt32.ofNat enc.ciphertext.length).toNat = 36+enc.ciphertext.length := by
    rw [UInt32.toNat_add,counted,show (36 : UInt32).toNat = 36 from rfl]
    omega
  generalize layout : (forwardFields skdc.m_cluster_id enc).flatten = pkt_data
  have size : pkt_data.length = 36+enc.ciphertext.length := by
    simp [← layout,forwardFields]
    omega
  have cid : readU32BE pkt_data 0 = .ok skdc.m_cluster_id := by
    rw [← layout]
    exact readU32BE_field (i := 0) rfl rfl
  have sent_iv : readArray 12 pkt_data 4 = .ok enc.iv := by
    rw [← layout]
    exact readArray_field (i := 1) (by simp [ByteLayout.offsetOf,forwardFields]) rfl
  have tag : readArray 16 pkt_data 16 = .ok enc.tag := by
    rw [← layout]
    exact readArray_field (i := 2) (by simp [ByteLayout.offsetOf,forwardFields]) rfl
  have ct_len : readU32BE pkt_data 32 = .ok (UInt32.ofNat enc.ciphertext.length) := by
    rw [← layout]
    exact readU32BE_field (i := 3) (by simp [ByteLayout.offsetOf,forwardFields]) rfl
  have ct : read pkt_data 36 enc.ciphertext.length = .ok enc.ciphertext := by
    rw [← layout]
    exact read_field (i := 4) (by simp [ByteLayout.offsetOf,forwardFields]) rfl rfl
  have long : ¬ (Hmac.appendHmac crypto skdc.m_state.hmac_key pkt_data).length < 68 := by
    rw [Hmac.length_appendHmac]
    omega
  have whole : ¬ pkt_data.length < 36 := by omega
  have complete : ¬ pkt_data.length < 36+enc.ciphertext.length := by omega
  rw [KdcApplication.openTelemetry,if_neg long]
  simp only [Hmac.take_appendHmac,cid,Result.ok_bind]
  rw [dif_pos inside,tek,← shared.hmac_key]
  simp only [Hmac.verify_appendHmac,Bool.not_true,Bool.false_eq_true,if_false,if_neg whole,sent_iv,
    tag,ct_len,total,counted,if_neg complete,ct,Result.ok_bind,
    AesGcm.decrypt_same encrypted authenticated.inverts ((length_forwardAad _).trans_lt (by omega)) short,Result.caught]
  rfl

theorem forwardToKdc_sends (crypto : Primitives) (drawn : GcmIv) {plaintext : ByteBuffer}
    {app : SkdcApplication} (short : plaintext.length < 2^31) (socket : app.m_forward_socket = true)
    (topo : app.m_topo ≠ none) : ∃ fwd, forwardToKdc crypto (.ok drawn) plaintext app = .ok (some fwd) := by
  obtain ⟨topology,placed⟩ := Option.ne_none_iff_exists'.mp topo
  have bound : (forwardAad app.m_cluster_id).length < 2^31 := by
    rw [length_forwardAad]
    decide
  simp only [forwardToKdc,socket,placed,Option.isNone_some,Bool.not_true,Bool.or_false,
    Bool.false_eq_true,if_false,AesGcm.encrypt,Result.ok_bind,AesGcm.encryptWithIv,
    AesGcm.updateInput_short bound,AesGcm.updateInput_short short]
  exact ⟨_,rfl⟩

structure Sealing where
  key : AesGcmKey
  text : ByteBuffer
  aad : ByteBuffer
  ciphertext : ByteBuffer
  tag : GcmTag
  size : ciphertext.length = text.length
  marked : tag[15] ≠ 0

def plainTag (aad : ByteBuffer) : GcmTag :=
  Vector.ofFn fun i : Fin 16 => if i.val < 4 then aad.getD i.val 0 else 0

def plainOpen (text : ByteBuffer) (tag : GcmTag) (aad : ByteBuffer) : Option ByteBuffer :=
  if tag = plainTag aad then some text else none

/-- At most one encryption is recorded for an IV; every other text is left as it is, with the
associated data in its tag. -/
def recordedCrypto (recorded : GcmIv → Option Sealing) (hmacSha256 : HmacKey → ByteBuffer → Key256) :
    Primitives where
  sha256 _ := zeroKey
  hmacSha256
  gcmEncrypt key iv text aad :=
    match recorded iv with
    | none => (text,plainTag aad)
    | some record =>
      if key = record.key ∧ text = record.text ∧ aad = record.aad then
        (record.ciphertext,record.tag)
      else (text,plainTag aad)
  gcmDecrypt key iv ciphertext tag aad :=
    match recorded iv with
    | none => plainOpen ciphertext tag aad
    | some record =>
      if key = record.key ∧ ciphertext = record.ciphertext ∧ tag = record.tag then
        if aad = record.aad then some record.text else none
      else plainOpen ciphertext tag aad

theorem plainTag_injective {aad other : ByteBuffer} (size : aad.length = 4)
    (other_size : other.length = 4) (same : plainTag other = plainTag aad) : other = aad := by
  apply List.ext_getElem (other_size.trans size.symm)
  intro i left right
  have entry := congrArg (fun tag : GcmTag => tag[i]?) same
  have inside : i < 4 := by omega
  simpa [plainTag,inside,show i < 16 by omega,left,right] using entry

theorem Sealing.tag_ne_plainTag (record : Sealing) (aad : ByteBuffer) :
    plainTag aad ≠ record.tag := by
  intro same
  apply record.marked
  rw [← same]
  simp [plainTag]

theorem recordedCrypto_authenticated (recorded : GcmIv → Option Sealing)
    (hmacSha256 : HmacKey → ByteBuffer → Key256) :
    Authenticated (recordedCrypto recorded hmacSha256) where
  length key iv text aad := by
    simp only [recordedCrypto]
    split
    · rfl
    · rename_i record found
      split
      · rename_i same
        rw [same.2.1,record.size]
      · rfl
  opens key iv text aad := by
    simp only [recordedCrypto]
    cases recorded iv with
    | none => simp [plainOpen]
    | some record =>
      by_cases same : key = record.key ∧ text = record.text ∧ aad = record.aad
      · simp [same]
      · simp [same,plainOpen,record.tag_ne_plainTag]
  refuses key iv text aad other size other_size differs := by
    have plain : plainTag aad ≠ plainTag other :=
      fun equal => differs (plainTag_injective size other_size equal.symm)
    simp only [recordedCrypto]
    cases recorded iv with
    | none => simp [plainOpen,plain]
    | some record =>
      by_cases same : key = record.key ∧ text = record.text ∧ aad = record.aad
      · have other_record : other ≠ record.aad := same.2.2 ▸ differs
        simp [same,other_record]
      · simp [same,plainOpen,plain,record.tag_ne_plainTag]

def uavIv : GcmIv := ⟨#[1,2,3,4,5,6,7,8,9,10,11,12],rfl⟩

def relayIv : GcmIv := ⟨#[13,14,15,16,17,18,19,20,21,22,23,24],rfl⟩

def telemetrySealing : Sealing where
  key := loadedTek
  text := [72,105]
  aad := [0,0,0,3]
  ciphertext := [179,120]
  tag := ⟨#[223,140,122,78,99,94,102,246,64,101,211,241,160,126,106,221],rfl⟩
  size := rfl
  marked := by decide

def emptySealing : Sealing where
  key := loadedTek
  text := []
  aad := [0,0,255,255]
  ciphertext := []
  tag := ⟨#[207,37,217,195,192,63,214,147,86,112,228,234,91,50,72,174],rfl⟩
  size := rfl
  marked := by decide

def telemetryPacket : ByteBuffer :=
  [85,65,1,5,13,1,0,58,0,0,0,3,0,100,3,2,0,6,10,36,24,30,64,0,0,0,0,0,0,0,0,1,2,2,2,2,2,2,2,2,
    2,2,2,2,2,2,2,2,0,0,0,0,0,0,0,1,0,6,10,36,24,30,64,0,0,0,0,2,0,0,0,2,1,2,3,4,5,6,7,8,9,10,
    11,12,0,0,0,0,223,140,122,78,99,94,102,246,64,101,211,241,160,126,106,221,179,120]

def emptyForward : ByteBuffer :=
  [0,0,0,0,13,14,15,16,17,18,19,20,21,22,23,24,207,37,217,195,192,63,214,147,86,112,228,234,91,
    50,72,174,0,0,0,0]

/-- The values of AES-256-GCM and HMAC-SHA256 wherever the runs below call them. -/
def sampleCrypto : Primitives := recordedCrypto
  (fun iv => if iv = uavIv then some telemetrySealing else if iv = relayIv then some emptySealing
    else none)
  fun key message =>
    if key = loadedTek ∧ message = telemetryPacket then
      ⟨#[38,33,28,187,110,91,199,223,131,47,193,32,157,129,189,49,129,79,15,146,137,158,127,30,
        90,133,176,71,44,220,149,170],rfl⟩
    else if key = loadedTek ∧ message = emptyForward then
      ⟨#[189,137,174,84,55,140,32,214,53,60,138,251,75,7,11,74,184,96,108,191,51,159,65,125,27,
        81,144,120,22,153,129,158],rfl⟩
    else if key = loadedTek ∧ message = List.replicate 104 0 then
      ⟨#[218,89,138,240,136,183,94,253,237,195,229,41,112,206,8,154,12,166,11,209,4,55,111,105,
        69,122,104,5,103,36,163,232],rfl⟩
    else zeroKey

theorem sampleCrypto_authenticated : Authenticated sampleCrypto := recordedCrypto_authenticated _ _

def sampleUav : UavApplication where
  m_uav_id := 3
  m_uav_index := 3
  m_state := { tek_valid := true, current_tek := loadedTek, hmac_key := loadedTek }
  m_send_socket := true

def relaySkdc : SkdcApplication :=
  { startedSkdc with m_topo := some { wifi_nodes := [] }, m_forward_socket := true }

def sampleKdc : KdcApplication := KdcApplication.initializeClusters { m_params := some sampleFile }

def sampleDataDraws : DataDraws where
  iv := .ok uavIv
  body_us := 1700000000000000
  token_us := 1700000000000000
  token_nonce := .ok (Vector.replicate 16 2)

def telemetryWire : ByteBuffer := Hmac.appendHmac sampleCrypto loadedTek telemetryPacket

theorem telemetryWire_sent :
    (sampleUav.sendData sampleCrypto sampleDataDraws [72,105]).2 = .ok (some telemetryWire) := by
  decide +kernel

theorem sample_with_uav : SharedWithUav sampleUav relaySkdc := ⟨rfl,rfl,rfl⟩

theorem sample_with_kdc : SharedWithKdc relaySkdc sampleKdc := ⟨rfl,by decide,by decide +kernel⟩

/-- The SKDC recovers the payload, and so does the KDC from what the SKDC forwards. -/
def Delivered (crypto : Primitives) (iv : Result GcmIv) (wire payload : ByteBuffer)
    (skdc : SkdcApplication) (kdc : KdcApplication) : Prop :=
  ∃ outcome, (skdc.receiveDataFromUav crypto iv wire).2 = .ok outcome ∧
    outcome.telemetry = some payload ∧
    ∀ fwd, outcome.forwarded = some fwd → (kdc.receiveTelemetryFromSkdc crypto fwd).2 =
      .ok (some { cluster := skdc.m_cluster_id, payload })

/-- No telemetry is ever delivered. -/
theorem telemetry_never_delivered {crypto : Primitives} (authenticated : Authenticated crypto)
    {uav : UavApplication} {skdc : SkdcApplication} {kdc : KdcApplication}
    (with_uav : SharedWithUav uav skdc) (with_kdc : SharedWithKdc skdc kdc) {draws : DataDraws}
    {payload wire : ByteBuffer} (sent : (uav.sendData crypto draws payload).2 = .ok (some wire))
    (iv : Result GcmIv) : ¬ Delivered crypto iv wire payload skdc kdc := by
  rintro ⟨outcome,received,recovered,-⟩
  obtain ⟨inside,-⟩ := with_kdc.tek
  have dropped := sent_dropped authenticated with_uav with_kdc.hmac_key inside sent iv
  rw [receiveDataFromUav,dropped] at received
  cases received
  cases recovered

theorem telemetryWire_not_delivered :
    ¬ Delivered sampleCrypto (.ok relayIv) telemetryWire [72,105] relaySkdc sampleKdc :=
  telemetry_never_delivered sampleCrypto_authenticated sample_with_uav sample_with_kdc
    telemetryWire_sent (.ok relayIv)

/-- All three hold one TEK, the UAV sends two bytes, and the SKDC logs and forwards nothing. -/
theorem telemetryWire_dropped :
    Authenticated sampleCrypto ∧ SharedWithUav sampleUav relaySkdc ∧
      SharedWithKdc relaySkdc sampleKdc ∧
      (sampleUav.sendData sampleCrypto sampleDataDraws [72,105]).2 = .ok (some telemetryWire) ∧
      ¬ Delivered sampleCrypto (.ok relayIv) telemetryWire [72,105] relaySkdc sampleKdc := by
  refine ⟨sampleCrypto_authenticated,sample_with_uav,sample_with_kdc,telemetryWire_sent,?_⟩
  have dropped : (relaySkdc.receiveDataFromUav sampleCrypto (.ok relayIv) telemetryWire).2 = .ok {} := by
    decide +kernel
  rintro ⟨outcome,received,recovered,-⟩
  rw [dropped] at received
  cases received
  cases recovered

def hmacVerifies (crypto : Primitives) (wire : ByteBuffer) (skdc : SkdcApplication) : Bool :=
  Hmac.verify crypto skdc.m_state.hmac_key (wire.take (wire.length-32))
    (wire.drop (wire.length-32))

/-- The HMAC of a datagram does not verify, or its ciphertext does not decrypt. -/
def Unauthentic (crypto : Primitives) (wire : ByteBuffer) (skdc : SkdcApplication) : Prop :=
  hmacVerifies crypto wire skdc = false ∨
    ∀ text, openData crypto (wire.take (wire.length-32)) skdc ≠ .ok (some text)

def NotLaundered (crypto : Primitives) (iv : Result GcmIv) (wire : ByteBuffer)
    (skdc : SkdcApplication) (kdc : KdcApplication) : Prop :=
  ∀ outcome fwd, (skdc.receiveDataFromUav crypto iv wire).2 = .ok outcome →
    outcome.forwarded = some fwd →
    ∀ telemetry, (kdc.receiveTelemetryFromSkdc crypto fwd).2 ≠ .ok (some telemetry)

/-- For an unauthentic datagram the SKDC sends something on only where the HMAC fails, and then
the empty text. -/
theorem forwarded_unauthentic {crypto : Primitives} {iv : Result GcmIv} {wire fwd : ByteBuffer}
    {skdc : SkdcApplication} (unauthentic : Unauthentic crypto wire skdc) {outcome : DataOutcome}
    (received : (skdc.receiveDataFromUav crypto iv wire).2 = .ok outcome)
    (forwarded : outcome.forwarded = some fwd) :
    136 ≤ wire.length ∧ hmacVerifies crypto wire skdc = false ∧
      forwardToKdc crypto iv [] skdc = .ok (some fwd) := by
  simp only [receiveDataFromUav,relayData] at received
  split at received
  · cases received
    cases forwarded
  rename_i long
  split at received
  · rename_i failed
    obtain ⟨sent,made,received⟩ := Result.bind_ok.mp received
    cases received
    exact ⟨by omega,by simpa [hmacVerifies] using failed,made.trans (congrArg Except.ok forwarded)⟩
  · rename_i verified
    have undecryptable := unauthentic.resolve_left (by simpa [hmacVerifies] using verified)
    obtain ⟨opened,attempt,received⟩ := Result.bind_ok.mp received
    cases opened with
    | none =>
      cases received
      cases forwarded
    | some text => exact absurd attempt (undecryptable text)

/-- An unauthentic datagram is laundered exactly where its HMAC fails and the SKDC can send. -/
theorem not_laundered_iff {crypto : Primitives} (authenticated : Authenticated crypto)
    {skdc : SkdcApplication} {kdc : KdcApplication} (shared : SharedWithKdc skdc kdc)
    (iv : Result GcmIv) {wire : ByteBuffer} (unauthentic : Unauthentic crypto wire skdc) :
    NotLaundered crypto iv wire skdc kdc ↔
      wire.length < 136 ∨ hmacVerifies crypto wire skdc = true ∨ skdc.m_forward_socket = false ∨
        skdc.m_topo = none ∨ ∀ drawn, iv ≠ .ok drawn := by
  constructor
  -- With nothing in the way, the empty text is sealed for the KDC and read there.
  · intro silent
    by_contra open_path
    push Not at open_path
    obtain ⟨long,unverified,socket,topo,drawn,rfl⟩ := open_path
    have empty : ([] : ByteBuffer).length < 2^31 := by decide
    obtain ⟨fwd,forwarded⟩ := forwardToKdc_sends crypto drawn empty (by simpa using socket) topo
    have received : (skdc.receiveDataFromUav crypto (.ok drawn) wire).2 =
        .ok { forwarded := some fwd } := by
      have failed : Hmac.verify crypto skdc.m_state.hmac_key (wire.take (wire.length-32))
          (wire.drop (wire.length-32)) = false := by simpa [hmacVerifies] using unverified
      simp only [receiveDataFromUav,relayData,if_neg (show ¬ wire.length < 136 by omega),failed,
        Bool.not_false,if_true,forwarded,Result.ok_bind]
      rfl
    exact silent _ fwd received rfl _
      (openTelemetry_forwardToKdc authenticated shared empty forwarded)
  -- What is sent on has got past every obstacle.
  · intro closed outcome fwd received sent
    obtain ⟨long,unverified,forwarded⟩ := forwarded_unauthentic unauthentic received sent
    obtain ⟨enc,encrypted,-⟩ := forwardToKdc_ok forwarded
    obtain ⟨drawn,draw,-⟩ := Result.bind_ok.mp encrypted
    rcases closed with short | verified | socket | topo | undrawn
    · omega
    · cases unverified.symm.trans verified
    · simp [forwardToKdc,socket] at forwarded
    · simp [forwardToKdc,topo] at forwarded
    · exact absurd draw (undrawn drawn)

theorem telemetryWire_not_laundered :
    NotLaundered sampleCrypto (.ok relayIv) telemetryWire relaySkdc sampleKdc := by
  have verified : hmacVerifies sampleCrypto telemetryWire relaySkdc = true := by decide +kernel
  have dropped : openData sampleCrypto (telemetryWire.take (telemetryWire.length-32)) relaySkdc =
      .ok none := by decide +kernel
  refine (not_laundered_iff sampleCrypto_authenticated sample_with_kdc (.ok relayIv)
    (Or.inr fun text opened => ?_)).mpr (Or.inr (Or.inl verified))
  cases dropped.symm.trans opened

/-- For 136 zero bytes the KDC logs the empty text as telemetry of the cluster. -/
theorem zeros_laundered :
    Authenticated sampleCrypto ∧ SharedWithKdc relaySkdc sampleKdc ∧
      Unauthentic sampleCrypto (List.replicate 136 0) relaySkdc ∧
      ¬ NotLaundered sampleCrypto (.ok relayIv) (List.replicate 136 0) relaySkdc sampleKdc := by
  refine ⟨sampleCrypto_authenticated,sample_with_kdc,Or.inl (by decide +kernel),fun silent => ?_⟩
  have received : (relaySkdc.receiveDataFromUav sampleCrypto (.ok relayIv) (List.replicate 136 0)).2 =
      .ok { forwarded := some (Hmac.appendHmac sampleCrypto loadedTek emptyForward) } := by
    decide +kernel
  have accepted : (sampleKdc.receiveTelemetryFromSkdc sampleCrypto
      (Hmac.appendHmac sampleCrypto loadedTek emptyForward)).2 =
        .ok (some { cluster := 0, payload := [] }) := by decide +kernel
  exact silent _ _ received rfl _ accepted

end UavFanet.TelemetryRelay
