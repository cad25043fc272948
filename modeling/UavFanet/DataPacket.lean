import UavFanet.BaseHeader
import UavFanet.Primitives

/-! `DataPacket`: a payload encrypted under the cluster's traffic key. -/
namespace UavFanet.Packet
open Library UavFanet.ByteUtils UavFanet.Replay

structure DataBody where
  cluster_id : UInt32 := 0
  data_sequence : UInt32 := 0
  timestamp_us : UInt64 := 0
  plaintext_len : UInt32 := 0
  aes_iv : GcmIv := Vector.replicate 12 0
  aes_tag : GcmTag := Vector.replicate 16 0
  ciphertext : ByteBuffer := []
  deriving DecidableEq,Repr

namespace DataBody

def fields (body : DataBody) : List ByteBuffer :=
  [writeU32BE body.cluster_id,writeU32BE body.data_sequence,writeU64BE body.timestamp_us,
    writeU32BE body.plaintext_len,writeU32BE (UInt32.ofNat body.ciphertext.length),
    body.aes_iv.toList,List.replicate 4 0,body.aes_tag.toList,body.ciphertext]

def serialize (body : DataBody) : ByteBuffer := body.fields.flatten

def wireSize (body : DataBody) : Nat := 56+body.ciphertext.length

@[simp] theorem length_serialize (body : DataBody) : body.serialize.length = body.wireSize := by
  simp [serialize,fields,wireSize]
  omega

end DataBody

structure DataPacket where
  header : BaseHeader
  body : DataBody
  deriving DecidableEq,Repr

structure DataDraws where
  iv : Result GcmIv
  body_us : UInt64
  token_us : UInt64
  token_nonce : Result Nonce128

namespace DataPacket

def dataAad (cluster_id uav_id : UInt16) : ByteBuffer := writeU16BE cluster_id ++ writeU16BE uav_id

def build (crypto : Primitives) (draws : DataDraws) (cluster_id uav_id skdc_id : UInt16)
    (data_seq : UInt32) (plaintext : ByteBuffer) (tek : AesGcmKey) (seq : SequenceCounter) :
    Result DataPacket × SequenceCounter :=
  match AesGcm.encrypt crypto draws.iv tek plaintext (dataAad cluster_id uav_id) with
  | .error failure => (.error failure,seq)
  | .ok enc =>
    let body : DataBody := {
      cluster_id := cluster_id.toUInt32
      data_sequence := data_seq
      timestamp_us := draws.body_us
      plaintext_len := UInt32.ofNat plaintext.length
      aes_iv := enc.iv
      aes_tag := enc.tag
      ciphertext := enc.ciphertext }
    -- The counter moves on once the payload is encrypted, whatever fails after that.
    let (sequence_num,seq) := seq.next
    let packet : Result DataPacket := do
      let token ← ReplayToken.generate draws.token_us draws.token_nonce sequence_num
      let header : BaseHeader := {
        packet_type := .dataPacket
        cluster_id, src_node_id := uav_id, dst_node_id := skdc_id
        src_type := .uav
        dst_type := .skdc
        flags := .encrypted ||| .replayProtected ||| .hmacPresent
        priority := .normal }
      return {
        header := { header.applyReplayToken token with
          payload_len := UInt16.ofNat body.wireSize }
        body }
    (packet,seq)

/-- The associated data is rebuilt from the header's cluster and sender. -/
def decrypt (crypto : Primitives) (pkt : DataPacket) (tek : AesGcmKey) : Result ByteBuffer :=
  AesGcm.decrypt crypto tek pkt.body.aes_iv pkt.body.ciphertext pkt.body.aes_tag
    (dataAad pkt.header.cluster_id pkt.header.src_node_id)

def serialize (pkt : DataPacket) : ByteBuffer :=
  pkt.header.serialize ++ pkt.header.serializeNonce ++ pkt.body.serialize

@[simp] theorem length_dataAad (cluster_id uav_id : UInt16) :
    (dataAad cluster_id uav_id).length = 4 := by simp [dataAad]

@[simp] theorem length_serialize (pkt : DataPacket) :
    pkt.serialize.length = 104+pkt.body.ciphertext.length := by
  simp only [serialize,List.length_append,BaseHeader.length_serialize,
    BaseHeader.length_serializeNonce,DataBody.length_serialize,DataBody.wireSize]
  omega

theorem build_ok {crypto : Primitives} {draws : DataDraws} {cluster_id uav_id skdc_id : UInt16}
    {data_seq : UInt32} {plaintext : ByteBuffer} {tek : AesGcmKey} {seq : SequenceCounter}
    {pkt : DataPacket}
    (built : (build crypto draws cluster_id uav_id skdc_id data_seq plaintext tek seq).1 = .ok pkt) :
    pkt.header.magic = packetMagic ∧ pkt.header.version = protocolVersion ∧
      pkt.header.packet_type = .dataPacket ∧ pkt.header.flags.raw = 0x0D ∧
      pkt.header.priority = .normal ∧ pkt.header.cluster_id = cluster_id ∧
      pkt.header.src_node_id = uav_id ∧
      ∃ enc, AesGcm.encrypt crypto draws.iv tek plaintext (dataAad cluster_id uav_id) = .ok enc ∧
        pkt.body.aes_iv = enc.iv ∧ pkt.body.aes_tag = enc.tag ∧
        pkt.body.ciphertext = enc.ciphertext := by
  rw [build] at built
  split at built
  · cases built
  · rename_i enc encrypted
    obtain ⟨token,-,built⟩ := Result.bind_ok.mp built
    cases built
    have flags : ((((0x01 : UInt8) ||| 0x04) ||| 0x08) ||| 0x04) = 0x0D := by decide
    exact ⟨rfl,rfl,rfl,flags,rfl,rfl,rfl,enc,encrypted,rfl,rfl,rfl⟩

theorem decrypt_build {crypto : Primitives} (inverts : Inverts crypto)
    {draws : DataDraws} {cluster_id uav_id skdc_id : UInt16} {data_seq : UInt32}
    {plaintext : ByteBuffer} (short : plaintext.length < 2^31) {tek : AesGcmKey}
    {seq : SequenceCounter} {pkt : DataPacket}
    (built : (build crypto draws cluster_id uav_id skdc_id data_seq plaintext tek seq).1 = .ok pkt) :
    pkt.decrypt crypto tek = .ok plaintext := by
  obtain ⟨-,-,-,-,-,cluster,sender,enc,encrypted,iv,tag,ciphertext⟩ := build_ok built
  rw [decrypt,cluster,sender,iv,tag,ciphertext]
  exact AesGcm.decrypt_same encrypted inverts ((length_dataAad _ _).trans_lt (by omega)) short

end DataPacket
end UavFanet.Packet
