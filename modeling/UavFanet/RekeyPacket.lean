import UavFanet.MtkPacket
import UavFanet.Primitives

/-! `RekeyPacket`: the authenticated rekey broadcast, as it is written and as its receiver
parses it. -/
namespace UavFanet

/-- `StripAndVerifyHmac`: all but the last 32 bytes, if those authenticate the rest. -/
def Hmac.stripAndVerifyHmac (crypto : Primitives) (key : HmacKey) (packet_with_hmac : ByteBuffer) :
    Result ByteBuffer :=
  if packet_with_hmac.length < 32 then
    .error (.serializationException ("StripAndVerifyHmac: packet too short (" ++
      toString packet_with_hmac.length ++ " bytes, need >= 32)"))
  else
    let body_len := packet_with_hmac.length-32
    let body := packet_with_hmac.take body_len
    if verify crypto key body (packet_with_hmac.drop body_len) then .ok body
    else .error (.cryptoException
      "HMAC-SHA256 verification FAILED — packet integrity compromised")

namespace Packet
open Library UavFanet.ByteUtils UavFanet.Replay

structure RekeyReason where
  raw : UInt8
  deriving DecidableEq,Repr

structure RekeyBody where
  cluster_id : UInt32 := 0
  version : UInt32 := 0
  reason : RekeyReason := ⟨0x00⟩
  mtk : Int := 0
  timestamp_us : UInt64 := 0
  rekey_nonce : Nonce128 := zeroNonce
  deriving DecidableEq,Repr

def RekeyBody.fields (body : RekeyBody) (mtk_bytes : ByteBuffer) : List ByteBuffer :=
  [writeU32BE body.cluster_id,writeU32BE body.version,[body.reason.raw],List.replicate 3 0,
    writeU32BE (UInt32.ofNat mtk_bytes.length),writeU64BE body.timestamp_us,
    body.rekey_nonce.toList,mtk_bytes]

def RekeyBody.serialize (body : RekeyBody) : Result ByteBuffer := do
  let mtk_bytes ← BigInt.toBytes body.mtk (wireBytes body.mtk)
  return (body.fields mtk_bytes).flatten

def RekeyBody.wireSize (body : RekeyBody) : Nat := 40+wireBytes body.mtk

def RekeyBody.deserialize (buf : ByteBuffer) (offset : Nat) : Result RekeyBody := do
  if buf.length < offset+40 then
    .error (.serializationException "RekeyBody::Deserialize: buffer too small")
  let cluster_id ← readU32BE buf offset
  let version ← readU32BE buf (offset+4)
  let reason ← readU8 buf (offset+8)
  let mtk_len ← readU32BE buf (offset+12)
  let timestamp_us ← readU64BE buf (offset+16)
  let rekey_nonce ← readArray 16 buf (offset+24)
  let pos := offset+40
  if buf.length < pos+mtk_len.toNat then
    .error (.serializationException "RekeyBody::Deserialize: truncated MTK")
  let mtk_bytes ← read buf pos mtk_len.toNat
  return {
    cluster_id, version, reason := ⟨reason⟩, mtk := BigInt.fromBytes mtk_bytes, timestamp_us,
    rekey_nonce }

structure RekeyPacket where
  header : BaseHeader
  body : RekeyBody
  deriving DecidableEq,Repr

/-- As with a token packet, the counter has moved on once the body has its nonce. -/
def RekeyPacket.build (draws : BuildDraws) (cluster_id : UInt32) (skdc_id : UInt16)
    (version : UInt32) (reason : RekeyReason) (mtk : Int) (seq : SequenceCounter) :
    Result RekeyPacket × SequenceCounter :=
  match draws.body_nonce with
  | .error failure => (.error failure,seq)
  | .ok rekey_nonce =>
    let body : RekeyBody :=
      { cluster_id, version, reason, mtk, timestamp_us := draws.body_us, rekey_nonce }
    let (sequence_num,seq) := seq.next
    let packet : Result RekeyPacket := do
      let token ← ReplayToken.generate draws.token_us draws.token_nonce sequence_num
      let header : BaseHeader := {
        packet_type := .rekeyPacket
        cluster_id := UInt16.ofNat cluster_id.toNat
        src_node_id := skdc_id
        dst_node_id := 0xFFFF
        src_type := .skdc
        dst_type := .uav
        flags := .hasMtk ||| .replayProtected ||| .hmacPresent
        priority := .critical }
      return {
        header := { header.applyReplayToken token with
          payload_len := UInt16.ofNat body.wireSize }
        body }
    (packet,seq)

def RekeyPacket.serialize (pkt : RekeyPacket) : Result ByteBuffer := do
  let body_buf ← pkt.body.serialize
  return pkt.header.serialize ++ pkt.header.serializeNonce ++ body_buf

def RekeyPacket.deserialize (crypto : Primitives) (wire : ByteBuffer) (hmac_key : HmacKey) :
    Result RekeyPacket := do
  if wire.length < 120 then
    .error (.serializationException
      ("RekeyPacket::Deserialize: too small (" ++ toString wire.length ++ ")"))
  let buf ← Hmac.stripAndVerifyHmac crypto hmac_key wire
  let header ← BaseHeader.deserialize buf 0
  let header ← header.deserializeNonce buf 32
  let body ← RekeyBody.deserialize buf 48
  return { header, body }

theorem RekeyBody.length_fields (body : RekeyBody) (mtk_bytes : ByteBuffer) :
    (body.fields mtk_bytes).flatten.length = 40+mtk_bytes.length := by
  simp [fields]
  omega

theorem RekeyBody.serialize_written {body : RekeyBody} {mtk_bytes : ByteBuffer}
    (mtk_written : BigInt.toBytes body.mtk (wireBytes body.mtk) = .ok mtk_bytes) :
    body.serialize = .ok (body.fields mtk_bytes).flatten := by
  rw [serialize,mtk_written]
  rfl

theorem RekeyBody.serialize_ok {body : RekeyBody} {bytes : ByteBuffer}
    (written : body.serialize = .ok bytes) : ∃ mtk_bytes,
      BigInt.toBytes body.mtk (wireBytes body.mtk) = .ok mtk_bytes ∧
      (body.fields mtk_bytes).flatten = bytes := by
  obtain ⟨mtk_bytes,mtk_written,written⟩ := Result.bind_ok.mp written
  exact ⟨mtk_bytes,mtk_written,Except.ok.inj written⟩

end Packet
end UavFanet
