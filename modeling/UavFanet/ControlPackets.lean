import UavFanet.DataPacket
import UavFanet.RekeyPacket

/-! The packets of authentication, of joining and leaving and of handovers: their bodies
of a fixed size, and the requests a UAV builds. -/
namespace UavFanet.Packet
open Library UavFanet.ByteUtils UavFanet.Replay

structure AuthType where
  raw : UInt8
  deriving DecidableEq,Repr

def AuthType.unknown : AuthType := ⟨0x00⟩
def AuthType.request : AuthType := ⟨0x01⟩

structure AuthStatus where
  raw : UInt8
  deriving DecidableEq,Repr

def AuthStatus.pending : AuthStatus := ⟨0x08⟩

structure AuthBody where
  auth_type : AuthType := .unknown
  status : AuthStatus := .pending
  uav_id : UInt16 := 0
  skdc_id : UInt16 := 0
  cluster_id : UInt16 := 0
  challenge : Vector UInt8 16 := Vector.replicate 16 0
  response : Vector UInt8 16 := Vector.replicate 16 0
  timestamp_us : UInt64 := 0
  deriving DecidableEq,Repr

namespace AuthBody

def fields (body : AuthBody) : List ByteBuffer :=
  [[body.auth_type.raw],[body.status.raw],writeU16BE body.uav_id,writeU16BE body.skdc_id,
    writeU16BE body.cluster_id,body.challenge.toList,body.response.toList,
    writeU64BE body.timestamp_us]

def serialize (body : AuthBody) : ByteBuffer := body.fields.flatten

def deserialize (buf : ByteBuffer) (offset : Nat) : Result AuthBody := do
  if buf.length < offset+48 then
    .error (.serializationException ("AuthBody::Deserialize: buffer too small (" ++
      toString buf.length ++ " bytes at offset " ++ toString offset ++ ")"))
  let auth_type ← readU8 buf offset
  let status ← readU8 buf (offset+1)
  let uav_id ← readU16BE buf (offset+2)
  let skdc_id ← readU16BE buf (offset+4)
  let cluster_id ← readU16BE buf (offset+6)
  let challenge ← readArray 16 buf (offset+8)
  let response ← readArray 16 buf (offset+24)
  let timestamp_us ← readU64BE buf (offset+40)
  return {
    auth_type := ⟨auth_type⟩, status := ⟨status⟩, uav_id, skdc_id, cluster_id, challenge,
    response, timestamp_us }

end AuthBody

structure AuthPacket where
  header : BaseHeader
  body : AuthBody
  deriving DecidableEq,Repr

structure AuthDraws where
  body_us : UInt64
  token_us : UInt64
  token_nonce : Result Nonce128

namespace AuthPacket

/-- The counter moves on whether or not the token gets its nonce. -/
def buildRequest (draws : AuthDraws) (uav_id skdc_id cluster_id : UInt16) (seq : SequenceCounter) :
    Result AuthPacket × SequenceCounter :=
  let body : AuthBody := {
    auth_type := .request, status := .pending, uav_id, skdc_id, cluster_id
    timestamp_us := draws.body_us }
  let (sequence_num,seq) := seq.next
  let packet : Result AuthPacket := do
    let token ← ReplayToken.generate draws.token_us draws.token_nonce sequence_num
    let header : BaseHeader := {
      packet_type := .authPacket
      cluster_id, src_node_id := uav_id, dst_node_id := skdc_id
      src_type := .uav
      dst_type := .skdc
      flags := .replayProtected ||| .hmacPresent
      priority := .critical }
    return { header := { header.applyReplayToken token with payload_len := 48 }, body }
  (packet,seq)

def serialize (pkt : AuthPacket) : ByteBuffer :=
  pkt.header.serialize ++ pkt.header.serializeNonce ++ pkt.body.serialize

end AuthPacket

structure JoinType where
  raw : UInt8
  deriving DecidableEq,Repr

def JoinType.unknown : JoinType := ⟨0x00⟩
def JoinType.request : JoinType := ⟨0x01⟩

structure JoinBody where
  join_type : JoinType := .unknown
  reserved : UInt8 := 0
  uav_id : UInt16 := 0
  skdc_id : UInt16 := 0
  cluster_id : UInt16 := 0
  identity : Vector UInt8 16 := Vector.replicate 16 0
  join_nonce : Nonce128 := zeroNonce
  timestamp_us : UInt64 := 0
  uav_index : UInt32 := 0
  version : UInt32 := 0
  deriving DecidableEq,Repr

namespace JoinBody

def fields (body : JoinBody) : List ByteBuffer :=
  [[body.join_type.raw],[body.reserved],writeU16BE body.uav_id,writeU16BE body.skdc_id,
    writeU16BE body.cluster_id,body.identity.toList,body.join_nonce.toList,
    writeU64BE body.timestamp_us,writeU32BE body.uav_index,writeU32BE body.version]

def serialize (body : JoinBody) : ByteBuffer := body.fields.flatten

def deserialize (buf : ByteBuffer) (offset : Nat) : Result JoinBody := do
  if buf.length < offset+56 then
    .error (.serializationException "JoinBody::Deserialize: buffer too small")
  let join_type ← readU8 buf offset
  let reserved ← readU8 buf (offset+1)
  let uav_id ← readU16BE buf (offset+2)
  let skdc_id ← readU16BE buf (offset+4)
  let cluster_id ← readU16BE buf (offset+6)
  let identity ← readArray 16 buf (offset+8)
  let join_nonce ← readArray 16 buf (offset+24)
  let timestamp_us ← readU64BE buf (offset+40)
  let uav_index ← readU32BE buf (offset+48)
  let version ← readU32BE buf (offset+52)
  return {
    join_type := ⟨join_type⟩, reserved, uav_id, skdc_id, cluster_id, identity, join_nonce,
    timestamp_us, uav_index, version }

end JoinBody

structure JoinPacket where
  header : BaseHeader
  body : JoinBody
  deriving DecidableEq,Repr

namespace JoinPacket

/-- The identity of a joining UAV: its id and its cluster, and twelve bytes of zeros. -/
def identityOf (uav_id cluster_id : UInt16) : Vector UInt8 16 :=
  ⟨(writeU16BE uav_id ++ writeU16BE cluster_id ++ List.replicate 12 0).toArray,by simp⟩

def buildInternal (draws : BuildDraws) (join_type : JoinType) (uav_id skdc_id cluster_id : UInt16)
    (uav_index version : UInt32) (src_type dst_type : NodeTypeCode) (dst_id : UInt16)
    (seq : SequenceCounter) : Result JoinPacket × SequenceCounter :=
  match draws.body_nonce with
  | .error failure => (.error failure,seq)
  | .ok join_nonce =>
    let body : JoinBody := {
      join_type, uav_id, skdc_id, cluster_id, uav_index, version
      timestamp_us := draws.body_us
      identity := identityOf uav_id cluster_id
      join_nonce }
    let (sequence_num,seq) := seq.next
    let packet : Result JoinPacket := do
      let token ← ReplayToken.generate draws.token_us draws.token_nonce sequence_num
      let src_id := if src_type = .skdc then skdc_id else uav_id
      let header : BaseHeader := {
        packet_type := .joinPacket
        cluster_id, src_node_id := src_id, dst_node_id := dst_id, src_type, dst_type
        flags := .replayProtected ||| .hmacPresent
        priority := .high }
      return { header := { header.applyReplayToken token with payload_len := 56 }, body }
    (packet,seq)

def buildRequest (draws : BuildDraws) (uav_id skdc_id cluster_id : UInt16) (uav_index : UInt32)
    (seq : SequenceCounter) : Result JoinPacket × SequenceCounter :=
  buildInternal draws .request uav_id skdc_id cluster_id uav_index 0 .uav .skdc skdc_id seq

def serialize (pkt : JoinPacket) : ByteBuffer :=
  pkt.header.serialize ++ pkt.header.serializeNonce ++ pkt.body.serialize

end JoinPacket

structure HandoverPhase where
  raw : UInt8
  deriving DecidableEq,Repr

structure HandoverBody where
  phase : HandoverPhase := ⟨0x00⟩
  reserved : UInt8 := 0
  uav_id : UInt16 := 0
  old_cluster_id : UInt16 := 0
  new_cluster_id : UInt16 := 0
  old_skdc_id : UInt16 := 0
  new_skdc_id : UInt16 := 0
  old_version : UInt32 := 0
  new_version : UInt32 := 0
  timestamp_us : UInt64 := 0
  ho_nonce : Nonce128 := zeroNonce
  uav_index_old : UInt32 := 0
  uav_index_new : UInt32 := 0
  reserved2 : Vector UInt8 12 := Vector.replicate 12 0
  deriving DecidableEq,Repr

def HandoverBody.fields (body : HandoverBody) : List ByteBuffer :=
  [[body.phase.raw],[body.reserved],writeU16BE body.uav_id,writeU16BE body.old_cluster_id,
    writeU16BE body.new_cluster_id,writeU16BE body.old_skdc_id,writeU16BE body.new_skdc_id,
    writeU32BE body.old_version,writeU32BE body.new_version,writeU64BE body.timestamp_us,
    body.ho_nonce.toList,writeU32BE body.uav_index_old,writeU32BE body.uav_index_new,
    body.reserved2.toList]

def HandoverBody.serialize (body : HandoverBody) : ByteBuffer := body.fields.flatten

def HandoverBody.deserialize (buf : ByteBuffer) (offset : Nat) : Result HandoverBody := do
  if buf.length < offset+64 then
    .error (.serializationException "HandoverBody::Deserialize: buffer too small")
  let phase ← readU8 buf offset
  let reserved ← readU8 buf (offset+1)
  let uav_id ← readU16BE buf (offset+2)
  let old_cluster_id ← readU16BE buf (offset+4)
  let new_cluster_id ← readU16BE buf (offset+6)
  let old_skdc_id ← readU16BE buf (offset+8)
  let new_skdc_id ← readU16BE buf (offset+10)
  let old_version ← readU32BE buf (offset+12)
  let new_version ← readU32BE buf (offset+16)
  let timestamp_us ← readU64BE buf (offset+20)
  let ho_nonce ← readArray 16 buf (offset+28)
  let uav_index_old ← readU32BE buf (offset+44)
  let uav_index_new ← readU32BE buf (offset+48)
  let reserved2 ← readArray 12 buf (offset+52)
  return {
    phase := ⟨phase⟩, reserved, uav_id, old_cluster_id, new_cluster_id, old_skdc_id, new_skdc_id,
    old_version, new_version, timestamp_us, ho_nonce, uav_index_old, uav_index_new, reserved2 }

structure HandoverPacket where
  header : BaseHeader
  body : HandoverBody
  deriving DecidableEq,Repr

def HandoverPacket.serialize (pkt : HandoverPacket) : ByteBuffer :=
  pkt.header.serialize ++ pkt.header.serializeNonce ++ pkt.body.serialize

end UavFanet.Packet
