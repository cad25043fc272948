import UavFanet.ByteUtils
import UavFanet.Replay

/-! `BaseHeader`: the 32 plaintext bytes at the front of every packet, with the
16 byte nonce that follows them, and the one-byte enumerations they carry. -/
namespace UavFanet.Packet
open Library UavFanet.ByteUtils UavFanet.Replay

/-- An `enum class` over one byte: a cast from the wire puts any byte in it. -/
structure PacketType where
  raw : UInt8
  deriving DecidableEq,Repr

namespace PacketType

def unknown : PacketType := ⟨0x00⟩
def authPacket : PacketType := ⟨0x01⟩
def joinPacket : PacketType := ⟨0x02⟩
def rekeyPacket : PacketType := ⟨0x03⟩
def mtkPacket : PacketType := ⟨0x04⟩
def dataPacket : PacketType := ⟨0x05⟩
def handoverPacket : PacketType := ⟨0x06⟩
def leavePacket : PacketType := ⟨0x0A⟩

def isValidPacketType (raw : UInt8) : Bool := 0x01 ≤ raw && raw ≤ 0x0A

end PacketType

structure PacketPriority where
  raw : UInt8
  deriving DecidableEq,Repr

namespace PacketPriority

def low : PacketPriority := ⟨0x00⟩
def normal : PacketPriority := ⟨0x01⟩
def high : PacketPriority := ⟨0x02⟩
def critical : PacketPriority := ⟨0x03⟩

end PacketPriority

structure PacketFlag where
  raw : UInt8
  deriving DecidableEq,Repr

namespace PacketFlag

def none : PacketFlag := ⟨0x00⟩
def encrypted : PacketFlag := ⟨0x01⟩
def hasMtk : PacketFlag := ⟨0x02⟩
def replayProtected : PacketFlag := ⟨0x04⟩
def hmacPresent : PacketFlag := ⟨0x08⟩

instance : OrOp PacketFlag where
  or a b := ⟨a.raw ||| b.raw⟩

end PacketFlag

structure NodeTypeCode where
  raw : UInt8
  deriving DecidableEq,Repr

namespace NodeTypeCode

def unknown : NodeTypeCode := ⟨0x00⟩
def kdc : NodeTypeCode := ⟨0x01⟩
def skdc : NodeTypeCode := ⟨0x02⟩
def uav : NodeTypeCode := ⟨0x03⟩

end NodeTypeCode

/-- `BaseHeader::MAGIC`. -/
def packetMagic : UInt16 := 0x5541

def protocolVersion : UInt8 := 1

structure BaseHeader where
  magic : UInt16 := packetMagic
  version : UInt8 := protocolVersion
  packet_type : PacketType := .unknown
  flags : PacketFlag := .none
  priority : PacketPriority := .normal
  payload_len : UInt16 := 0
  cluster_id : UInt16 := 0
  src_node_id : UInt16 := 0
  dst_node_id : UInt16 := 0
  src_type : NodeTypeCode := .unknown
  dst_type : NodeTypeCode := .unknown
  timestamp_us : UInt64 := 0
  sequence_num : UInt64 := 0
  nonce : Nonce128 := zeroNonce
  deriving DecidableEq,Repr

namespace BaseHeader

def applyReplayToken (header : BaseHeader) (token : ReplayToken) : BaseHeader :=
  { header with
    timestamp_us := token.timestamp_us
    sequence_num := token.sequence_num
    nonce := token.nonce
    flags := header.flags ||| .replayProtected }

def extractReplayToken (header : BaseHeader) : ReplayToken where
  timestamp_us := header.timestamp_us
  nonce := header.nonce
  sequence_num := header.sequence_num

def fields (header : BaseHeader) : List ByteBuffer :=
  [writeU16BE header.magic,[header.version],[header.packet_type.raw],[header.flags.raw],
    [header.priority.raw],writeU16BE header.payload_len,writeU16BE header.cluster_id,
    writeU16BE header.src_node_id,writeU16BE header.dst_node_id,[header.src_type.raw],
    [header.dst_type.raw],writeU64BE header.timestamp_us,writeU64BE header.sequence_num]

def serialize (header : BaseHeader) : ByteBuffer := header.fields.flatten

def serializeNonce (header : BaseHeader) : ByteBuffer := header.nonce.toList

/-- Two bytes of a `u16` in memory, low byte first, as lower-case hexadecimal digits. -/
def bytesToHex (v : UInt16) : String :=
  let digits (byte : Nat) : List Char := [(byte/16).digitChar,(byte%16).digitChar]
  String.ofList (digits (v.toNat%256) ++ digits (v.toNat/256))

def deserialize (buf : ByteBuffer) (offset : Nat) : Result BaseHeader := do
  if buf.length < offset+32 then
    .error (.serializationException ("BaseHeader::Deserialize: buffer too small (" ++
      toString buf.length ++ " bytes at offset " ++ toString offset ++ ", need 32)"))
  let magic ← readU16BE buf offset
  let version ← readU8 buf (offset+2)
  let packet_type ← readU8 buf (offset+3)
  let flags ← readU8 buf (offset+4)
  let priority ← readU8 buf (offset+5)
  let payload_len ← readU16BE buf (offset+6)
  let cluster_id ← readU16BE buf (offset+8)
  let src_node_id ← readU16BE buf (offset+10)
  let dst_node_id ← readU16BE buf (offset+12)
  let src_type ← readU8 buf (offset+14)
  let dst_type ← readU8 buf (offset+15)
  let timestamp_us ← readU64BE buf (offset+16)
  let sequence_num ← readU64BE buf (offset+24)
  if magic ≠ packetMagic then
    .error (.serializationException
      ("BaseHeader::Deserialize: invalid magic 0x" ++ bytesToHex magic))
  return {
    magic, version, packet_type := ⟨packet_type⟩, flags := ⟨flags⟩, priority := ⟨priority⟩,
    payload_len, cluster_id, src_node_id, dst_node_id, src_type := ⟨src_type⟩,
    dst_type := ⟨dst_type⟩, timestamp_us, sequence_num }

/-- `DeserializeNonce(data+offset,size-offset)`. -/
def deserializeNonce (header : BaseHeader) (buf : ByteBuffer) (offset : Nat) :
    Result BaseHeader := do
  if buf.length-offset < 16 then
    .error (.serializationException ("BaseHeader::DeserializeNonce: need 16 bytes, got " ++
      toString (buf.length-offset)))
  let nonce ← readArray 16 buf offset
  return { header with nonce }

def isValid (header : BaseHeader) : Bool :=
  if header.magic ≠ packetMagic then false
  else if header.version ≠ protocolVersion then false
  else if !PacketType.isValidPacketType header.packet_type.raw then false
  else true

@[simp] theorem length_serialize (header : BaseHeader) : header.serialize.length = 32 := by
  simp [serialize,fields]

@[simp] theorem length_serializeNonce (header : BaseHeader) :
    header.serializeNonce.length = 16 := by simp [serializeNonce]

theorem deserialize_serialize {header : BaseHeader} (genuine : header.magic = packetMagic)
    (rest : ByteBuffer) :
    deserialize (header.serialize ++ rest) 0 = .ok { header with nonce := zeroNonce } := by
  have layout : header.serialize ++ rest = (header.fields ++ [rest]).flatten := by
    simp [serialize]
  have long : ¬ (header.serialize ++ rest).length < 0+32 := by simp
  rw [deserialize,if_neg long,layout]
  have magic : readU16BE (header.fields ++ [rest]).flatten 0 = .ok header.magic :=
    readU16BE_field (i := 0) rfl rfl
  have version : readU8 (header.fields ++ [rest]).flatten (0+2) = .ok header.version :=
    readU8_field (i := 1) (by simp [ByteLayout.offsetOf,fields]) rfl
  have packet_type : readU8 (header.fields ++ [rest]).flatten (0+3) = .ok header.packet_type.raw :=
    readU8_field (i := 2) (by simp [ByteLayout.offsetOf,fields]) rfl
  have flags : readU8 (header.fields ++ [rest]).flatten (0+4) = .ok header.flags.raw :=
    readU8_field (i := 3) (by simp [ByteLayout.offsetOf,fields]) rfl
  have priority : readU8 (header.fields ++ [rest]).flatten (0+5) = .ok header.priority.raw :=
    readU8_field (i := 4) (by simp [ByteLayout.offsetOf,fields]) rfl
  have payload_len : readU16BE (header.fields ++ [rest]).flatten (0+6) = .ok header.payload_len :=
    readU16BE_field (i := 5) (by simp [ByteLayout.offsetOf,fields]) rfl
  have cluster_id : readU16BE (header.fields ++ [rest]).flatten (0+8) = .ok header.cluster_id :=
    readU16BE_field (i := 6) (by simp [ByteLayout.offsetOf,fields]) rfl
  have src_node_id : readU16BE (header.fields ++ [rest]).flatten (0+10) = .ok header.src_node_id :=
    readU16BE_field (i := 7) (by simp [ByteLayout.offsetOf,fields]) rfl
  have dst_node_id : readU16BE (header.fields ++ [rest]).flatten (0+12) = .ok header.dst_node_id :=
    readU16BE_field (i := 8) (by simp [ByteLayout.offsetOf,fields]) rfl
  have src_type : readU8 (header.fields ++ [rest]).flatten (0+14) = .ok header.src_type.raw :=
    readU8_field (i := 9) (by simp [ByteLayout.offsetOf,fields]) rfl
  have dst_type : readU8 (header.fields ++ [rest]).flatten (0+15) = .ok header.dst_type.raw :=
    readU8_field (i := 10) (by simp [ByteLayout.offsetOf,fields]) rfl
  have timestamp : readU64BE (header.fields ++ [rest]).flatten (0+16) = .ok header.timestamp_us :=
    readU64BE_field (i := 11) (by simp [ByteLayout.offsetOf,fields]) rfl
  have sequence : readU64BE (header.fields ++ [rest]).flatten (0+24) = .ok header.sequence_num :=
    readU64BE_field (i := 12) (by simp [ByteLayout.offsetOf,fields]) rfl
  simp only [magic,version,packet_type,flags,priority,payload_len,cluster_id,src_node_id,
    dst_node_id,src_type,dst_type,timestamp,sequence,Result.ok_bind,genuine,ne_eq,
    not_true_eq_false,if_false]
  rfl

theorem deserializeNonce_serialize (header read : BaseHeader) (rest : ByteBuffer) :
    read.deserializeNonce (header.serialize ++ (header.serializeNonce ++ rest)) 32 =
      .ok { read with nonce := header.nonce } := by
  have layout : header.serialize ++ (header.serializeNonce ++ rest) =
      [header.serialize,header.nonce.toList,rest].flatten := by simp [serializeNonce]
  have long : ¬ (header.serialize ++ (header.serializeNonce ++ rest)).length-32 < 16 := by
    simp only [List.length_append,length_serialize,length_serializeNonce]
    omega
  have nonce : readArray 16 [header.serialize,header.nonce.toList,rest].flatten 32 =
      .ok header.nonce := readArray_field (i := 1) (by simp [ByteLayout.offsetOf]) rfl
  rw [deserializeNonce,if_neg long,layout,nonce]
  rfl

theorem deserialize_within (buf : ByteBuffer) (offset : Nat) (within : offset+32 ≤ buf.length)
    (genuine : readU16BE buf offset = .ok packetMagic) :
    ∃ header, deserialize buf offset = .ok header := by
  obtain ⟨version,version_read⟩ := readU8_within buf (offset+2) (by omega)
  obtain ⟨packet_type,type_read⟩ := readU8_within buf (offset+3) (by omega)
  obtain ⟨flags,flags_read⟩ := readU8_within buf (offset+4) (by omega)
  obtain ⟨priority,priority_read⟩ := readU8_within buf (offset+5) (by omega)
  obtain ⟨payload_len,payload_read⟩ := readU16BE_within buf (offset+6) (by omega)
  obtain ⟨cluster_id,cluster_read⟩ := readU16BE_within buf (offset+8) (by omega)
  obtain ⟨src_node_id,src_read⟩ := readU16BE_within buf (offset+10) (by omega)
  obtain ⟨dst_node_id,dst_read⟩ := readU16BE_within buf (offset+12) (by omega)
  obtain ⟨src_type,src_type_read⟩ := readU8_within buf (offset+14) (by omega)
  obtain ⟨dst_type,dst_type_read⟩ := readU8_within buf (offset+15) (by omega)
  obtain ⟨timestamp_us,time_read⟩ := readU64BE_within buf (offset+16) (by omega)
  obtain ⟨sequence_num,seq_read⟩ := readU64BE_within buf (offset+24) (by omega)
  rw [deserialize,if_neg (by omega)]
  simp only [genuine,version_read,type_read,flags_read,priority_read,payload_read,cluster_read,
    src_read,dst_read,src_type_read,dst_type_read,time_read,seq_read,Result.ok_bind,ne_eq,
    not_true_eq_false,if_false]
  exact ⟨_,rfl⟩

theorem deserialize_ok {buf : ByteBuffer} {offset : Nat} {header : BaseHeader}
    (parsed : deserialize buf offset = .ok header) :
    header.magic = packetMagic ∧ readU8 buf (offset+2) = .ok header.version ∧
      readU8 buf (offset+3) = .ok header.packet_type.raw := by
  rw [deserialize] at parsed
  split at parsed
  · cases parsed
  obtain ⟨magic,-,parsed⟩ := Result.bind_ok.mp parsed
  obtain ⟨version,version_read,parsed⟩ := Result.bind_ok.mp parsed
  obtain ⟨packet_type,type_read,parsed⟩ := Result.bind_ok.mp parsed
  obtain ⟨flags,-,parsed⟩ := Result.bind_ok.mp parsed
  obtain ⟨priority,-,parsed⟩ := Result.bind_ok.mp parsed
  obtain ⟨payload_len,-,parsed⟩ := Result.bind_ok.mp parsed
  obtain ⟨cluster_id,-,parsed⟩ := Result.bind_ok.mp parsed
  obtain ⟨src_node_id,-,parsed⟩ := Result.bind_ok.mp parsed
  obtain ⟨dst_node_id,-,parsed⟩ := Result.bind_ok.mp parsed
  obtain ⟨src_type,-,parsed⟩ := Result.bind_ok.mp parsed
  obtain ⟨dst_type,-,parsed⟩ := Result.bind_ok.mp parsed
  obtain ⟨timestamp_us,-,parsed⟩ := Result.bind_ok.mp parsed
  obtain ⟨sequence_num,-,parsed⟩ := Result.bind_ok.mp parsed
  split at parsed
  · cases parsed
  · rename_i genuine
    cases parsed
    exact ⟨not_not.mp genuine,version_read,type_read⟩

theorem deserialize_take (buf : ByteBuffer) {offset size : Nat} (within : offset+32 ≤ size)
    (long : size ≤ buf.length) : deserialize (buf.take size) offset = deserialize buf offset := by
  have here : (buf.take size).length = size := List.length_take_of_le long
  rw [deserialize,deserialize,if_neg (by omega),if_neg (by omega)]
  simp only [readU16BE_take buf (show offset+2 ≤ size by omega),
    readU8_take buf (show offset+2+1 ≤ size by omega),
    readU8_take buf (show offset+3+1 ≤ size by omega),
    readU8_take buf (show offset+4+1 ≤ size by omega),
    readU8_take buf (show offset+5+1 ≤ size by omega),
    readU16BE_take buf (show offset+6+2 ≤ size by omega),
    readU16BE_take buf (show offset+8+2 ≤ size by omega),
    readU16BE_take buf (show offset+10+2 ≤ size by omega),
    readU16BE_take buf (show offset+12+2 ≤ size by omega),
    readU8_take buf (show offset+14+1 ≤ size by omega),
    readU8_take buf (show offset+15+1 ≤ size by omega),
    readU64BE_take buf (show offset+16+8 ≤ size by omega),
    readU64BE_take buf (show offset+24+8 ≤ size by omega)]

theorem deserializeNonce_within (header : BaseHeader) (buf : ByteBuffer) (offset : Nat)
    (within : offset+16 ≤ buf.length) :
    ∃ nonce, header.deserializeNonce buf offset = .ok { header with nonce } := by
  obtain ⟨nonce,present⟩ := readArray_within buf offset within
  rw [deserializeNonce,if_neg (by omega),present]
  exact ⟨nonce,rfl⟩

theorem deserializeNonce_take (header : BaseHeader) (buf : ByteBuffer) {offset size : Nat}
    (within : offset+16 ≤ size) (long : size ≤ buf.length) :
    header.deserializeNonce (buf.take size) offset = header.deserializeNonce buf offset := by
  have here : (buf.take size).length = size := List.length_take_of_le long
  rw [deserializeNonce,deserializeNonce,if_neg (by omega),if_neg (by omega),
    readArray_take buf within]

end BaseHeader
end UavFanet.Packet
