import UavFanet.BaseHeader
import UavFanet.BigInt

/-! `MtkPacket`: the broadcast that carries a token, and how a receiver parses it. -/
namespace UavFanet.Packet
open Library UavFanet.ByteUtils UavFanet.Replay

/-- `(msb(v)+8)/8`, the bytes of a positive integer; everything else gets one byte. -/
def wireBytes (v : Int) : Nat := if v > 0 then (v.toNat.log2+8)/8 else 1

structure MtkBody where
  cluster_id : UInt32 := 0
  version : UInt32 := 0
  timestamp_us : UInt64 := 0
  mtk : Int := 0
  n_group : Int := 0
  body_nonce : Nonce128 := zeroNonce
  deriving DecidableEq,Repr

namespace MtkBody

def fields (body : MtkBody) (mtk_bytes n_group_bytes : ByteBuffer) : List ByteBuffer :=
  [writeU32BE body.cluster_id,writeU32BE body.version,writeU64BE body.timestamp_us,
    writeU32BE (UInt32.ofNat mtk_bytes.length),writeU32BE (UInt32.ofNat n_group_bytes.length),
    writeU32BE 16,mtk_bytes,n_group_bytes,body.body_nonce.toList]

def serialize (body : MtkBody) : Result ByteBuffer := do
  let mtk_bytes ← BigInt.toBytes body.mtk (wireBytes body.mtk)
  let n_group_bytes ← BigInt.toBytes body.n_group (wireBytes body.n_group)
  return (body.fields mtk_bytes n_group_bytes).flatten

def wireSize (body : MtkBody) : Result Nat := do
  let mtk_bytes ← BigInt.toBytes body.mtk (wireBytes body.mtk)
  let n_group_bytes ← BigInt.toBytes body.n_group (wireBytes body.n_group)
  return 28+mtk_bytes.length+n_group_bytes.length+16

def deserialize (buf : ByteBuffer) (offset : Nat) : Result MtkBody := do
  if buf.length < offset+28 then
    .error (.serializationException
      ("MtkBody::Deserialize: buffer too small (" ++ toString buf.length ++ ")"))
  let cluster_id ← readU32BE buf offset
  let version ← readU32BE buf (offset+4)
  let timestamp_us ← readU64BE buf (offset+8)
  let mtk_len ← readU32BE buf (offset+16)
  let n_group_len ← readU32BE buf (offset+20)
  let nonce_len ← readU32BE buf (offset+24)
  let pos := offset+28
  if buf.length < pos+mtk_len.toNat+n_group_len.toNat+nonce_len.toNat then
    .error (.serializationException "MtkBody::Deserialize: truncated body")
  let mtk_bytes ← read buf pos mtk_len.toNat
  let n_group_bytes ← read buf (pos+mtk_len.toNat) n_group_len.toNat
  let body_nonce ←
    if nonce_len ≥ 16 then readArray 16 buf (pos+mtk_len.toNat+n_group_len.toNat)
    else .ok zeroNonce
  return {
    cluster_id, version, timestamp_us, mtk := BigInt.fromBytes mtk_bytes,
    n_group := BigInt.fromBytes n_group_bytes, body_nonce }

end MtkBody

structure MtkPacket where
  header : BaseHeader
  body : MtkBody
  deriving DecidableEq,Repr

structure BuildDraws where
  body_us : UInt64
  body_nonce : Result Nonce128
  token_us : UInt64
  token_nonce : Result Nonce128

namespace MtkPacket

/-- The constructor's own clock reading is overwritten by the replay token. The counter has
moved on once the body has its nonce, whatever fails after that. -/
def build (draws : BuildDraws) (cluster_id : UInt32) (src_skdc : UInt16) (version : UInt32)
    (mtk n_group : Int) (seq : SequenceCounter) : Result MtkPacket × SequenceCounter :=
  match draws.body_nonce with
  | .error failure => (.error failure,seq)
  | .ok body_nonce =>
    let body : MtkBody :=
      { cluster_id, version, timestamp_us := draws.body_us, mtk, n_group, body_nonce }
    let (sequence_num,seq) := seq.next
    let packet : Result MtkPacket := do
      let token ← ReplayToken.generate draws.token_us draws.token_nonce sequence_num
      let header : BaseHeader := {
        packet_type := .mtkPacket
        cluster_id := UInt16.ofNat cluster_id.toNat
        src_node_id := src_skdc
        dst_node_id := 0xFFFF
        src_type := .skdc
        dst_type := .uav
        flags := .hasMtk ||| .replayProtected ||| .hmacPresent
        priority := .high }
      let size ← body.wireSize
      return { header := { header.applyReplayToken token with payload_len := UInt16.ofNat size }, body }
    (packet,seq)

def serialize (pkt : MtkPacket) : Result ByteBuffer := do
  let body_buf ← pkt.body.serialize
  return pkt.header.serialize ++ pkt.header.serializeNonce ++ body_buf

/-- The last 32 bytes are cut off and not looked at. -/
def deserializeNoHmac (wire : ByteBuffer) : Result MtkPacket := do
  if wire.length < 108 then
    .error (.serializationException
      ("MtkPacket::DeserializeNoHmac: packet too small (" ++ toString wire.length ++ ")"))
  let buf := wire.take (wire.length-32)
  let header ← BaseHeader.deserialize buf 0
  let header ← header.deserializeNonce buf 32
  let body ← MtkBody.deserialize buf 48
  return { header, body }

end MtkPacket

theorem toBytes_wireBytes {v : Int} {bytes : ByteBuffer}
    (written : BigInt.toBytes v (wireBytes v) = .ok bytes) :
    bytes.length = wireBytes v ∧ BigInt.fromBytes bytes = v := by
  rw [BigInt.toBytes] at written
  split at written
  · cases written
  · rename_i natural
    split at written
    · cases written
    · rename_i fits
      cases written
      have small : v.toNat < 256^wireBytes v := by
        rw [ne_eq,not_not,Nat.div_eq_zero_iff] at fits
        exact fits.resolve_left (by positivity)
      rw [BigInt.fromBytes,BigEndian.decode_encode,Nat.mod_eq_of_lt small]
      exact ⟨BigEndian.length_encode _ _,Int.toNat_of_nonneg (by omega)⟩

theorem toBytes_natural {v : Int} (natural : 0 ≤ v) :
    ∃ bytes, BigInt.toBytes v (wireBytes v) = .ok bytes := by
  obtain ⟨n,rfl⟩ := Int.eq_ofNat_of_zero_le natural
  refine ⟨_,BigInt.toBytes_fits ?_⟩
  rw [wireBytes]
  split
  · calc n < 2^(n.log2+1) := Nat.lt_log2_self
      _ ≤ 2^(8*((n.log2+8)/8)) := Nat.pow_le_pow_right (by norm_num) (by omega)
      _ = 256^((n.log2+8)/8) := Nat.pow_mul 2 8 _
  · omega

theorem MtkBody.length_fields (body : MtkBody) (mtk_bytes n_group_bytes : ByteBuffer) :
    (body.fields mtk_bytes n_group_bytes).flatten.length =
      44+mtk_bytes.length+n_group_bytes.length := by
  simp [fields]
  omega

theorem MtkBody.serialize_written {body : MtkBody} {mtk_bytes n_group_bytes : ByteBuffer}
    (mtk_written : BigInt.toBytes body.mtk (wireBytes body.mtk) = .ok mtk_bytes)
    (n_group_written : BigInt.toBytes body.n_group (wireBytes body.n_group) = .ok n_group_bytes) :
    body.serialize = .ok (body.fields mtk_bytes n_group_bytes).flatten := by
  rw [serialize,mtk_written,Result.ok_bind,n_group_written]
  rfl

theorem MtkBody.serialize_wireSize {body : MtkBody} {size : Nat}
    (announced : body.wireSize = .ok size) :
    ∃ bytes, body.serialize = .ok bytes ∧ bytes.length = size := by
  obtain ⟨mtk_bytes,mtk_written,announced⟩ := Result.bind_ok.mp announced
  obtain ⟨n_group_bytes,n_group_written,announced⟩ := Result.bind_ok.mp announced
  cases announced
  refine ⟨_,serialize_written mtk_written n_group_written,?_⟩
  rw [length_fields]
  omega

theorem MtkBody.serialize_ok {body : MtkBody} {bytes : ByteBuffer}
    (written : body.serialize = .ok bytes) : ∃ mtk_bytes n_group_bytes,
      BigInt.toBytes body.mtk (wireBytes body.mtk) = .ok mtk_bytes ∧
      BigInt.toBytes body.n_group (wireBytes body.n_group) = .ok n_group_bytes ∧
      (body.fields mtk_bytes n_group_bytes).flatten = bytes := by
  obtain ⟨mtk_bytes,mtk_written,written⟩ := Result.bind_ok.mp written
  obtain ⟨n_group_bytes,n_group_written,written⟩ := Result.bind_ok.mp written
  exact ⟨mtk_bytes,n_group_bytes,mtk_written,n_group_written,Except.ok.inj written⟩

theorem MtkBody.length_serialize {body : MtkBody} {bytes : ByteBuffer}
    (written : body.serialize = .ok bytes) :
    bytes.length = 44+wireBytes body.mtk+wireBytes body.n_group := by
  obtain ⟨mtk_bytes,n_group_bytes,mtk_written,n_group_written,rfl⟩ := serialize_ok written
  rw [← (toBytes_wireBytes mtk_written).1,← (toBytes_wireBytes n_group_written).1,length_fields]

theorem MtkBody.deserialize_serialize {body : MtkBody} {bytes : ByteBuffer} (front : ByteBuffer)
    (written : body.serialize = .ok bytes) (mtk_short : wireBytes body.mtk < 2^32)
    (n_group_short : wireBytes body.n_group < 2^32) :
    MtkBody.deserialize (front ++ bytes) front.length = .ok body := by
  have total := length_serialize written
  obtain ⟨mtk_bytes,n_group_bytes,mtk_written,n_group_written,rfl⟩ := serialize_ok written
  obtain ⟨mtk_size,mtk_value⟩ := toBytes_wireBytes mtk_written
  obtain ⟨n_group_size,n_group_value⟩ := toBytes_wireBytes n_group_written
  have mtk_len : (UInt32.ofNat mtk_bytes.length).toNat = mtk_bytes.length := by
    rw [UInt32.toNat_ofNat']
    omega
  have n_group_len : (UInt32.ofNat n_group_bytes.length).toNat = n_group_bytes.length := by
    rw [UInt32.toNat_ofNat']
    omega
  have layout : front ++ (body.fields mtk_bytes n_group_bytes).flatten =
      (front :: body.fields mtk_bytes n_group_bytes).flatten := rfl
  have long : ¬ (front ++ (body.fields mtk_bytes n_group_bytes).flatten).length < front.length+28 := by
    rw [List.length_append]
    omega
  have whole : ¬ (front ++ (body.fields mtk_bytes n_group_bytes).flatten).length <
      front.length+28+mtk_bytes.length+n_group_bytes.length+(16 : UInt32).toNat := by
    rw [List.length_append,show (16 : UInt32).toNat = 16 from rfl]
    omega
  rw [deserialize,if_neg long,layout]
  have cluster_id : readU32BE (front :: body.fields mtk_bytes n_group_bytes).flatten front.length =
      .ok body.cluster_id := readU32BE_field (i := 1) (by simp [ByteLayout.offsetOf]) rfl
  have version : readU32BE (front :: body.fields mtk_bytes n_group_bytes).flatten (front.length+4) =
      .ok body.version := readU32BE_field (i := 2) (by simp [ByteLayout.offsetOf,fields]) rfl
  have timestamp : readU64BE (front :: body.fields mtk_bytes n_group_bytes).flatten (front.length+8) =
      .ok body.timestamp_us := readU64BE_field (i := 3) (by simp [ByteLayout.offsetOf,fields]) rfl
  have mtk_field : readU32BE (front :: body.fields mtk_bytes n_group_bytes).flatten (front.length+16) =
      .ok (UInt32.ofNat mtk_bytes.length) :=
    readU32BE_field (i := 4) (by simp [ByteLayout.offsetOf,fields]) rfl
  have n_group_field : readU32BE (front :: body.fields mtk_bytes n_group_bytes).flatten
      (front.length+20) = .ok (UInt32.ofNat n_group_bytes.length) :=
    readU32BE_field (i := 5) (by simp [ByteLayout.offsetOf,fields]) rfl
  have nonce_field : readU32BE (front :: body.fields mtk_bytes n_group_bytes).flatten
      (front.length+24) = .ok 16 := readU32BE_field (i := 6) (by simp [ByteLayout.offsetOf,fields]) rfl
  have mtk_read : read (front :: body.fields mtk_bytes n_group_bytes).flatten (front.length+28)
      mtk_bytes.length = .ok mtk_bytes :=
    read_field (i := 7) (by simp [ByteLayout.offsetOf,fields]) rfl rfl
  have n_group_read : read (front :: body.fields mtk_bytes n_group_bytes).flatten
      (front.length+28+mtk_bytes.length) n_group_bytes.length = .ok n_group_bytes :=
    read_field (i := 8) (by simp [ByteLayout.offsetOf,fields]; omega) rfl rfl
  have nonce_read : readArray 16 (front :: body.fields mtk_bytes n_group_bytes).flatten
      (front.length+28+mtk_bytes.length+n_group_bytes.length) = .ok body.body_nonce :=
    readArray_field (i := 9) (by simp [ByteLayout.offsetOf,fields]; omega) rfl
  rw [layout] at whole
  simp only [cluster_id,version,timestamp,mtk_field,n_group_field,nonce_field,Result.ok_bind,mtk_len,
    n_group_len,whole,if_false,mtk_read,n_group_read,nonce_read,mtk_value,n_group_value,
    ge_iff_le]
  rfl

theorem MtkPacket.serialize_body {pkt : MtkPacket} {body_buf : ByteBuffer}
    (written : pkt.body.serialize = .ok body_buf) :
    pkt.serialize = .ok (pkt.header.serialize ++ pkt.header.serializeNonce ++ body_buf) := by
  rw [serialize,written]
  rfl

theorem MtkPacket.serialize_ok {pkt : MtkPacket} {wire : ByteBuffer}
    (written : pkt.serialize = .ok wire) : ∃ body_buf, pkt.body.serialize = .ok body_buf ∧
      pkt.header.serialize ++ pkt.header.serializeNonce ++ body_buf = wire ∧
      wire.length = 92+wireBytes pkt.body.mtk+wireBytes pkt.body.n_group := by
  obtain ⟨body_buf,body_written,written⟩ := Result.bind_ok.mp written
  have whole := Except.ok.inj written
  refine ⟨body_buf,body_written,whole,?_⟩
  rw [← whole,List.length_append,List.length_append,BaseHeader.length_serialize,
    BaseHeader.length_serializeNonce,MtkBody.length_serialize body_written]
  omega

/-- The tag may be any 32 bytes. -/
theorem MtkPacket.deserialize_serialize {pkt : MtkPacket} {wire : ByteBuffer}
    (genuine : pkt.header.magic = packetMagic) (written : pkt.serialize = .ok wire)
    (mtk_short : wireBytes pkt.body.mtk < 2^32) (n_group_short : wireBytes pkt.body.n_group < 2^32)
    {tag : ByteBuffer} (size : tag.length = 32) : deserializeNoHmac (wire ++ tag) = .ok pkt := by
  obtain ⟨body_buf,body_written,whole,total⟩ := serialize_ok written
  have front_size : (pkt.header.serialize ++ pkt.header.serializeNonce).length = 48 := by simp
  have long : ¬ (wire ++ tag).length < 108 := by
    rw [List.length_append]
    omega
  have stripped : (wire ++ tag).take ((wire ++ tag).length-32) = wire :=
    List.take_left' (by simp only [List.length_append,size]; omega)
  have body := MtkBody.deserialize_serialize
    (pkt.header.serialize ++ pkt.header.serializeNonce) body_written mtk_short n_group_short
  rw [front_size,List.append_assoc] at body
  rw [deserializeNoHmac,if_neg long,stripped,← whole]
  simp only [List.append_assoc,BaseHeader.deserialize_serialize genuine,Result.ok_bind,
    BaseHeader.deserializeNonce_serialize,body]
  rfl

/-- What a token packet says: its sender's cluster, version and token, under a header of
its type, and it can be serialised. -/
theorem MtkPacket.build_ok {draws : BuildDraws} {cluster_id version : UInt32} {src_skdc : UInt16}
    {mtk n_group : Int} {seq : SequenceCounter} {pkt : MtkPacket}
    (built : (build draws cluster_id src_skdc version mtk n_group seq).1 = .ok pkt) :
    pkt.header.magic = packetMagic ∧ pkt.header.packet_type = .mtkPacket ∧
      pkt.body.cluster_id = cluster_id ∧ pkt.body.version = version ∧ pkt.body.mtk = mtk ∧
      pkt.body.n_group = n_group ∧ ∃ wire, pkt.serialize = .ok wire := by
  rw [build] at built
  split at built
  · cases built
  · rename_i body_nonce _
    obtain ⟨token,-,built⟩ := Result.bind_ok.mp built
    obtain ⟨size,sized,built⟩ := Result.bind_ok.mp built
    obtain ⟨body_buf,written,-⟩ := MtkBody.serialize_wireSize sized
    cases built
    exact ⟨rfl,rfl,rfl,rfl,rfl,rfl,_,MtkPacket.serialize_body written⟩

end UavFanet.Packet
