import UavFanet.PacketRoundTrip

/-! Which accepted packets are the bytes that their own serialisation gives, with a payload length
that is true. -/
namespace UavFanet
open Library UavFanet.ByteUtils UavFanet.Replay

theorem Hmac.appendHmac_eq_iff (crypto : Primitives) (key : HmacKey) (packet wire : ByteBuffer) :
    appendHmac crypto key packet = wire ↔
      Authentic crypto key wire ∧ packet = wire.take (wire.length-32) := by
  constructor
  · rintro rfl
    refine ⟨⟨by simp,?_⟩,(take_appendHmac crypto key packet).symm⟩
    rw [take_appendHmac]
    exact verify_appendHmac crypto key packet
  · rintro ⟨⟨long,verified⟩,rfl⟩
    have tag : (compute crypto key (wire.take (wire.length-32))).toList =
        wire.drop (wire.length-32) := by simpa [verify] using verified
    rw [appendHmac,tag,List.take_append_drop]

namespace Packet

/-- The packet is what its serialisation and the tag after it give, and its header announces as
many bytes as follow header and nonce. -/
def Canonical (crypto : Primitives) (key : HmacKey) (wire : ByteBuffer) (header : BaseHeader)
    (serialized : Result ByteBuffer) : Prop :=
  ∃ packet, serialized = .ok packet ∧ Hmac.appendHmac crypto key packet = wire ∧
    48+header.payload_len.toNat = packet.length

/-- A packet without its tag. -/
def stripped (wire : ByteBuffer) : ByteBuffer := wire.take (wire.length-32)

def payloadField (buf : ByteBuffer) : Nat :=
  match readU16BE buf 6 with
  | .ok length => length.toNat
  | .error _ => 0

/-- The header announces the bytes after header and nonce. -/
def Announced (buf : ByteBuffer) : Prop := 48+payloadField buf = buf.length

instance (buf : ByteBuffer) : Decidable (Announced buf) := inferInstanceAs (Decidable (_ = _))

def bytesAt (buf : ByteBuffer) (offset count : Nat) : ByteBuffer := (buf.drop offset).take count

section Headers

variable {buf : ByteBuffer}

theorem readHeader_holds {header : BaseHeader} (parsed : readHeader buf = .ok header) :
    ByteLayout.Holds buf 0 (header.serialize ++ header.serializeNonce) := by
  obtain ⟨front,front_read,nonce_read⟩ := Result.bind_ok.mp parsed
  rw [BaseHeader.deserialize] at front_read
  split at front_read
  · cases front_read
  obtain ⟨magic,magic_read,front_read⟩ := Result.bind_ok.mp front_read
  obtain ⟨version,version_read,front_read⟩ := Result.bind_ok.mp front_read
  obtain ⟨packet_type,type_read,front_read⟩ := Result.bind_ok.mp front_read
  obtain ⟨flags,flags_read,front_read⟩ := Result.bind_ok.mp front_read
  obtain ⟨priority,priority_read,front_read⟩ := Result.bind_ok.mp front_read
  obtain ⟨payload_len,payload_read,front_read⟩ := Result.bind_ok.mp front_read
  obtain ⟨cluster_id,cluster_read,front_read⟩ := Result.bind_ok.mp front_read
  obtain ⟨src_node_id,src_read,front_read⟩ := Result.bind_ok.mp front_read
  obtain ⟨dst_node_id,dst_read,front_read⟩ := Result.bind_ok.mp front_read
  obtain ⟨src_type,src_type_read,front_read⟩ := Result.bind_ok.mp front_read
  obtain ⟨dst_type,dst_type_read,front_read⟩ := Result.bind_ok.mp front_read
  obtain ⟨timestamp_us,time_read,front_read⟩ := Result.bind_ok.mp front_read
  obtain ⟨sequence_num,seq_read,front_read⟩ := Result.bind_ok.mp front_read
  split at front_read
  · cases front_read
  cases front_read
  rw [BaseHeader.deserializeNonce] at nonce_read
  split at nonce_read
  · cases nonce_read
  obtain ⟨nonce,present,nonce_read⟩ := Result.bind_ok.mp nonce_read
  cases nonce_read
  rw [ByteLayout.holds_append]
  refine ⟨?_,readArray_holds present⟩
  simp only [BaseHeader.serialize,BaseHeader.fields,ByteLayout.holds_flatten_cons,length_writeU16BE,
    length_writeU64BE,List.length_singleton]
  exact ⟨readU16BE_holds magic_read,readU8_holds version_read,readU8_holds type_read,
    readU8_holds flags_read,readU8_holds priority_read,readU16BE_holds payload_read,
    readU16BE_holds cluster_read,readU16BE_holds src_read,readU16BE_holds dst_read,
    readU8_holds src_type_read,readU8_holds dst_type_read,readU64BE_holds time_read,
    readU64BE_holds seq_read,ByteLayout.holds_nil.mpr (by omega)⟩

theorem payloadField_header {header : BaseHeader} (parsed : readHeader buf = .ok header) :
    payloadField buf = header.payload_len.toNat := by
  have holds := readHeader_holds parsed
  rw [ByteLayout.holds_append] at holds
  simp only [BaseHeader.serialize,BaseHeader.fields,ByteLayout.holds_flatten_cons,length_writeU16BE,
    List.length_singleton] at holds
  obtain ⟨⟨-,-,-,-,-,payload,-⟩,-⟩ := holds
  rw [payloadField,readU16BE_of_holds payload]

theorem front_length (header : BaseHeader) :
    (header.serialize ++ header.serializeNonce).length = 48 := by simp

/-- A body written again is what stands after header and nonce, up to the end. -/
def Rewritten (buf : ByteBuffer) (serialized : Result ByteBuffer) : Prop :=
  ∃ body_buf, serialized = .ok body_buf ∧ buf.length = 48+body_buf.length ∧
    ByteLayout.Holds buf 48 body_buf

theorem canonical_iff {crypto : Primitives} {key : HmacKey} {wire : ByteBuffer}
    {header : BaseHeader} (parsed : readHeader (stripped wire) = .ok header) {body_buf : ByteBuffer} :
    Canonical crypto key wire header (.ok (header.serialize ++ header.serializeNonce ++ body_buf)) ↔
      Hmac.Authentic crypto key wire ∧ Announced (stripped wire) ∧
        (stripped wire).length = 48+body_buf.length ∧
        ByteLayout.Holds (stripped wire) 48 body_buf := by
  have front := readHeader_holds parsed
  have announced := payloadField_header parsed
  constructor
  · rintro ⟨_,⟨⟩,tagged,long⟩
    obtain ⟨authentic,whole⟩ := (Hmac.appendHmac_eq_iff crypto key _ wire).mp tagged
    have held := (ByteLayout.holds_whole (congrArg List.length whole)).mpr whole.symm
    rw [ByteLayout.holds_append,front_length] at held
    have size := congrArg List.length whole
    rw [List.length_append,front_length] at size long
    refine ⟨authentic,?_,size.symm,by simpa [stripped] using held.2⟩
    rw [Announced,announced,stripped,← size]
    exact long
  · rintro ⟨authentic,true_length,size,body⟩
    refine ⟨_,rfl,(Hmac.appendHmac_eq_iff crypto key _ wire).mpr ⟨authentic,?_⟩,?_⟩
    · have total : (header.serialize ++ header.serializeNonce ++ body_buf).length =
          (stripped wire).length := by
        rw [List.length_append,front_length,size]
      refine ((ByteLayout.holds_whole total).mp ?_).symm
      rw [ByteLayout.holds_append,front_length]
      exact ⟨front,by simpa using body⟩
    · rw [List.length_append,front_length,← size,← true_length,announced]

end Headers

section Integers

theorem wireBytes_eq_iff {n width : Nat} (positive : 0 < n) :
    wireBytes n = width+1 ↔ 256^width ≤ n ∧ n < 256^(width+1) := by
  have low : 256^width ≤ n ↔ 8*width ≤ n.log2 := by
    rw [Nat.le_log2 (by omega),Nat.pow_mul]
  have high : n < 256^(width+1) ↔ n.log2 < 8*(width+1) := by
    rw [Nat.log2_lt (by omega),Nat.pow_mul]
  rw [wireBytes,if_pos (by omega),low,high,Int.toNat_natCast]
  omega

theorem wireBytes_positive (v : Int) : 0 < wireBytes v := by
  rw [wireBytes]
  split
  · omega
  · omega

theorem wireBytes_le (raw : ByteBuffer) : wireBytes (BigInt.fromBytes raw) ≤ max 1 raw.length := by
  rw [BigInt.fromBytes]
  obtain zero | positive := Nat.eq_zero_or_pos (BigEndian.decode raw)
  · rw [zero]
    exact le_max_left _ _
  · obtain ⟨width,exact_width⟩ :=
      Nat.exists_eq_add_of_lt (wireBytes_positive (BigEndian.decode raw))
    rw [Nat.zero_add] at exact_width
    have least := ((wireBytes_eq_iff positive).mp exact_width).1
    have shorter : width < raw.length :=
      (Nat.pow_lt_pow_iff_right (by omega)).mp (least.trans_lt (BigEndian.decode_lt raw))
    omega

/-- The bytes that an integer was read from are as many as it is written to if they are as few as
it needs. -/
theorem wireBytes_iff_minimal (raw : ByteBuffer) :
    wireBytes (BigInt.fromBytes raw) = raw.length ↔ BigEndian.Minimal raw := by
  match raw with
  | [] => simp [wireBytes,BigInt.fromBytes,BigEndian.Minimal]
  | first :: rest =>
    have value := BigEndian.decode_cons first rest
    by_cases leading : first = 0
    · have rest_lt := BigEndian.decode_lt rest
      rw [leading,UInt8.toNat_zero,Nat.zero_mul,Nat.zero_add] at value
      have minimal : BigEndian.Minimal (first :: rest) ↔ rest = [] := by
        simp [BigEndian.Minimal,leading]
      rw [minimal,BigInt.fromBytes,leading,value,← List.length_eq_zero_iff,List.length_cons]
      obtain zero | positive := Nat.eq_zero_or_pos (BigEndian.decode rest)
      · rw [zero]
        change 1 = _ ↔ _
        omega
      · rw [wireBytes_eq_iff positive]
        constructor
        · rintro ⟨least,-⟩
          omega
        · intro empty
          rw [empty] at rest_lt
          omega
    · have top : 0 < first.toNat := by
        rw [Nat.pos_iff_ne_zero]
        exact fun zero => leading (UInt8.toNat_inj.mp zero)
      have least : 256^rest.length ≤ BigEndian.decode (first :: rest) := by
        calc 256^rest.length ≤ first.toNat*256^rest.length := Nat.le_mul_of_pos_left _ top
          _ ≤ BigEndian.decode (first :: rest) := by omega
      have positive : 0 < BigEndian.decode (first :: rest) :=
        Nat.lt_of_lt_of_le (Nat.pow_pos (by omega)) least
      have exact_width := (wireBytes_eq_iff positive).mpr ⟨least,BigEndian.decode_lt _⟩
      exact iff_of_true exact_width (.inr ⟨first,rest,rfl,leading⟩)

theorem length_kept_iff {len : UInt32} {raw written : ByteBuffer} (size : raw.length = len.toNat)
    (toBytes : BigInt.toBytes (BigInt.fromBytes raw) (wireBytes (BigInt.fromBytes raw)) =
      .ok written) :
    UInt32.ofNat written.length = len ↔ BigEndian.Minimal raw := by
  obtain ⟨written_size,same_value⟩ := toBytes_wireBytes toBytes
  have short := wireBytes_le raw
  have range := len.toNat_lt
  rw [← wireBytes_iff_minimal,← written_size,size,← UInt32.toNat_inj,UInt32.toNat_ofNat']
  rw [← written_size,size] at short
  rw [Nat.mod_eq_of_lt (by omega)]

theorem written_eq_iff {raw written : ByteBuffer}
    (toBytes : BigInt.toBytes (BigInt.fromBytes raw) (wireBytes (BigInt.fromBytes raw)) =
      .ok written) : written = raw ↔ BigEndian.Minimal raw := by
  obtain ⟨written_size,same_value⟩ := toBytes_wireBytes toBytes
  rw [← wireBytes_iff_minimal,← written_size]
  constructor
  · intro same
    rw [same]
  · intro same_size
    exact BigEndian.decode_injective same_size (Int.ofNat.inj same_value)

end Integers

/-- Nothing follows the ciphertext, and the padding after the nonce is zero. -/
def DataBody.Tight (buf : ByteBuffer) : Prop :=
  buf.length = 104+lengthField buf 68 ∧ ByteLayout.Holds buf 84 (List.replicate 4 0)

/-- Nothing follows the token, which takes as few bytes as it needs and one for zero, and the reserved
bytes are zero. -/
def RekeyBody.Tight (buf : ByteBuffer) : Prop :=
  buf.length = 88+lengthField buf 60 ∧ ByteLayout.Holds buf 57 (List.replicate 3 0) ∧
    BigEndian.Minimal (bytesAt buf 88 (lengthField buf 60))

/-- Nothing follows the nonce, which has its 16 bytes, and each integer before it takes as few bytes
as it needs and one for zero. -/
def MtkBody.Tight (buf : ByteBuffer) : Prop :=
  buf.length = 92+lengthField buf 64+lengthField buf 68 ∧ lengthField buf 72 = 16 ∧
    BigEndian.Minimal (bytesAt buf 76 (lengthField buf 64)) ∧
    BigEndian.Minimal (bytesAt buf (76+lengthField buf 64) (lengthField buf 68))

instance (buf : ByteBuffer) : Decidable (RekeyBody.Tight buf) :=
  inferInstanceAs (Decidable (_ ∧ _ = _ ∧ BigEndian.Minimal _))

section Bodies

variable {buf : ByteBuffer}

theorem rewritten_ok {body_buf : ByteBuffer} : Rewritten buf (.ok body_buf) ↔
    buf.length = 48+body_buf.length ∧ ByteLayout.Holds buf 48 body_buf := by
  constructor
  · rintro ⟨_,⟨⟩,held⟩
    exact held
  · intro held
    exact ⟨body_buf,rfl,held⟩

theorem lengthField_read {offset : Nat} {len : UInt32} (present : readU32BE buf offset = .ok len) :
    lengthField buf offset = len.toNat := by
  rw [lengthField,present]

theorem bytesAt_read {offset count : Nat} {bytes : ByteBuffer}
    (present : read buf offset count = .ok bytes) : bytesAt buf offset count = bytes := by
  rw [ByteUtils.read] at present
  split at present
  · rename_i found
    cases present
    rw [ByteLayout.slice] at found
    split at found
    · exact Option.some.inj found
    · cases found
  · cases present

theorem length_holds_iff {offset : Nat} {len v : UInt32} (present : readU32BE buf offset = .ok len) :
    ByteLayout.Holds buf offset (writeU32BE v) ↔ v = len := by
  constructor
  · intro holds
    exact writeU32BE_injective (holds.unique (readU32BE_holds present) (by simp))
  · rintro rfl
    exact readU32BE_holds present

theorem DataBody.rewritten_iff {body : DataBody} (parsed : DataBody.deserialize buf 48 = .ok body) :
    Rewritten buf (.ok body.serialize) ↔ DataBody.Tight buf := by
  rw [DataBody.deserialize] at parsed
  split at parsed
  · cases parsed
  obtain ⟨cluster_id,cluster_read,parsed⟩ := Result.bind_ok.mp parsed
  obtain ⟨data_sequence,seq_read,parsed⟩ := Result.bind_ok.mp parsed
  obtain ⟨timestamp_us,time_read,parsed⟩ := Result.bind_ok.mp parsed
  obtain ⟨plaintext_len,plain_read,parsed⟩ := Result.bind_ok.mp parsed
  obtain ⟨ct_len,length_read,parsed⟩ := Result.bind_ok.mp parsed
  obtain ⟨aes_iv,iv_read,parsed⟩ := Result.bind_ok.mp parsed
  obtain ⟨aes_tag,tag_read,parsed⟩ := Result.bind_ok.mp parsed
  dsimp only at parsed
  split at parsed
  · cases parsed
  obtain ⟨ciphertext,ct_read,parsed⟩ := Result.bind_ok.mp parsed
  cases parsed
  obtain ⟨size,held⟩ := read_holds ct_read
  have kept : UInt32.ofNat ciphertext.length = ct_len := by rw [size,UInt32.ofNat_toNat]
  rw [rewritten_ok,DataBody.length_serialize,DataBody.wireSize,DataBody.Tight,
    lengthField_read length_read,← size]
  refine and_congr (by rw [← Nat.add_assoc]) ?_
  simp only [DataBody.serialize,DataBody.fields,ByteLayout.holds_flatten_cons,length_writeU32BE,
    length_writeU64BE,Vector.length_toList,List.length_replicate,kept]
  constructor
  · rintro ⟨-,-,-,-,-,-,padding,-⟩
    exact padding
  · intro padding
    exact ⟨readU32BE_holds cluster_read,readU32BE_holds seq_read,readU64BE_holds time_read,
      readU32BE_holds plain_read,readU32BE_holds length_read,readArray_holds iv_read,padding,
      readArray_holds tag_read,held,ByteLayout.holds_nil.mpr (by omega)⟩

theorem RekeyBody.rewritten_iff {body : RekeyBody}
    (parsed : RekeyBody.deserialize buf 48 = .ok body) :
    Rewritten buf body.serialize ↔ RekeyBody.Tight buf := by
  rw [RekeyBody.deserialize] at parsed
  split at parsed
  · cases parsed
  obtain ⟨cluster_id,cluster_read,parsed⟩ := Result.bind_ok.mp parsed
  obtain ⟨version,version_read,parsed⟩ := Result.bind_ok.mp parsed
  obtain ⟨reason,reason_read,parsed⟩ := Result.bind_ok.mp parsed
  obtain ⟨mtk_len,length_read,parsed⟩ := Result.bind_ok.mp parsed
  obtain ⟨timestamp_us,time_read,parsed⟩ := Result.bind_ok.mp parsed
  obtain ⟨rekey_nonce,nonce_read,parsed⟩ := Result.bind_ok.mp parsed
  dsimp only at parsed
  split at parsed
  · cases parsed
  obtain ⟨mtk_bytes,mtk_read,parsed⟩ := Result.bind_ok.mp parsed
  cases parsed
  obtain ⟨size,held⟩ := read_holds mtk_read
  obtain ⟨written,toBytes⟩ := toBytes_natural (Int.natCast_nonneg (BigEndian.decode mtk_bytes))
  rw [RekeyBody.Tight,lengthField_read length_read,bytesAt_read mtk_read,
    RekeyBody.serialize_written toBytes,rewritten_ok,RekeyBody.length_fields]
  simp only [RekeyBody.fields,ByteLayout.holds_flatten_cons,length_writeU32BE,length_writeU64BE,
    Vector.length_toList,List.length_replicate,List.length_singleton,length_holds_iff length_read]
  rw [length_kept_iff size toBytes]
  constructor
  · rintro ⟨total,-,-,-,reserved,minimal,-⟩
    refine ⟨?_,reserved,minimal⟩
    rw [total,(written_eq_iff toBytes).mpr minimal,size]
    omega
  · rintro ⟨total,reserved,minimal⟩
    obtain rfl := (written_eq_iff toBytes).mpr minimal
    exact ⟨by omega,readU32BE_holds cluster_read,readU32BE_holds version_read,
      readU8_holds reason_read,reserved,minimal,readU64BE_holds time_read,
      readArray_holds nonce_read,held,ByteLayout.holds_nil.mpr (by omega)⟩

theorem MtkBody.rewritten_iff {body : MtkBody} (parsed : MtkBody.deserialize buf 48 = .ok body) :
    Rewritten buf body.serialize ↔ MtkBody.Tight buf := by
  rw [MtkBody.deserialize] at parsed
  split at parsed
  · cases parsed
  obtain ⟨cluster_id,cluster_read,parsed⟩ := Result.bind_ok.mp parsed
  obtain ⟨version,version_read,parsed⟩ := Result.bind_ok.mp parsed
  obtain ⟨timestamp_us,time_read,parsed⟩ := Result.bind_ok.mp parsed
  obtain ⟨mtk_len,mtk_length,parsed⟩ := Result.bind_ok.mp parsed
  obtain ⟨n_group_len,n_group_length,parsed⟩ := Result.bind_ok.mp parsed
  obtain ⟨nonce_len,nonce_length,parsed⟩ := Result.bind_ok.mp parsed
  dsimp only at parsed
  split at parsed
  · cases parsed
  obtain ⟨mtk_bytes,mtk_read,parsed⟩ := Result.bind_ok.mp parsed
  obtain ⟨n_group_bytes,n_group_read,parsed⟩ := Result.bind_ok.mp parsed
  rw [Result.ite_bind] at parsed
  obtain ⟨body_nonce,nonce_read,parsed⟩ := Result.bind_ok.mp parsed
  cases parsed
  obtain ⟨mtk_size,mtk_held⟩ := read_holds mtk_read
  obtain ⟨n_group_size,n_group_held⟩ := read_holds n_group_read
  obtain ⟨mtk_written,mtk_toBytes⟩ :=
    toBytes_natural (Int.natCast_nonneg (BigEndian.decode mtk_bytes))
  obtain ⟨n_group_written,n_group_toBytes⟩ :=
    toBytes_natural (Int.natCast_nonneg (BigEndian.decode n_group_bytes))
  rw [MtkBody.Tight,lengthField_read mtk_length,lengthField_read n_group_length,
    lengthField_read nonce_length,bytesAt_read mtk_read,bytesAt_read n_group_read,
    MtkBody.serialize_written mtk_toBytes n_group_toBytes,rewritten_ok,MtkBody.length_fields]
  simp only [MtkBody.fields,ByteLayout.holds_flatten_cons,length_writeU32BE,length_writeU64BE,
    length_holds_iff mtk_length,length_holds_iff n_group_length,length_holds_iff nonce_length]
  rw [length_kept_iff mtk_size mtk_toBytes,length_kept_iff n_group_size n_group_toBytes]
  constructor
  · rintro ⟨total,-,-,-,mtk_minimal,n_group_minimal,sixteen,-⟩
    refine ⟨?_,congrArg UInt32.toNat sixteen.symm,mtk_minimal,n_group_minimal⟩
    rw [total,(written_eq_iff mtk_toBytes).mpr mtk_minimal,
      (written_eq_iff n_group_toBytes).mpr n_group_minimal,mtk_size,n_group_size]
    omega
  · rintro ⟨total,sixteen,mtk_minimal,n_group_minimal⟩
    obtain rfl := (written_eq_iff mtk_toBytes).mpr mtk_minimal
    obtain rfl := (written_eq_iff n_group_toBytes).mpr n_group_minimal
    obtain rfl : 16 = nonce_len := UInt32.toNat_inj.mp sixteen.symm
    rw [if_pos (UInt32.le_refl 16)] at nonce_read
    have nonce_held := readArray_holds nonce_read
    rw [← mtk_size] at n_group_held nonce_held
    rw [← n_group_size] at nonce_held
    exact ⟨by omega,readU32BE_holds cluster_read,readU32BE_holds version_read,
      readU64BE_holds time_read,mtk_minimal,n_group_minimal,rfl,mtk_held,n_group_held,nonce_held,
      ByteLayout.holds_nil.mpr (by simp; omega)⟩

end Bodies

section Packets

variable {crypto : Primitives} {key : HmacKey} {wire : ByteBuffer}

theorem canonical_iff_rewritten {header : BaseHeader}
    (parsed : readHeader (stripped wire) = .ok header) (serialized : Result ByteBuffer) :
    Canonical crypto key wire header (serialized >>= fun body_buf =>
      pure (header.serialize ++ header.serializeNonce ++ body_buf)) ↔
      Hmac.Authentic crypto key wire ∧ Announced (stripped wire) ∧
        Rewritten (stripped wire) serialized := by
  cases serialized with
  | error failure =>
    refine iff_of_false ?_ ?_
    · rintro ⟨_,impossible,-⟩
      cases impossible
    · rintro ⟨-,-,_,impossible,-⟩
      cases impossible
  | ok body_buf =>
    rw [rewritten_ok]
    exact canonical_iff parsed

theorem MtkPacket.canonical_iff {pkt : MtkPacket}
    (parsed : MtkPacket.deserialize wire key = .ok pkt) :
    Canonical crypto key wire pkt.header pkt.serialize ↔ Hmac.Authentic crypto key wire ∧
      Announced (stripped wire) ∧ MtkBody.Tight (stripped wire) := by
  obtain ⟨-,front_read,body_read⟩ := MtkPacket.deserialize_ok parsed
  rw [stripped,← MtkBody.rewritten_iff body_read]
  exact canonical_iff_rewritten front_read _

theorem RekeyPacket.canonical_iff {pkt : RekeyPacket}
    (parsed : RekeyPacket.deserialize crypto wire key = .ok pkt) :
    Canonical crypto key wire pkt.header pkt.serialize ↔
      Announced (stripped wire) ∧ RekeyBody.Tight (stripped wire) := by
  rw [RekeyPacket.deserialize_verified] at parsed
  obtain ⟨⟨header,body⟩,verified,parsed⟩ := Result.bind_ok.mp parsed
  cases parsed
  obtain ⟨-,authentic,front_read,body_read⟩ := deserializeVerified_ok verified
  rw [stripped,← RekeyBody.rewritten_iff body_read]
  exact (canonical_iff_rewritten front_read _).trans (and_iff_right authentic)

theorem DataPacket.canonical_iff {pkt : DataPacket}
    (parsed : DataPacket.deserialize crypto wire key = .ok pkt) :
    Canonical crypto key wire pkt.header (.ok pkt.serialize) ↔
      Announced (stripped wire) ∧ DataBody.Tight (stripped wire) := by
  obtain ⟨⟨header,body⟩,verified,parsed⟩ := Result.bind_ok.mp parsed
  cases parsed
  obtain ⟨-,authentic,front_read,body_read⟩ := deserializeVerified_ok verified
  have rewritten : Canonical crypto key wire header (.ok (DataPacket.serialize { header, body })) ↔
      _ := canonical_iff_rewritten front_read (.ok body.serialize)
  rw [stripped,← DataBody.rewritten_iff body_read]
  exact rewritten.trans (and_iff_right authentic)

theorem Canonical.unique {other : ByteBuffer} {header : BaseHeader} {serialized : Result ByteBuffer}
    (one : Canonical crypto key wire header serialized)
    (two : Canonical crypto key other header serialized) : wire = other := by
  obtain ⟨packet,written,tagged,-⟩ := one
  obtain ⟨again,written_again,tagged_again,-⟩ := two
  cases written.symm.trans written_again
  exact tagged.symm.trans tagged_again

end Packets

/-- An accepted packet is canonical if and only if its bytes that no parser looks at are those that
are written, and canonical packets with the same content are the same bytes. -/
theorem accepted_canonical_iff (crypto : Primitives) (key : HmacKey) (wire : ByteBuffer) :
    (∀ pkt, MtkPacket.deserialize wire key = .ok pkt →
      (Canonical crypto key wire pkt.header pkt.serialize ↔ Hmac.Authentic crypto key wire ∧
        Announced (stripped wire) ∧ MtkBody.Tight (stripped wire))) ∧
    (∀ pkt, RekeyPacket.deserialize crypto wire key = .ok pkt →
      (Canonical crypto key wire pkt.header pkt.serialize ↔
        Announced (stripped wire) ∧ RekeyBody.Tight (stripped wire))) ∧
    (∀ pkt, DataPacket.deserialize crypto wire key = .ok pkt →
      (Canonical crypto key wire pkt.header (.ok pkt.serialize) ↔
        Announced (stripped wire) ∧ DataBody.Tight (stripped wire))) ∧
    ∀ other header serialized, Canonical crypto key wire header serialized →
      Canonical crypto key other header serialized → wire = other := by
  refine ⟨?_,?_,?_,?_⟩
  · intro pkt parsed
    exact MtkPacket.canonical_iff parsed
  · intro pkt parsed
    exact RekeyPacket.canonical_iff parsed
  · intro pkt parsed
    exact DataPacket.canonical_iff parsed
  · intro other header serialized one two
    exact one.unique two

def rekeyKey : HmacKey := Vector.replicate 32 7

def sampleRekey : RekeyPacket where
  header := { packet_type := .rekeyPacket, payload_len := 41, cluster_id := 1 }
  body := { cluster_id := 1, version := 2, reason := ⟨0x01⟩, mtk := 5, timestamp_us := 3000000 }

/-- The sample with these reserved bytes, this token and these bytes after it. -/
def rekeyWire (reserved mtk_bytes trailing : ByteBuffer) : ByteBuffer :=
  Hmac.appendHmac maskingCrypto rekeyKey (sampleRekey.header.serialize ++
    sampleRekey.header.serializeNonce ++ [writeU32BE 1,writeU32BE 2,[0x01],reserved,
      writeU32BE (UInt32.ofNat mtk_bytes.length),writeU64BE 3000000,zeroNonce.toList,mtk_bytes,
      trailing].flatten)

theorem sampleRekey_canonical : Canonical maskingCrypto rekeyKey (rekeyWire [0,0,0] [5] [])
    sampleRekey.header sampleRekey.serialize := by
  have parsed : RekeyPacket.deserialize maskingCrypto (rekeyWire [0,0,0] [5] []) rekeyKey =
      .ok sampleRekey := by decide +kernel
  exact ((accepted_canonical_iff maskingCrypto rekeyKey (rekeyWire [0,0,0] [5] [])).2.1 sampleRekey
    parsed).mpr (by decide +kernel)

/-- Accepted as the sample, without being its bytes. -/
def Alias (other : ByteBuffer) : Prop :=
  RekeyPacket.deserialize maskingCrypto other rekeyKey = .ok sampleRekey ∧
    other ≠ rekeyWire [0,0,0] [5] [] ∧
    ¬ Canonical maskingCrypto rekeyKey other sampleRekey.header sampleRekey.serialize

theorem alias_of_loose {other : ByteBuffer}
    (parsed : RekeyPacket.deserialize maskingCrypto other rekeyKey = .ok sampleRekey)
    (different : other ≠ rekeyWire [0,0,0] [5] [])
    (loose : ¬ (Announced (stripped other) ∧ RekeyBody.Tight (stripped other))) : Alias other :=
  ⟨parsed,different,fun canonical => loose ((RekeyPacket.canonical_iff parsed).mp canonical)⟩

/-- A reserved byte, a leading zero of the token and a byte after it: each gives another buffer
that is accepted as the same packet. -/
theorem rekey_bytes_ignored :
    RekeyPacket.deserialize maskingCrypto (rekeyWire [0,0,0] [5] []) rekeyKey = .ok sampleRekey ∧
    Alias (rekeyWire [1,0,0] [5] []) ∧ Alias (rekeyWire [0,0,0] [0,5] []) ∧
    Alias (rekeyWire [0,0,0] [5] [7]) := by
  refine ⟨by decide +kernel,?_,?_,?_⟩
  · exact alias_of_loose (by decide +kernel) (by decide +kernel) (by decide +kernel)
  · exact alias_of_loose (by decide +kernel) (by decide +kernel) (by decide +kernel)
  · exact alias_of_loose (by decide +kernel) (by decide +kernel) (by decide +kernel)

end Packet
end UavFanet
