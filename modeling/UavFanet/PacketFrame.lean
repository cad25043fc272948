import UavFanet.ControlPackets

/-! How the six packet types are parsed: header, nonce and body in front of a 32 byte tag.
Which buffers each parser accepts. -/
namespace UavFanet

/-- The last 32 bytes are the HMAC of those before them. -/
def Hmac.Authentic (crypto : Primitives) (key : HmacKey) (wire : ByteBuffer) : Prop :=
  32 ≤ wire.length ∧ verify crypto key (wire.take (wire.length-32)) (wire.drop (wire.length-32)) = true

instance (crypto : Primitives) (key : HmacKey) (wire : ByteBuffer) :
    Decidable (Hmac.Authentic crypto key wire) := inferInstanceAs (Decidable (_ ∧ _))

theorem Hmac.stripAndVerifyHmac_ok {crypto : Primitives} {key : HmacKey} {wire buf : ByteBuffer} :
    stripAndVerifyHmac crypto key wire = .ok buf ↔
      Authentic crypto key wire ∧ buf = wire.take (wire.length-32) := by
  unfold stripAndVerifyHmac Authentic
  split
  · constructor
    · intro impossible
      cases impossible
    · rintro ⟨⟨long,-⟩,-⟩
      omega
  · simp only
    split
    · rename_i verified
      constructor
      · intro same
        cases same
        exact ⟨⟨by omega,verified⟩,rfl⟩
      · rintro ⟨-,rfl⟩
        rfl
    · rename_i refused
      constructor
      · intro impossible
        cases impossible
      · rintro ⟨⟨-,verified⟩,-⟩
        exact absurd verified refused

namespace Packet
open Library UavFanet.ByteUtils UavFanet.Replay

/-- The header of a packet with its nonce, the 48 bytes in front of the body. -/
def readHeader (buf : ByteBuffer) : Result BaseHeader := do
  let header ← BaseHeader.deserialize buf 0
  header.deserializeNonce buf 32

/-- The part that five of the parsers share. -/
def deserializeVerified {Body : Type} (crypto : Primitives) (min_wire : Nat) (too_small : Nat → String)
    (body : ByteBuffer → Nat → Result Body) (wire : ByteBuffer) (hmac_key : HmacKey) :
    Result (BaseHeader × Body) := do
  if wire.length < min_wire then
    .error (.serializationException (too_small wire.length))
  let buf ← Hmac.stripAndVerifyHmac crypto hmac_key wire
  let header ← readHeader buf
  let body ← body buf 48
  return (header,body)

def AuthPacket.deserialize (crypto : Primitives) (wire : ByteBuffer) (hmac_key : HmacKey) :
    Result AuthPacket := do
  let (header,body) ← deserializeVerified crypto 128
    (fun size => "AuthPacket::Deserialize: too small (" ++ toString size ++ " < 128)")
    AuthBody.deserialize wire hmac_key
  return { header, body }

def JoinPacket.deserialize (crypto : Primitives) (wire : ByteBuffer) (hmac_key : HmacKey) :
    Result JoinPacket := do
  let (header,body) ← deserializeVerified crypto 136
    (fun size => "JoinPacket::Deserialize: too small (" ++ toString size ++ ")")
    JoinBody.deserialize wire hmac_key
  return { header, body }

def HandoverPacket.deserialize (crypto : Primitives) (wire : ByteBuffer) (hmac_key : HmacKey) :
    Result HandoverPacket := do
  let (header,body) ← deserializeVerified crypto 144
    (fun size => "HandoverPacket::Deserialize: too small (" ++ toString size ++ ")")
    HandoverBody.deserialize wire hmac_key
  return { header, body }

def DataBody.deserialize (buf : ByteBuffer) (offset : Nat) : Result DataBody := do
  if buf.length < offset+56 then
    .error (.serializationException
      ("DataBody::Deserialize: buffer too small (" ++ toString buf.length ++ ")"))
  let cluster_id ← readU32BE buf offset
  let data_sequence ← readU32BE buf (offset+4)
  let timestamp_us ← readU64BE buf (offset+8)
  let plaintext_len ← readU32BE buf (offset+16)
  let ct_len ← readU32BE buf (offset+20)
  let aes_iv ← readArray 12 buf (offset+24)
  let aes_tag ← readArray 16 buf (offset+40)
  let ct_offset := offset+56
  if buf.length < ct_offset+ct_len.toNat then
    .error (.serializationException "DataBody::Deserialize: truncated ciphertext")
  let ciphertext ← read buf ct_offset ct_len.toNat
  return { cluster_id, data_sequence, timestamp_us, plaintext_len, aes_iv, aes_tag, ciphertext }

def DataPacket.deserialize (crypto : Primitives) (wire : ByteBuffer) (hmac_key : HmacKey) :
    Result DataPacket := do
  let (header,body) ← deserializeVerified crypto 136
    (fun size => "DataPacket::Deserialize: too small (" ++ toString size ++ ")")
    DataBody.deserialize wire hmac_key
  return { header, body }

/-- The key is not used: the tag is cut off unread. -/
def MtkPacket.deserialize (wire : ByteBuffer) (_hmac_key : HmacKey) : Result MtkPacket := do
  if wire.length < 108 then
    .error (.serializationException
      ("MtkPacket::Deserialize: packet too small (" ++ toString wire.length ++ " < 108)"))
  let buf := wire.take (wire.length-32)
  let header ← readHeader buf
  let body ← MtkBody.deserialize buf 48
  return { header, body }

theorem RekeyPacket.deserialize_verified (crypto : Primitives) (wire : ByteBuffer)
    (hmac_key : HmacKey) : RekeyPacket.deserialize crypto wire hmac_key = (do
      let (header,body) ← deserializeVerified crypto 120
        (fun size => "RekeyPacket::Deserialize: too small (" ++ toString size ++ ")")
        RekeyBody.deserialize wire hmac_key
      return { header, body }) := by
  unfold RekeyPacket.deserialize deserializeVerified readHeader
  split
  · rfl
  · simp only [bind_assoc,pure_bind]

theorem readHeader_within {buf : ByteBuffer} (within : 48 ≤ buf.length)
    (genuine : readU16BE buf 0 = .ok packetMagic) : ∃ header, readHeader buf = .ok header := by
  obtain ⟨header,parsed⟩ := BaseHeader.deserialize_within buf 0 (by omega) genuine
  obtain ⟨nonce,whole⟩ := header.deserializeNonce_within buf 32 (by omega)
  rw [readHeader,parsed,Result.ok_bind,whole]
  exact ⟨_,rfl⟩

theorem readHeader_take {buf : ByteBuffer} {size : Nat} (within : 48 ≤ size)
    (long : size ≤ buf.length) : readHeader (buf.take size) = readHeader buf := by
  rw [readHeader,BaseHeader.deserialize_take buf (by omega) long,readHeader]
  simp only [BaseHeader.deserializeNonce_take _ buf (show 32+16 ≤ size by omega) long]

theorem readHeader_serialize {header : BaseHeader} (genuine : header.magic = packetMagic)
    (rest : ByteBuffer) :
    readHeader (header.serialize ++ header.serializeNonce ++ rest) = .ok header := by
  rw [readHeader,List.append_assoc,BaseHeader.deserialize_serialize genuine,Result.ok_bind,
    BaseHeader.deserializeNonce_serialize]

/-- A `u32` that a body keeps its own lengths in. -/
def lengthField (buf : ByteBuffer) (offset : Nat) : Nat :=
  match readU32BE buf offset with
  | .ok length => length.toNat
  | .error _ => 0

theorem lengthField_take (buf : ByteBuffer) {offset size : Nat} (within : offset+4 ≤ size) :
    lengthField (buf.take size) offset = lengthField buf offset := by
  rw [lengthField,readU32BE_take buf within,lengthField]

section Bodies

variable {buf : ByteBuffer} {offset : Nat}

theorem AuthBody.deserialize_accepts :
    (∃ body, AuthBody.deserialize buf offset = .ok body) ↔ offset+48 ≤ buf.length := by
  by_cases short : buf.length < offset+48
  · rw [AuthBody.deserialize,if_pos short]
    exact Result.refuses (by omega)
  · obtain ⟨auth_type,type_read⟩ := readU8_within buf offset (by omega)
    obtain ⟨status,status_read⟩ := readU8_within buf (offset+1) (by omega)
    obtain ⟨uav_id,uav_read⟩ := readU16BE_within buf (offset+2) (by omega)
    obtain ⟨skdc_id,skdc_read⟩ := readU16BE_within buf (offset+4) (by omega)
    obtain ⟨cluster_id,cluster_read⟩ :=
      readU16BE_within buf (offset+6) (by omega)
    obtain ⟨challenge,challenge_read⟩ :=
      readArray_within (n := 16) buf (offset+8) (by omega)
    obtain ⟨response,response_read⟩ :=
      readArray_within (n := 16) buf (offset+24) (by omega)
    obtain ⟨timestamp_us,time_read⟩ :=
      readU64BE_within buf (offset+40) (by omega)
    rw [AuthBody.deserialize,if_neg short]
    simp only [type_read,status_read,uav_read,skdc_read,cluster_read,challenge_read,response_read,
      time_read,Result.ok_bind]
    exact Result.accepts (by omega)

theorem JoinBody.deserialize_accepts :
    (∃ body, JoinBody.deserialize buf offset = .ok body) ↔ offset+56 ≤ buf.length := by
  by_cases short : buf.length < offset+56
  · rw [JoinBody.deserialize,if_pos short]
    exact Result.refuses (by omega)
  · obtain ⟨join_type,type_read⟩ := readU8_within buf offset (by omega)
    obtain ⟨reserved,reserved_read⟩ := readU8_within buf (offset+1) (by omega)
    obtain ⟨uav_id,uav_read⟩ := readU16BE_within buf (offset+2) (by omega)
    obtain ⟨skdc_id,skdc_read⟩ := readU16BE_within buf (offset+4) (by omega)
    obtain ⟨cluster_id,cluster_read⟩ :=
      readU16BE_within buf (offset+6) (by omega)
    obtain ⟨identity,identity_read⟩ :=
      readArray_within (n := 16) buf (offset+8) (by omega)
    obtain ⟨join_nonce,nonce_read⟩ :=
      readArray_within (n := 16) buf (offset+24) (by omega)
    obtain ⟨timestamp_us,time_read⟩ :=
      readU64BE_within buf (offset+40) (by omega)
    obtain ⟨uav_index,index_read⟩ := readU32BE_within buf (offset+48) (by omega)
    obtain ⟨version,version_read⟩ := readU32BE_within buf (offset+52) (by omega)
    rw [JoinBody.deserialize,if_neg short]
    simp only [type_read,reserved_read,uav_read,skdc_read,cluster_read,identity_read,nonce_read,
      time_read,index_read,version_read,Result.ok_bind]
    exact Result.accepts (by omega)

theorem HandoverBody.deserialize_accepts :
    (∃ body, HandoverBody.deserialize buf offset = .ok body) ↔ offset+64 ≤ buf.length := by
  by_cases short : buf.length < offset+64
  · rw [HandoverBody.deserialize,if_pos short]
    exact Result.refuses (by omega)
  · obtain ⟨phase,phase_read⟩ := readU8_within buf offset (by omega)
    obtain ⟨reserved,reserved_read⟩ := readU8_within buf (offset+1) (by omega)
    obtain ⟨uav_id,uav_read⟩ := readU16BE_within buf (offset+2) (by omega)
    obtain ⟨old_cluster_id,old_read⟩ :=
      readU16BE_within buf (offset+4) (by omega)
    obtain ⟨new_cluster_id,new_read⟩ :=
      readU16BE_within buf (offset+6) (by omega)
    obtain ⟨old_skdc_id,old_skdc_read⟩ :=
      readU16BE_within buf (offset+8) (by omega)
    obtain ⟨new_skdc_id,new_skdc_read⟩ :=
      readU16BE_within buf (offset+10) (by omega)
    obtain ⟨old_version,old_version_read⟩ :=
      readU32BE_within buf (offset+12) (by omega)
    obtain ⟨new_version,new_version_read⟩ :=
      readU32BE_within buf (offset+16) (by omega)
    obtain ⟨timestamp_us,time_read⟩ :=
      readU64BE_within buf (offset+20) (by omega)
    obtain ⟨ho_nonce,nonce_read⟩ :=
      readArray_within (n := 16) buf (offset+28) (by omega)
    obtain ⟨uav_index_old,index_old_read⟩ :=
      readU32BE_within buf (offset+44) (by omega)
    obtain ⟨uav_index_new,index_new_read⟩ :=
      readU32BE_within buf (offset+48) (by omega)
    obtain ⟨reserved2,reserved2_read⟩ :=
      readArray_within (n := 12) buf (offset+52) (by omega)
    rw [HandoverBody.deserialize,if_neg short]
    simp only [phase_read,reserved_read,uav_read,old_read,new_read,old_skdc_read,new_skdc_read,
      old_version_read,new_version_read,time_read,nonce_read,index_old_read,index_new_read,
      reserved2_read,Result.ok_bind]
    exact Result.accepts (by omega)

theorem RekeyBody.deserialize_accepts : (∃ body, RekeyBody.deserialize buf offset = .ok body) ↔
    offset+40+lengthField buf (offset+12) ≤ buf.length := by
  by_cases short : buf.length < offset+40
  · rw [RekeyBody.deserialize,if_pos short]
    exact Result.refuses (by omega)
  · obtain ⟨cluster_id,cluster_read⟩ := readU32BE_within buf offset (by omega)
    obtain ⟨version,version_read⟩ := readU32BE_within buf (offset+4) (by omega)
    obtain ⟨reason,reason_read⟩ := readU8_within buf (offset+8) (by omega)
    obtain ⟨mtk_len,length_read⟩ := readU32BE_within buf (offset+12) (by omega)
    obtain ⟨timestamp_us,time_read⟩ :=
      readU64BE_within buf (offset+16) (by omega)
    obtain ⟨rekey_nonce,nonce_read⟩ :=
      readArray_within (n := 16) buf (offset+24) (by omega)
    rw [RekeyBody.deserialize,if_neg short,lengthField]
    simp only [cluster_read,version_read,reason_read,length_read,time_read,nonce_read,Result.ok_bind]
    by_cases truncated : buf.length < offset+40+mtk_len.toNat
    · rw [if_pos truncated]
      exact Result.refuses (by omega)
    · obtain ⟨mtk_bytes,mtk_read⟩ :=
        read_within buf (offset+40) (mtk_len.toNat) (by omega)
      rw [if_neg truncated]
      simp only [mtk_read,Result.ok_bind]
      exact Result.accepts (by omega)

theorem DataBody.deserialize_accepts : (∃ body, DataBody.deserialize buf offset = .ok body) ↔
    offset+56+lengthField buf (offset+20) ≤ buf.length := by
  by_cases short : buf.length < offset+56
  · rw [DataBody.deserialize,if_pos short]
    exact Result.refuses (by omega)
  · obtain ⟨cluster_id,cluster_read⟩ := readU32BE_within buf offset (by omega)
    obtain ⟨data_sequence,seq_read⟩ :=
      readU32BE_within buf (offset+4) (by omega)
    obtain ⟨timestamp_us,time_read⟩ :=
      readU64BE_within buf (offset+8) (by omega)
    obtain ⟨plaintext_len,plain_read⟩ :=
      readU32BE_within buf (offset+16) (by omega)
    obtain ⟨ct_len,length_read⟩ := readU32BE_within buf (offset+20) (by omega)
    obtain ⟨aes_iv,iv_read⟩ :=
      readArray_within (n := 12) buf (offset+24) (by omega)
    obtain ⟨aes_tag,tag_read⟩ :=
      readArray_within (n := 16) buf (offset+40) (by omega)
    rw [DataBody.deserialize,if_neg short,lengthField]
    simp only [cluster_read,seq_read,time_read,plain_read,length_read,iv_read,tag_read,Result.ok_bind]
    by_cases truncated : buf.length < offset+56+ct_len.toNat
    · rw [if_pos truncated]
      exact Result.refuses (by omega)
    · obtain ⟨ciphertext,ct_read⟩ :=
        read_within buf (offset+56) (ct_len.toNat) (by omega)
      rw [if_neg truncated]
      simp only [ct_read,Result.ok_bind]
      exact Result.accepts (by omega)

theorem MtkBody.deserialize_accepts : (∃ body, MtkBody.deserialize buf offset = .ok body) ↔
    offset+28+(lengthField buf (offset+16)+lengthField buf (offset+20)+
      lengthField buf (offset+24)) ≤ buf.length := by
  by_cases short : buf.length < offset+28
  · rw [MtkBody.deserialize,if_pos short]
    exact Result.refuses (by omega)
  · obtain ⟨cluster_id,cluster_read⟩ := readU32BE_within buf offset (by omega)
    obtain ⟨version,version_read⟩ := readU32BE_within buf (offset+4) (by omega)
    obtain ⟨timestamp_us,time_read⟩ :=
      readU64BE_within buf (offset+8) (by omega)
    obtain ⟨mtk_len,mtk_length⟩ := readU32BE_within buf (offset+16) (by omega)
    obtain ⟨n_group_len,group_length⟩ :=
      readU32BE_within buf (offset+20) (by omega)
    obtain ⟨nonce_len,nonce_length⟩ :=
      readU32BE_within buf (offset+24) (by omega)
    rw [MtkBody.deserialize,if_neg short,lengthField,lengthField,lengthField]
    simp only [cluster_read,version_read,time_read,mtk_length,group_length,nonce_length,
      Result.ok_bind]
    by_cases truncated :
        buf.length < offset+28+mtk_len.toNat+n_group_len.toNat+nonce_len.toNat
    · rw [if_pos truncated]
      exact Result.refuses (by omega)
    · obtain ⟨mtk_bytes,mtk_read⟩ :=
        read_within buf (offset+28) (mtk_len.toNat) (by omega)
      obtain ⟨n_group_bytes,group_read⟩ := read_within buf (offset+28+mtk_len.toNat) (n_group_len.toNat) (by omega)
      rw [if_neg truncated]
      simp only [mtk_read,group_read,Result.ok_bind]
      split
      · rename_i present
        have room : 16 ≤ nonce_len.toNat := UInt32.le_iff_toNat_le.mp present
        obtain ⟨body_nonce,nonce_read⟩ := readArray_within (n := 16) buf
          (offset+28+mtk_len.toNat+n_group_len.toNat) (by omega)
        rw [nonce_read]
        exact Result.accepts (by omega)
      · exact Result.accepts (by omega)

end Bodies

section Packets

variable {crypto : Primitives} {wire : ByteBuffer} {key : HmacKey}

theorem deserializeVerified_ok {Body : Type} {min_wire : Nat} {too_small : Nat → String}
    {body : ByteBuffer → Nat → Result Body} {header : BaseHeader} {value : Body}
    (parsed : deserializeVerified crypto min_wire too_small body wire key = .ok (header,value)) :
    min_wire ≤ wire.length ∧ Hmac.Authentic crypto key wire ∧
      readHeader (wire.take (wire.length-32)) = .ok header ∧
      body (wire.take (wire.length-32)) 48 = .ok value := by
  rw [deserializeVerified] at parsed
  split at parsed
  · cases parsed
  obtain ⟨buf,verified,parsed⟩ := Result.bind_ok.mp parsed
  obtain ⟨front,front_read,parsed⟩ := Result.bind_ok.mp parsed
  obtain ⟨last,body_read,parsed⟩ := Result.bind_ok.mp parsed
  cases parsed
  obtain ⟨authentic,rfl⟩ := Hmac.stripAndVerifyHmac_ok.mp verified
  exact ⟨by omega,authentic,front_read,body_read⟩

theorem deserializeVerified_header {Body : Type} {min_wire : Nat} {too_small : Nat → String}
    {body : ByteBuffer → Nat → Result Body} {header : BaseHeader} {value : Body}
    (room : 80 ≤ min_wire)
    (parsed : deserializeVerified crypto min_wire too_small body wire key = .ok (header,value)) :
    readHeader wire = .ok header := by
  obtain ⟨long,-,front_read,-⟩ := deserializeVerified_ok parsed
  rwa [readHeader_take (by omega) (by omega)] at front_read

theorem AuthPacket.deserialize_header {pkt : AuthPacket}
    (parsed : AuthPacket.deserialize crypto wire key = .ok pkt) : readHeader wire = .ok pkt.header := by
  obtain ⟨⟨header,body⟩,verified,last⟩ := Result.bind_ok.mp parsed
  cases last
  exact deserializeVerified_header (by omega) verified

theorem JoinPacket.deserialize_header {pkt : JoinPacket}
    (parsed : JoinPacket.deserialize crypto wire key = .ok pkt) : readHeader wire = .ok pkt.header := by
  obtain ⟨⟨header,body⟩,verified,last⟩ := Result.bind_ok.mp parsed
  cases last
  exact deserializeVerified_header (by omega) verified

theorem HandoverPacket.deserialize_header {pkt : HandoverPacket}
    (parsed : HandoverPacket.deserialize crypto wire key = .ok pkt) :
    readHeader wire = .ok pkt.header := by
  obtain ⟨⟨header,body⟩,verified,last⟩ := Result.bind_ok.mp parsed
  cases last
  exact deserializeVerified_header (by omega) verified

theorem RekeyPacket.deserialize_header {pkt : RekeyPacket}
    (parsed : RekeyPacket.deserialize crypto wire key = .ok pkt) :
    readHeader wire = .ok pkt.header := by
  rw [RekeyPacket.deserialize_verified] at parsed
  obtain ⟨⟨header,body⟩,verified,last⟩ := Result.bind_ok.mp parsed
  cases last
  exact deserializeVerified_header (by omega) verified

theorem DataPacket.deserialize_header {pkt : DataPacket}
    (parsed : DataPacket.deserialize crypto wire key = .ok pkt) : readHeader wire = .ok pkt.header := by
  obtain ⟨⟨header,body⟩,verified,last⟩ := Result.bind_ok.mp parsed
  cases last
  exact deserializeVerified_header (by omega) verified

theorem MtkPacket.deserialize_ok {pkt : MtkPacket}
    (parsed : MtkPacket.deserialize wire key = .ok pkt) :
    108 ≤ wire.length ∧ readHeader (wire.take (wire.length-32)) = .ok pkt.header ∧
      MtkBody.deserialize (wire.take (wire.length-32)) 48 = .ok pkt.body := by
  rw [MtkPacket.deserialize] at parsed
  split at parsed
  · cases parsed
  obtain ⟨header,front_read,parsed⟩ := Result.bind_ok.mp parsed
  obtain ⟨body,body_read,parsed⟩ := Result.bind_ok.mp parsed
  cases parsed
  exact ⟨by omega,front_read,body_read⟩

theorem MtkPacket.deserialize_header {pkt : MtkPacket}
    (parsed : MtkPacket.deserialize wire key = .ok pkt) : readHeader wire = .ok pkt.header := by
  obtain ⟨long,front_read,-⟩ := MtkPacket.deserialize_ok parsed
  rwa [readHeader_take (by omega) (by omega)] at front_read

/-- A parser that verifies accepts the authentic buffers that are as long as they announce. -/
theorem deserializeVerified_accepts {Body : Type} {min_wire : Nat} {too_small : Nat → String}
    {body : ByteBuffer → Nat → Result Body} (announced : ByteBuffer → Nat)
    (genuine : readU16BE wire 0 = .ok packetMagic) (room : 80 ≤ min_wire)
    (fits : ∀ buf, (∃ value, body buf 48 = .ok value) ↔ min_wire-32+announced buf ≤ buf.length)
    (local_lengths : ∀ size, min_wire-32 ≤ size → announced (wire.take size) = announced wire) :
    (∃ parsed, deserializeVerified crypto min_wire too_small body wire key = .ok parsed) ↔
      min_wire+announced wire ≤ wire.length ∧ Hmac.Authentic crypto key wire := by
  by_cases short : wire.length < min_wire
  · rw [deserializeVerified,if_pos short]
    exact Result.refuses (by omega)
  rw [deserializeVerified,if_neg short]
  by_cases authentic : Hmac.Authentic crypto key wire
  · have stripped := Hmac.stripAndVerifyHmac_ok.mpr ⟨authentic,rfl⟩
    have stripped_size : (wire.take (wire.length-32)).length = wire.length-32 :=
      List.length_take_of_le (by omega)
    have magic : readU16BE (wire.take (wire.length-32)) 0 = .ok packetMagic := by
      rwa [readU16BE_take wire (by omega)]
    obtain ⟨header,front_read⟩ := readHeader_within (by omega) magic
    simp only [stripped,front_read,Result.ok_bind]
    rw [Result.bind_pure_accepts,fits,stripped_size,local_lengths _ (by omega)]
    exact ⟨fun _ => ⟨by omega,authentic⟩,fun _ => by omega⟩
  · cases stripped : Hmac.stripAndVerifyHmac crypto key wire with
    | error failure => exact Result.refuses (fun ⟨_,verified⟩ => authentic verified)
    | ok buf => exact absurd (Hmac.stripAndVerifyHmac_ok.mp stripped).1 authentic

variable (genuine : readU16BE wire 0 = .ok packetMagic)
include genuine

theorem AuthPacket.deserialize_accepts :
    (∃ pkt, AuthPacket.deserialize crypto wire key = .ok pkt) ↔
      128 ≤ wire.length ∧ Hmac.Authentic crypto key wire := by
  unfold AuthPacket.deserialize
  rw [Result.bind_pure_accepts]
  exact deserializeVerified_accepts (fun _ => 0) genuine (by omega)
    (fun buf => AuthBody.deserialize_accepts) (fun _ _ => rfl)

theorem JoinPacket.deserialize_accepts :
    (∃ pkt, JoinPacket.deserialize crypto wire key = .ok pkt) ↔
      136 ≤ wire.length ∧ Hmac.Authentic crypto key wire := by
  unfold JoinPacket.deserialize
  rw [Result.bind_pure_accepts]
  exact deserializeVerified_accepts (fun _ => 0) genuine (by omega)
    (fun buf => JoinBody.deserialize_accepts) (fun _ _ => rfl)

theorem HandoverPacket.deserialize_accepts :
    (∃ pkt, HandoverPacket.deserialize crypto wire key = .ok pkt) ↔
      144 ≤ wire.length ∧ Hmac.Authentic crypto key wire := by
  unfold HandoverPacket.deserialize
  rw [Result.bind_pure_accepts]
  exact deserializeVerified_accepts (fun _ => 0) genuine (by omega)
    (fun buf => HandoverBody.deserialize_accepts) (fun _ _ => rfl)

theorem RekeyPacket.deserialize_accepts :
    (∃ pkt, RekeyPacket.deserialize crypto wire key = .ok pkt) ↔
      120+lengthField wire 60 ≤ wire.length ∧ Hmac.Authentic crypto key wire := by
  rw [RekeyPacket.deserialize_verified,Result.bind_pure_accepts]
  exact deserializeVerified_accepts (fun buf => lengthField buf 60) genuine (by omega)
    (fun buf => RekeyBody.deserialize_accepts) (fun _ _ => lengthField_take wire (by omega))

theorem DataPacket.deserialize_accepts :
    (∃ pkt, DataPacket.deserialize crypto wire key = .ok pkt) ↔
      136+lengthField wire 68 ≤ wire.length ∧ Hmac.Authentic crypto key wire := by
  unfold DataPacket.deserialize
  rw [Result.bind_pure_accepts]
  exact deserializeVerified_accepts (fun buf => lengthField buf 68) genuine (by omega)
    (fun buf => DataBody.deserialize_accepts) (fun _ _ => lengthField_take wire (by omega))

/-- The one parser for which the tag may be anything. -/
theorem MtkPacket.deserialize_accepts :
    (∃ pkt, MtkPacket.deserialize wire key = .ok pkt) ↔
      108+(lengthField wire 64+lengthField wire 68+lengthField wire 72) ≤ wire.length := by
  by_cases short : wire.length < 108
  · rw [MtkPacket.deserialize,if_pos short]
    exact Result.refuses (by omega)
  · have stripped_size : (wire.take (wire.length-32)).length = wire.length-32 :=
      List.length_take_of_le (by omega)
    obtain ⟨header,front_read⟩ := readHeader_within (by omega) genuine
    rw [MtkPacket.deserialize,if_neg short]
    simp only [readHeader_take (show 48 ≤ wire.length-32 by omega) (Nat.sub_le _ _),front_read,
      Result.ok_bind]
    have mtk_len : lengthField (wire.take (wire.length-32)) 64 = lengthField wire 64 :=
      lengthField_take wire (by omega)
    have n_group_len : lengthField (wire.take (wire.length-32)) 68 = lengthField wire 68 :=
      lengthField_take wire (by omega)
    have nonce_len : lengthField (wire.take (wire.length-32)) 72 = lengthField wire 72 :=
      lengthField_take wire (by omega)
    rw [Result.bind_pure_accepts,MtkBody.deserialize_accepts,stripped_size,mtk_len,n_group_len,
      nonce_len]
    omega

end Packets

end Packet
end UavFanet
