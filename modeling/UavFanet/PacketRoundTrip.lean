import UavFanet.PacketManager

/-! Decoding undoes encoding: every body, every packet under its tag and through `Dispatch`,
and the payload of a data packet. -/
namespace UavFanet.Packet
open Library UavFanet.ByteUtils UavFanet.Replay UavFanet.Apps

section Bodies

variable (front : ByteBuffer)

theorem AuthBody.deserialize_serialize (body : AuthBody) :
    AuthBody.deserialize (front ++ body.serialize) front.length = .ok body := by
  have layout : front ++ body.serialize = (front :: body.fields).flatten := rfl
  have long : ¬ (front ++ body.serialize).length < front.length+48 := by simp [serialize,fields]
  rw [deserialize,if_neg long,layout]
  have auth_type : readU8 (front :: body.fields).flatten front.length =
      .ok body.auth_type.raw := readU8_field (i := 1) (by simp [ByteLayout.offsetOf]) rfl
  have status : readU8 (front :: body.fields).flatten (front.length+1) =
      .ok body.status.raw := readU8_field (i := 2) (by simp [ByteLayout.offsetOf,fields]) rfl
  have uav_id : readU16BE (front :: body.fields).flatten (front.length+2) =
      .ok body.uav_id := readU16BE_field (i := 3) (by simp [ByteLayout.offsetOf,fields]) rfl
  have skdc_id : readU16BE (front :: body.fields).flatten (front.length+4) =
      .ok body.skdc_id := readU16BE_field (i := 4) (by simp [ByteLayout.offsetOf,fields]) rfl
  have cluster_id : readU16BE (front :: body.fields).flatten (front.length+6) =
      .ok body.cluster_id := readU16BE_field (i := 5) (by simp [ByteLayout.offsetOf,fields]) rfl
  have challenge : readArray 16 (front :: body.fields).flatten (front.length+8) =
      .ok body.challenge := readArray_field (i := 6) (by simp [ByteLayout.offsetOf,fields]) rfl
  have response : readArray 16 (front :: body.fields).flatten (front.length+24) =
      .ok body.response := readArray_field (i := 7) (by simp [ByteLayout.offsetOf,fields]) rfl
  have timestamp : readU64BE (front :: body.fields).flatten (front.length+40) =
      .ok body.timestamp_us := readU64BE_field (i := 8) (by simp [ByteLayout.offsetOf,fields]) rfl
  simp only [auth_type,status,uav_id,skdc_id,cluster_id,challenge,response,timestamp,Result.ok_bind]
  rfl

theorem JoinBody.deserialize_serialize (body : JoinBody) :
    JoinBody.deserialize (front ++ body.serialize) front.length = .ok body := by
  have layout : front ++ body.serialize = (front :: body.fields).flatten := rfl
  have long : ¬ (front ++ body.serialize).length < front.length+56 := by simp [serialize,fields]
  rw [deserialize,if_neg long,layout]
  have join_type : readU8 (front :: body.fields).flatten front.length =
      .ok body.join_type.raw := readU8_field (i := 1) (by simp [ByteLayout.offsetOf]) rfl
  have reserved : readU8 (front :: body.fields).flatten (front.length+1) =
      .ok body.reserved := readU8_field (i := 2) (by simp [ByteLayout.offsetOf,fields]) rfl
  have uav_id : readU16BE (front :: body.fields).flatten (front.length+2) =
      .ok body.uav_id := readU16BE_field (i := 3) (by simp [ByteLayout.offsetOf,fields]) rfl
  have skdc_id : readU16BE (front :: body.fields).flatten (front.length+4) =
      .ok body.skdc_id := readU16BE_field (i := 4) (by simp [ByteLayout.offsetOf,fields]) rfl
  have cluster_id : readU16BE (front :: body.fields).flatten (front.length+6) =
      .ok body.cluster_id := readU16BE_field (i := 5) (by simp [ByteLayout.offsetOf,fields]) rfl
  have identity : readArray 16 (front :: body.fields).flatten (front.length+8) =
      .ok body.identity := readArray_field (i := 6) (by simp [ByteLayout.offsetOf,fields]) rfl
  have join_nonce : readArray 16 (front :: body.fields).flatten (front.length+24) =
      .ok body.join_nonce := readArray_field (i := 7) (by simp [ByteLayout.offsetOf,fields]) rfl
  have timestamp : readU64BE (front :: body.fields).flatten (front.length+40) =
      .ok body.timestamp_us := readU64BE_field (i := 8) (by simp [ByteLayout.offsetOf,fields]) rfl
  have uav_index : readU32BE (front :: body.fields).flatten (front.length+48) =
      .ok body.uav_index := readU32BE_field (i := 9) (by simp [ByteLayout.offsetOf,fields]) rfl
  have version : readU32BE (front :: body.fields).flatten (front.length+52) =
      .ok body.version := readU32BE_field (i := 10) (by simp [ByteLayout.offsetOf,fields]) rfl
  simp only [join_type,reserved,uav_id,skdc_id,cluster_id,identity,join_nonce,timestamp,uav_index,
    version,Result.ok_bind]
  rfl

theorem HandoverBody.deserialize_serialize (body : HandoverBody) :
    HandoverBody.deserialize (front ++ body.serialize) front.length = .ok body := by
  have layout : front ++ body.serialize = (front :: body.fields).flatten := rfl
  have long : ¬ (front ++ body.serialize).length < front.length+64 := by simp [serialize,fields]
  rw [deserialize,if_neg long,layout]
  have phase : readU8 (front :: body.fields).flatten front.length =
      .ok body.phase.raw := readU8_field (i := 1) (by simp [ByteLayout.offsetOf]) rfl
  have reserved : readU8 (front :: body.fields).flatten (front.length+1) =
      .ok body.reserved := readU8_field (i := 2) (by simp [ByteLayout.offsetOf,fields]) rfl
  have uav_id : readU16BE (front :: body.fields).flatten (front.length+2) =
      .ok body.uav_id := readU16BE_field (i := 3) (by simp [ByteLayout.offsetOf,fields]) rfl
  have old_cluster : readU16BE (front :: body.fields).flatten (front.length+4) =
      .ok body.old_cluster_id := readU16BE_field (i := 4) (by simp [ByteLayout.offsetOf,fields]) rfl
  have new_cluster : readU16BE (front :: body.fields).flatten (front.length+6) =
      .ok body.new_cluster_id := readU16BE_field (i := 5) (by simp [ByteLayout.offsetOf,fields]) rfl
  have old_skdc : readU16BE (front :: body.fields).flatten (front.length+8) =
      .ok body.old_skdc_id := readU16BE_field (i := 6) (by simp [ByteLayout.offsetOf,fields]) rfl
  have new_skdc : readU16BE (front :: body.fields).flatten (front.length+10) =
      .ok body.new_skdc_id := readU16BE_field (i := 7) (by simp [ByteLayout.offsetOf,fields]) rfl
  have old_version : readU32BE (front :: body.fields).flatten (front.length+12) =
      .ok body.old_version := readU32BE_field (i := 8) (by simp [ByteLayout.offsetOf,fields]) rfl
  have new_version : readU32BE (front :: body.fields).flatten (front.length+16) =
      .ok body.new_version := readU32BE_field (i := 9) (by simp [ByteLayout.offsetOf,fields]) rfl
  have timestamp : readU64BE (front :: body.fields).flatten (front.length+20) =
      .ok body.timestamp_us := readU64BE_field (i := 10) (by simp [ByteLayout.offsetOf,fields]) rfl
  have ho_nonce : readArray 16 (front :: body.fields).flatten (front.length+28) =
      .ok body.ho_nonce := readArray_field (i := 11) (by simp [ByteLayout.offsetOf,fields]) rfl
  have index_old : readU32BE (front :: body.fields).flatten (front.length+44) =
      .ok body.uav_index_old := readU32BE_field (i := 12) (by simp [ByteLayout.offsetOf,fields]) rfl
  have index_new : readU32BE (front :: body.fields).flatten (front.length+48) =
      .ok body.uav_index_new := readU32BE_field (i := 13) (by simp [ByteLayout.offsetOf,fields]) rfl
  have reserved2 : readArray 12 (front :: body.fields).flatten (front.length+52) =
      .ok body.reserved2 := readArray_field (i := 14) (by simp [ByteLayout.offsetOf,fields]) rfl
  simp only [phase,reserved,uav_id,old_cluster,new_cluster,old_skdc,new_skdc,old_version,new_version,
    timestamp,ho_nonce,index_old,index_new,reserved2,Result.ok_bind]
  rfl

theorem DataBody.deserialize_serialize {body : DataBody} (short : body.ciphertext.length < 2^32) :
    DataBody.deserialize (front ++ body.serialize) front.length = .ok body := by
  have layout : front ++ body.serialize = (front :: body.fields).flatten := rfl
  have total : (front ++ body.serialize).length = front.length+56+body.ciphertext.length := by
    rw [List.length_append,length_serialize,wireSize,Nat.add_assoc]
  have ct_len : (UInt32.ofNat body.ciphertext.length).toNat = body.ciphertext.length := by
    rw [UInt32.toNat_ofNat']
    omega
  have long : ¬ (front ++ body.serialize).length < front.length+56 := by omega
  have whole : ¬ (front ++ body.serialize).length < front.length+56+body.ciphertext.length := by omega
  rw [layout] at whole
  rw [deserialize,if_neg long,layout]
  have cluster_id : readU32BE (front :: body.fields).flatten front.length =
      .ok body.cluster_id := readU32BE_field (i := 1) (by simp [ByteLayout.offsetOf]) rfl
  have data_sequence : readU32BE (front :: body.fields).flatten (front.length+4) =
      .ok body.data_sequence := readU32BE_field (i := 2) (by simp [ByteLayout.offsetOf,fields]) rfl
  have timestamp : readU64BE (front :: body.fields).flatten (front.length+8) =
      .ok body.timestamp_us := readU64BE_field (i := 3) (by simp [ByteLayout.offsetOf,fields]) rfl
  have plaintext_len : readU32BE (front :: body.fields).flatten (front.length+16) =
      .ok body.plaintext_len := readU32BE_field (i := 4) (by simp [ByteLayout.offsetOf,fields]) rfl
  have ct_field : readU32BE (front :: body.fields).flatten (front.length+20) =
      .ok (UInt32.ofNat body.ciphertext.length) :=
    readU32BE_field (i := 5) (by simp [ByteLayout.offsetOf,fields]) rfl
  have aes_iv : readArray 12 (front :: body.fields).flatten (front.length+24) =
      .ok body.aes_iv := readArray_field (i := 6) (by simp [ByteLayout.offsetOf,fields]) rfl
  have aes_tag : readArray 16 (front :: body.fields).flatten (front.length+40) =
      .ok body.aes_tag := readArray_field (i := 8) (by simp [ByteLayout.offsetOf,fields]) rfl
  have ciphertext : ByteUtils.read (front :: body.fields).flatten (front.length+56)
      body.ciphertext.length = .ok body.ciphertext :=
    read_field (i := 9) (by simp [ByteLayout.offsetOf,fields]) rfl rfl
  simp only [cluster_id,data_sequence,timestamp,plaintext_len,ct_field,aes_iv,aes_tag,Result.ok_bind,
    ct_len,whole,if_false,ciphertext]
  rfl

theorem RekeyBody.length_serialize {body : RekeyBody} {bytes : ByteBuffer}
    (written : body.serialize = .ok bytes) : bytes.length = 40+wireBytes body.mtk := by
  obtain ⟨mtk_bytes,mtk_written,rfl⟩ := serialize_ok written
  rw [← (toBytes_wireBytes mtk_written).1,length_fields]

theorem RekeyBody.deserialize_serialize {body : RekeyBody} {bytes : ByteBuffer}
    (written : body.serialize = .ok bytes) (short : wireBytes body.mtk < 2^32) :
    RekeyBody.deserialize (front ++ bytes) front.length = .ok body := by
  have total := length_serialize written
  obtain ⟨mtk_bytes,mtk_written,rfl⟩ := serialize_ok written
  obtain ⟨mtk_size,mtk_value⟩ := toBytes_wireBytes mtk_written
  have mtk_len : (UInt32.ofNat mtk_bytes.length).toNat = mtk_bytes.length := by
    rw [UInt32.toNat_ofNat']
    omega
  have layout : front ++ (body.fields mtk_bytes).flatten = (front :: body.fields mtk_bytes).flatten :=
    rfl
  have long : ¬ (front ++ (body.fields mtk_bytes).flatten).length < front.length+40 := by
    rw [List.length_append]
    omega
  have whole : ¬ (front ++ (body.fields mtk_bytes).flatten).length <
      front.length+40+mtk_bytes.length := by
    rw [List.length_append]
    omega
  rw [layout] at whole
  rw [deserialize,if_neg long,layout]
  have cluster_id : readU32BE (front :: body.fields mtk_bytes).flatten front.length =
      .ok body.cluster_id := readU32BE_field (i := 1) (by simp [ByteLayout.offsetOf]) rfl
  have version : readU32BE (front :: body.fields mtk_bytes).flatten (front.length+4) =
      .ok body.version := readU32BE_field (i := 2) (by simp [ByteLayout.offsetOf,fields]) rfl
  have reason : readU8 (front :: body.fields mtk_bytes).flatten (front.length+8) =
      .ok body.reason.raw := readU8_field (i := 3) (by simp [ByteLayout.offsetOf,fields]) rfl
  have mtk_field : readU32BE (front :: body.fields mtk_bytes).flatten (front.length+12) =
      .ok (UInt32.ofNat mtk_bytes.length) :=
    readU32BE_field (i := 5) (by simp [ByteLayout.offsetOf,fields]) rfl
  have timestamp : readU64BE (front :: body.fields mtk_bytes).flatten (front.length+16) =
      .ok body.timestamp_us := readU64BE_field (i := 6) (by simp [ByteLayout.offsetOf,fields]) rfl
  have rekey_nonce : readArray 16 (front :: body.fields mtk_bytes).flatten (front.length+24) =
      .ok body.rekey_nonce := readArray_field (i := 7) (by simp [ByteLayout.offsetOf,fields]) rfl
  have mtk_read : ByteUtils.read (front :: body.fields mtk_bytes).flatten (front.length+40)
      mtk_bytes.length = .ok mtk_bytes :=
    read_field (i := 8) (by simp [ByteLayout.offsetOf,fields]) rfl rfl
  simp only [cluster_id,version,reason,mtk_field,timestamp,rekey_nonce,Result.ok_bind,mtk_len,whole,
    if_false,mtk_read,mtk_value]
  rfl

end Bodies

/-- A header of the class of packets with this type: the constructors write the magic number. -/
def BaseHeader.typed (header : BaseHeader) (packet_type : PacketType) : BaseHeader :=
  { header with magic := packetMagic, packet_type }

section Packets

variable (crypto : Primitives) (key : HmacKey) {header : BaseHeader}
  (genuine : header.magic = packetMagic)
include genuine

theorem deserializeVerified_serialize {Body : Type} {min_wire : Nat} (too_small : Nat → String)
    {parse : ByteBuffer → Nat → Result Body} {value : Body} {bytes : ByteBuffer}
    (room : min_wire ≤ 80+bytes.length)
    (decoded : ∀ front : ByteBuffer, parse (front ++ bytes) front.length = .ok value) :
    deserializeVerified crypto min_wire too_small parse
      (Hmac.appendHmac crypto key (header.serialize ++ header.serializeNonce ++ bytes)) key =
        .ok (header,value) := by
  have front_size : (header.serialize ++ header.serializeNonce).length = 48 := by simp
  have long : ¬ (Hmac.appendHmac crypto key
      (header.serialize ++ header.serializeNonce ++ bytes)).length < min_wire := by
    rw [Hmac.length_appendHmac,List.length_append,front_size]
    omega
  have stripped : Hmac.stripAndVerifyHmac crypto key (Hmac.appendHmac crypto key
      (header.serialize ++ header.serializeNonce ++ bytes)) =
        .ok (header.serialize ++ header.serializeNonce ++ bytes) := by
    refine Hmac.stripAndVerifyHmac_ok.mpr ⟨⟨?_,?_⟩,?_⟩
    · rw [Hmac.length_appendHmac]
      omega
    · rw [Hmac.take_appendHmac]
      exact Hmac.verify_appendHmac crypto key _
    · rw [Hmac.take_appendHmac]
  have body := decoded (header.serialize ++ header.serializeNonce)
  rw [front_size] at body
  rw [deserializeVerified,if_neg long]
  simp only [stripped,readHeader_serialize genuine,body,Result.ok_bind]
  rfl

theorem AuthPacket.deserialize_serialize (body : AuthBody) :
    AuthPacket.deserialize crypto
      (Hmac.appendHmac crypto key (AuthPacket.serialize { header, body })) key =
        .ok { header, body } := by
  have size : body.serialize.length = 48 := by simp [AuthBody.serialize,AuthBody.fields]
  rw [AuthPacket.deserialize,AuthPacket.serialize,deserializeVerified_serialize crypto key genuine _
    (by omega) (fun front => AuthBody.deserialize_serialize front body)]
  rfl

theorem JoinPacket.deserialize_serialize (body : JoinBody) :
    JoinPacket.deserialize crypto
      (Hmac.appendHmac crypto key (JoinPacket.serialize { header, body })) key =
        .ok { header, body } := by
  have size : body.serialize.length = 56 := by simp [JoinBody.serialize,JoinBody.fields]
  rw [JoinPacket.deserialize,JoinPacket.serialize,deserializeVerified_serialize crypto key genuine _
    (by omega) (fun front => JoinBody.deserialize_serialize front body)]
  rfl

theorem HandoverPacket.deserialize_serialize (body : HandoverBody) :
    HandoverPacket.deserialize crypto
      (Hmac.appendHmac crypto key (HandoverPacket.serialize { header, body })) key =
        .ok { header, body } := by
  have size : body.serialize.length = 64 := by simp [HandoverBody.serialize,HandoverBody.fields]
  rw [HandoverPacket.deserialize,HandoverPacket.serialize,
    deserializeVerified_serialize crypto key genuine _ (by omega)
      (fun front => HandoverBody.deserialize_serialize front body)]
  rfl

theorem DataPacket.deserialize_serialize {body : DataBody}
    (short : body.ciphertext.length < 2^32) :
    DataPacket.deserialize crypto
      (Hmac.appendHmac crypto key (DataPacket.serialize { header, body })) key =
        .ok { header, body } := by
  have size : body.serialize.length = 56+body.ciphertext.length := DataBody.length_serialize body
  rw [DataPacket.deserialize,DataPacket.serialize,deserializeVerified_serialize crypto key genuine _
    (by omega) (fun front => DataBody.deserialize_serialize front short)]
  rfl

theorem RekeyPacket.deserialize_serialize {body : RekeyBody} {wire : ByteBuffer}
    (written : RekeyPacket.serialize { header, body } = .ok wire)
    (short : wireBytes body.mtk < 2^32) :
    RekeyPacket.deserialize crypto (Hmac.appendHmac crypto key wire) key =
      .ok { header, body } := by
  obtain ⟨bytes,body_written,written⟩ := Result.bind_ok.mp written
  obtain rfl : header.serialize ++ header.serializeNonce ++ bytes = wire := Except.ok.inj written
  have size := RekeyBody.length_serialize body_written
  rw [RekeyPacket.deserialize_verified,deserializeVerified_serialize crypto key genuine _ (by omega)
    (fun front => RekeyBody.deserialize_serialize front body_written short)]
  rfl

omit genuine in
/-- Cutting the tag off unread, the two parsers of a token broadcast accept the same packets. -/
theorem MtkPacket.deserialize_noHmac {wire : ByteBuffer} {pkt : MtkPacket}
    (parsed : MtkPacket.deserializeNoHmac wire = .ok pkt) :
    MtkPacket.deserialize wire key = .ok pkt := by
  rw [deserializeNoHmac] at parsed
  split at parsed
  · cases parsed
  · rename_i long
    rw [deserialize,if_neg long]
    unfold readHeader
    rwa [bind_assoc]

end Packets

namespace PacketManager

theorem hand_ok {P : Type} (manager : PacketManager) (pkt : P)
    (received : PacketStats → PacketStats) (handler : Option (P → Result Unit))
    (kind : P → AnyPacket) :
    (manager.hand (.ok pkt) received handler kind).handed = handler.map fun _ => kind pkt := by
  unfold hand
  cases handler with
  | none => rfl
  | some handle =>
    simp only
    cases handle pkt with
    | error failure => cases failure <;> rfl
    | ok _ => rfl

section Dispatch

variable {crypto : Primitives} {receiver : PacketManager} {wire : ByteBuffer}

theorem dispatch_auth (peeked : peekType wire = .authPacket) {pkt : AuthPacket}
    (parsed : AuthPacket.deserialize crypto wire receiver.m_hmac_key = .ok pkt) :
    (receiver.dispatch crypto wire).handed = receiver.m_auth_handler.map fun _ => .auth pkt := by
  simp only [dispatch,peeked,count,parsed]
  exact hand_ok _ _ _ _ _

theorem dispatch_join (peeked : peekType wire = .joinPacket ∨ peekType wire = .leavePacket)
    {pkt : JoinPacket}
    (parsed : JoinPacket.deserialize crypto wire receiver.m_hmac_key = .ok pkt) :
    (receiver.dispatch crypto wire).handed = receiver.m_join_handler.map fun _ => .join pkt := by
  rcases peeked with join | leave
  · simp only [dispatch,join,count,parsed]
    exact hand_ok _ _ _ _ _
  · simp only [dispatch,leave,count,parsed]
    exact hand_ok _ _ _ _ _

theorem dispatch_rekey (peeked : peekType wire = .rekeyPacket) {pkt : RekeyPacket}
    (parsed : RekeyPacket.deserialize crypto wire receiver.m_hmac_key = .ok pkt) :
    (receiver.dispatch crypto wire).handed = receiver.m_rekey_handler.map fun _ => .rekey pkt := by
  simp only [dispatch,peeked,count,parsed]
  exact hand_ok _ _ _ _ _

theorem dispatch_mtk (peeked : peekType wire = .mtkPacket) {pkt : MtkPacket}
    (parsed : MtkPacket.deserialize wire receiver.m_hmac_key = .ok pkt) :
    (receiver.dispatch crypto wire).handed = receiver.m_mtk_handler.map fun _ => .mtk pkt := by
  simp only [dispatch,peeked,count,parsed]
  exact hand_ok _ _ _ _ _

theorem dispatch_handover (peeked : peekType wire = .handoverPacket) {pkt : HandoverPacket}
    (parsed : HandoverPacket.deserialize crypto wire receiver.m_hmac_key = .ok pkt) :
    (receiver.dispatch crypto wire).handed = receiver.m_handover_handler.map fun _ => .handover pkt := by
  simp only [dispatch,peeked,count,parsed]
  exact hand_ok _ _ _ _ _

theorem dispatch_data (peeked : peekType wire = .dataPacket) {pkt : DataPacket}
    (parsed : DataPacket.deserialize crypto wire receiver.m_hmac_key = .ok pkt) :
    (receiver.dispatch crypto wire).handed = receiver.m_data_handler.map fun _ => .data pkt := by
  simp only [dispatch,peeked,count,parsed]
  exact hand_ok _ _ _ _ _

end Dispatch
end PacketManager

theorem DataPacket.decrypt_built {crypto : Primitives} (inverts : Inverts crypto)
    {draws : DataDraws} {cluster_id uav_id skdc_id : UInt16} {data_seq : UInt32}
    {plaintext : ByteBuffer} (fits : plaintext.length < 2^32) {tek : AesGcmKey}
    {seq : SequenceCounter} {pkt : DataPacket}
    (built : (build crypto draws cluster_id uav_id skdc_id data_seq plaintext tek seq).1 = .ok pkt) :
    pkt.body.ciphertext.length < 2^32 ∧ pkt.decrypt crypto tek = .ok plaintext := by
  obtain ⟨-,-,-,-,-,-,-,enc,encrypted,-,-,ciphertext⟩ := build_ok built
  obtain ⟨text,read,-⟩ := AesGcm.encrypt_ok encrypted ((length_dataAad _ _).trans_lt (by omega))
  have short := AesGcm.updateInput_whole read fits
  have sealed_short := AesGcm.length_ciphertext encrypted inverts
    ((length_dataAad _ _).trans_lt (by omega))
  rw [← ciphertext] at sealed_short
  exact ⟨by omega,decrypt_build inverts short built⟩

theorem peekType_appendHmac (crypto : Primitives) (key : HmacKey) {header : BaseHeader}
    (genuine : header.magic = packetMagic) (body_buf : ByteBuffer) :
    peekType (Hmac.appendHmac crypto key (header.serialize ++ header.serializeNonce ++ body_buf)) =
      header.packet_type := by
  rw [Hmac.appendHmac,List.append_assoc,List.append_assoc,peekType_serialize genuine]

theorem MtkBody.serialize_natural {body : MtkBody} (mtk_natural : 0 ≤ body.mtk)
    (n_group_natural : 0 ≤ body.n_group) : ∃ bytes, body.serialize = .ok bytes := by
  obtain ⟨mtk_bytes,mtk_written⟩ := toBytes_natural mtk_natural
  obtain ⟨n_group_bytes,n_group_written⟩ := toBytes_natural n_group_natural
  exact ⟨_,serialize_written mtk_written n_group_written⟩

theorem RekeyBody.serialize_natural {body : RekeyBody} (natural : 0 ≤ body.mtk) :
    ∃ bytes, body.serialize = .ok bytes := by
  obtain ⟨mtk_bytes,mtk_written⟩ := toBytes_natural natural
  exact ⟨_,serialize_written mtk_written⟩

section RoundTrip

variable (crypto : Primitives) {sender receiver : PacketManager}
  (same_key : receiver.m_hmac_key = sender.m_hmac_key) {header : BaseHeader}
  (genuine : header.magic = packetMagic)
include same_key genuine

theorem AuthPacket.round_trip (kind : header.packet_type = .authPacket) (body : AuthBody) :
    AuthPacket.deserialize crypto (sender.serializeAuth crypto { header, body }).2
        receiver.m_hmac_key = .ok { header, body } ∧
      (receiver.dispatch crypto (sender.serializeAuth crypto { header, body }).2).handed =
        receiver.m_auth_handler.map fun _ => .auth { header, body } := by
  have parsed := AuthPacket.deserialize_serialize crypto receiver.m_hmac_key genuine body
  have peeked := peekType_appendHmac crypto receiver.m_hmac_key genuine body.serialize
  have delivered := PacketManager.dispatch_auth (peeked.trans kind) parsed
  rw [same_key] at parsed delivered
  rw [same_key]
  exact ⟨parsed,delivered⟩

theorem JoinPacket.round_trip
    (kind : header.packet_type = .joinPacket ∨ header.packet_type = .leavePacket)
    (body : JoinBody) :
    JoinPacket.deserialize crypto (sender.serializeJoin crypto { header, body }).2
        receiver.m_hmac_key = .ok { header, body } ∧
      (receiver.dispatch crypto (sender.serializeJoin crypto { header, body }).2).handed =
        receiver.m_join_handler.map fun _ => .join { header, body } := by
  have parsed := JoinPacket.deserialize_serialize crypto receiver.m_hmac_key genuine body
  have peeked := peekType_appendHmac crypto receiver.m_hmac_key genuine body.serialize
  rw [← peeked] at kind
  have delivered := PacketManager.dispatch_join kind parsed
  rw [same_key] at parsed delivered
  rw [same_key]
  exact ⟨parsed,delivered⟩

theorem HandoverPacket.round_trip (kind : header.packet_type = .handoverPacket)
    (body : HandoverBody) :
    HandoverPacket.deserialize crypto (sender.serializeHandover crypto { header, body }).2
        receiver.m_hmac_key = .ok { header, body } ∧
      (receiver.dispatch crypto (sender.serializeHandover crypto { header, body }).2).handed =
        receiver.m_handover_handler.map fun _ => .handover { header, body } := by
  have parsed := HandoverPacket.deserialize_serialize crypto receiver.m_hmac_key genuine body
  have peeked := peekType_appendHmac crypto receiver.m_hmac_key genuine body.serialize
  have delivered := PacketManager.dispatch_handover (peeked.trans kind) parsed
  rw [same_key] at parsed delivered
  rw [same_key]
  exact ⟨parsed,delivered⟩

theorem DataPacket.round_trip (kind : header.packet_type = .dataPacket) {body : DataBody}
    (short : body.ciphertext.length < 2^32) :
    DataPacket.deserialize crypto (sender.serializeData crypto { header, body }).2
        receiver.m_hmac_key = .ok { header, body } ∧
      (receiver.dispatch crypto (sender.serializeData crypto { header, body }).2).handed =
        receiver.m_data_handler.map fun _ => .data { header, body } := by
  have parsed := DataPacket.deserialize_serialize crypto receiver.m_hmac_key genuine short
  have peeked := peekType_appendHmac crypto receiver.m_hmac_key genuine body.serialize
  have delivered := PacketManager.dispatch_data (peeked.trans kind) parsed
  rw [same_key] at parsed delivered
  rw [same_key]
  exact ⟨parsed,delivered⟩

theorem RekeyPacket.round_trip (kind : header.packet_type = .rekeyPacket) {body : RekeyBody}
    (natural : 0 ≤ body.mtk) (short : wireBytes body.mtk < 2^32) :
    ∃ sent, sender.serializeRekey crypto { header, body } = .ok sent ∧
      RekeyPacket.deserialize crypto sent.2 receiver.m_hmac_key = .ok { header, body } ∧
      (receiver.dispatch crypto sent.2).handed =
        receiver.m_rekey_handler.map fun _ => .rekey { header, body } := by
  obtain ⟨body_buf,body_written⟩ := RekeyBody.serialize_natural natural
  have written : RekeyPacket.serialize { header, body } =
      .ok (header.serialize ++ header.serializeNonce ++ body_buf) := by
    rw [RekeyPacket.serialize,body_written]
    rfl
  have parsed := RekeyPacket.deserialize_serialize crypto receiver.m_hmac_key genuine written short
  have peeked := peekType_appendHmac crypto receiver.m_hmac_key genuine body_buf
  have delivered := PacketManager.dispatch_rekey (peeked.trans kind) parsed
  rw [PacketManager.serializeRekey,written]
  refine ⟨_,rfl,?_⟩
  rw [same_key] at parsed delivered
  rw [same_key]
  exact ⟨parsed,delivered⟩

theorem MtkPacket.round_trip (kind : header.packet_type = .mtkPacket) {body : MtkBody}
    (mtk_natural : 0 ≤ body.mtk) (n_group_natural : 0 ≤ body.n_group)
    (mtk_short : wireBytes body.mtk < 2^32) (n_group_short : wireBytes body.n_group < 2^32) :
    ∃ sent, sender.serializeMtk crypto { header, body } = .ok sent ∧
      MtkPacket.deserialize sent.2 receiver.m_hmac_key = .ok { header, body } ∧
      (receiver.dispatch crypto sent.2).handed =
        receiver.m_mtk_handler.map fun _ => .mtk { header, body } := by
  obtain ⟨body_buf,body_written⟩ := MtkBody.serialize_natural mtk_natural n_group_natural
  have written := @MtkPacket.serialize_body { header, body } _ body_written
  have parsed : MtkPacket.deserialize (Hmac.appendHmac crypto receiver.m_hmac_key
      (header.serialize ++ header.serializeNonce ++ body_buf)) receiver.m_hmac_key =
        .ok { header, body } :=
    MtkPacket.deserialize_noHmac _
      (MtkPacket.deserialize_serialize genuine written mtk_short n_group_short (by simp))
  have peeked := peekType_appendHmac crypto receiver.m_hmac_key genuine body_buf
  have delivered := @PacketManager.dispatch_mtk crypto _ _ (peeked.trans kind) _ parsed
  rw [PacketManager.serializeMtk,written]
  refine ⟨_,rfl,?_⟩
  rw [same_key] at parsed delivered
  rw [same_key]
  exact ⟨parsed,delivered⟩

end RoundTrip
end UavFanet.Packet

namespace UavFanet
open Packet Replay

/-- Decoding undoes encoding: under one key each of the six parsers gives back every packet of
its class, and `Dispatch` hands it to the handler registered for the class. A payload that a data
packet was built with comes out again. -/
theorem deserialize_undoes_serialize (crypto : Primitives) (sender receiver : PacketManager)
    (same_key : receiver.m_hmac_key = sender.m_hmac_key) (header : BaseHeader) :
    (∀ body : AuthBody, let pkt : AuthPacket := { header := header.typed .authPacket, body }
      let wire := (sender.serializeAuth crypto pkt).2
      AuthPacket.deserialize crypto wire receiver.m_hmac_key = .ok pkt ∧
        (receiver.dispatch crypto wire).handed =
          receiver.m_auth_handler.map fun _ => .auth pkt) ∧
    (∀ type ∈ [PacketType.joinPacket,.leavePacket], ∀ body : JoinBody,
      let pkt : JoinPacket := { header := header.typed type, body }
      let wire := (sender.serializeJoin crypto pkt).2
      JoinPacket.deserialize crypto wire receiver.m_hmac_key = .ok pkt ∧
        (receiver.dispatch crypto wire).handed =
          receiver.m_join_handler.map fun _ => .join pkt) ∧
    (∀ body : MtkBody, 0 ≤ body.mtk → 0 ≤ body.n_group → wireBytes body.mtk < 2^32 →
      wireBytes body.n_group < 2^32 →
      let pkt : MtkPacket := { header := header.typed .mtkPacket, body }
      ∃ sent, sender.serializeMtk crypto pkt = .ok sent ∧
        MtkPacket.deserialize sent.2 receiver.m_hmac_key = .ok pkt ∧
        (receiver.dispatch crypto sent.2).handed =
          receiver.m_mtk_handler.map fun _ => .mtk pkt) ∧
    (∀ body : RekeyBody, 0 ≤ body.mtk → wireBytes body.mtk < 2^32 →
      let pkt : RekeyPacket := { header := header.typed .rekeyPacket, body }
      ∃ sent, sender.serializeRekey crypto pkt = .ok sent ∧
        RekeyPacket.deserialize crypto sent.2 receiver.m_hmac_key = .ok pkt ∧
        (receiver.dispatch crypto sent.2).handed =
          receiver.m_rekey_handler.map fun _ => .rekey pkt) ∧
    (∀ body : HandoverBody,
      let pkt : HandoverPacket := { header := header.typed .handoverPacket, body }
      let wire := (sender.serializeHandover crypto pkt).2
      HandoverPacket.deserialize crypto wire receiver.m_hmac_key = .ok pkt ∧
        (receiver.dispatch crypto wire).handed =
          receiver.m_handover_handler.map fun _ => .handover pkt) ∧
    (∀ body : DataBody, body.ciphertext.length < 2^32 →
      let pkt : DataPacket := { header := header.typed .dataPacket, body }
      let wire := (sender.serializeData crypto pkt).2
      DataPacket.deserialize crypto wire receiver.m_hmac_key = .ok pkt ∧
        (receiver.dispatch crypto wire).handed =
          receiver.m_data_handler.map fun _ => .data pkt) ∧
    (Inverts crypto → ∀ draws cluster_id uav_id skdc_id data_seq plaintext tek seq pkt,
      plaintext.length < 2^32 →
      (DataPacket.build crypto draws cluster_id uav_id skdc_id data_seq plaintext tek seq).1 =
        .ok pkt →
      let wire := (sender.serializeData crypto pkt).2
      ∃ decoded, DataPacket.deserialize crypto wire receiver.m_hmac_key = .ok decoded ∧
        (receiver.dispatch crypto wire).handed =
          (receiver.m_data_handler.map fun _ => .data decoded) ∧
        decoded = pkt ∧ decoded.decrypt crypto tek = .ok plaintext) := by
  refine ⟨fun body => ?_,fun type class_type body => ?_,
    fun body mtk_natural n_group_natural mtk_short n_group_short => ?_,
    fun body natural short => ?_,fun body => ?_,fun body short => ?_,
    fun inverts draws cluster_id uav_id skdc_id data_seq plaintext tek seq pkt fits built => ?_⟩
  · exact AuthPacket.round_trip crypto same_key rfl rfl body
  · exact JoinPacket.round_trip crypto same_key rfl (List.mem_pair.mp class_type) body
  · exact MtkPacket.round_trip crypto same_key rfl rfl mtk_natural n_group_natural mtk_short
      n_group_short
  · exact RekeyPacket.round_trip crypto same_key rfl rfl natural short
  · exact HandoverPacket.round_trip crypto same_key rfl rfl body
  · exact DataPacket.round_trip crypto same_key rfl rfl short
  · obtain ⟨genuine,-,kind,-⟩ := DataPacket.build_ok built
    obtain ⟨short,opened⟩ := DataPacket.decrypt_built inverts fits built
    obtain ⟨parsed,delivered⟩ := DataPacket.round_trip crypto same_key genuine kind short
    exact ⟨pkt,parsed,delivered,rfl,opened⟩

def checksum (bytes : ByteBuffer) : UInt8 := bytes.foldl UInt8.xor 0

/-- A cipher that masks each byte, with a checksum for a tag. -/
def maskingCrypto : Primitives where
  sha256 _ := Vector.replicate 32 0
  hmacSha256 key data := key.map (UInt8.xor (checksum data))
  gcmEncrypt key iv text aad :=
    (text.map (UInt8.xor (checksum (key.toList ++ iv.toList))),
      Vector.replicate 16 (checksum (text ++ aad)))
  gcmDecrypt key iv text tag aad :=
    let opened := text.map (UInt8.xor (checksum (key.toList ++ iv.toList)))
    if tag = Vector.replicate 16 (checksum (opened ++ aad)) then some opened else none

theorem maskingCrypto_inverts : Inverts maskingCrypto where
  length key iv text aad := List.length_map _
  opens key iv text aad := by
    have unmasked (mask : UInt8) : (text.map (UInt8.xor mask)).map (UInt8.xor mask) = text := by
      rw [List.map_map]
      refine (List.map_congr_left fun byte _ => ?_).trans (List.map_id text)
      change mask ^^^ (mask ^^^ byte) = byte
      rw [← UInt8.xor_assoc,UInt8.xor_self,UInt8.zero_xor]
    simp only [maskingCrypto,unmasked,if_true]

def sampleManager : PacketManager where
  m_node_id := 3
  m_cluster_id := 1
  m_hmac_key := Vector.replicate 32 7
  m_tek := Vector.replicate 32 9
  m_mtk_handler := some fun _ => .ok ()
  m_data_handler := some fun _ => .ok ()

def sampleToken : MtkBody :=
  { cluster_id := 1, version := 2, timestamp_us := 3000000, mtk := 70000, n_group := 91 }

def sampleDraws : DataDraws where
  iv := .ok (Vector.replicate 12 5)
  body_us := 1000
  token_us := 1001
  token_nonce := .ok (Vector.replicate 16 4)

def sampleData : Result DataPacket :=
  (DataPacket.build maskingCrypto sampleDraws 1 3 101 0 [0x48,0x69] sampleManager.m_tek {}).1

theorem sample_packets_undone :
    (∃ sent, sampleManager.serializeMtk maskingCrypto
        { header := BaseHeader.typed {} .mtkPacket, body := sampleToken } = .ok sent ∧
      (sampleManager.dispatch maskingCrypto sent.2).handed =
        some (.mtk { header := BaseHeader.typed {} .mtkPacket, body := sampleToken })) ∧
    ∃ pkt, sampleData = .ok pkt ∧ ∃ decoded,
      DataPacket.deserialize maskingCrypto (sampleManager.serializeData maskingCrypto pkt).2
        sampleManager.m_hmac_key = .ok decoded ∧
      decoded = pkt ∧ decoded.decrypt maskingCrypto sampleManager.m_tek = .ok [0x48,0x69] := by
  obtain ⟨-,-,mtk,-,-,-,data⟩ :=
    deserialize_undoes_serialize maskingCrypto sampleManager sampleManager rfl {}
  obtain ⟨sent,written,-,delivered⟩ := mtk sampleToken (by decide) (by decide) (by decide +kernel)
    (by decide +kernel)
  have present : ∃ pkt, sampleData = .ok pkt := ⟨_,rfl⟩
  obtain ⟨pkt,built⟩ := present
  obtain ⟨decoded,parsed,-,same,opened⟩ := data maskingCrypto_inverts sampleDraws 1 3 101 0
    [0x48,0x69] sampleManager.m_tek {} pkt (by decide) built
  exact ⟨⟨sent,written,delivered⟩,pkt,built,decoded,parsed,same,opened⟩

end UavFanet
