import UavFanet.PacketFrame
import UavFanet.SkdcApp

/-! Which buffers make the hand-written parsers read outside of them. -/
namespace UavFanet
open UavFanet.ByteUtils UavFanet.Packet

/-- No read fell outside its buffer. -/
def InBounds {α : Type} (result : Result α) : Prop := result ≠ .error .outOfRange

namespace InBounds

variable {α β : Type}

theorem ok (value : α) : InBounds (.ok value) := by
  intro impossible
  cases impossible

theorem bind {first : Result α} {next : α → Result β} (safe : InBounds first)
    (rest : ∀ value, first = .ok value → InBounds (next value)) : InBounds (first >>= next) := by
  cases result : first with
  | error failure =>
    rw [result] at safe
    intro impossible
    exact safe (congrArg Except.error (Except.error.inj impossible))
  | ok value => exact rest value result

theorem caught {first : Result α} (safe : InBounds first) : InBounds first.caught := by
  cases first with
  | error failure =>
    cases failure with
    | outOfRange => exact absurd rfl safe
    | _ =>
      intro impossible
      cases impossible
  | ok value => exact ok (some value)

theorem of_exists {first : Result α} (found : ∃ value, first = .ok value) : InBounds first := by
  obtain ⟨value,rfl⟩ := found
  exact ok value

end InBounds

theorem Hmac.verify_refused {crypto : Primitives} {key : HmacKey} {wire : ByteBuffer}
    (long : 32 ≤ wire.length) (forged : ¬ Authentic crypto key wire) :
    verify crypto key (wire.take (wire.length-32)) (wire.drop (wire.length-32)) = false :=
  Bool.eq_false_iff.mpr (fun verified => forged ⟨long,verified⟩)

theorem Handover.SlaveKeyBlob.deserialize_inBounds (buf : ByteBuffer) :
    InBounds (SlaveKeyBlob.deserialize buf) := by
  by_cases short : buf.length < 1288
  · rw [deserialize,if_pos short]
    intro impossible
    cases impossible
  · obtain ⟨uav_index,index_read⟩ := readU32BE_within buf 0 (by omega)
    obtain ⟨cluster_id,cluster_read⟩ := readU32BE_within buf 4 (by omega)
    obtain ⟨d_i_bytes,d_i_read⟩ := read_within buf 8 256 (by omega)
    obtain ⟨n_i_bytes,n_i_read⟩ := read_within buf 264 256 (by omega)
    obtain ⟨e_i_bytes,e_i_read⟩ := read_within buf 520 256 (by omega)
    obtain ⟨Mi_bytes,Mi_read⟩ := read_within buf 776 256 (by omega)
    obtain ⟨Ni_bytes,Ni_read⟩ := read_within buf 1032 256 (by omega)
    rw [deserialize,if_neg short]
    simp only [index_read,cluster_read,d_i_read,n_i_read,e_i_read,Mi_read,Ni_read,Result.ok_bind]
    exact InBounds.ok _

theorem AesGcm.decrypt_inBounds (crypto : Primitives) (key : AesGcmKey) (iv : GcmIv)
    (ciphertext : ByteBuffer) (tag : GcmTag) (aad : ByteBuffer) :
    InBounds (decrypt crypto key iv ciphertext tag aad) := by
  rw [decrypt]
  split
  · intro impossible
    cases impossible
  · intro impossible
    cases impossible
  · split
    · exact InBounds.ok _
    · intro impossible
      cases impossible

/-- The read behind a length test whose sum is taken in 32 bits: it stays inside unless the sum
wraps around. -/
theorem wrapped_inBounds {α : Type} {front ct_len : UInt32} {data buf : ByteBuffer}
    {rest : ByteBuffer → Result (Option α)} (header : front.toNat ≤ data.length)
    (longer : data.length ≤ buf.length) (after : ∀ ct, InBounds (rest ct)) :
    InBounds (if data.length < (front+ct_len).toNat then .ok none
      else read buf front.toNat ct_len.toNat >>= rest) ↔
      front.toNat+ct_len.toNat < 2^32 ∨ front.toNat+ct_len.toNat ≤ buf.length := by
  have sum : (front+ct_len).toNat = (front.toNat+ct_len.toNat)%2^32 := UInt32.toNat_add ..
  have front_small := front.toNat_lt
  have length_small := ct_len.toNat_lt
  by_cases inside : front.toNat+ct_len.toNat ≤ buf.length
  · have safe : InBounds (read buf front.toNat ct_len.toNat >>= rest) :=
      (InBounds.of_exists (read_within buf _ _ inside)).bind (fun ct _ => after ct)
    constructor
    · exact fun _ => .inr inside
    · intro _
      split
      · exact InBounds.ok none
      · exact safe
  · by_cases small : front.toNat+ct_len.toNat < 2^32
    · rw [if_pos (by omega)]
      exact ⟨fun _ => .inl small,fun _ => InBounds.ok none⟩
    · rw [if_neg (by omega),ByteUtils.read,Library.ByteLayout.slice,if_neg inside]
      constructor
      · intro safe
        exact absurd rfl safe
      · omega

namespace Handover

/-- What the two parsers of a handover message ask before they look at its lengths. -/
structure Passes (crypto : Primitives) (gk : GlobalKey) (least : Nat) (type : UInt8)
    (buf : ByteBuffer) : Prop where
  long : least ≤ buf.length
  kind : readU8 buf 0 = .ok type
  authentic : Hmac.Authentic crypto gk buf

variable {crypto : Primitives} {buf : ByteBuffer} {gk : GlobalKey}

/-- What both parsers do with the text that they read. -/
theorem openBlob_inBounds {α : Type} (iv : GcmIv) (ct : ByteBuffer) (tag : GcmTag)
    (aad : ByteBuffer) (last : Option SlaveKeyBlob → Option α) : InBounds (do
      let blob ← Result.caught (do
        let plain ← AesGcm.decrypt crypto gk iv ct tag aad
        SlaveKeyBlob.deserialize plain)
      pure (last blob)) := by
  have opened := (AesGcm.decrypt_inBounds crypto gk iv ct tag aad).bind
    (fun plain _ => SlaveKeyBlob.deserialize_inBounds plain)
  exact opened.caught.bind (fun blob _ => InBounds.ok (last blob))

theorem not_passes {α : Type} {least : Nat} {type : UInt8} {result : Result (Option α)}
    {condition : Prop} (refused : ¬ Passes crypto gk least type buf) (none : result = .ok none) :
    InBounds result ↔ (Passes crypto gk least type buf → condition) := by
  rw [none]
  exact ⟨fun _ passes => absurd passes refused,fun _ => InBounds.ok _⟩

theorem parseSlaveFwd_inBounds : InBounds (parseSlaveFwd crypto buf gk) ↔
    (Passes crypto gk 73 typeSlaveFwd buf →
      41+lengthField buf 37 < 2^32 ∨ 41+lengthField buf 37 ≤ buf.length) := by
  by_cases short : buf.length < 73
  · apply not_passes
    · intro passes
      exact absurd passes.long (by omega)
    · rw [parseSlaveFwd,if_pos short]
      rfl
  obtain ⟨type,type_read⟩ := readU8_within buf 0 (by omega)
  by_cases kind : type = typeSlaveFwd
  · by_cases authentic : Hmac.Authentic crypto gk buf
    · obtain ⟨uav_id,uav_read⟩ := readU32BE_within buf 1 (by omega)
      obtain ⟨new_cluster,cluster_read⟩ := readU32BE_within buf 5 (by omega)
      obtain ⟨iv,iv_read⟩ := readArray_within (n := 12) buf 9 (by omega)
      obtain ⟨tag,tag_read⟩ := readArray_within (n := 16) buf 21 (by omega)
      obtain ⟨ct_len,length_read⟩ := readU32BE_within buf 37 (by omega)
      have data_size : (buf.take (buf.length-32)).length = buf.length-32 :=
        List.length_take_of_le (by omega)
      have passes : Passes crypto gk 73 typeSlaveFwd buf := ⟨by omega,kind ▸ type_read,authentic⟩
      rw [imp_iff_right passes,parseSlaveFwd,if_neg short,type_read,Result.ok_bind]
      simp only [kind,authentic.2,uav_read,cluster_read,iv_read,tag_read,length_read,lengthField,
        Result.ok_bind]
      exact @wrapped_inBounds _ 41 ct_len (buf.take (buf.length-32)) buf _
        (by rw [data_size]; show 41 ≤ _; omega) (by omega)
        (fun ct => openBlob_inBounds iv ct tag _ _)
    · apply not_passes (fun passes => authentic passes.authentic)
      have refused := Hmac.verify_refused (by omega) authentic
      rw [parseSlaveFwd,if_neg short,type_read,Result.ok_bind]
      simp only [kind,refused]
      rfl
  · apply not_passes
    · intro passes
      exact kind (Except.ok.inj (type_read.symm.trans passes.kind))
    · rw [parseSlaveFwd,if_neg short,type_read,Result.ok_bind,if_pos kind]
      rfl

theorem parseJoinAccept_inBounds : InBounds (parseJoinAccept crypto buf gk) ↔
    (Passes crypto gk 85 typeJoinAcc buf →
      45+lengthField buf 41 < 2^32 ∨ 45+lengthField buf 41 ≤ buf.length) := by
  by_cases short : buf.length < 85
  · apply not_passes
    · intro passes
      exact absurd passes.long (by omega)
    · rw [parseJoinAccept,if_pos short]
      rfl
  obtain ⟨type,type_read⟩ := readU8_within buf 0 (by omega)
  by_cases kind : type = typeJoinAcc
  · by_cases authentic : Hmac.Authentic crypto gk buf
    · obtain ⟨uav_id,uav_read⟩ := readU32BE_within buf 1 (by omega)
      obtain ⟨new_cluster,cluster_read⟩ := readU32BE_within buf 5 (by omega)
      obtain ⟨new_index,index_read⟩ := readU32BE_within buf 9 (by omega)
      obtain ⟨iv,iv_read⟩ := readArray_within (n := 12) buf 13 (by omega)
      obtain ⟨tag,tag_read⟩ := readArray_within (n := 16) buf 25 (by omega)
      obtain ⟨ct_len,length_read⟩ := readU32BE_within buf 41 (by omega)
      have data_size : (buf.take (buf.length-32)).length = buf.length-32 :=
        List.length_take_of_le (by omega)
      have passes : Passes crypto gk 85 typeJoinAcc buf := ⟨by omega,kind ▸ type_read,authentic⟩
      rw [imp_iff_right passes,parseJoinAccept,if_neg short,type_read,Result.ok_bind]
      simp only [kind,authentic.2,uav_read,cluster_read,index_read,iv_read,tag_read,length_read,
        lengthField,Result.ok_bind]
      exact @wrapped_inBounds _ 45 ct_len (buf.take (buf.length-32)) buf _
        (by rw [data_size]; show 45 ≤ _; omega) (by omega)
        (fun ct => openBlob_inBounds iv ct tag _ _)
    · apply not_passes (fun passes => authentic passes.authentic)
      have refused := Hmac.verify_refused (by omega) authentic
      rw [parseJoinAccept,if_neg short,type_read,Result.ok_bind]
      simp only [kind,refused]
      rfl
  · apply not_passes
    · intro passes
      exact kind (Except.ok.inj (type_read.symm.trans passes.kind))
    · rw [parseJoinAccept,if_neg short,type_read,Result.ok_bind,if_pos kind]
      rfl

end Handover

namespace Apps

/-- What the KDC asks before it looks at the length of a report. -/
structure KdcApplication.Passes (crypto : Primitives) (app : KdcApplication) (wire : ByteBuffer) :
    Prop where
  long : 68 ≤ wire.length
  known : lengthField wire 0 < 3
  authentic : Hmac.Authentic crypto
    (Hmac.keyFromAesKey (app.getTek (UInt32.ofNat (lengthField wire 0)))) wire

theorem KdcApplication.openTelemetry_inBounds {crypto : Primitives} {app : KdcApplication}
    {wire : ByteBuffer} : InBounds (app.openTelemetry crypto wire) ↔
      (app.Passes crypto wire →
        36+lengthField wire 32 < 2^32 ∨ 36+lengthField wire 32 ≤ wire.length-32) := by
  by_cases short : wire.length < 68
  · rw [openTelemetry,if_pos short]
    refine ⟨fun _ passes => ?_,fun _ => InBounds.ok none⟩
    exact absurd passes.long (by omega)
  have data_size : (wire.take (wire.length-32)).length = wire.length-32 :=
    List.length_take_of_le (by omega)
  obtain ⟨cid,cid_read⟩ := readU32BE_within (wire.take (wire.length-32)) 0 (by omega)
  have number : lengthField wire 0 = cid.toNat := by
    rw [← lengthField_take wire (show 0+4 ≤ wire.length-32 by omega),lengthField,cid_read]
  rw [openTelemetry,if_neg short]
  simp only [cid_read,Result.ok_bind]
  by_cases known : cid.toNat < 3
  · have key : app.getTek (UInt32.ofNat (lengthField wire 0)) =
        (app.m_clusters.get ⟨cid.toNat,known⟩).current_tek := by
      rw [number,UInt32.ofNat_toNat,getTek,dif_pos known]
    rw [dif_pos known]
    by_cases authentic : Hmac.Authentic crypto
        (Hmac.keyFromAesKey (app.m_clusters.get ⟨cid.toNat,known⟩).current_tek) wire
    · obtain ⟨iv,iv_read⟩ := readArray_within (n := 12) (wire.take (wire.length-32)) 4 (by omega)
      obtain ⟨tag,tag_read⟩ := readArray_within (n := 16) (wire.take (wire.length-32)) 16 (by omega)
      obtain ⟨ct_len,length_read⟩ := readU32BE_within (wire.take (wire.length-32)) 32 (by omega)
      have announced : lengthField wire 32 = ct_len.toNat := by
        rw [← lengthField_take wire (show 32+4 ≤ wire.length-32 by omega),lengthField,length_read]
      have passes : app.Passes crypto wire := ⟨by omega,number ▸ known,key ▸ authentic⟩
      rw [imp_iff_right passes,announced]
      simp only [authentic.2,show ¬ (wire.take (wire.length-32)).length < 36 by omega,iv_read,tag_read,
        length_read,Result.ok_bind]
      refine (@wrapped_inBounds _ 36 ct_len (wire.take (wire.length-32))
        (wire.take (wire.length-32)) _ (by rw [data_size]; show 36 ≤ _; omega) le_rfl
        (fun ct => (AesGcm.decrypt_inBounds _ _ iv ct tag _).caught.bind
          (fun plaintext _ => InBounds.ok _))).trans ?_
      rw [data_size]
      rfl
    · have refused := Hmac.verify_refused (by omega) authentic
      simp only [refused]
      exact ⟨fun _ passes => absurd (key ▸ passes.authentic) authentic,fun _ => InBounds.ok none⟩
  · rw [dif_neg known]
    exact ⟨fun _ passes => absurd (number ▸ passes.known) known,fun _ => InBounds.ok none⟩

/-- What a draw of an IV gives, which fails only as OpenSSL does. -/
def randomGcmIv : Option GcmIv → Result GcmIv
  | some iv => .ok iv
  | none => .error (.opensslError "OpenSSLRand::FillBytes")

namespace SkdcApplication

variable (crypto : Primitives) (app : SkdcApplication)

theorem forwardToKdc_inBounds (draw : Option GcmIv) (plaintext : ByteBuffer) :
    InBounds (app.forwardToKdc crypto (randomGcmIv draw) plaintext) := by
  rw [forwardToKdc]
  split
  · exact InBounds.ok none
  · apply InBounds.caught
    have encrypted : InBounds (AesGcm.encrypt crypto (randomGcmIv draw) app.m_state.current_tek
        plaintext (forwardAad app.m_cluster_id)) := by
      cases draw with
      | none =>
        intro impossible
        cases impossible
      | some iv =>
        show InBounds (AesGcm.encryptWithIv crypto app.m_state.current_tek iv plaintext _)
        rw [AesGcm.encryptWithIv]
        split
        · intro impossible
          cases impossible
        · intro impossible
          cases impossible
        · exact InBounds.ok _
    exact encrypted.bind (fun enc _ => InBounds.ok _)

/-- The length test is taken in 64 bits, where nothing wraps. -/
theorem openData_inBounds {pkt_data : ByteBuffer} :
    InBounds (app.openData crypto pkt_data) := by
  by_cases short : pkt_data.length < 104
  · rw [openData,if_pos short]
    exact InBounds.ok none
  obtain ⟨ct_len,length_read⟩ := readU32BE_within pkt_data 68 (by omega)
  obtain ⟨iv,iv_read⟩ := readArray_within (n := 12) pkt_data 72 (by omega)
  obtain ⟨tag,tag_read⟩ := readArray_within (n := 16) pkt_data 88 (by omega)
  obtain ⟨aad,aad_read⟩ := read_within pkt_data 2 4 (by omega)
  rw [openData,if_neg short]
  simp only [length_read,iv_read,tag_read,Result.ok_bind]
  by_cases truncated : pkt_data.length < 104+ct_len.toNat
  · rw [if_pos truncated]
    exact InBounds.ok none
  · obtain ⟨ct,ct_read⟩ := read_within pkt_data 104 ct_len.toNat (by omega)
    rw [if_neg truncated]
    simp only [ct_read,aad_read,Result.ok_bind]
    exact (AesGcm.decrypt_inBounds _ _ iv ct tag aad).caught

theorem relayData_inBounds (draw : Option GcmIv) (wire : ByteBuffer) :
    InBounds (app.relayData crypto (randomGcmIv draw) wire) := by
  rw [relayData]
  split
  · exact InBounds.ok _
  · simp only
    split
    · exact (forwardToKdc_inBounds crypto app draw []).bind (fun forwarded _ => InBounds.ok _)
    · refine (openData_inBounds crypto app).bind (fun opened _ => ?_)
      cases opened with
      | none => exact InBounds.ok _
      | some plaintext =>
        exact (forwardToKdc_inBounds crypto app draw plaintext).bind
          (fun forwarded _ => InBounds.ok _)

end SkdcApplication
end Apps

theorem Packet.MtkBody.deserialize_inBounds (buf : ByteBuffer) (offset : Nat) :
    InBounds (MtkBody.deserialize buf offset) := by
  by_cases short : buf.length < offset+28
  · rw [MtkBody.deserialize,if_pos short]
    intro impossible
    cases impossible
  obtain ⟨cluster_id,cluster_read⟩ := readU32BE_within buf offset (by omega)
  obtain ⟨version,version_read⟩ := readU32BE_within buf (offset+4) (by omega)
  obtain ⟨timestamp_us,time_read⟩ := readU64BE_within buf (offset+8) (by omega)
  obtain ⟨mtk_len,mtk_length⟩ := readU32BE_within buf (offset+16) (by omega)
  obtain ⟨n_group_len,group_length⟩ := readU32BE_within buf (offset+20) (by omega)
  obtain ⟨nonce_len,nonce_length⟩ := readU32BE_within buf (offset+24) (by omega)
  rw [MtkBody.deserialize,if_neg short]
  simp only [cluster_read,version_read,time_read,mtk_length,group_length,nonce_length,Result.ok_bind]
  by_cases truncated : buf.length < offset+28+mtk_len.toNat+n_group_len.toNat+nonce_len.toNat
  · rw [if_pos truncated]
    intro impossible
    cases impossible
  · obtain ⟨mtk_bytes,mtk_read⟩ := read_within buf (offset+28) mtk_len.toNat (by omega)
    obtain ⟨n_group_bytes,group_read⟩ :=
      read_within buf (offset+28+mtk_len.toNat) n_group_len.toNat (by omega)
    rw [if_neg truncated]
    simp only [mtk_read,group_read,Result.ok_bind]
    split
    · rename_i present
      have room : 16 ≤ nonce_len.toNat := UInt32.le_iff_toNat_le.mp present
      exact (InBounds.of_exists (readArray_within buf _ (by omega))).bind
        (fun body_nonce _ => InBounds.ok _)
    · exact InBounds.ok _

/-- The two other parsers take their sums in 64 bits, which 32 bit lengths do not fill. -/
theorem size_sums_fit (ct_len mtk_len n_group_len nonce_len : UInt32) :
    ((48 : UInt64)+56+ct_len.toUInt64).toNat = 48+56+ct_len.toNat ∧
    ((48 : UInt64)+28+mtk_len.toUInt64+n_group_len.toUInt64+nonce_len.toUInt64).toNat =
      48+28+mtk_len.toNat+n_group_len.toNat+nonce_len.toNat := by
  have ct_small := ct_len.toNat_lt
  have mtk_small := mtk_len.toNat_lt
  have n_group_small := n_group_len.toNat_lt
  have nonce_small := nonce_len.toNat_lt
  constructor
  · simp only [UInt64.toNat_add,UInt32.toNat_toUInt64,show (48 : UInt64).toNat = 48 from rfl,
      show (56 : UInt64).toNat = 56 from rfl]
    omega
  · simp only [UInt64.toNat_add,UInt32.toNat_toUInt64,show (48 : UInt64).toNat = 48 from rfl,
      show (28 : UInt64).toNat = 28 from rfl]
    omega

/-- One buffer at every parser: the KDC's and the SKDC's keys and states, the global key and
the draw of an IV are whatever they are. A body of a token stands at offset 48. -/
structure WithinBuffer (crypto : Primitives) (gk : Handover.GlobalKey) (kdc : Apps.KdcApplication)
    (skdc : Apps.SkdcApplication) (draw : Option GcmIv) (buf : ByteBuffer) : Prop where
  slave_fwd : InBounds (Handover.parseSlaveFwd crypto buf gk)
  join_accept : InBounds (Handover.parseJoinAccept crypto buf gk)
  telemetry : InBounds (kdc.receiveTelemetryFromSkdc crypto buf).2
  data : InBounds (skdc.receiveDataFromUav crypto (Apps.randomGcmIv draw) buf).2
  token : InBounds (Packet.MtkBody.deserialize buf 48)

/-- No length field that is reached announces a text beyond the buffer whose end, counted in 32
bits, wraps around. -/
structure HonestLengths (crypto : Primitives) (gk : Handover.GlobalKey) (kdc : Apps.KdcApplication)
    (buf : ByteBuffer) : Prop where
  slave_fwd : Handover.Passes crypto gk 73 Handover.typeSlaveFwd buf →
    41+lengthField buf 37 < 2^32 ∨ 41+lengthField buf 37 ≤ buf.length
  join_accept : Handover.Passes crypto gk 85 Handover.typeJoinAcc buf →
    45+lengthField buf 41 < 2^32 ∨ 45+lengthField buf 41 ≤ buf.length
  telemetry : kdc.Passes crypto buf →
    36+lengthField buf 32 < 2^32 ∨ 36+lengthField buf 32 ≤ buf.length-32

/-- Every parser stays within the buffer if and only if the three that add in 32 bits meet no
authentic length that wraps around. The sums of the other two, taken in 64 bits, are exact. -/
theorem within_buffer_iff (crypto : Primitives) (gk : Handover.GlobalKey)
    (kdc : Apps.KdcApplication) (skdc : Apps.SkdcApplication) (draw : Option GcmIv)
    (buf : ByteBuffer) :
    (WithinBuffer crypto gk kdc skdc draw buf ↔ HonestLengths crypto gk kdc buf) ∧
    ∀ ct_len mtk_len n_group_len nonce_len : UInt32,
      ((48 : UInt64)+56+ct_len.toUInt64).toNat = 48+56+ct_len.toNat ∧
      ((48 : UInt64)+28+mtk_len.toUInt64+n_group_len.toUInt64+nonce_len.toUInt64).toNat =
        48+28+mtk_len.toNat+n_group_len.toNat+nonce_len.toNat := by
  refine ⟨?_,size_sums_fit⟩
  constructor
  · intro within
    exact ⟨Handover.parseSlaveFwd_inBounds.mp within.slave_fwd,
      Handover.parseJoinAccept_inBounds.mp within.join_accept,
      Apps.KdcApplication.openTelemetry_inBounds.mp within.telemetry⟩
  · intro honest
    exact ⟨Handover.parseSlaveFwd_inBounds.mpr honest.slave_fwd,
      Handover.parseJoinAccept_inBounds.mpr honest.join_accept,
      Apps.KdcApplication.openTelemetry_inBounds.mpr honest.telemetry,
      skdc.relayData_inBounds crypto draw buf,Packet.MtkBody.deserialize_inBounds buf 48⟩

/-- The fields of an authentic SLAVE_FWD with the length 2^32-1: the sum wraps around to forty. -/
def wrappedFields : List ByteBuffer :=
  [[Handover.typeSlaveFwd],List.replicate 36 0,writeU32BE 0xFFFFFFFF]

def wrappedSlaveFwd (crypto : Primitives) (gk : Handover.GlobalKey) : ByteBuffer :=
  Hmac.appendHmac crypto gk wrappedFields.flatten

/-- The parser reads the wrapped message far beyond its 73 bytes. -/
theorem wrappedSlaveFwd_outside :
    (∀ crypto gk, Handover.parseSlaveFwd crypto (wrappedSlaveFwd crypto gk) gk =
      .error .outOfRange) ∧
    (∀ crypto gk kdc skdc draw,
      ¬ WithinBuffer crypto gk kdc skdc draw (wrappedSlaveFwd crypto gk)) := by
  have outside : ∀ crypto gk,
      Handover.parseSlaveFwd crypto (wrappedSlaveFwd crypto gk) gk = .error .outOfRange := by
    intro crypto gk
    have layout : wrappedSlaveFwd crypto gk =
        (wrappedFields ++ [(Hmac.compute crypto gk wrappedFields.flatten).toList]).flatten := by
      simp [wrappedSlaveFwd,Hmac.appendHmac]
    have size : (wrappedSlaveFwd crypto gk).length = 73 := by
      rw [wrappedSlaveFwd,Hmac.length_appendHmac]
      rfl
    have kind : readU8 (wrappedSlaveFwd crypto gk) 0 = .ok Handover.typeSlaveFwd := by
      rw [layout]
      exact readU8_field (i := 0) rfl rfl
    have announced : readU32BE (wrappedSlaveFwd crypto gk) 37 = .ok 0xFFFFFFFF := by
      rw [layout]
      exact readU32BE_field (i := 2) rfl rfl
    have authentic : Hmac.Authentic crypto gk (wrappedSlaveFwd crypto gk) := by
      refine ⟨by omega,?_⟩
      rw [wrappedSlaveFwd,Hmac.take_appendHmac]
      exact Hmac.verify_appendHmac crypto gk _
    have length : lengthField (wrappedSlaveFwd crypto gk) 37 = 0xFFFFFFFF := by
      rw [lengthField,announced]
      rfl
    by_contra inside
    rcases Handover.parseSlaveFwd_inBounds.mp inside ⟨by omega,kind,authentic⟩ with small | room
    · omega
    · omega
  exact ⟨outside,fun crypto gk kdc skdc draw within => within.slave_fwd (outside crypto gk)⟩

end UavFanet
