import UavFanet.PacketRoundTrip

/-! The payload length that `Build` declares in the header, and the bytes that the body is
serialised to. -/
namespace UavFanet.Packet
open Library UavFanet.ByteUtils UavFanet.Replay

/-- The header announces the bytes of the body. -/
def Declared (serialized : Result ByteBuffer) (header : BaseHeader) : Prop :=
  ∃ bytes, serialized = .ok bytes ∧ header.payload_len.toNat = bytes.length

theorem cut_length_iff (size : Nat) : (UInt16.ofNat size).toNat = size ↔ size < 2^16 := by
  rw [UInt16.toNat_ofNat']
  omega

theorem declared_iff {bytes : ByteBuffer} {header : BaseHeader}
    (cut : header.payload_len = UInt16.ofNat bytes.length) :
    Declared (.ok bytes) header ↔ bytes.length < 2^16 := by
  rw [← cut_length_iff,← cut]
  constructor
  · rintro ⟨_,⟨⟩,same⟩
    exact same
  · intro same
    exact ⟨bytes,rfl,same⟩

theorem DataPacket.build_declared_iff {crypto : Primitives}
    (lengths : ∀ key iv text aad, (crypto.gcmEncrypt key iv text aad).1.length = text.length)
    {draws : DataDraws} {cluster_id uav_id skdc_id : UInt16} {data_seq : UInt32}
    {plaintext : ByteBuffer} {tek : AesGcmKey} {seq : SequenceCounter} {pkt : DataPacket}
    (built : (build crypto draws cluster_id uav_id skdc_id data_seq plaintext tek seq).1 = .ok pkt) :
    Declared (.ok pkt.body.serialize) pkt.header ↔ 56+plaintext.length%2^32 < 2^16 := by
  rw [build] at built
  split at built
  · cases built
  · rename_i enc encrypted
    obtain ⟨token,-,built⟩ := Result.bind_ok.mp built
    cases built
    obtain ⟨text,read,sealed⟩ :=
      AesGcm.encrypt_ok encrypted ((length_dataAad _ _).trans_lt (by omega))
    have size := lengths tek enc.iv text (dataAad cluster_id uav_id)
    rw [← sealed] at size
    have text_size : text.length = plaintext.length%2^32 := by
      rw [AesGcm.updateInput] at read
      split at read
      · cases read
        rw [List.length_take]
        omega
      · cases read
    rw [declared_iff (by rw [DataBody.length_serialize]),DataBody.length_serialize,DataBody.wireSize,
      ← text_size,← size]

theorem MtkPacket.build_declared_iff {draws : BuildDraws} {cluster_id version : UInt32}
    {src_skdc : UInt16} {mtk n_group : Int} {seq : SequenceCounter} {pkt : MtkPacket}
    (built : (build draws cluster_id src_skdc version mtk n_group seq).1 = .ok pkt) :
    Declared pkt.body.serialize pkt.header ↔ 44+wireBytes mtk+wireBytes n_group < 2^16 := by
  rw [build] at built
  split at built
  · cases built
  · obtain ⟨token,-,built⟩ := Result.bind_ok.mp built
    obtain ⟨size,sized,built⟩ := Result.bind_ok.mp built
    obtain ⟨bytes,written,length⟩ := MtkBody.serialize_wireSize sized
    have total := MtkBody.length_serialize written
    cases built
    rw [written,declared_iff (by rw [length]),total]

/-- The length of a rekey body is announced even where its token is negative and the body cannot
be written. -/
theorem RekeyBody.declared_iff {body : RekeyBody} {header : BaseHeader}
    (cut : header.payload_len = UInt16.ofNat body.wireSize) :
    Declared body.serialize header ↔ 0 ≤ body.mtk ∧ body.wireSize < 2^16 := by
  by_cases natural : 0 ≤ body.mtk
  · obtain ⟨bytes,written⟩ := RekeyBody.serialize_natural natural
    have size : bytes.length = body.wireSize := RekeyBody.length_serialize written
    rw [written,Packet.declared_iff (by rw [size,cut]),size]
    exact (and_iff_right natural).symm
  · refine iff_of_false ?_ (fun both => natural both.1)
    rintro ⟨bytes,written,-⟩
    obtain ⟨mtk_bytes,mtk_written,-⟩ := RekeyBody.serialize_ok written
    rw [BigInt.toBytes,if_pos (by omega)] at mtk_written
    cases mtk_written

theorem RekeyPacket.build_declared_iff {draws : BuildDraws} {cluster_id version : UInt32}
    {skdc_id : UInt16} {reason : RekeyReason} {mtk : Int} {seq : SequenceCounter}
    {pkt : RekeyPacket}
    (built : (build draws cluster_id skdc_id version reason mtk seq).1 = .ok pkt) :
    Declared pkt.body.serialize pkt.header ↔ 0 ≤ mtk ∧ 40+wireBytes mtk < 2^16 := by
  rw [build] at built
  split at built
  · cases built
  · obtain ⟨token,-,built⟩ := Result.bind_ok.mp built
    cases built
    exact RekeyBody.declared_iff rfl

/-- The declared length is that of the body if and only if the body has fewer than `2^16` bytes,
and, for a rekey packet, there is a body at all. -/
theorem payload_lengths_declared_iff (crypto : Primitives)
    (lengths : ∀ key iv text aad, (crypto.gcmEncrypt key iv text aad).1.length = text.length) :
    (∀ draws cluster_id uav_id skdc_id data_seq plaintext tek seq pkt,
      (DataPacket.build crypto draws cluster_id uav_id skdc_id data_seq plaintext tek seq).1 =
        .ok pkt →
      (Declared (.ok pkt.body.serialize) pkt.header ↔ 56+plaintext.length%2^32 < 2^16)) ∧
    (∀ draws cluster_id src_skdc version mtk n_group seq pkt,
      (MtkPacket.build draws cluster_id src_skdc version mtk n_group seq).1 = .ok pkt →
      (Declared pkt.body.serialize pkt.header ↔ 44+wireBytes mtk+wireBytes n_group < 2^16)) ∧
    (∀ draws cluster_id skdc_id version reason mtk seq pkt,
      (RekeyPacket.build draws cluster_id skdc_id version reason mtk seq).1 = .ok pkt →
      (Declared pkt.body.serialize pkt.header ↔ 0 ≤ mtk ∧ 40+wireBytes mtk < 2^16)) := by
  refine ⟨?_,?_,?_⟩
  · intro draws cluster_id uav_id skdc_id data_seq plaintext tek seq pkt built
    exact DataPacket.build_declared_iff lengths built
  · intro draws cluster_id src_skdc version mtk n_group seq pkt built
    exact MtkPacket.build_declared_iff built
  · intro draws cluster_id skdc_id version reason mtk seq pkt built
    exact RekeyPacket.build_declared_iff built

def rekeyDraws : BuildDraws where
  body_us := 1700000000000000
  body_nonce := .ok (Vector.replicate 16 1)
  token_us := 1700000000000000
  token_nonce := .ok (Vector.replicate 16 2)

theorem sampleData_declared :
    ∃ pkt, sampleData = .ok pkt ∧ Declared (.ok pkt.body.serialize) pkt.header := by
  have present : ∃ pkt, sampleData = .ok pkt := ⟨_,rfl⟩
  obtain ⟨pkt,built⟩ := present
  refine ⟨pkt,built,?_⟩
  exact ((payload_lengths_declared_iff maskingCrypto maskingCrypto_inverts.length).1 sampleDraws 1 3
    101 0 [0x48,0x69] sampleManager.m_tek {} pkt built).mpr (by decide)

theorem wireBytes_power (k : Nat) : wireBytes ((2^k : Nat) : Int) = (k+8)/8 := by
  have positive : ((2^k : Nat) : Int) > 0 := by positivity
  rw [wireBytes,if_pos positive,Int.toNat_natCast,Nat.log2_two_pow]

theorem rekeyDraws_built (mtk : Int) : ∃ pkt,
    (RekeyPacket.build rekeyDraws 0 101 2 ⟨0x01⟩ mtk {}).1 = .ok pkt ∧
      pkt.header.payload_len = UInt16.ofNat (40+wireBytes mtk) ∧ pkt.body.mtk = mtk :=
  ⟨_,rfl,rfl,rfl⟩

/-- With a token of 65496 bytes, a body of 65536 bytes is declared to have none. -/
theorem long_rekey_undeclared : ∃ pkt,
    (RekeyPacket.build rekeyDraws 0 101 2 ⟨0x01⟩ ((2^523960 : Nat) : Int) {}).1 = .ok pkt ∧
    pkt.header.payload_len = 0 ∧
    (∃ bytes, pkt.body.serialize = .ok bytes ∧ bytes.length = 65536) ∧
    ¬ Declared pkt.body.serialize pkt.header := by
  have size := wireBytes_power 523960
  obtain ⟨pkt,built,cut,token⟩ := rekeyDraws_built ((2^523960 : Nat) : Int)
  rw [size] at cut
  refine ⟨pkt,built,cut,?_,?_⟩
  · have natural : 0 ≤ pkt.body.mtk := by
      rw [token]
      exact Int.natCast_nonneg _
    obtain ⟨bytes,written⟩ := RekeyBody.serialize_natural natural
    refine ⟨bytes,written,?_⟩
    rw [RekeyBody.length_serialize written,token,size]
  · rw [RekeyPacket.build_declared_iff built,size]
    rintro ⟨-,short⟩
    exact absurd short (by decide)

end UavFanet.Packet
