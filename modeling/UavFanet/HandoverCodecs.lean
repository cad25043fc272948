import UavFanet.SlaveKeyDelivery

/-! The four handover messages together: what a parser gives back of the arguments that its message
was built from, and that no parser takes the message of another. -/
namespace UavFanet.HandoverCodecs
open Library UavFanet.ByteUtils UavFanet.Apps UavFanet.Handover UavFanet.SlaveKeyDelivery

inductive Kind where
  | notify | slaveFwd | joinAccept | keyAck
  deriving DecidableEq,Repr

/-- The arguments of the functions that build messages, with what they draw. -/
inductive Arguments where
  | notify (nonce_key : AesGcmKey) (uav_id old_c new_c old_idx : UInt32)
  | slaveFwd (iv : GcmIv) (uav_id new_cluster : UInt32) (blob : SlaveKeyBlob)
  | joinAccept (iv : GcmIv) (uav_id new_cluster new_index : UInt32) (blob : SlaveKeyBlob)
  | keyAck (uav_id new_cluster new_index : UInt32)

inductive Parsed where
  | notify (pkt : NotifyPkt)
  | slaveFwd (fwd : SlaveFwd)
  | joinAccept (accept : JoinAccept)
  | keyAck (ack : SlaveAckPkt)
  deriving DecidableEq,Repr

def Kind.type : Kind → UInt8
  | .notify => typeNotify
  | .slaveFwd => typeSlaveFwd
  | .joinAccept => typeJoinAcc
  | .keyAck => typeKeyAck

/-- The parser of a kind of message. -/
def Kind.parse (crypto : Primitives) (buf : ByteBuffer) (gk : GlobalKey) :
    Kind → Result (Option Parsed)
  | .notify => return (← parseNotify crypto buf gk).map .notify
  | .slaveFwd => return (← parseSlaveFwd crypto buf gk).map .slaveFwd
  | .joinAccept => return (← parseJoinAccept crypto buf gk).map .joinAccept
  | .keyAck => return (← parseKeyAck crypto buf gk).map .keyAck

namespace Arguments

def kind : Arguments → Kind
  | notify .. => .notify
  | slaveFwd .. => .slaveFwd
  | joinAccept .. => .joinAccept
  | keyAck .. => .keyAck

def build (crypto : Primitives) (now_us : UInt64) (gk : GlobalKey) : Arguments → Result ByteBuffer
  | notify nonce_key uav_id old_c new_c old_idx =>
    buildNotify crypto now_us (.ok nonce_key) uav_id old_c new_c old_idx gk
  | slaveFwd iv uav_id new_cluster blob => buildSlaveFwd crypto (.ok iv) uav_id new_cluster blob gk
  | joinAccept iv uav_id new_cluster new_index blob =>
    buildJoinAccept crypto (.ok iv) now_us uav_id new_cluster new_index blob gk
  | keyAck uav_id new_cluster new_index =>
    .ok (buildKeyAck crypto now_us uav_id new_cluster new_index gk)

end Arguments

/-- The blob with the same numbers. -/
structure SameBlob (left right : SlaveKeyBlob) : Prop where
  index : left.uav_index = right.uav_index
  cluster : left.cluster_id = right.cluster_id
  numbers : denoted left = denoted right

/-- All arguments come back, and what was written of the clock and the draws for which the parsed
structure has a field: twelve bytes of a nonce stand in front of four zeros. -/
def Arguments.Returned (now_us : UInt64) : Arguments → Parsed → Prop
  | notify nonce_key uav_id old_c new_c old_idx, .notify pkt =>
    pkt.uav_id = uav_id ∧ pkt.old_cluster = old_c ∧ pkt.new_cluster = new_c ∧
      pkt.old_index = old_idx ∧ pkt.timestamp = now_us ∧
      pkt.nonce.toList = nonce_key.toList.take 12 ++ List.replicate 4 0
  | slaveFwd _ uav_id new_cluster blob, .slaveFwd fwd =>
    fwd.uav_id = uav_id ∧ fwd.new_cluster = new_cluster ∧ SameBlob fwd.blob blob
  | joinAccept _ uav_id new_cluster new_index blob, .joinAccept accept =>
    accept.uav_id = uav_id ∧ accept.new_cluster = new_cluster ∧ accept.new_index = new_index ∧
      SameBlob accept.blob blob
  | keyAck uav_id new_cluster new_index, .keyAck ack =>
    ack.uav_id = uav_id ∧ ack.new_cluster = new_cluster ∧ ack.new_index = new_index ∧
      ack.timestamp = now_us
  | _, _ => False

/-- No field of the blob is longer than 256 bytes. -/
def ShortBlob (blob : SlaveKeyBlob) : Prop :=
  ∀ field ∈ [blob.d_i_bytes,blob.n_i_bytes,blob.e_i_bytes,blob.Mi_bytes,blob.Ni_bytes],
    field.length ≤ 256

def Arguments.Short : Arguments → Prop
  | slaveFwd _ _ _ blob => ShortBlob blob
  | joinAccept _ _ _ _ blob => ShortBlob blob
  | _ => True

/-- A notification returns its nonce only where the bytes drawn are those that stand in the parsed
structure anyway. -/
def Arguments.NonceReturned : Arguments → Prop
  | notify nonce_key _ _ _ _ => nonce_key.toList.take 12 = List.replicate 12 0
  | _ => True

theorem sameBlob_filled {blob : SlaveKeyBlob} (short : ShortBlob blob) :
    SameBlob blob.filled blob := by
  have field : ∀ v : ByteBuffer, v.length ≤ 256 →
      BigInt.fromBytes (SlaveKeyBlob.writeField v) = BigInt.fromBytes v := by
    intro v bound
    rw [BigInt.fromBytes,SlaveKeyBlob.writeField,BigEndian.decode_padded,
      List.take_of_length_le bound,BigInt.fromBytes]
  simp only [ShortBlob,List.forall_mem_cons,List.not_mem_nil,false_implies,implies_true,
    and_true] at short
  obtain ⟨d_i,n_i,e_i,Mi,Ni⟩ := short
  refine ⟨rfl,rfl,?_⟩
  simp only [denoted,SlaveKeyBlob.filled,List.map_cons,List.map_nil,field _ d_i,field _ n_i,
    field _ e_i,field _ Mi,field _ Ni]

section Kinds

variable (crypto : Primitives) (gk : GlobalKey)

theorem readU8_front (type : UInt8) (rest : ByteBuffer) : readU8 (type::rest) 0 = .ok type := by
  have front : type::rest = [[type],rest].flatten := by simp
  rw [front]
  exact readU8_field (i := 0) rfl rfl

/-- Every parser looks at the first byte before it reads anything else. -/
theorem Kind.parse_other {kind : Kind} {type : UInt8} (other : kind.type ≠ type)
    (rest : ByteBuffer) : kind.parse crypto (type::rest) gk = .ok none := by
  cases kind with
  | notify =>
    have differs : type ≠ typeNotify := other.symm
    simp only [Kind.parse,parseNotify,readU8_front,Result.ok_bind,if_pos differs]
    split <;> rfl
  | slaveFwd =>
    have differs : type ≠ typeSlaveFwd := other.symm
    simp only [Kind.parse,parseSlaveFwd,readU8_front,Result.ok_bind,if_pos differs]
    split <;> rfl
  | joinAccept =>
    have differs : type ≠ typeJoinAcc := other.symm
    simp only [Kind.parse,parseJoinAccept,readU8_front,Result.ok_bind,if_pos differs]
    split <;> rfl
  | keyAck =>
    have differs : type ≠ typeKeyAck := other.symm
    simp only [Kind.parse,parseKeyAck,readU8_front,Result.ok_bind,if_pos differs]
    split <;> rfl

theorem Kind.type_injective : Function.Injective Kind.type := by
  intro left right same
  cases left <;> cases right <;> first | rfl | exact absurd same (by decide)

theorem Arguments.build_front (now_us : UInt64) (args : Arguments) :
    ∃ rest, args.build crypto now_us gk = .ok (args.kind.type::rest) := by
  cases args with
  | notify nonce_key uav_id old_c new_c old_idx => exact ⟨_,rfl⟩
  | slaveFwd iv uav_id new_cluster blob =>
    exact buildSlaveFwd_front crypto iv uav_id new_cluster blob gk
  | joinAccept iv uav_id new_cluster new_index blob =>
    exact buildJoinAccept_front crypto iv uav_id new_cluster blob gk now_us new_index
  | keyAck uav_id new_cluster new_index => exact ⟨_,rfl⟩

end Kinds

theorem zero_nonce (drawn : ByteBuffer) :
    (Vector.replicate 16 (0 : UInt8)).toList = drawn.take 12 ++ List.replicate 4 0 ↔
      drawn.take 12 = List.replicate 12 0 := by
  have split : (Vector.replicate 16 (0 : UInt8)).toList = List.replicate 12 0 ++ List.replicate 4 0 :=
    rfl
  rw [split,List.append_left_inj]
  exact eq_comm

theorem returned_iff {crypto : Primitives} (inverts : Inverts crypto) {now_us : UInt64}
    {gk : GlobalKey} {args : Arguments} (short : args.Short) {wire : ByteBuffer}
    (built : args.build crypto now_us gk = .ok wire) :
    ∃ parsed, args.kind.parse crypto wire gk = .ok (some parsed) ∧
      (args.Returned now_us parsed ↔ args.NonceReturned) := by
  cases args with
  | notify nonce_key uav_id old_c new_c old_idx =>
    have parsed := parseNotify_buildNotify built
    refine ⟨.notify _,by rw [Arguments.kind,Kind.parse,parsed]; rfl,?_⟩
    simp only [Arguments.Returned,Arguments.NonceReturned,true_and]
    exact zero_nonce _
  | slaveFwd iv uav_id new_cluster blob =>
    have parsed := parseSlaveFwd_buildSlaveFwd inverts built
    refine ⟨.slaveFwd _,by rw [Arguments.kind,Kind.parse,parsed]; rfl,?_⟩
    simp only [Arguments.Returned,Arguments.NonceReturned,true_and,iff_true]
    exact sameBlob_filled short
  | joinAccept iv uav_id new_cluster new_index blob =>
    have parsed := parseJoinAccept_buildJoinAccept inverts built
    refine ⟨.joinAccept _,by rw [Arguments.kind,Kind.parse,parsed]; rfl,?_⟩
    simp only [Arguments.Returned,Arguments.NonceReturned,true_and,iff_true]
    exact sameBlob_filled short
  | keyAck uav_id new_cluster new_index =>
    obtain rfl := Except.ok.inj built
    have parsed := parseKeyAck_buildKeyAck crypto now_us uav_id new_cluster new_index gk
    refine ⟨.keyAck _,by rw [Arguments.kind,Kind.parse,parsed]; rfl,?_⟩
    simp [Arguments.Returned,Arguments.NonceReturned]

/-- Every message is built, its own parser accepts it under the same key, the others refuse it
under every key. All that was written comes back except for the nonce of a notification. -/
theorem codecs_faithful_iff {crypto : Primitives} (inverts : Inverts crypto) (now_us : UInt64)
    (gk : GlobalKey) {args : Arguments} (short : args.Short) :
    ∃ wire, args.build crypto now_us gk = .ok wire ∧
      (∃ parsed, args.kind.parse crypto wire gk = .ok (some parsed) ∧
        (args.Returned now_us parsed ↔ args.NonceReturned)) ∧
      ∀ kind, kind ≠ args.kind → ∀ key, kind.parse crypto wire key = .ok none := by
  obtain ⟨rest,built⟩ := args.build_front crypto gk now_us
  refine ⟨_,built,returned_iff inverts short built,?_⟩
  intro kind other key
  exact kind.parse_other crypto key (fun same => other (Kind.type_injective same)) rest

def sampleBlob : SlaveKeyBlob where
  uav_index := 3
  cluster_id := 1
  d_i_bytes := [1,0]
  n_i_bytes := [4,57]
  e_i_bytes := [5]
  Mi_bytes := [15]
  Ni_bytes := [135]

theorem sample_codec_faithful :
    ∃ wire accept, buildJoinAccept handoverCrypto (.ok (Vector.replicate 12 1)) 7 9 1 3 sampleBlob
        zeroKey = .ok wire ∧
      Kind.joinAccept.parse handoverCrypto wire zeroKey = .ok (some (.joinAccept accept)) ∧
      accept.uav_id = 9 ∧ SameBlob accept.blob sampleBlob ∧
      Kind.slaveFwd.parse handoverCrypto wire zeroKey = .ok none := by
  have short : Arguments.Short (.joinAccept (Vector.replicate 12 1) 9 1 3 sampleBlob) := by
    unfold Arguments.Short ShortBlob
    decide
  obtain ⟨wire,built,⟨parsed,own,returned⟩,others⟩ :=
    codecs_faithful_iff handoverCrypto_inverts 7 zeroKey short
  have came := returned.mpr trivial
  cases parsed with
  | joinAccept accept =>
    exact ⟨wire,accept,built,own,came.1,came.2.2.2,others .slaveFwd (by decide) zeroKey⟩
  | notify pkt => exact came.elim
  | slaveFwd fwd => exact came.elim
  | keyAck ack => exact came.elim

/-- The nonce is in the buffer, and the parsed structure has zeros for it. -/
theorem notify_nonce_lost :
    ∃ wire pkt, buildNotify handoverCrypto 7 (.ok (Vector.replicate 32 1)) 9 0 1 3 zeroKey =
        .ok wire ∧
      parseNotify handoverCrypto wire zeroKey = .ok (some pkt) ∧
      (wire.drop 25).take 12 = List.replicate 12 1 ∧ pkt.nonce = Vector.replicate 16 0 := by
  have built : buildNotify handoverCrypto 7 (.ok (Vector.replicate 32 1)) 9 0 1 3 zeroKey = .ok _ :=
    rfl
  exact ⟨_,_,built,parseNotify_buildNotify built,by decide +kernel,rfl⟩

end UavFanet.HandoverCodecs
