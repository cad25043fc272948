import UavFanet.PacketManager
import UavFanet.Library.Run
import Mathlib.Data.List.Nodup

/-! What `Dispatch` lets through: which buffers reach a handler, when those are authentic
and valid, and when a run of it delivers a packet only once. -/
namespace UavFanet.Packet
open Library UavFanet.ByteUtils UavFanet.Replay UavFanet.Apps

theorem peekType_known {wire : ByteBuffer} (known : peekType wire ≠ .unknown) :
    readU16BE wire 0 = .ok packetMagic ∧ readU8 wire 3 = .ok (peekType wire).raw := by
  unfold peekType at known ⊢
  split at known
  · rename_i high low version packet_type rest
    split at known
    · exact absurd rfl known
    · rename_i genuine
      have magic : UInt16.ofNat (high.toNat*256+low.toNat) = packetMagic := not_not.mp genuine
      have size : 4 ≤ (high :: low :: version :: packet_type :: rest).length := by simp
      have front : ByteUtils.read (high :: low :: version :: packet_type :: rest) 0 2 =
          .ok [high,low] := by
        rw [ByteUtils.read,ByteLayout.slice_within (by omega)]
        rfl
      have third : ByteUtils.read (high :: low :: version :: packet_type :: rest) 3 1 =
          .ok [packet_type] := by
        rw [ByteUtils.read,ByteLayout.slice_within (by omega)]
        rfl
      simp only [readU16BE,readU8,front,third,Result.ok_bind,BigEndian.decode,BigEndian.decodeFrom,
        List.foldl_cons,List.foldl_nil,Nat.zero_mul,Nat.zero_add,magic,UInt8.ofNat_toNat,ne_eq,
        not_true_eq_false,if_false]
      exact ⟨rfl,rfl⟩
  · exact absurd rfl known

/-- The least length of a buffer of its type: the fixed parts, the tag, and what its length
fields announce. There is none for a type without a case in the `switch`. -/
def wireSize (wire : ByteBuffer) : Option Nat :=
  let type := peekType wire
  if type = .authPacket then some 128
  else if type = .joinPacket ∨ type = .leavePacket then some 136
  else if type = .rekeyPacket then some (120+lengthField wire 60)
  else if type = .mtkPacket then
    some (108+(lengthField wire 64+lengthField wire 68+lengthField wire 72))
  else if type = .handoverPacket then some 144
  else if type = .dataPacket then some (136+lengthField wire 68)
  else none

def Framed (wire : ByteBuffer) : Prop := ∃ size, size ∈ wireSize wire ∧ size ≤ wire.length

instance (wire : ByteBuffer) : Decidable (Framed wire) := Option.decidableExistsMem _

/-- `Dispatch` calls a handler or returns true. -/
def Dispatched.Accepts (outcome : Dispatched) : Prop :=
  outcome.handed.isSome = true ∨ outcome.returned = .ok true

namespace PacketManager

theorem refuse_handed (manager : PacketManager) (handed : Option AnyPacket) (failure : Failure) :
    (manager.refuse handed failure).handed = handed := by
  cases failure <;> rfl

theorem refuse_returned (manager : PacketManager) (handed : Option AnyPacket) (failure : Failure) :
    (manager.refuse handed failure).returned ≠ .ok true := by
  cases failure <;> simp [refuse]

theorem hand_accepts {P : Type} (manager : PacketManager) (parsed : Result P)
    (received : PacketStats → PacketStats) (handler : Option (P → Result Unit))
    (kind : P → AnyPacket) :
    (manager.hand parsed received handler kind).Accepts ↔ ∃ pkt, parsed = .ok pkt := by
  unfold hand Dispatched.Accepts
  cases parsed with
  | error failure =>
    simp only [refuse_handed,refuse_returned]
    simp
  | ok pkt =>
    cases handler with
    | none => simp
    | some handle =>
      simp only
      cases handle pkt with
      | error failure => simp [refuse_handed]
      | ok _ => simp

/-- A buffer passes if it is framed and, unless it is a token broadcast, authentic. -/
theorem dispatch_accepts (crypto : Primitives) (wire : ByteBuffer) (manager : PacketManager) :
    (manager.dispatch crypto wire).Accepts ↔ Framed wire ∧
      (peekType wire = .mtkPacket ∨ Hmac.Authentic crypto manager.m_hmac_key wire) := by
  by_cases unknown : peekType wire = .unknown
  · have sizeless : wireSize wire = none := by
      simp only [wireSize,unknown,PacketType.unknown,PacketType.authPacket,PacketType.joinPacket]
      rfl
    simp [dispatch,unknown,Dispatched.Accepts,Framed,sizeless]
  obtain ⟨genuine,-⟩ := peekType_known unknown
  unfold dispatch Framed wireSize
  simp only [if_neg unknown]
  split_ifs with auth join rekey mtk handover data
  · rw [hand_accepts,AuthPacket.deserialize_accepts genuine]
    have verified : peekType wire ≠ .mtkPacket := by
      rw [auth]
      decide
    simp only [count,Option.mem_some_iff,exists_eq_left',verified,false_or]
  · rw [hand_accepts,JoinPacket.deserialize_accepts genuine]
    have verified : peekType wire ≠ .mtkPacket := by
      rcases join with join | leave
      · rw [join]
        decide
      · rw [leave]
        decide
    simp only [count,Option.mem_some_iff,exists_eq_left',verified,false_or]
  · rw [hand_accepts,RekeyPacket.deserialize_accepts genuine]
    have verified : peekType wire ≠ .mtkPacket := by
      rw [rekey]
      decide
    simp only [count,Option.mem_some_iff,exists_eq_left',verified,false_or]
  · rw [hand_accepts,MtkPacket.deserialize_accepts genuine]
    simp only [Option.mem_some_iff,exists_eq_left',mtk,true_or,and_true]
  · rw [hand_accepts,HandoverPacket.deserialize_accepts genuine]
    have verified : peekType wire ≠ .mtkPacket := by
      exact mtk
    simp only [count,Option.mem_some_iff,exists_eq_left',verified,false_or]
  · rw [hand_accepts,DataPacket.deserialize_accepts genuine]
    have verified : peekType wire ≠ .mtkPacket := by
      exact mtk
    simp only [count,Option.mem_some_iff,exists_eq_left',verified,false_or]
  · simp [Dispatched.Accepts]

end PacketManager

def ValidHeader (wire : ByteBuffer) : Prop :=
  ∃ header, BaseHeader.deserialize wire 0 = .ok header ∧ header.isValid = true

theorem wireSize_least {wire : ByteBuffer} {size : Nat} (sized : size ∈ wireSize wire) :
    108 ≤ size ∧ PacketType.isValidPacketType (peekType wire).raw = true := by
  unfold wireSize at sized
  simp only at sized
  split_ifs at sized with auth join rekey mtk handover data
  · cases sized
    exact ⟨by omega,by rw [auth]; decide⟩
  · cases sized
    rcases join with join | leave
    · exact ⟨by omega,by rw [join]; decide⟩
    · exact ⟨by omega,by rw [leave]; decide⟩
  · cases sized
    exact ⟨by omega,by rw [rekey]; decide⟩
  · cases sized
    exact ⟨by omega,by rw [mtk]; decide⟩
  · cases sized
    exact ⟨by omega,by rw [handover]; decide⟩
  · cases sized
    exact ⟨by omega,by rw [data]; decide⟩
  · cases sized

/-- All that can be wrong with the header of a framed buffer is its version. -/
theorem validHeader_framed {wire : ByteBuffer} (framed : Framed wire) :
    ValidHeader wire ↔ readU8 wire 2 = .ok protocolVersion := by
  obtain ⟨size,sized,long⟩ := framed
  obtain ⟨least,known⟩ := wireSize_least sized
  have typed : peekType wire ≠ .unknown := by
    intro unknown
    rw [unknown] at known
    exact absurd known (by decide)
  obtain ⟨genuine,type_read⟩ := peekType_known typed
  obtain ⟨header,parsed⟩ := BaseHeader.deserialize_within wire 0 (by omega) genuine
  obtain ⟨magic,version,packet_type⟩ := BaseHeader.deserialize_ok parsed
  rw [Nat.zero_add] at version packet_type
  have same_type : header.packet_type.raw = (peekType wire).raw := by
    rw [packet_type] at type_read
    exact Except.ok.inj type_read
  have valid : header.isValid = true ↔ header.version = protocolVersion := by
    unfold BaseHeader.isValid
    rw [magic,same_type,known]
    simp
  constructor
  · rintro ⟨other,other_parsed,other_valid⟩
    obtain rfl : header = other := Except.ok.inj (parsed.symm.trans other_parsed)
    rw [version,valid.mp other_valid]
  · intro current
    rw [version] at current
    exact ⟨header,parsed,valid.mpr (Except.ok.inj current)⟩

/-- What passes is authentic and has a valid header, except for token broadcasts with another tag
and for other versions of the protocol. -/
theorem dispatch_authentic_iff (crypto : Primitives) (wire : ByteBuffer) (manager : PacketManager) :
    ((manager.dispatch crypto wire).Accepts →
      Hmac.Authentic crypto manager.m_hmac_key wire ∧ ValidHeader wire) ↔
    (Framed wire →
      (Hmac.Authentic crypto manager.m_hmac_key wire → readU8 wire 2 = .ok protocolVersion) ∧
      (peekType wire = .mtkPacket → Hmac.Authentic crypto manager.m_hmac_key wire)) := by
  rw [manager.dispatch_accepts crypto wire]
  constructor
  · intro sound framed
    constructor
    · intro authentic
      obtain ⟨-,valid⟩ := sound ⟨framed,.inr authentic⟩
      exact (validHeader_framed framed).mp valid
    · intro mtk
      exact (sound ⟨framed,.inl mtk⟩).1
  · rintro condition ⟨framed,passes⟩
    obtain ⟨current,tagged⟩ := condition framed
    have authentic : Hmac.Authentic crypto manager.m_hmac_key wire := by
      rcases passes with mtk | authentic
      · exact tagged mtk
      · exact authentic
    exact ⟨authentic,(validHeader_framed framed).mpr (current authentic)⟩

/-- A token broadcast whose tag is all zeros. -/
def forgedBytes : ByteBuffer := [0x55,0x41,1,4,0x0E,2,0,28,0,0,0,1,0xFF,0xFF,2,3] ++
  List.replicate 15 0 ++ [1] ++ List.replicate 44 0

def forgedWire : ByteBuffer := forgedBytes ++ List.replicate 32 0

def requestBytes : ByteBuffer := [0x55,0x41,1,1,0x0C,3,0,48,0,0,0,0,0,1,3,2] ++
  writeU64BE 1700000000000000 ++ List.replicate 7 0 ++ [1] ++ List.replicate 16 2 ++
  [1,8,0,0,0,1,0,0] ++ List.replicate 32 0 ++ writeU64BE 1700000000000000

def forgedTag : Key256 := ⟨#[113,243,49,252,222,226,91,110,52,77,22,126,2,195,253,129,241,43,166,44,
  170,20,195,4,92,130,72,200,209,188,220,203],rfl⟩

def requestTag : Key256 := ⟨#[118,197,229,46,2,74,86,90,243,135,29,29,0,75,242,42,67,161,
  14,142,115,229,44,105,22,91,22,45,97,22,233,118],rfl⟩

/-- HMAC-SHA256 under the zero key, where the two buffers call for it. -/
def dispatchCrypto : Primitives where
  sha256 _ := zeroKey
  hmacSha256 key message :=
    if key = zeroKey ∧ message = forgedBytes then forgedTag
    else if key = zeroKey ∧ message = requestBytes then requestTag
    else zeroKey
  gcmEncrypt _ _ text _ := (text,Vector.replicate 16 0)
  gcmDecrypt _ _ _ _ _ := none

/-- A node that takes every token broadcast and every request for authentication. -/
def openManager : PacketManager where
  m_node_id := 0
  m_cluster_id := 0
  m_hmac_key := zeroKey
  m_tek := zeroKey
  m_auth_handler := some fun _ => .ok ()
  m_mtk_handler := some fun _ => .ok ()

theorem dispatch_forged : ¬ ((openManager.dispatch dispatchCrypto forgedWire).Accepts →
    Hmac.Authentic dispatchCrypto openManager.m_hmac_key forgedWire ∧ ValidHeader forgedWire) := by
  rw [openManager.dispatch_accepts dispatchCrypto forgedWire]
  intro sound
  have forged : ¬ Hmac.Authentic dispatchCrypto openManager.m_hmac_key forgedWire := by decide
  exact forged (sound ⟨by decide,.inl (by decide)⟩).1

/-- Who sent a packet, and its replay token. -/
def BaseHeader.identity (header : BaseHeader) : UInt16 × ReplayToken :=
  (header.src_node_id,header.extractReplayToken)

def wireIdentity (wire : ByteBuffer) : Result (UInt16 × ReplayToken) := do
  let header ← readHeader wire
  return header.identity

namespace PacketManager

def handles (manager : PacketManager) (type : PacketType) : Bool :=
  if type = .authPacket then manager.m_auth_handler.isSome
  else if type = .joinPacket ∨ type = .leavePacket then manager.m_join_handler.isSome
  else if type = .rekeyPacket then manager.m_rekey_handler.isSome
  else if type = .mtkPacket then manager.m_mtk_handler.isSome
  else if type = .handoverPacket then manager.m_handover_handler.isSome
  else if type = .dataPacket then manager.m_data_handler.isSome
  else false

theorem hand_handed {P : Type} {manager : PacketManager} {parsed : Result P}
    {received : PacketStats → PacketStats} {handler : Option (P → Result Unit)}
    {kind : P → AnyPacket} {packet : AnyPacket} :
    (manager.hand parsed received handler kind).handed = some packet ↔
      handler.isSome = true ∧ ∃ pkt, parsed = .ok pkt ∧ kind pkt = packet := by
  unfold hand
  cases parsed with
  | error failure => simp [refuse_handed]
  | ok pkt =>
    cases handler with
    | none => simp
    | some handle =>
      simp only
      cases handle pkt with
      | error failure => simp [refuse_handed]
      | ok _ => simp

theorem dispatch_frame (crypto : Primitives) (wire : ByteBuffer) (manager : PacketManager) :
    ∃ stats, (manager.dispatch crypto wire).manager = { manager with m_stats := stats } := by
  have refuse_frame (counted : PacketManager) (handed : Option AnyPacket) (failure : Failure) :
      ∃ stats, (counted.refuse handed failure).manager = { counted with m_stats := stats } := by
    cases failure <;> exact ⟨_,rfl⟩
  have hand_frame {P : Type} (parsed : Result P) (received : PacketStats → PacketStats)
      (handler : Option (P → Result Unit)) (kind : P → AnyPacket) (counted : PacketManager) :
      ∃ stats, (counted.hand parsed received handler kind).manager =
        { counted with m_stats := stats } := by
    unfold hand
    cases parsed with
    | error failure => exact refuse_frame counted none failure
    | ok pkt =>
      cases handler with
      | none => exact ⟨_,rfl⟩
      | some handle =>
        simp only
        cases handle pkt with
        | error failure => exact refuse_frame _ _ failure
        | ok _ => exact ⟨_,rfl⟩
  unfold dispatch
  simp only
  split_ifs
  · exact ⟨_,rfl⟩
  · exact hand_frame _ _ _ _ _
  · exact hand_frame _ _ _ _ _
  · exact hand_frame _ _ _ _ _
  · exact hand_frame _ _ _ _ _
  · exact hand_frame _ _ _ _ _
  · exact hand_frame _ _ _ _ _
  · exact ⟨_,rfl⟩

theorem dispatch_hands (crypto : Primitives) (wire : ByteBuffer) (manager : PacketManager) :
    (manager.dispatch crypto wire).handed.isSome = true ↔
      (manager.dispatch crypto wire).Accepts ∧ manager.handles (peekType wire) = true := by
  have hand_hands {P : Type} (counted : PacketManager) (parsed : Result P)
      (received : PacketStats → PacketStats) (handler : Option (P → Result Unit))
      (kind : P → AnyPacket) :
      (counted.hand parsed received handler kind).handed.isSome = true ↔
        (counted.hand parsed received handler kind).Accepts ∧ handler.isSome = true := by
    rw [hand_accepts,Option.isSome_iff_exists]
    simp only [hand_handed]
    constructor
    · rintro ⟨packet,registered,pkt,read,-⟩
      exact ⟨⟨pkt,read⟩,registered⟩
    · rintro ⟨⟨pkt,read⟩,registered⟩
      exact ⟨kind pkt,registered,pkt,read,rfl⟩
  by_cases unknown : peekType wire = .unknown
  · simp [dispatch,unknown,Dispatched.Accepts]
  unfold dispatch handles
  simp only [if_neg unknown]
  split_ifs
  · exact hand_hands _ _ _ _ _
  · exact hand_hands _ _ _ _ _
  · exact hand_hands _ _ _ _ _
  · exact hand_hands _ _ _ _ _
  · exact hand_hands _ _ _ _ _
  · exact hand_hands _ _ _ _ _
  · simp

theorem dispatch_identity {crypto : Primitives} {wire : ByteBuffer} {manager : PacketManager}
    {packet : AnyPacket} (handed : (manager.dispatch crypto wire).handed = some packet) :
    wireIdentity wire = .ok packet.header.identity := by
  have front_read : readHeader wire = .ok packet.header := by
    unfold dispatch at handed
    simp only at handed
    split_ifs at handed
    · obtain ⟨-,pkt,parsed,rfl⟩ := hand_handed.mp handed
      exact AuthPacket.deserialize_header parsed
    · obtain ⟨-,pkt,parsed,rfl⟩ := hand_handed.mp handed
      exact JoinPacket.deserialize_header parsed
    · obtain ⟨-,pkt,parsed,rfl⟩ := hand_handed.mp handed
      exact RekeyPacket.deserialize_header parsed
    · obtain ⟨-,pkt,parsed,rfl⟩ := hand_handed.mp handed
      exact MtkPacket.deserialize_header parsed
    · obtain ⟨-,pkt,parsed,rfl⟩ := hand_handed.mp handed
      exact HandoverPacket.deserialize_header parsed
    · obtain ⟨-,pkt,parsed,rfl⟩ := hand_handed.mp handed
      exact DataPacket.deserialize_header parsed
  rw [wireIdentity,front_read]
  rfl

def receive (crypto : Primitives) (manager : PacketManager) (wire : ByteBuffer) :
    PacketManager × Option AnyPacket :=
  let outcome := manager.dispatch crypto wire
  (outcome.manager,outcome.handed)

/-- The packets that a run of `Dispatch` hands out, each with the buffer it came in. -/
def delivered (crypto : Primitives) (manager : PacketManager) (wires : List ByteBuffer) :
    List (ByteBuffer × AnyPacket) := Run.emitted (receive crypto) manager wires

/-- Of the authentic packets that reach a handler no two are of one sender and token. -/
def DeliversOnce (crypto : Primitives) (manager : PacketManager) (wires : List ByteBuffer) : Prop :=
  (((delivered crypto manager wires).filter fun delivery =>
      decide (Hmac.Authentic crypto manager.m_hmac_key delivery.1)).map
    fun delivery => delivery.2.header.identity).Nodup

instance (crypto : Primitives) (manager : PacketManager) (wires : List ByteBuffer) :
    Decidable (manager.DeliversOnce crypto wires) := inferInstanceAs (Decidable (List.Nodup _))

/-- A framed and authentic buffer of a type with a handler. -/
def Passes (crypto : Primitives) (manager : PacketManager) (wire : ByteBuffer) : Prop :=
  Framed wire ∧ Hmac.Authentic crypto manager.m_hmac_key wire ∧
    manager.handles (peekType wire) = true

instance (crypto : Primitives) (manager : PacketManager) (wire : ByteBuffer) :
    Decidable (manager.Passes crypto wire) := inferInstanceAs (Decidable (_ ∧ _ ∧ _))

theorem delivered_identities (crypto : Primitives) (wires : List ByteBuffer)
    (manager : PacketManager) :
    ((delivered crypto manager wires).filter fun delivery =>
        decide (Hmac.Authentic crypto manager.m_hmac_key delivery.1)).map
      (fun delivery => (Except.ok delivery.2.header.identity : Result (UInt16 × ReplayToken))) =
    (wires.filter fun wire => decide (manager.Passes crypto wire)).map wireIdentity := by
  induction wires generalizing manager with
  | nil => rfl
  | cons wire rest ih =>
    obtain ⟨stats,frame⟩ := manager.dispatch_frame crypto wire
    have later : ((delivered crypto (manager.dispatch crypto wire).manager rest).filter fun delivery =>
          decide (Hmac.Authentic crypto manager.m_hmac_key delivery.1)).map
        (fun delivery => (Except.ok delivery.2.header.identity : Result (UInt16 × ReplayToken))) =
        (rest.filter fun wire => decide (manager.Passes crypto wire)).map wireIdentity := by
      rw [frame]
      exact ih { manager with m_stats := stats }
    have hands := manager.dispatch_hands crypto wire
    rw [dispatch_accepts] at hands
    rw [delivered,Run.emitted,List.filter_append,List.map_append]
    simp only [receive]
    rw [← delivered,later]
    cases handed : (manager.dispatch crypto wire).handed with
    | none =>
      have refused : ¬ manager.Passes crypto wire := by
        rintro ⟨framed,authentic,handled⟩
        have called := hands.mpr ⟨⟨framed,.inr authentic⟩,handled⟩
        rw [handed] at called
        cases called
      rw [List.filter_cons_of_neg (by simpa using refused)]
      rfl
    | some packet =>
      by_cases authentic : Hmac.Authentic crypto manager.m_hmac_key wire
      · obtain ⟨⟨framed,-⟩,handled⟩ := hands.mp (by rw [handed]; rfl)
        have passes : manager.Passes crypto wire := ⟨framed,authentic,handled⟩
        rw [List.filter_cons_of_pos (by simpa using passes),List.map_cons,dispatch_identity handed]
        simp [authentic]
      · have refused : ¬ manager.Passes crypto wire := fun passes => authentic passes.2.1
        rw [List.filter_cons_of_neg (by simpa using refused)]
        simp [authentic]

/-- Nothing but the network keeps a packet from reaching a handler twice. -/
theorem deliversOnce_iff (crypto : Primitives) (manager : PacketManager) (wires : List ByteBuffer) :
    manager.DeliversOnce crypto wires ↔
      ((wires.filter fun wire => decide (manager.Passes crypto wire)).map wireIdentity).Nodup := by
  have injective : Function.Injective
      (Except.ok : UInt16 × ReplayToken → Result (UInt16 × ReplayToken)) := fun _ _ => Except.ok.inj
  rw [← delivered_identities,DeliversOnce,← List.nodup_map_iff injective,List.map_map]
  rfl

end PacketManager

/-- One request for authentication, delivered twice. -/
def replayedWires : List ByteBuffer :=
  [Hmac.appendHmac dispatchCrypto zeroKey requestBytes,
    Hmac.appendHmac dispatchCrypto zeroKey requestBytes]

theorem deliversOnce_replayed : ¬ openManager.DeliversOnce dispatchCrypto replayedWires := by
  decide +kernel

end UavFanet.Packet
