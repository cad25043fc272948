import UavFanet.PacketFrame
import UavFanet.UavApp

/-! `PacketManager`: the requests and data packets that a node builds under one sequence
counter, and the dispatch of received buffers to its handlers. -/
namespace UavFanet.Packet
open Library UavFanet.ByteUtils UavFanet.Replay UavFanet.Apps

structure PacketStats where
  tx_total : UInt64 := 0
  rx_total : UInt64 := 0
  rx_auth : UInt64 := 0
  rx_join : UInt64 := 0
  rx_rekey : UInt64 := 0
  rx_mtk : UInt64 := 0
  rx_handover : UInt64 := 0
  rx_data : UInt64 := 0
  err_hmac : UInt64 := 0
  err_replay : UInt64 := 0
  err_format : UInt64 := 0
  deriving DecidableEq,Repr

/-- Of a registered handler counts whether it returns or throws. -/
structure PacketManager where
  m_node_id : UInt16
  m_cluster_id : UInt16
  m_hmac_key : HmacKey
  m_tek : AesGcmKey
  m_seq : SequenceCounter := {}
  m_stats : PacketStats := {}
  m_auth_handler : Option (AuthPacket → Result Unit) := none
  m_join_handler : Option (JoinPacket → Result Unit) := none
  m_rekey_handler : Option (RekeyPacket → Result Unit) := none
  m_mtk_handler : Option (MtkPacket → Result Unit) := none
  m_handover_handler : Option (HandoverPacket → Result Unit) := none
  m_data_handler : Option (DataPacket → Result Unit) := none

inductive AnyPacket where
  | auth (pkt : AuthPacket)
  | join (pkt : JoinPacket)
  | rekey (pkt : RekeyPacket)
  | mtk (pkt : MtkPacket)
  | handover (pkt : HandoverPacket)
  | data (pkt : DataPacket)
  deriving DecidableEq,Repr

def AnyPacket.header : AnyPacket → BaseHeader
  | auth pkt => pkt.header
  | join pkt => pkt.header
  | rekey pkt => pkt.header
  | mtk pkt => pkt.header
  | handover pkt => pkt.header
  | data pkt => pkt.header

/-- What a call of `Dispatch` leaves, which packet it called a handler with, and its result. -/
structure Dispatched where
  manager : PacketManager
  handed : Option AnyPacket
  returned : Result Bool

namespace PacketManager

def count (manager : PacketManager) (update : PacketStats → PacketStats) : PacketManager :=
  { manager with m_stats := update manager.m_stats }

/-- The two `catch` clauses; other exceptions leave `Dispatch`. -/
def refuse (manager : PacketManager) (handed : Option AnyPacket) (failure : Failure) : Dispatched :=
  match failure with
  | .cryptoException _ | .opensslError _ => {
      manager := manager.count fun stats => { stats with err_hmac := stats.err_hmac+1 }
      handed
      returned := .ok false }
  | .serializationException _ => {
      manager := manager.count fun stats => { stats with err_format := stats.err_format+1 }
      handed
      returned := .ok false }
  | failure => { manager, handed, returned := .error failure }

/-- One case of the `switch`: parse, count, and call the handler if one is registered. -/
def hand {P : Type} (manager : PacketManager) (parsed : Result P)
    (received : PacketStats → PacketStats) (handler : Option (P → Result Unit))
    (kind : P → AnyPacket) : Dispatched :=
  match parsed with
  | .error failure => manager.refuse none failure
  | .ok pkt =>
    let manager := manager.count received
    match handler with
    | none => { manager, handed := none, returned := .ok true }
    | some handle =>
      match handle pkt with
      | .ok () => { manager, handed := some (kind pkt), returned := .ok true }
      | .error failure => manager.refuse (some (kind pkt)) failure

def dispatch (crypto : Primitives) (wire : ByteBuffer) (manager : PacketManager) : Dispatched :=
  let type := peekType wire
  if type = .unknown then {
    manager := manager.count fun stats => { stats with err_format := stats.err_format+1 }
    handed := none
    returned := .ok false }
  else
    let manager := manager.count fun stats => { stats with rx_total := stats.rx_total+1 }
    if type = .authPacket then
      manager.hand (AuthPacket.deserialize crypto wire manager.m_hmac_key)
        (fun stats => { stats with rx_auth := stats.rx_auth+1 }) manager.m_auth_handler .auth
    else if type = .joinPacket ∨ type = .leavePacket then
      manager.hand (JoinPacket.deserialize crypto wire manager.m_hmac_key)
        (fun stats => { stats with rx_join := stats.rx_join+1 }) manager.m_join_handler .join
    else if type = .rekeyPacket then
      manager.hand (RekeyPacket.deserialize crypto wire manager.m_hmac_key)
        (fun stats => { stats with rx_rekey := stats.rx_rekey+1 }) manager.m_rekey_handler .rekey
    else if type = .mtkPacket then
      manager.hand (MtkPacket.deserialize wire manager.m_hmac_key)
        (fun stats => { stats with rx_mtk := stats.rx_mtk+1 }) manager.m_mtk_handler .mtk
    else if type = .handoverPacket then
      manager.hand (HandoverPacket.deserialize crypto wire manager.m_hmac_key)
        (fun stats => { stats with rx_handover := stats.rx_handover+1 })
        manager.m_handover_handler .handover
    else if type = .dataPacket then
      manager.hand (DataPacket.deserialize crypto wire manager.m_hmac_key)
        (fun stats => { stats with rx_data := stats.rx_data+1 }) manager.m_data_handler .data
    else {
      manager := manager.count fun stats => { stats with err_format := stats.err_format+1 }
      handed := none
      returned := .ok false }

/-- What the serializers share: the tag is appended, and the packet counted. -/
def serialize (crypto : Primitives) (bytes : ByteBuffer) (manager : PacketManager) :
    PacketManager × ByteBuffer :=
  (manager.count fun stats => { stats with tx_total := stats.tx_total+1 },
    Hmac.appendHmac crypto manager.m_hmac_key bytes)

def serializeAuth (crypto : Primitives) (pkt : AuthPacket) (manager : PacketManager) :
    PacketManager × ByteBuffer := manager.serialize crypto pkt.serialize

def serializeJoin (crypto : Primitives) (pkt : JoinPacket) (manager : PacketManager) :
    PacketManager × ByteBuffer := manager.serialize crypto pkt.serialize

def serializeRekey (crypto : Primitives) (pkt : RekeyPacket) (manager : PacketManager) :
    Result (PacketManager × ByteBuffer) := do
  let wire ← pkt.serialize
  return manager.serialize crypto wire

def serializeMtk (crypto : Primitives) (pkt : MtkPacket) (manager : PacketManager) :
    Result (PacketManager × ByteBuffer) := do
  let wire ← pkt.serialize
  return manager.serialize crypto wire

def serializeHandover (crypto : Primitives) (pkt : HandoverPacket) (manager : PacketManager) :
    PacketManager × ByteBuffer := manager.serialize crypto pkt.serialize

def serializeData (crypto : Primitives) (pkt : DataPacket) (manager : PacketManager) :
    PacketManager × ByteBuffer := manager.serialize crypto pkt.serialize

def makeAuthRequest (crypto : Primitives) (draws : AuthDraws) (skdc_id cluster_id : UInt16)
    (manager : PacketManager) : PacketManager × Result ByteBuffer :=
  let (built,m_seq) := AuthPacket.buildRequest draws manager.m_node_id skdc_id cluster_id
    manager.m_seq
  let manager := { manager with m_seq }
  match built with
  | .error failure => (manager,.error failure)
  | .ok pkt =>
    let (manager,wire) := manager.serializeAuth crypto pkt
    (manager,.ok wire)

def makeJoinRequest (crypto : Primitives) (draws : BuildDraws) (skdc_id cluster_id : UInt16)
    (uav_index : UInt32) (manager : PacketManager) : PacketManager × Result ByteBuffer :=
  let (built,m_seq) := JoinPacket.buildRequest draws manager.m_node_id skdc_id cluster_id uav_index
    manager.m_seq
  let manager := { manager with m_seq }
  match built with
  | .error failure => (manager,.error failure)
  | .ok pkt =>
    let (manager,wire) := manager.serializeJoin crypto pkt
    (manager,.ok wire)

def makeDataPacket (crypto : Primitives) (draws : DataDraws) (skdc_id : UInt16) (data_seq : UInt32)
    (plaintext : ByteBuffer) (manager : PacketManager) : PacketManager × Result ByteBuffer :=
  let (built,m_seq) := DataPacket.build crypto draws manager.m_cluster_id manager.m_node_id skdc_id
    data_seq plaintext manager.m_tek manager.m_seq
  let manager := { manager with m_seq }
  match built with
  | .error failure => (manager,.error failure)
  | .ok pkt =>
    let (manager,wire) := manager.serializeData crypto pkt
    (manager,.ok wire)

end PacketManager
end UavFanet.Packet
