import UavFanet.Library.Readers

/-! The messages of OLSR and the packets that carry them. -/
namespace UavFanet.Olsr
open Library Library.Readers

/-- `SecondsToEmf` of a time in nanoseconds. The quotients by powers of two that it rounds are exact. -/
def secondsToEmf (time : Int) : UInt8 :=
  let b := Nat.log2 (16*time/10^9).toNat
  let tmp : Int := -((33*(10^9*2^b)-512*time)/(2*(10^9*2^b)))
  let (a,b) := if tmp = 16 then (0,b+1) else (tmp.toNat,b)
  UInt8.ofNat ((a <<< 4) ||| b)

/-- `EmfToSeconds`, in nanoseconds. -/
def emfToSeconds (olsrFormat : UInt8) : Int :=
  let a := olsrFormat.toNat/16
  let b := olsrFormat.toNat%16
  (16+a)*2^b*3906250

def OLSR_MSG_HEADER_SIZE : Nat := 12

def OLSR_PKT_HEADER_SIZE : Nat := 4

def IPV4_ADDRESS_SIZE : Nat := 4

def writeHtonU16 (value : UInt16) : List UInt8 := BigEndian.encode 2 value.toNat

def writeHtonU32 (value : UInt32) : List UInt8 := BigEndian.encode 4 value.toNat

def readNtohU16 : Reader UInt16 := UInt16.ofNat <$> word 2

def readNtohU32 : Reader UInt32 := UInt32.ofNat <$> word 4

theorem reads_u16 (value : UInt16) : Reads readNtohU16 value (writeHtonU16 value) := by
  have reads := (reads_word 2 value.toNat_lt).map UInt16.ofNat
  rwa [UInt16.ofNat_toNat] at reads

theorem reads_u32 (value : UInt32) : Reads readNtohU32 value (writeHtonU32 value) := by
  have reads := (reads_word 4 value.toNat_lt).map UInt32.ofNat
  rwa [UInt32.ofNat_toNat] at reads

structure LinkMessage where
  linkCode : UInt8
  neighborInterfaceAddresses : List UInt32
deriving DecidableEq

structure Hello where
  hTime : UInt8
  willingness : UInt8
  linkMessages : List LinkMessage
deriving DecidableEq

structure Tc where
  neighborAddresses : List UInt32
  ansn : UInt16
deriving DecidableEq

structure Association where
  networkAddr : UInt32
  netmask : UInt32
deriving DecidableEq

inductive Message where
  | hello (body : Hello)
  | tc (body : Tc)
  | mid (interfaceAddresses : List UInt32)
  | hna (associations : List Association)
deriving DecidableEq

structure MessageHeader where
  m_vTime : UInt8
  m_originatorAddress : UInt32
  m_timeToLive : UInt8
  m_hopCount : UInt8
  m_messageSequenceNumber : UInt16
  m_message : Message
deriving DecidableEq

def MessageHeader.setVTime (time : Int) (msg : MessageHeader) : MessageHeader :=
  { msg with m_vTime := secondsToEmf time }

def MessageHeader.getVTime (msg : MessageHeader) : Int := emfToSeconds msg.m_vTime

/-- The addresses take four bytes each. -/
def addressBytes (addresses : List UInt32) : List UInt8 := addresses.flatMap writeHtonU32

theorem reads_addresses (addresses : List UInt32) :
    Reads (times readNtohU32 addresses.length) addresses (addressBytes addresses) :=
  .times fun address _ => reads_u32 address

@[simp] theorem length_addressBytes (addresses : List UInt32) :
    (addressBytes addresses).length = addresses.length*IPV4_ADDRESS_SIZE := by
  simp [addressBytes,List.length_flatMap,writeHtonU32,IPV4_ADDRESS_SIZE]

namespace LinkMessage

def size (lm : LinkMessage) : Nat := 4+lm.neighborInterfaceAddresses.length*IPV4_ADDRESS_SIZE

def serialize (lm : LinkMessage) : List UInt8 :=
  [lm.linkCode,0] ++ (writeHtonU16 (UInt16.ofNat lm.size) ++ addressBytes lm.neighborInterfaceAddresses)

/-- The size that a link message announces, with the message. A size below 4 fails the check of
its remainder, or makes the count of the addresses start below zero and run out of bytes. -/
def deserialize : Reader (UInt16 × LinkMessage) := do
  let linkCode ← byte
  let _ ← byte
  let lmSize ← readNtohU16
  guard (4 ≤ lmSize.toNat ∧ (lmSize.toNat-4)%IPV4_ADDRESS_SIZE = 0)
  let neighborInterfaceAddresses ← times readNtohU32 ((lmSize.toNat-4)/IPV4_ADDRESS_SIZE)
  return (lmSize,⟨linkCode,neighborInterfaceAddresses⟩)

end LinkMessage

namespace Message

def getMessageType : Message → UInt8
  | hello _ => 1
  | tc _ => 2
  | mid _ => 3
  | hna _ => 4

def getSerializedSize : Message → Nat
  | hello body => 4+(body.linkMessages.map LinkMessage.size).sum
  | tc body => 4+body.neighborAddresses.length*IPV4_ADDRESS_SIZE
  | mid interfaceAddresses => interfaceAddresses.length*IPV4_ADDRESS_SIZE
  | hna associations => 2*associations.length*IPV4_ADDRESS_SIZE

def serialize : Message → List UInt8
  | hello body => writeHtonU16 0 ++ ([body.hTime,body.willingness] ++
      body.linkMessages.flatMap LinkMessage.serialize)
  | tc body => writeHtonU16 body.ansn ++ (writeHtonU16 0 ++ addressBytes body.neighborAddresses)
  | mid interfaceAddresses => addressBytes interfaceAddresses
  | hna associations => associations.flatMap fun association =>
      writeHtonU32 association.networkAddr ++ writeHtonU32 association.netmask

/-- Each link message takes bytes away, so that as many iterations as there are bytes suffice. -/
def readLinkMessages : Nat → UInt16 → Reader (List LinkMessage)
  | 0, helloSizeLeft => if helloSizeLeft = 0 then return [] else failure
  | fuel+1, helloSizeLeft =>
    if helloSizeLeft = 0 then return []
    else do
      guard (4 ≤ helloSizeLeft.toNat)
      let (lmSize,lm) ← LinkMessage.deserialize
      let linkMessages ← readLinkMessages fuel (helloSizeLeft-lmSize)
      return lm :: linkMessages

def readHello (messageSize : UInt32) : Reader Message := do
  guard (4 ≤ messageSize.toNat)
  let _ ← readNtohU16
  let hTime ← byte
  let willingness ← byte
  let linkMessages ← fun bytes => readLinkMessages bytes.length (messageSize.toUInt16-4) bytes
  return hello ⟨hTime,willingness,linkMessages⟩

def readTc (messageSize : UInt32) : Reader Message := do
  guard (4 ≤ messageSize.toNat)
  let ansn ← readNtohU16
  let _ ← readNtohU16
  guard ((messageSize.toNat-4)%IPV4_ADDRESS_SIZE = 0)
  let neighborAddresses ← times readNtohU32 ((messageSize.toNat-4)/IPV4_ADDRESS_SIZE)
  return tc ⟨neighborAddresses,ansn⟩

def readMid (messageSize : UInt32) : Reader Message := do
  guard (messageSize.toNat%IPV4_ADDRESS_SIZE = 0)
  let interfaceAddresses ← times readNtohU32 (messageSize.toNat/IPV4_ADDRESS_SIZE)
  return mid interfaceAddresses

def readAssociation : Reader Association := do
  let address ← readNtohU32
  let mask ← readNtohU32
  return ⟨address,mask⟩

def readHna (messageSize : UInt32) : Reader Message := do
  guard (messageSize.toNat%(IPV4_ADDRESS_SIZE*2) = 0)
  let associations ← times readAssociation (messageSize.toNat/IPV4_ADDRESS_SIZE/2)
  return hna associations

def deserialize (messageType : UInt8) (messageSize : UInt32) : Reader Message :=
  if messageType = 1 then readHello messageSize
  else if messageType = 2 then readTc messageSize
  else if messageType = 3 then readMid messageSize
  else if messageType = 4 then readHna messageSize
  else failure

end Message

namespace MessageHeader

def getSerializedSize (header : MessageHeader) : Nat :=
  OLSR_MSG_HEADER_SIZE+header.m_message.getSerializedSize

def serialize (header : MessageHeader) : List UInt8 :=
  [header.m_message.getMessageType,header.m_vTime] ++
  (writeHtonU16 (UInt16.ofNat header.getSerializedSize) ++
  (writeHtonU32 header.m_originatorAddress ++
  ([header.m_timeToLive,header.m_hopCount] ++
  (writeHtonU16 header.m_messageSequenceNumber ++ header.m_message.serialize))))

/-- The message and the size that it gives back, which is how far the packet goes on. -/
def deserialize : Reader (MessageHeader × UInt32) := do
  let messageType ← byte
  let m_vTime ← byte
  let m_messageSize ← readNtohU16
  let m_originatorAddress ← readNtohU32
  let m_timeToLive ← byte
  let m_hopCount ← byte
  let m_messageSequenceNumber ← readNtohU16
  let messageSize := m_messageSize.toUInt32-12
  let m_message ← Message.deserialize messageType messageSize
  return (⟨m_vTime,m_originatorAddress,m_timeToLive,m_hopCount,m_messageSequenceNumber,m_message⟩,
    12+messageSize)

end MessageHeader

/-- `SendPacket`: the packet header and the messages. -/
def writePacket (packetSequenceNumber : UInt16) (msglist : List MessageHeader) : List UInt8 :=
  let packet := msglist.flatMap MessageHeader.serialize
  writeHtonU16 (UInt16.ofNat (OLSR_PKT_HEADER_SIZE+packet.length)) ++
    (writeHtonU16 packetSequenceNumber ++ packet)

/-- The loop of `RecvOlsr` over the messages; each one takes bytes away. -/
def readMessages : Nat → UInt32 → List UInt8 → Option (List MessageHeader)
  | 0, sizeLeft, _ => if sizeLeft = 0 then some [] else none
  | fuel+1, sizeLeft, packet =>
    if sizeLeft = 0 then some []
    else do
      let ((messageHeader,deserialized),_) ← MessageHeader.deserialize packet
      guard (deserialized ≠ 0)
      let messages ← readMessages fuel (sizeLeft-UInt32.ofNat messageHeader.getSerializedSize)
        (packet.drop deserialized.toNat)
      return messageHeader :: messages

def readPacket (packet : List UInt8) : Option (List MessageHeader) := do
  let (packetLength,packet) ← readNtohU16 packet
  let (_,packet) ← readNtohU16 packet
  guard (4 ≤ packetLength.toNat)
  readMessages packet.length (packetLength.toUInt32-4) packet

end UavFanet.Olsr
