import Mathlib.Algebra.BigOperators.Group.List.Basic
import Mathlib.Algebra.Order.Ring.Int
import Mathlib.Tactic.Linarith
import Mathlib.Tactic.Positivity
import UavFanet.OlsrMessages

/-! What is written to an OLSR packet is read back as long as its sizes fit their fields. -/
namespace UavFanet.Olsr
open Library Library.Readers

theorem LinkMessage.length_serialize (lm : LinkMessage) : lm.serialize.length = lm.size := by
  simp [serialize,size,writeHtonU16]
  omega

theorem LinkMessage.reads_serialize {lm : LinkMessage} (fits : lm.size < 2^16) :
    Reads deserialize (UInt16.ofNat lm.size,lm) lm.serialize := by
  have announced : (UInt16.ofNat lm.size).toNat = lm.size := by
    rw [UInt16.toNat_ofNat']
    omega
  have count : (lm.size-4)/IPV4_ADDRESS_SIZE = lm.neighborInterfaceAddresses.length := by
    simp [size,IPV4_ADDRESS_SIZE]
  have whole : 4 ≤ lm.size ∧ (lm.size-4)%IPV4_ADDRESS_SIZE = 0 := by
    simp [size]
  refine (reads_byte lm.linkCode).bind ((reads_byte 0).bind ((reads_u16 _).bind ?_))
  rw [announced,count,← List.nil_append (addressBytes _)]
  refine (reads_guard whole).bind ?_
  rw [← List.append_nil (addressBytes _)]
  exact (reads_addresses _).bind (.pure _)

namespace Message

theorem length_linkMessages (linkMessages : List LinkMessage) :
    (linkMessages.flatMap LinkMessage.serialize).length = (linkMessages.map LinkMessage.size).sum := by
  rw [List.length_flatMap]
  exact congrArg List.sum (List.map_congr_left fun lm _ => lm.length_serialize)

theorem length_serialize (m : Message) : m.serialize.length = m.getSerializedSize := by
  cases m with
  | hello body =>
    simp only [serialize,getSerializedSize,List.length_append,length_linkMessages]
    simp [writeHtonU16]
    omega
  | tc body =>
    simp [serialize,getSerializedSize,writeHtonU16]
    omega
  | mid interfaceAddresses => simp [serialize,getSerializedSize]
  | hna associations =>
    simp [serialize,getSerializedSize,writeHtonU32,List.length_flatMap,IPV4_ADDRESS_SIZE]
    omega

theorem reads_linkMessages {linkMessages : List LinkMessage} {fuel : Nat} {helloSizeLeft : UInt16}
    (enough : linkMessages.length ≤ fuel)
    (size : helloSizeLeft.toNat = (linkMessages.map LinkMessage.size).sum) :
    Reads (readLinkMessages fuel helloSizeLeft) linkMessages
      (linkMessages.flatMap LinkMessage.serialize) := by
  induction linkMessages generalizing fuel helloSizeLeft with
  | nil =>
    have done : helloSizeLeft = 0 := UInt16.toNat_inj.mp size
    have stops : readLinkMessages fuel helloSizeLeft = return [] := by
      cases fuel with
      | zero => rw [readLinkMessages,if_pos done]
      | succ fuel => rw [readLinkMessages,if_pos done]
    rw [stops]
    exact .pure []
  | cons lm linkMessages ih =>
    obtain ⟨fuel,rfl⟩ := Nat.exists_eq_add_of_lt (Nat.lt_of_lt_of_le (Nat.zero_lt_succ _) enough)
    rw [Nat.zero_add] at enough ⊢
    rw [List.map_cons,List.sum_cons] at size
    have own : 4 ≤ lm.size := Nat.le_add_right 4 _
    have room := helloSizeLeft.toNat_lt
    have announced : (UInt16.ofNat lm.size).toNat = lm.size := by
      rw [UInt16.toNat_ofNat']
      omega
    have more : ¬ helloSizeLeft = 0 := by
      rintro rfl
      rw [UInt16.toNat_zero] at size
      omega
    have rest : (helloSizeLeft-UInt16.ofNat lm.size).toNat = (linkMessages.map LinkMessage.size).sum := by
      rw [UInt16.toNat_sub_of_le _ _ (UInt16.le_iff_toNat_le.mpr (by omega)),announced]
      omega
    have later := ih (Nat.le_of_succ_le_succ enough) rest
    rw [readLinkMessages,if_neg more,List.flatMap_cons,← List.nil_append (lm.serialize ++ _)]
    refine (reads_guard (by omega)).bind ((LinkMessage.reads_serialize (by omega)).bind ?_)
    rw [← List.append_nil (linkMessages.flatMap _)]
    exact later.bind (.pure _)

theorem toNat_size {size : Nat} (fits : size < 2^16) : (UInt32.ofNat size).toNat = size := by
  rw [UInt32.toNat_ofNat']
  omega

theorem reads_hello {body : Hello} (fits : (hello body).getSerializedSize < 2^16) :
    Reads (readHello (UInt32.ofNat (hello body).getSerializedSize)) (hello body)
      (hello body).serialize := by
  have own : 4 ≤ (hello body).getSerializedSize := Nat.le_add_right 4 _
  have left : ((UInt32.ofNat (hello body).getSerializedSize).toUInt16-4).toNat =
      (body.linkMessages.map LinkMessage.size).sum := by
    have narrow : ((UInt32.ofNat (hello body).getSerializedSize).toUInt16).toNat =
        (hello body).getSerializedSize := by
      rw [UInt32.toNat_toUInt16,toNat_size fits]
      omega
    rw [UInt16.toNat_sub_of_le _ _ (UInt16.le_iff_toNat_le.mpr (by rw [narrow]; exact own)),narrow]
    exact Nat.add_sub_cancel_left 4 _
  rw [← List.nil_append (serialize _),readHello,toNat_size fits]
  refine (reads_guard own).bind ((reads_u16 0).bind ?_)
  refine (reads_byte body.hTime).bind ((reads_byte body.willingness).bind ?_)
  rw [← List.append_nil (body.linkMessages.flatMap _)]
  refine Reads.bind (.of_input fun rest => ?_) (.pure _)
  refine reads_linkMessages ?_ left rest
  rw [List.length_append,length_linkMessages]
  refine Nat.le_trans ?_ (Nat.le_add_right _ _)
  rw [← List.length_map LinkMessage.size]
  exact List.length_le_sum_of_one_le _ fun size inside => by
    obtain ⟨lm,-,rfl⟩ := List.mem_map.mp inside
    exact Nat.le_trans (by decide) (Nat.le_add_right 4 _)

theorem reads_tc {body : Tc} (fits : (tc body).getSerializedSize < 2^16) :
    Reads (readTc (UInt32.ofNat (tc body).getSerializedSize)) (tc body) (tc body).serialize := by
  have own : 4 ≤ (tc body).getSerializedSize := Nat.le_add_right 4 _
  have left : (tc body).getSerializedSize-4 = body.neighborAddresses.length*IPV4_ADDRESS_SIZE :=
    Nat.add_sub_cancel_left 4 _
  have count : ((tc body).getSerializedSize-4)/IPV4_ADDRESS_SIZE = body.neighborAddresses.length := by
    rw [left,Nat.mul_div_cancel _ (by decide)]
  rw [← List.nil_append (serialize _),readTc,toNat_size fits,count]
  refine (reads_guard own).bind ((reads_u16 body.ansn).bind ((reads_u16 0).bind ?_))
  rw [← List.nil_append (addressBytes _)]
  refine (reads_guard (by rw [left,Nat.mul_mod_left])).bind ?_
  rw [← List.append_nil (addressBytes _)]
  exact (reads_addresses _).bind (.pure _)

theorem reads_mid {interfaceAddresses : List UInt32}
    (fits : (mid interfaceAddresses).getSerializedSize < 2^16) :
    Reads (readMid (UInt32.ofNat (mid interfaceAddresses).getSerializedSize)) (mid interfaceAddresses)
      (mid interfaceAddresses).serialize := by
  have count : (mid interfaceAddresses).getSerializedSize/IPV4_ADDRESS_SIZE =
    interfaceAddresses.length := Nat.mul_div_cancel _ (by decide)
  rw [← List.nil_append (serialize _),readMid,toNat_size fits,count]
  refine (reads_guard (Nat.mul_mod_left _ _)).bind ?_
  rw [← List.append_nil (serialize _)]
  exact (reads_addresses _).bind (.pure _)

theorem reads_association (association : Association) :
    Reads readAssociation association
      (writeHtonU32 association.networkAddr ++ writeHtonU32 association.netmask) := by
  refine (reads_u32 association.networkAddr).bind ?_
  rw [← List.append_nil (writeHtonU32 association.netmask)]
  exact (reads_u32 association.netmask).bind (.pure _)

theorem reads_hna {associations : List Association}
    (fits : (hna associations).getSerializedSize < 2^16) :
    Reads (readHna (UInt32.ofNat (hna associations).getSerializedSize)) (hna associations)
      (hna associations).serialize := by
  have size : (hna associations).getSerializedSize = associations.length*(IPV4_ADDRESS_SIZE*2) := by
    simp only [getSerializedSize,IPV4_ADDRESS_SIZE]
    omega
  have count : (hna associations).getSerializedSize/IPV4_ADDRESS_SIZE/2 = associations.length := by
    rw [size,Nat.div_div_eq_div_mul,Nat.mul_div_cancel _ (by decide)]
  rw [← List.nil_append (serialize _),readHna,toNat_size fits,count]
  refine (reads_guard (by rw [size,Nat.mul_mod_left])).bind ?_
  rw [← List.append_nil (serialize _)]
  exact (Reads.times fun association _ => reads_association association).bind (.pure _)

theorem reads_serialize {m : Message} (fits : m.getSerializedSize < 2^16) :
    Reads (deserialize m.getMessageType (UInt32.ofNat m.getSerializedSize)) m m.serialize := by
  cases m with
  | hello body => exact reads_hello fits
  | tc body => exact reads_tc fits
  | mid interfaceAddresses => exact reads_mid fits
  | hna associations => exact reads_hna fits

end Message

namespace MessageHeader

variable {header : MessageHeader}

theorem length_serialize (header : MessageHeader) :
    header.serialize.length = header.getSerializedSize := by
  simp [serialize,getSerializedSize,header.m_message.length_serialize,writeHtonU16,writeHtonU32,
    OLSR_MSG_HEADER_SIZE]
  omega

theorem reads_serialize (fits : header.getSerializedSize < 2^16) :
    Reads deserialize (header,UInt32.ofNat header.getSerializedSize) header.serialize := by
  have own : header.getSerializedSize = header.m_message.getSerializedSize+12 := Nat.add_comm _ _
  have messageSize : (UInt16.ofNat header.getSerializedSize).toUInt32-12 =
      UInt32.ofNat header.m_message.getSerializedSize := by
    apply UInt32.toNat_inj.mp
    have wide : (UInt16.ofNat header.getSerializedSize).toUInt32.toNat = header.getSerializedSize := by
      rw [UInt16.toNat_toUInt32,UInt16.toNat_ofNat']
      omega
    have own_le : (12 : UInt32) ≤ (UInt16.ofNat header.getSerializedSize).toUInt32 := by
      rw [UInt32.le_iff_toNat_le,wide,own]
      exact Nat.le_add_left 12 _
    rw [UInt32.toNat_sub_of_le _ _ own_le,wide,Message.toNat_size (by omega),own]
    exact Nat.add_sub_cancel _ _
  refine (reads_byte _).bind ((reads_byte header.m_vTime).bind ((reads_u16 _).bind
    ((reads_u32 header.m_originatorAddress).bind ?_)))
  refine (reads_byte header.m_timeToLive).bind ((reads_byte header.m_hopCount).bind
    ((reads_u16 header.m_messageSequenceNumber).bind ?_))
  rw [messageSize,← List.append_nil header.m_message.serialize]
  have whole : 12+UInt32.ofNat header.m_message.getSerializedSize =
      UInt32.ofNat header.getSerializedSize := by
    rw [getSerializedSize,UInt32.ofNat_add]
    rfl
  rw [← whole]
  exact (Message.reads_serialize (by omega)).bind (.pure _)

end MessageHeader

theorem length_messages (msglist : List MessageHeader) :
    (msglist.flatMap MessageHeader.serialize).length =
      (msglist.map MessageHeader.getSerializedSize).sum := by
  rw [List.length_flatMap]
  exact congrArg List.sum (List.map_congr_left fun header _ => header.length_serialize)

theorem guard_then {p : Prop} [Decidable p] (holds : p) {β : Type} (next : Unit → Option β) :
    (guard p >>= next) = next () := by
  rw [guard,if_pos holds]
  rfl

theorem readMessages_serialize {msglist : List MessageHeader} {fuel : Nat} {sizeLeft : UInt32}
    (enough : msglist.length ≤ fuel)
    (size : sizeLeft.toNat = (msglist.map MessageHeader.getSerializedSize).sum)
    (fits : sizeLeft.toNat < 2^16) :
    readMessages fuel sizeLeft (msglist.flatMap MessageHeader.serialize) = some msglist := by
  induction msglist generalizing fuel sizeLeft with
  | nil =>
    have done : sizeLeft = 0 := UInt32.toNat_inj.mp size
    cases fuel with
    | zero => rw [readMessages,if_pos done]
    | succ fuel => rw [readMessages,if_pos done]
  | cons header msglist ih =>
    obtain ⟨fuel,rfl⟩ := Nat.exists_eq_add_of_lt (Nat.lt_of_lt_of_le (Nat.zero_lt_succ _) enough)
    rw [Nat.zero_add] at enough ⊢
    rw [List.map_cons,List.sum_cons] at size
    have own : 12 ≤ header.getSerializedSize := Nat.le_add_right 12 _
    have announced := @Message.toNat_size header.getSerializedSize (by omega)
    have more : ¬ sizeLeft = 0 := by
      rintro rfl
      rw [UInt32.toNat_zero] at size
      omega
    have some_size : UInt32.ofNat header.getSerializedSize ≠ 0 := by
      intro none
      rw [none,UInt32.toNat_zero] at announced
      omega
    have rest : (sizeLeft-UInt32.ofNat header.getSerializedSize).toNat =
        (msglist.map MessageHeader.getSerializedSize).sum := by
      rw [UInt32.toNat_sub_of_le _ _ (UInt32.le_iff_toNat_le.mpr (by omega)),announced]
      omega
    have later := ih (Nat.le_of_succ_le_succ enough) rest (by omega)
    have first := @MessageHeader.reads_serialize header (by omega)
      (msglist.flatMap MessageHeader.serialize)
    rw [readMessages,if_neg more,List.flatMap_cons]
    change (MessageHeader.deserialize.run _ >>= _) = _
    rw [first]
    refine (guard_then some_size _).trans ?_
    rw [announced,List.drop_left' header.length_serialize,later]
    rfl

/-- A packet that fits its length field is read as the messages that were written. -/
theorem readPacket_writePacket (packetSequenceNumber : UInt16) {msglist : List MessageHeader}
    (fits : (writePacket packetSequenceNumber msglist).length < 2^16) :
    readPacket (writePacket packetSequenceNumber msglist) = some msglist := by
  have length : (writePacket packetSequenceNumber msglist).length =
      4+(msglist.map MessageHeader.getSerializedSize).sum := by
    simp only [writePacket,List.length_append,length_messages,writeHtonU16,BigEndian.length_encode]
    omega
  rw [length] at fits
  have announced : (UInt16.ofNat (OLSR_PKT_HEADER_SIZE+
      (msglist.flatMap MessageHeader.serialize).length)).toNat =
      4+(msglist.map MessageHeader.getSerializedSize).sum := by
    rw [length_messages,UInt16.toNat_ofNat']
    exact Nat.mod_eq_of_lt fits
  have left : ((UInt16.ofNat (OLSR_PKT_HEADER_SIZE+
      (msglist.flatMap MessageHeader.serialize).length)).toUInt32-4).toNat =
      (msglist.map MessageHeader.getSerializedSize).sum := by
    have own_le : (4 : UInt32) ≤ (UInt16.ofNat (OLSR_PKT_HEADER_SIZE+
        (msglist.flatMap MessageHeader.serialize).length)).toUInt32 := by
      rw [UInt32.le_iff_toNat_le,UInt16.toNat_toUInt32,announced]
      exact Nat.le_add_right 4 _
    rw [UInt32.toNat_sub_of_le _ _ own_le,UInt16.toNat_toUInt32,announced]
    exact Nat.add_sub_cancel_left 4 _
  have count : msglist.length ≤ (msglist.flatMap MessageHeader.serialize).length := by
    rw [length_messages,← List.length_map MessageHeader.getSerializedSize]
    exact List.length_le_sum_of_one_le _ fun size inside => by
      obtain ⟨header,-,rfl⟩ := List.mem_map.mp inside
      exact Nat.le_trans (by decide) (Nat.le_add_right 12 _)
  have first := reads_u16 (UInt16.ofNat (OLSR_PKT_HEADER_SIZE+
    (msglist.flatMap MessageHeader.serialize).length)) (writeHtonU16 packetSequenceNumber ++
      msglist.flatMap MessageHeader.serialize)
  have second := reads_u16 packetSequenceNumber (msglist.flatMap MessageHeader.serialize)
  have whole := readMessages_serialize count left (by omega)
  rw [StateT.run] at first second
  rw [readPacket,writePacket,first,Option.bind_eq_bind,Option.bind_some]
  dsimp only
  rw [second,Option.bind_some]
  refine (guard_then ?_ _).trans whole
  rw [announced]
  exact Nat.le_add_right 4 _

def OLSR_MAX_MSGS : Nat := 64

/-- `SendQueuedMessages` at work: the packet that is filled and the packets that were sent. -/
structure Sending where
  m_packetSequenceNumber : UInt16
  msglist : List MessageHeader := []
  packets : List (List UInt8) := []

namespace Sending

def sendPacket (s : Sending) : Sending :=
  let m_packetSequenceNumber := s.m_packetSequenceNumber+1
  ⟨m_packetSequenceNumber,[],s.packets ++ [writePacket m_packetSequenceNumber s.msglist]⟩

def add (s : Sending) (message : MessageHeader) : Sending :=
  let s := { s with msglist := s.msglist ++ [message] }
  if s.msglist.length = OLSR_MAX_MSGS then s.sendPacket else s

def finish (s : Sending) : Sending :=
  if (s.msglist.flatMap MessageHeader.serialize).length ≠ 0 then s.sendPacket else s

/-- The packets hold these chunks, under the numbers after the first one. -/
structure Sent (first : UInt16) (chunks : List (List MessageHeader)) (s : Sending) : Prop where
  packets : s.packets = chunks.mapIdx fun i chunk => writePacket (first+UInt16.ofNat (i+1)) chunk
  number : s.m_packetSequenceNumber = first+UInt16.ofNat chunks.length

variable {first : UInt16} {chunks : List (List MessageHeader)} {s : Sending}

theorem Sent.sendPacket (sent : Sent first chunks s) :
    Sent first (chunks ++ [s.msglist]) s.sendPacket := by
  have next : s.m_packetSequenceNumber+1 = first+UInt16.ofNat (chunks.length+1) := by
    rw [sent.number,UInt16.ofNat_add,UInt16.add_assoc]
    rfl
  refine ⟨?_,?_⟩
  · rw [Sending.sendPacket,sent.packets,next,List.mapIdx_append]
    simp only [List.mapIdx_cons,List.mapIdx_nil,Nat.zero_add]
  · rw [Sending.sendPacket,next,List.length_append,List.length_singleton]

/-- The full chunks and the packet that is not full yet, after some messages. -/
structure Filled (first : UInt16) (done : List MessageHeader) (chunks : List (List MessageHeader))
    (s : Sending) : Prop extends Sent first chunks s where
  content : chunks.flatten ++ s.msglist = done
  full : ∀ chunk ∈ chunks, chunk.length = OLSR_MAX_MSGS
  partly : s.msglist.length < OLSR_MAX_MSGS

theorem Filled.add {done : List MessageHeader} (filled : Filled first done chunks s)
    (message : MessageHeader) : ∃ chunks, Filled first (done ++ [message]) chunks (s.add message) := by
  obtain ⟨sent,content,full,partly⟩ := filled
  have grown : Sent first chunks { s with msglist := s.msglist ++ [message] } := ⟨sent.packets,sent.number⟩
  have length : (s.msglist ++ [message]).length = s.msglist.length+1 := by
    rw [List.length_append,List.length_singleton]
  unfold Sending.add
  dsimp only
  split
  · rename_i now_full
    refine ⟨_,grown.sendPacket,?_,?_,Nat.zero_lt_succ 63⟩
    · change (chunks ++ [s.msglist ++ [message]]).flatten ++ [] = _
      rw [List.append_nil,List.flatten_concat,← content,List.append_assoc]
    · intro chunk inside
      rcases List.mem_append.mp inside with before | last
      · exact full chunk before
      · rw [List.mem_singleton.mp last]
        exact now_full
  · exact ⟨chunks,grown,by rw [← content,List.append_assoc],full,by dsimp only; omega⟩

/-- What is left in the packet at the end is sent as well. -/
theorem Filled.finish {done : List MessageHeader} (filled : Filled first done chunks s) :
    ∃ chunks, Sent first chunks s.finish ∧ chunks.flatten = done ∧
      ∀ chunk ∈ chunks, 0 < chunk.length ∧ chunk.length ≤ OLSR_MAX_MSGS := by
  obtain ⟨sent,content,full,partly⟩ := filled
  have whole : ∀ chunk ∈ chunks, 0 < chunk.length ∧ chunk.length ≤ OLSR_MAX_MSGS := by
    intro chunk inside
    rw [full chunk inside]
    exact ⟨Nat.zero_lt_succ 63,Nat.le_refl _⟩
  have bytes := length_messages s.msglist
  unfold Sending.finish
  split
  · rename_i some_left
    refine ⟨_,sent.sendPacket,by rw [List.flatten_concat,content],fun chunk inside => ?_⟩
    rcases List.mem_append.mp inside with before | last
    · exact whole chunk before
    · rw [List.mem_singleton.mp last]
      refine ⟨List.length_pos_iff.mpr fun none => some_left ?_,Nat.le_of_lt partly⟩
      rw [none]
      rfl
  · rename_i none_left
    have none : s.msglist = [] := by
      cases listed : s.msglist with
      | nil => rfl
      | cons header rest =>
        have own : 12 ≤ header.getSerializedSize := Nat.le_add_right 12 _
        rw [Decidable.not_not,bytes,listed,List.map_cons,List.sum_cons] at none_left
        omega
    rw [none,List.append_nil] at content
    exact ⟨chunks,sent,content,whole⟩

theorem filled (first : UInt16) (m_queuedMessages : List MessageHeader) :
    ∃ chunks, Filled first m_queuedMessages chunks
      (m_queuedMessages.foldl add { m_packetSequenceNumber := first }) := by
  induction m_queuedMessages using List.reverseRecOn with
  | nil => exact ⟨[],⟨rfl,(UInt16.add_zero first).symm⟩,rfl,fun _ inside => (nomatch inside),
    Nat.zero_lt_succ 63⟩
  | append_singleton before message ih =>
    obtain ⟨chunks,filled⟩ := ih
    rw [List.foldl_append]
    exact filled.add message

end Sending

/-- The packets, and the packet sequence number after them. -/
def sendQueuedMessages (m_packetSequenceNumber : UInt16) (m_queuedMessages : List MessageHeader) :
    List (List UInt8) × UInt16 :=
  let s := (m_queuedMessages.foldl Sending.add { m_packetSequenceNumber }).finish
  (s.packets,s.m_packetSequenceNumber)

open Sending in
/-- The messages of the queue leave in their order, in packets of at most 64 under successive
numbers, and are read back from them. -/
theorem queue_read_back (m_packetSequenceNumber : UInt16) (m_queuedMessages : List MessageHeader)
    (fits : ∀ packet ∈ (sendQueuedMessages m_packetSequenceNumber m_queuedMessages).1,
      packet.length < 2^16) :
    let (packets,last) := sendQueuedMessages m_packetSequenceNumber m_queuedMessages
    ∃ chunks : List (List MessageHeader),
      packets = (chunks.mapIdx fun i chunk =>
        writePacket (m_packetSequenceNumber+UInt16.ofNat (i+1)) chunk) ∧
      packets.map readPacket = chunks.map some ∧ chunks.flatten = m_queuedMessages ∧
      (∀ chunk ∈ chunks, 0 < chunk.length ∧ chunk.length ≤ OLSR_MAX_MSGS) ∧
      last = m_packetSequenceNumber+UInt16.ofNat packets.length := by
  obtain ⟨_,filled⟩ := filled m_packetSequenceNumber m_queuedMessages
  obtain ⟨chunks,sent,content,sizes⟩ := filled.finish
  have count := congrArg List.length sent.packets
  rw [List.length_mapIdx] at count
  refine ⟨chunks,sent.packets,?_,content,sizes,by rw [count]; exact sent.number⟩
  rw [sendQueuedMessages,sent.packets] at fits
  rw [sent.packets]
  refine List.ext_getElem (by simp) fun i left right => ?_
  rw [List.getElem_map,List.getElem_map,List.getElem_mapIdx]
  refine readPacket_writePacket _ (fits _ (List.mem_iff_getElem.mpr ⟨i,by simpa using left,?_⟩))
  rw [List.getElem_mapIdx]

/-- A TC message as `SendTc` queues it, and one of a neighbor on its way. -/
def twoMessages : List MessageHeader :=
  [⟨0xE7,0x0A010101,255,0,0,.tc ⟨[0x0A010102],1⟩⟩,⟨0xE7,0x0A010102,254,1,7,.tc ⟨[],3⟩⟩]

theorem queue_read_back_two :
    let (packets,last) := sendQueuedMessages 65535 twoMessages
    ∃ chunks : List (List MessageHeader),
      packets = (chunks.mapIdx fun i chunk => writePacket (65535+UInt16.ofNat (i+1)) chunk) ∧
      packets.map readPacket = chunks.map some ∧ chunks.flatten = twoMessages ∧
      (∀ chunk ∈ chunks, 0 < chunk.length ∧ chunk.length ≤ OLSR_MAX_MSGS) ∧
      last = 65535+UInt16.ofNat packets.length :=
  queue_read_back 65535 twoMessages (by decide)

theorem log2_sixteenths (time : Int) (b : Nat) (low : 10^9*2^b ≤ 16*time)
    (high : 16*time < 10^9*2^(b+1)) : Nat.log2 (16*time/10^9).toNat = b := by
  have floor : (2^b : Int) ≤ 16*time/10^9 := (Int.le_ediv_iff_mul_le (by decide)).mpr (by linarith)
  have ceiling : 16*time/10^9 < (2^(b+1) : Int) := (Int.ediv_lt_iff_lt_mul (by decide)).mpr (by linarith)
  have positive : (0 : Int) < 2^b := Int.pow_pos (by decide)
  obtain ⟨n,same⟩ := Int.eq_ofNat_of_zero_le (Int.le_trans (Int.le_of_lt positive) floor)
  rw [same] at floor ceiling ⊢
  have floor : 2^b ≤ n := by exact_mod_cast floor
  have ceiling : n < 2^(b+1) := by exact_mod_cast ceiling
  have some_time : n ≠ 0 := fun none => by
    rw [none] at floor
    exact absurd floor (Nat.not_le.mpr (Nat.two_pow_pos b))
  exact (Nat.log2_eq_iff some_time).mpr ⟨floor,ceiling⟩

/-- The time that a mantissa and an exponent stand for. -/
theorem emfToSeconds_digits {a b : Nat} (mantissa : a < 16) (exponent : b < 16) :
    emfToSeconds (UInt8.ofNat ((a <<< 4) ||| b)) = (16+a)*2^b*3906250 := by
  rw [← Nat.shiftLeft_add_eq_or_of_lt exponent,Nat.shiftLeft_eq,emfToSeconds,UInt8.toNat_ofNat']
  have whole : (a*2^4+b)%2^8 = a*16+b := by omega
  have high : (a*16+b)/16 = a := by omega
  have low : (a*16+b)%16 = b := by omega
  rw [whole,high,low]

theorem sixteenths_between {time : Int} (low : 10^9 ≤ 16*time) :
    10^9*2^(Nat.log2 (16*time/10^9).toNat) ≤ 16*time ∧
      16*time < 10^9*2^(Nat.log2 (16*time/10^9).toNat+1) := by
  have one : 1 ≤ 16*time/10^9 := (Int.le_ediv_iff_mul_le (by decide)).mpr (by linarith)
  obtain ⟨n,same⟩ := Int.eq_ofNat_of_zero_le (Int.le_trans (by decide) one)
  rw [same] at one ⊢
  rw [Int.toNat_natCast]
  have some_time : n ≠ 0 := by omega
  have floor : ((2^(Nat.log2 n) : Nat) : Int) ≤ 16*time/10^9 := by
    rw [same]
    exact_mod_cast Nat.log2_self_le some_time
  have ceiling : 16*time/10^9 < ((2^(Nat.log2 n+1) : Nat) : Int) := by
    rw [same]
    exact_mod_cast Nat.lt_log2_self
  push_cast at floor ceiling
  have lower := (Int.le_ediv_iff_mul_le (by decide)).mp floor
  have upper := (Int.ediv_lt_iff_lt_mul (by decide)).mp ceiling
  exact ⟨by linarith,by linarith⟩

/-- The rounded mantissa lies within half a step of the exact one. -/
theorem mantissa_near {unit time tmp : Int} (bottom : unit ≤ 16*time) (top : 16*time < 2*unit)
    (rounded : tmp = -((33*unit-512*time)/(2*unit))) :
    0 ≤ tmp ∧ tmp ≤ 16 ∧ 512*time-unit ≤ 2*((16+tmp)*unit) ∧ 2*((16+tmp)*unit) < 512*time+unit := by
  have positive : 0 < 2*unit := by linarith
  have above := Int.lt_ediv_add_one_mul_self (33*unit-512*time) positive
  have below := Int.ediv_mul_le (33*unit-512*time) positive.ne'
  obtain rfl := rounded
  generalize (33*unit-512*time)/(2*unit) = q at above below ⊢
  refine ⟨?_,?_,by linarith,by linarith⟩
  · by_contra negative
    nlinarith
  · by_contra large
    nlinarith

theorem rounded_mantissa {unit a : Int} (positive : 0 < unit) :
    (33*unit-2*((16+a)*unit))/(2*unit) = -a := by
  have split : 33*unit-2*((16+a)*unit) = unit+2*unit*(-a) := by ring
  rw [split,Int.add_mul_ediv_left _ _ (by linarith),Int.ediv_eq_zero_of_lt (by linarith) (by linarith),
    Int.zero_add]

theorem secondsToEmf_eq {time tmp : Int} {b : Nat} (log : Nat.log2 (16*time/10^9).toNat = b)
    (rounded : -((33*(10^9*2^b)-512*time)/(2*(10^9*2^b))) = tmp) (plain : tmp ≠ 16) :
    secondsToEmf time = UInt8.ofNat ((tmp.toNat <<< 4) ||| b) := by
  subst log
  rw [secondsToEmf]
  dsimp only
  rw [rounded,if_neg plain]

theorem secondsToEmf_digits {a b : Nat} (mantissa : a < 16) :
    secondsToEmf ((16+a)*2^b*3906250) = UInt8.ofNat ((a <<< 4) ||| b) := by
  have power : (0 : Int) < 2^b := by positivity
  have unit : (0 : Int) < 10^9*2^b := by positivity
  have value : 16*((16+a)*2^b*3906250 : Int) = 10^9*2^b+a*2^b*62500000 := by ring
  have part : (0 : Int) ≤ a*2^b*62500000 := by positivity
  have small : (a*2^b*62500000 : Int) < 10^9*2^b := by
    have fraction : (a : Int) < 16 := by exact_mod_cast mantissa
    nlinarith
  have log := log2_sixteenths ((16+a)*2^b*3906250) b (by linarith) (by rw [pow_succ 2 b]; linarith)
  have steps : 512*((16+a)*2^b*3906250 : Int) = 2*((16+a)*(10^9*2^b)) := by ring
  exact secondsToEmf_eq log (by rw [steps,rounded_mantissa unit,Int.neg_neg]) (by omega)

theorem secondsToEmf_emfToSeconds (olsrFormat : UInt8) :
    secondsToEmf (emfToSeconds olsrFormat) = olsrFormat := by
  obtain ⟨a,b,mantissa,exponent,rfl⟩ : ∃ a b, a < 16 ∧ b < 16 ∧
      UInt8.ofNat ((a <<< 4) ||| b) = olsrFormat := by
    have bound := olsrFormat.toNat_lt
    refine ⟨olsrFormat.toNat/16,olsrFormat.toNat%16,by omega,by omega,?_⟩
    rw [← Nat.shiftLeft_add_eq_or_of_lt (by omega),Nat.shiftLeft_eq]
    exact UInt8.toNat_inj.mp (by rw [UInt8.toNat_ofNat']; omega)
  rw [emfToSeconds_digits mantissa exponent,secondsToEmf_digits mantissa]

/-- A time that the format can express is announced within one part in 32. -/
theorem emfToSeconds_near {time : Int} (low : 10^9 ≤ 16*time) (high : 512*time ≤ 63*(10^9*2^15)) :
    32*|emfToSeconds (secondsToEmf time)-time| ≤ time := by
  obtain ⟨bottom,top⟩ := sixteenths_between low
  rw [secondsToEmf]
  generalize Nat.log2 (16*time/10^9).toNat = b at bottom top ⊢
  have top : 16*time < 2*(10^9*2^b) := by
    rw [pow_succ 2 b] at top
    linarith
  have exponent : b ≤ 15 := by
    by_contra large
    have grows : (2 : Int)^16 ≤ 2^b := pow_le_pow_right₀ (by decide) (by omega)
    linarith
  obtain ⟨tmp,rounded⟩ : ∃ tmp : Int, tmp = -((33*(10^9*2^b)-512*time)/(2*(10^9*2^b))) := ⟨_,rfl⟩
  obtain ⟨least,most,near_below,near_above⟩ := mantissa_near bottom top rounded
  rw [← rounded]
  by_cases carry : tmp = 16
  · rw [carry] at near_below near_above
    have room : b+1 < 16 := by
      by_contra full
      obtain rfl : b = 15 := by omega
      linarith
    rw [if_pos carry]
    dsimp only
    rw [emfToSeconds_digits (by decide) room,← abs_of_pos (by decide : (0 : Int) < 32),← abs_mul,abs_le]
    have value : ((16+(0 : Nat))*2^(b+1)*3906250 : Int)*8 = 10^9*2^b := by push_cast; ring
    constructor <;> linarith
  · obtain ⟨a,rfl⟩ := Int.eq_ofNat_of_zero_le least
    rw [if_neg carry,Int.toNat_natCast]
    dsimp only
    rw [emfToSeconds_digits (by omega) (by omega),← abs_of_pos (by decide : (0 : Int) < 32),← abs_mul,
      abs_le]
    have value : ((16+a)*2^b*3906250 : Int)*256 = (16+a)*(10^9*2^b) := by ring
    constructor <;> linarith

/-- A time that the format can express is announced within one part in 32, and what a message
announces is announced again as it is. -/
theorem validity_announced (msg : MessageHeader) :
    (∀ time : Int, 10^9 ≤ 16*time → 512*time ≤ 63*(10^9*2^15) →
      32*|(msg.setVTime time).getVTime-time| ≤ time) ∧
    msg.setVTime msg.getVTime = msg := by
  refine ⟨fun time low high => emfToSeconds_near low high,?_⟩
  rw [MessageHeader.setVTime,MessageHeader.getVTime,secondsToEmf_emfToSeconds]

theorem validity_announced_seven :
    32*|((MessageHeader.setVTime (7*10^9) ⟨0,1,255,0,0,.mid [2]⟩).getVTime-7*10^9)| ≤ 7*10^9 :=
  (validity_announced ⟨0,1,255,0,0,.mid [2]⟩).1 (7*10^9) (by decide) (by decide)

end UavFanet.Olsr
