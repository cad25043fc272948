import UavFanet.OlsrTopology

/-! Which of the messages that it hears an OLSR router sends on. -/
namespace UavFanet.Olsr
open Library.PartialRuns

/-- In nanoseconds. -/
def OLSR_DUP_HOLD_TIME : Int := 30*10^9

namespace OlsrState

def findMprSelectorTuple (state : OlsrState) (mainAddr : UInt32) : Option MprSelectorTuple :=
  state.mprSelectorSet.find? (·.mainAddr == mainAddr)

def findDuplicateTuple (state : OlsrState) (addr : UInt32) (sequenceNumber : UInt16) :
    Option DuplicateTuple :=
  state.duplicateSet.find? fun tuple =>
    tuple.address == addr && tuple.sequenceNumber == sequenceNumber

def eraseDuplicateTuple (state : OlsrState) (tuple : DuplicateTuple) : OlsrState :=
  { state with duplicateSet := state.duplicateSet.eraseP fun it =>
      it.address == tuple.address && it.sequenceNumber == tuple.sequenceNumber }

def insertDuplicateTuple (state : OlsrState) (tuple : DuplicateTuple) : OlsrState :=
  { state with duplicateSet := state.duplicateSet ++ [tuple] }

/-- The tuple that `findDuplicateTuple` gives is changed. -/
def updateDuplicateTuple (state : OlsrState) (addr : UInt32) (sequenceNumber : UInt16)
    (expirationTime : Int) (retransmitted : Bool) (localIface : UInt32) : OlsrState :=
  let duplicateSet := modifyFirst
    (fun tuple => tuple.address == addr && tuple.sequenceNumber == sequenceNumber)
    (fun tuple => { tuple with
      expirationTime, retransmitted, ifaceList := tuple.ifaceList ++ [localIface] })
    state.duplicateSet
  { state with duplicateSet }

end OlsrState

/-- A router at a time, as far as it sends messages on. -/
structure Forwarder where
  now : Int
  m_mainAddress : UInt32
  m_state : OlsrState
  m_queuedMessages : List MessageHeader := []

def MessageHeader.isHello (msg : MessageHeader) : Bool :=
  match msg.m_message with
  | .hello _ => true
  | _ => false

namespace Forwarder

/-- The sender has chosen this router as a relay, and the message may go further. -/
def chosen (node : Forwarder) (olsrMessage : MessageHeader) (senderAddress : UInt32) : Bool :=
  decide (olsrMessage.m_timeToLive > 1) &&
    (node.m_state.findMprSelectorTuple (node.m_state.getMainAddress senderAddress)).isSome

/-- The message with its counters, where it is queued. -/
def relay (node : Forwarder) (olsrMessage : MessageHeader) (senderAddress : UInt32) :
    List MessageHeader :=
  if node.chosen olsrMessage senderAddress then
    [{ olsrMessage with
      m_timeToLive := olsrMessage.m_timeToLive-1, m_hopCount := olsrMessage.m_hopCount+1 }]
  else []

def forwardDefault (node : Forwarder) (olsrMessage : MessageHeader)
    (duplicated : Option DuplicateTuple) (localIface senderAddress : UInt32) : Forwarder :=
  if (node.m_state.findSymLinkTuple senderAddress node.now).isNone then node
  else if duplicated.any (·.retransmitted) then node
  else
    let retransmitted := node.chosen olsrMessage senderAddress
    let expirationTime := node.now+OLSR_DUP_HOLD_TIME
    { node with
      m_queuedMessages := node.m_queuedMessages ++ node.relay olsrMessage senderAddress
      m_state := match duplicated with
        | some _ => node.m_state.updateDuplicateTuple olsrMessage.m_originatorAddress
            olsrMessage.m_messageSequenceNumber expirationTime retransmitted localIface
        | none => node.m_state.insertDuplicateTuple ⟨olsrMessage.m_originatorAddress,
            olsrMessage.m_messageSequenceNumber,retransmitted,[localIface],expirationTime⟩ }

/-- The state that the processing of a message leaves: it does not write the duplicate set. -/
def processed (node : Forwarder) (m_state : OlsrState) : Forwarder :=
  { node with m_state := { m_state with duplicateSet := node.m_state.duplicateSet } }

/-- One turn of the loop of `RecvOlsr`, where the processing of the message leaves `m_state`. -/
def recvMessage (node : Forwarder) (messageHeader : MessageHeader)
    (receiverIfaceAddr senderIfaceAddr : UInt32) (m_state : OlsrState) : Forwarder :=
  if messageHeader.m_timeToLive = 0 ∨ messageHeader.m_originatorAddress = node.m_mainAddress then
    node
  else
    match node.m_state.findDuplicateTuple messageHeader.m_originatorAddress
        messageHeader.m_messageSequenceNumber with
    | none =>
      if messageHeader.isHello then node.processed m_state
      else (node.processed m_state).forwardDefault messageHeader none receiverIfaceAddr
        senderIfaceAddr
    | some duplicated =>
      if duplicated.ifaceList.contains receiverIfaceAddr || messageHeader.isHello then node
      else node.forwardDefault messageHeader (some duplicated) receiverIfaceAddr senderIfaceAddr

/-- A later call is scheduled where the tuple is still to be kept: it may come at any time. -/
def dupTupleTimerExpire (node : Forwarder) (address : UInt32) (sequenceNumber : UInt16) :
    Forwarder :=
  match node.m_state.findDuplicateTuple address sequenceNumber with
  | none => node
  | some tuple =>
    if tuple.expirationTime < node.now then
      { node with m_state := node.m_state.eraseDuplicateTuple tuple }
    else node

end Forwarder

/-- What happens to a router. Nothing but these calls writes the duplicate set. -/
inductive ForwarderEvent where
  | wait (time : Int)
  | receive (messageHeader : MessageHeader) (receiverIfaceAddr senderIfaceAddr : UInt32)
      (m_state : OlsrState)
  | expire (address : UInt32) (sequenceNumber : UInt16)
  | other (m_state : OlsrState) (m_queuedMessages : List MessageHeader)

namespace Forwarder

def step (node : Forwarder) : ForwarderEvent → Option Forwarder
  | .wait time => if node.now ≤ time then some { node with now := time } else none
  | .receive messageHeader receiverIfaceAddr senderIfaceAddr m_state =>
    some (node.recvMessage messageHeader receiverIfaceAddr senderIfaceAddr m_state)
  | .expire address sequenceNumber => some (node.dupTupleTimerExpire address sequenceNumber)
  | .other m_state m_queuedMessages => some { node.processed m_state with m_queuedMessages }

def run (node : Forwarder) (events : List ForwarderEvent) : Option Forwarder :=
  events.foldlM step node

/-- The message is queued again when it is received. -/
def Relays (node : Forwarder) (messageHeader : MessageHeader)
    (receiverIfaceAddr senderIfaceAddr : UInt32) (m_state : OlsrState) : Prop :=
  (node.recvMessage messageHeader receiverIfaceAddr senderIfaceAddr m_state).m_queuedMessages ≠
    node.m_queuedMessages

end Forwarder

def DuplicateTuple.key (tuple : DuplicateTuple) : UInt32 × UInt16 :=
  (tuple.address,tuple.sequenceNumber)

def MessageHeader.key (msg : MessageHeader) : UInt32 × UInt16 :=
  (msg.m_originatorAddress,msg.m_messageSequenceNumber)

def Unique (node : Forwarder) : Prop :=
  (node.m_state.duplicateSet.map DuplicateTuple.key).Nodup

/-- The message with that key was sent on, which is remembered up to that time. -/
def Remembers (key : UInt32 × UInt16) (time : Int) (node : Forwarder) : Prop :=
  ∃ tuple ∈ node.m_state.duplicateSet, tuple.key = key ∧ tuple.retransmitted = true ∧
    tuple.expirationTime = time

variable {node : Forwarder} {msg : MessageHeader} {key : UInt32 × UInt16} {time : Int}

theorem findDuplicateTuple_some {state : OlsrState} {addr : UInt32} {sequenceNumber : UInt16}
    {tuple : DuplicateTuple} (found : state.findDuplicateTuple addr sequenceNumber = some tuple) :
    tuple ∈ state.duplicateSet ∧ tuple.key = (addr,sequenceNumber) :=
  find_pair_some found

theorem findDuplicateTuple_none {state : OlsrState} {addr : UInt32} {sequenceNumber : UInt16}
    (missing : state.findDuplicateTuple addr sequenceNumber = none) {t : DuplicateTuple}
    (inside : t ∈ state.duplicateSet) : t.key ≠ (addr,sequenceNumber) :=
  find_pair_none missing inside

/-- What a reception does to the duplicate set and the queue: nothing, or the message is recorded as
one that was not sent on before. -/
inductive Reception (node : Forwarder) (msg : MessageHeader) (next : Forwarder) : Prop where
  | ignored (same : next.m_state.duplicateSet = node.m_state.duplicateSet)
      (queue : next.m_queuedMessages = node.m_queuedMessages)
  | updated (tuple : DuplicateTuple) (sent : Bool) (localIface : UInt32)
      (found : node.m_state.findDuplicateTuple msg.m_originatorAddress
        msg.m_messageSequenceNumber = some tuple)
      (unsent : tuple.retransmitted = false)
      (recorded : next.m_state.duplicateSet = (node.m_state.updateDuplicateTuple
        msg.m_originatorAddress msg.m_messageSequenceNumber (node.now+OLSR_DUP_HOLD_TIME) sent
        localIface).duplicateSet)
      (queue : sent = true ∨ next.m_queuedMessages = node.m_queuedMessages)
  | inserted (sent : Bool) (localIface : UInt32)
      (missing : node.m_state.findDuplicateTuple msg.m_originatorAddress
        msg.m_messageSequenceNumber = none)
      (recorded : next.m_state.duplicateSet = node.m_state.duplicateSet ++
        [⟨msg.m_originatorAddress,msg.m_messageSequenceNumber,sent,[localIface],
          node.now+OLSR_DUP_HOLD_TIME⟩])
      (queue : sent = true ∨ next.m_queuedMessages = node.m_queuedMessages)

theorem forwardDefault_now (node : Forwarder) (msg : MessageHeader) (duplicated : Option DuplicateTuple)
    (localIface sender : UInt32) :
    (node.forwardDefault msg duplicated localIface sender).now = node.now := by
  rw [Forwarder.forwardDefault]
  split
  · rfl
  · split <;> rfl

theorem recvMessage_now (node : Forwarder) (msg : MessageHeader) (receiver sender : UInt32)
    (m_state : OlsrState) : (node.recvMessage msg receiver sender m_state).now = node.now := by
  rw [Forwarder.recvMessage]
  split
  · rfl
  split
  · split
    · rfl
    · exact forwardDefault_now ..
  · split
    · rfl
    · exact forwardDefault_now ..

theorem relay_queue (node : Forwarder) (msg : MessageHeader) (sender : UInt32) :
    node.chosen msg sender = true ∨
      node.m_queuedMessages ++ node.relay msg sender = node.m_queuedMessages := by
  by_cases yes : node.chosen msg sender = true
  · exact .inl yes
  · rw [Forwarder.relay,if_neg yes,List.append_nil]
    exact .inr rfl

theorem recvMessage_reception (node : Forwarder) (msg : MessageHeader) (receiver sender : UInt32)
    (m_state : OlsrState) : Reception node msg (node.recvMessage msg receiver sender m_state) := by
  rw [Forwarder.recvMessage]
  split
  · exact .ignored rfl rfl
  split
  next missing =>
    split
    · exact .ignored rfl rfl
    rw [Forwarder.forwardDefault]
    split
    · exact .ignored rfl rfl
    rw [if_neg (by decide)]
    exact .inserted _ _ missing rfl (relay_queue (node.processed m_state) msg sender)
  next tuple found =>
    split
    · exact .ignored rfl rfl
    rw [Forwarder.forwardDefault]
    split
    · exact .ignored rfl rfl
    split
    · exact .ignored rfl rfl
    next unsent =>
      rw [Option.any_some,Bool.not_eq_true] at unsent
      exact .updated tuple _ _ found unsent rfl (relay_queue node msg sender)

theorem updateDuplicateTuple_keys (state : OlsrState) (addr : UInt32) (sequenceNumber : UInt16)
    (expirationTime : Int) (sent : Bool) (localIface : UInt32) :
    (state.updateDuplicateTuple addr sequenceNumber expirationTime sent localIface).duplicateSet.map
      DuplicateTuple.key = state.duplicateSet.map DuplicateTuple.key := by
  apply map_modifyFirst
  intro tuple
  rfl

theorem Unique.reception {next : Forwarder} (unique : Unique node) (reception : Reception node msg next) :
    Unique next := by
  rw [Unique]
  cases reception with
  | ignored same _ =>
    rw [same]
    exact unique
  | updated _ _ _ _ _ recorded _ =>
    rw [recorded,updateDuplicateTuple_keys]
    exact unique
  | inserted _ _ missing recorded _ =>
    rw [recorded,List.map_append,List.nodup_append]
    refine ⟨unique,List.nodup_singleton _,fun key inside other single => ?_⟩
    obtain ⟨t,known,rfl⟩ := List.mem_map.mp inside
    rw [List.mem_singleton.mp single]
    exact findDuplicateTuple_none missing known

/-- A message that is remembered as sent on is not recorded again. -/
theorem Remembers.reception {next : Forwarder} (unique : Unique node)
    (remembers : Remembers key time node) (reception : Reception node msg next) :
    Remembers key time next ∧ (msg.key = key → next.m_queuedMessages = node.m_queuedMessages) := by
  obtain ⟨t,inside,named,sent,held⟩ := remembers
  cases reception with
  | ignored same queue =>
    rw [Remembers,same]
    exact ⟨⟨t,inside,named,sent,held⟩,fun _ => queue⟩
  | updated tuple _ _ found unsent recorded _ =>
    have apart : t.key ≠ msg.key := by
      intro same
      obtain ⟨known,key⟩ := findDuplicateTuple_some found
      obtain rfl := List.inj_on_of_nodup_map unique inside known (same.trans key.symm)
      rw [sent] at unsent
      cases unsent
    refine ⟨⟨t,?_,named,sent,held⟩,fun same => absurd (named.trans same.symm) apart⟩
    rw [recorded]
    rcases mem_modifyFirst_of_mem inside with kept | passes
    · exact kept
    · rw [Bool.and_eq_true,beq_iff_eq,beq_iff_eq] at passes
      exact absurd (Prod.ext passes.1 passes.2) apart
  | inserted _ _ missing recorded _ =>
    have apart : t.key ≠ msg.key := findDuplicateTuple_none missing inside
    refine ⟨⟨t,?_,named,sent,held⟩,fun same => absurd (named.trans same.symm) apart⟩
    rw [recorded]
    exact List.mem_append_left _ inside

theorem Reception.remembers {next : Forwarder} (reception : Reception node msg next)
    (queued : next.m_queuedMessages ≠ node.m_queuedMessages) :
    Remembers msg.key (node.now+OLSR_DUP_HOLD_TIME) next := by
  cases reception with
  | ignored _ queue => exact absurd queue queued
  | updated tuple sent localIface found _ recorded queue =>
    obtain rfl := queue.resolve_right queued
    refine ⟨{ tuple with
      expirationTime := node.now+OLSR_DUP_HOLD_TIME
      retransmitted := true
      ifaceList := tuple.ifaceList ++ [localIface] },?_,(findDuplicateTuple_some found).2,rfl,rfl⟩
    rw [recorded]
    exact modifyFirst_found found
  | inserted sent localIface _ recorded queue =>
    obtain rfl := queue.resolve_right queued
    refine ⟨⟨msg.m_originatorAddress,msg.m_messageSequenceNumber,true,[localIface],
      node.now+OLSR_DUP_HOLD_TIME⟩,?_,rfl,rfl,rfl⟩
    rw [recorded]
    exact List.mem_append_right _ (List.mem_singleton_self _)

theorem Unique.step {event : ForwarderEvent} {next : Forwarder} (unique : Unique node)
    (stepped : node.step event = some next) : Unique next := by
  cases event with
  | wait time =>
    rw [Forwarder.step] at stepped
    split at stepped
    · cases stepped
      exact unique
    · cases stepped
  | receive msg receiver sender m_state =>
    cases stepped
    exact unique.reception (recvMessage_reception node msg receiver sender m_state)
  | expire address sequenceNumber =>
    cases stepped
    rw [Forwarder.dupTupleTimerExpire]
    split
    · exact unique
    · split
      · exact unique.sublist (List.eraseP_sublist.map _)
      · exact unique
  | other m_state m_queuedMessages =>
    cases stepped
    exact unique

theorem forwarder_step_now {event : ForwarderEvent} {next : Forwarder}
    (stepped : node.step event = some next) : node.now ≤ next.now := by
  cases event with
  | wait time =>
    rw [Forwarder.step] at stepped
    split at stepped
    next passes =>
      cases stepped
      exact passes
    · cases stepped
  | receive msg receiver sender m_state =>
    cases stepped
    rw [recvMessage_now]
  | expire address sequenceNumber =>
    cases stepped
    rw [Forwarder.dupTupleTimerExpire]
    split
    · exact Int.le_refl _
    · split <;> exact Int.le_refl _
  | other m_state m_queuedMessages =>
    cases stepped
    exact Int.le_refl _

theorem Remembers.step {event : ForwarderEvent} {next : Forwarder} (unique : Unique node)
    (remembers : Remembers key time node) (stepped : node.step event = some next)
    (early : next.now ≤ time) : Remembers key time next := by
  have clock := forwarder_step_now stepped
  cases event with
  | wait moment =>
    rw [Forwarder.step] at stepped
    split at stepped
    · cases stepped
      exact remembers
    · cases stepped
  | receive msg receiver sender m_state =>
    cases stepped
    exact (remembers.reception unique (recvMessage_reception node msg receiver sender m_state)).1
  | expire address sequenceNumber =>
    cases stepped
    rw [Forwarder.dupTupleTimerExpire]
    split
    · exact remembers
    next tuple found =>
      split
      next late =>
        obtain ⟨t,inside,named,sent,held⟩ := remembers
        refine ⟨t,(List.mem_eraseP_of_neg ?_).mpr inside,named,sent,held⟩
        intro same
        rw [Bool.and_eq_true,beq_iff_eq,beq_iff_eq] at same
        obtain rfl := List.inj_on_of_nodup_map unique inside (findDuplicateTuple_some found).1
          (Prod.ext same.1 same.2)
        omega
      · exact remembers
  | other m_state m_queuedMessages =>
    cases stepped
    exact remembers

theorem forwarder_run_now {events : List ForwarderEvent} {last : Forwarder}
    (ran : node.run events = some last) : node.now ≤ last.now :=
  @run_invariant _ _ _ _ _ (fun later => node.now ≤ later.now)
    (fun _ _ _ ahead stepped => Int.le_trans ahead (forwarder_step_now stepped)) (Int.le_refl _) _ ran

theorem Unique.run {events : List ForwarderEvent} {last : Forwarder} (unique : Unique node)
    (ran : node.run events = some last) : Unique last :=
  @run_invariant _ _ _ _ _ Unique (fun _ _ _ unique stepped => unique.step stepped) unique _ ran

theorem Remembers.run {events : List ForwarderEvent} {last : Forwarder} (unique : Unique node)
    (remembers : Remembers key time node) (ran : node.run events = some last)
    (early : last.now ≤ time) : Remembers key time last := by
  induction events generalizing node with
  | nil =>
    cases ran
    exact remembers
  | cons event events ih =>
    obtain ⟨next,stepped,ran⟩ := run_cons.mp ran
    refine ih (unique.step stepped) (remembers.step unique stepped ?_) ran
    exact Int.le_trans (forwarder_run_now ran) early

/-- A router that sends a message on does not do so again for thirty seconds, over whatever links it
hears the message meanwhile, changed as the relays before it change it. -/
theorem relays_apart {m_state : OlsrState} (empty : m_state.duplicateSet = []) {now : Int}
    {m_mainAddress : UInt32} {before between : List ForwarderEvent} {first second : Forwarder}
    {msg again : MessageHeader} {receiver sender receiver' sender' : UInt32}
    {processed processed' : OlsrState}
    (ran : Forwarder.run ⟨now,m_mainAddress,m_state,[]⟩ before = some first)
    (relays : first.Relays msg receiver sender processed)
    (went : (first.recvMessage msg receiver sender processed).run between = some second)
    (same : again.key = msg.key) (repeats : second.Relays again receiver' sender' processed') :
    first.now+OLSR_DUP_HOLD_TIME < second.now := by
  by_contra early
  have start : Unique ⟨now,m_mainAddress,m_state,[]⟩ := by
    rw [Unique,empty]
    exact List.nodup_nil
  have unique := start.run ran
  have reception := recvMessage_reception first msg receiver sender processed
  have reached := unique.reception reception
  have remembers := (reception.remembers relays).run reached went (Int.not_lt.mp early)
  exact repeats ((remembers.reception (reached.run went)
    (recvMessage_reception second again receiver' sender' processed')).2 same)

/-- After half a minute and a second the router sends the message on again. -/
theorem relays_apart_again :
    let start : Forwarder := ⟨0,1,{ linkSet := [⟨1,5,10^11,10^11⟩], mprSelectorSet := [⟨5⟩] },[]⟩
    let msg : MessageHeader := ⟨0,7,255,0,3,.mid [8]⟩
    ∃ second, (start.recvMessage msg 1 5 start.m_state).run [.wait (31*10^9),.expire 7 3] = some second ∧
      second.Relays msg 1 5 start.m_state ∧ start.now+OLSR_DUP_HOLD_TIME < second.now := by
  intro start msg
  have relays : start.Relays msg 1 5 start.m_state := by
    rw [Forwarder.Relays]
    decide
  refine ⟨_,rfl,?_,?_⟩
  · rw [Forwarder.Relays]
    decide
  · refine @relays_apart start.m_state rfl 0 1 [] [.wait (31*10^9),.expire 7 3] start _ msg msg 1 5 1 5
      start.m_state start.m_state rfl relays rfl rfl ?_
    rw [Forwarder.Relays]
    decide

end UavFanet.Olsr
