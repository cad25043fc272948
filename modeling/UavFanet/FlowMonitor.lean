import Mathlib.Data.List.Basic
import Mathlib.Logic.Function.Basic
import Std.Data.ExtTreeMap
import UavFanet.Library.Agreement

/-! The flow monitor: what the probes report about packets, and the counts it keeps of them. -/
namespace UavFanet.FlowMonitoring
open Library

structure FiveTuple where
  sourceAddress : UInt32
  destinationAddress : UInt32
  protocol : UInt8
  sourcePort : UInt16
  destinationPort : UInt16
  deriving DecidableEq,Repr

/-- `Ipv4FlowProbeTag`. -/
structure Tag where
  flowId : UInt32
  packetId : UInt32
  packetSize : UInt32
  src : UInt32
  dst : UInt32
  deriving DecidableEq,Repr

/-- A packet with its header, as far as the probes read it. -/
structure IpPacket where
  source : UInt32
  destination : UInt32
  protocol : UInt8
  fragmentOffset : UInt16 := 0
  lastFragment : Bool := true
  headerSize : UInt32 := 20
  payload : List UInt8
  tag : Option Tag := none

def IpPacket.size (packet : IpPacket) : UInt32 := .ofNat packet.payload.length+packet.headerSize

structure FlowClassifier where
  m_lastNewFlowId : UInt32 := 0
  m_flowMap : List (FiveTuple × UInt32) := []
  m_flowPktIdMap : UInt32 → UInt32 := fun _ => 0

namespace FlowClassifier

def tuple (packet : IpPacket) : Option FiveTuple :=
  if packet.fragmentOffset > 0 then none
  else if packet.protocol ≠ 17 ∧ packet.protocol ≠ 6 then none
  else
    match packet.payload with
    | a :: b :: c :: d :: _ => some {
        sourceAddress := packet.source
        destinationAddress := packet.destination
        protocol := packet.protocol
        sourcePort := (a.toUInt16 <<< 8) ||| b.toUInt16
        destinationPort := (c.toUInt16 <<< 8) ||| d.toUInt16 }
    | _ => none

def lookup (tuple : FiveTuple) (classifier : FlowClassifier) : Option UInt32 :=
  (classifier.m_flowMap.find? (·.1 = tuple)).map Prod.snd

/-- `Ipv4FlowClassifier::Classify`: the flow and the packet's number in it. -/
def classify (packet : IpPacket) (classifier : FlowClassifier) :
    Option ((UInt32 × UInt32) × FlowClassifier) :=
  (tuple packet).map fun tuple =>
    match classifier.lookup tuple with
    | none =>
      let newFlowId := classifier.m_lastNewFlowId+1
      ((newFlowId,0),{
        m_lastNewFlowId := newFlowId
        m_flowMap := (tuple,newFlowId) :: classifier.m_flowMap
        m_flowPktIdMap := Function.update classifier.m_flowPktIdMap newFlowId 0 })
    | some flowId =>
      let packetId := classifier.m_flowPktIdMap flowId+1
      ((flowId,packetId),{ classifier with
        m_flowPktIdMap := Function.update classifier.m_flowPktIdMap flowId packetId })

end FlowClassifier

/-- Times are nanoseconds. -/
structure FlowStats where
  timeFirstTxPacket : Int := 0
  timeFirstRxPacket : Int := 0
  timeLastTxPacket : Int := 0
  timeLastRxPacket : Int := 0
  delaySum : Int := 0
  jitterSum : Int := 0
  lastDelay : Int := 0
  maxDelay : Int := 0
  txBytes : UInt64 := 0
  rxBytes : UInt64 := 0
  txPackets : UInt32 := 0
  rxPackets : UInt32 := 0
  lostPackets : UInt32 := 0
  timesForwarded : UInt32 := 0
  packetsDropped : List UInt32 := []
  bytesDropped : List UInt64 := []

structure TrackedPacket where
  flowId : UInt32
  packetId : UInt32
  firstSeenTime : Int
  lastSeenTime : Int
  timesForwarded : UInt32
  deriving DecidableEq

def TrackedPacket.named (flowId packetId : UInt32) (tracked : TrackedPacket) : Bool :=
  tracked.flowId = flowId && tracked.packetId = packetId

def TrackedPacket.forwarded (now : Int) (flowId packetId : UInt32) (tracked : TrackedPacket) :
    TrackedPacket :=
  if tracked.named flowId packetId then
    { tracked with timesForwarded := tracked.timesForwarded+1, lastSeenTime := now }
  else tracked

/-- Why the IP layer drops a packet. -/
inductive DropReason where
  | ttlExpired
  | noRoute
  | badChecksum
  | interfaceDown
  | routeError
  | fragmentTimeout
  | duplicate
  deriving DecidableEq,Repr

namespace DropReason

def number : DropReason → Nat
  | ttlExpired => 1
  | noRoute => 2
  | badChecksum => 3
  | interfaceDown => 4
  | routeError => 5
  | fragmentTimeout => 6
  | duplicate => 7

/-- The probe's code for it. -/
def code : DropReason → Except String Nat
  | ttlExpired => .ok 1
  | noRoute => .ok 0
  | badChecksum => .ok 2
  | interfaceDown => .ok 5
  | routeError => .ok 6
  | fragmentTimeout => .ok 7
  | duplicate => .error s!"Unexpected drop reason code {number duplicate}"

end DropReason

def DROP_QUEUE : Nat := 3

def DROP_QUEUE_DISC : Nat := 4

/-- With the one classifier of IPv4: a second one would give its flows and packets the same numbers. -/
structure FlowMonitor where
  classifier : FlowClassifier := {}
  m_enabled : Bool := false
  m_flowStats : Std.ExtTreeMap UInt32 FlowStats compare := ∅
  m_trackedPackets : List TrackedPacket := []
  m_maxPerHopDelay : Int := 10000000000

namespace FlowMonitor

def getStatsForFlow (flowId : UInt32) (monitor : FlowMonitor) : FlowStats :=
  monitor.m_flowStats[flowId]?.getD {}

/-- Changes the record of a flow, which is made where there is none. -/
def count (flowId : UInt32) (change : FlowStats → FlowStats) (monitor : FlowMonitor) : FlowMonitor :=
  { monitor with
    m_flowStats := monitor.m_flowStats.insert flowId (change (monitor.getStatsForFlow flowId)) }

def find (flowId packetId : UInt32) (monitor : FlowMonitor) : Option TrackedPacket :=
  monitor.m_trackedPackets.find? (TrackedPacket.named flowId packetId)

def erase (flowId packetId : UInt32) (monitor : FlowMonitor) : FlowMonitor :=
  { monitor with
    m_trackedPackets := monitor.m_trackedPackets.filter fun tracked => !tracked.named flowId packetId }

/-- How the first transmission of a packet is counted. -/
def FlowStats.sent (now : Int) (packetSize : UInt32) (stats : FlowStats) : FlowStats := { stats with
  txBytes := stats.txBytes+packetSize.toUInt64
  txPackets := stats.txPackets+1
  timeFirstTxPacket := if stats.txPackets+1 = 1 then now else stats.timeFirstTxPacket
  timeLastTxPacket := now }

def reportFirstTx (now : Int) (flowId packetId packetSize : UInt32) (monitor : FlowMonitor) :
    FlowMonitor :=
  if !monitor.m_enabled then monitor
  else
    let tracked := { flowId, packetId, firstSeenTime := now, lastSeenTime := now, timesForwarded := 0 }
    let monitor := monitor.erase flowId packetId
    { monitor with m_trackedPackets := tracked :: monitor.m_trackedPackets }.count flowId
      (FlowStats.sent now packetSize)

def reportForwarding (now : Int) (flowId packetId : UInt32) (monitor : FlowMonitor) : FlowMonitor :=
  if !monitor.m_enabled then monitor
  else
    { monitor with
      m_trackedPackets := monitor.m_trackedPackets.map (TrackedPacket.forwarded now flowId packetId) }

/-- How the receipt of a tracked packet is counted. -/
def FlowStats.received (now : Int) (packetSize : UInt32) (tracked : TrackedPacket)
    (stats : FlowStats) : FlowStats :=
  let delay := now-tracked.firstSeenTime
  let jitter := stats.lastDelay-delay
  { stats with
    delaySum := stats.delaySum+delay
    jitterSum :=
      if stats.rxPackets > 0 then
        if jitter > 0 then stats.jitterSum+jitter else stats.jitterSum-jitter
      else stats.jitterSum
    lastDelay := delay
    maxDelay := if delay > stats.maxDelay then delay else stats.maxDelay
    rxBytes := stats.rxBytes+packetSize.toUInt64
    rxPackets := stats.rxPackets+1
    timeFirstRxPacket := if stats.rxPackets+1 = 1 then now else stats.timeFirstRxPacket
    timeLastRxPacket := now
    timesForwarded := stats.timesForwarded+tracked.timesForwarded }

def reportLastRx (now : Int) (flowId packetId packetSize : UInt32) (monitor : FlowMonitor) :
    FlowMonitor :=
  if !monitor.m_enabled then monitor
  else
    match monitor.find flowId packetId with
    | none => monitor
    | some tracked =>
      (monitor.count flowId (FlowStats.received now packetSize tracked)).erase flowId packetId

/-- Adds to an entry of a vector, which is filled up with zeros to it. -/
def addAt {T : Type} [Add T] (zero amount : T) (i : Nat) (values : List T) : List T :=
  let values := values ++ List.replicate (i+1-values.length) zero
  values.modify i (·+amount)

def FlowStats.dropped (packetSize : UInt32) (reasonCode : Nat) (stats : FlowStats) : FlowStats :=
  { stats with
    lostPackets := stats.lostPackets+1
    packetsDropped := addAt 0 1 reasonCode stats.packetsDropped
    bytesDropped := addAt 0 packetSize.toUInt64 reasonCode stats.bytesDropped }

def reportDrop (flowId packetId packetSize : UInt32) (reasonCode : Nat) (monitor : FlowMonitor) :
    FlowMonitor :=
  if !monitor.m_enabled then monitor
  else
    (monitor.count flowId (FlowStats.dropped packetSize reasonCode)).erase flowId packetId

def stale (now : Int) (monitor : FlowMonitor) (tracked : TrackedPacket) : Bool :=
  now-tracked.lastSeenTime ≥ monitor.m_maxPerHopDelay

/-- The loop body of `CheckForLostPackets` for a packet that is lost. -/
def countLost (stats : Std.ExtTreeMap UInt32 FlowStats compare) (tracked : TrackedPacket) :
    Except String (Std.ExtTreeMap UInt32 FlowStats compare) :=
  match stats[tracked.flowId]? with
  | none => .error "flow != m_flowStats.end()"
  | some flow => .ok (stats.insert tracked.flowId { flow with lostPackets := flow.lostPackets+1 })

def checkForLostPackets (now : Int) (monitor : FlowMonitor) : Except String FlowMonitor := do
  let m_flowStats ←
    (monitor.m_trackedPackets.filter (monitor.stale now)).foldlM countLost monitor.m_flowStats
  return { monitor with
    m_flowStats
    m_trackedPackets := monitor.m_trackedPackets.filter fun tracked => !monitor.stale now tracked }

def startRightNow (monitor : FlowMonitor) : FlowMonitor := { monitor with m_enabled := true }

def stopRightNow (now : Int) (monitor : FlowMonitor) : Except String FlowMonitor :=
  if !monitor.m_enabled then .ok monitor
  else { monitor with m_enabled := false }.checkForLostPackets now

/-- `Ipv4FlowProbe::SendOutgoingLogger`: the packet leaves with its tag. -/
def sendOutgoingLogger (now : Int) (unicast : Bool) (packet : IpPacket) (monitor : FlowMonitor) :
    FlowMonitor × IpPacket :=
  if !unicast || packet.tag.isSome then (monitor,packet)
  else
    match monitor.classifier.classify packet with
    | none => (monitor,packet)
    | some ((flowId,packetId),classifier) =>
      ({ monitor with classifier }.reportFirstTx now flowId packetId packet.size,{ packet with
        tag := some {
          flowId, packetId, packetSize := packet.size, src := packet.source, dst := packet.destination } })

def isSrcDstValid (packet : IpPacket) (tag : Tag) : Bool :=
  tag.src = packet.source && tag.dst = packet.destination

def forwardLogger (now : Int) (packet : IpPacket) (monitor : FlowMonitor) : FlowMonitor :=
  match packet.tag with
  | none => monitor
  | some tag =>
    if !packet.lastFragment || packet.fragmentOffset ≠ 0 then monitor
    else if !isSrcDstValid packet tag then monitor
    else monitor.reportForwarding now tag.flowId tag.packetId

def forwardUpLogger (now : Int) (packet : IpPacket) (monitor : FlowMonitor) : FlowMonitor :=
  match packet.tag with
  | none => monitor
  | some tag =>
    if !isSrcDstValid packet tag then monitor
    else monitor.reportLastRx now tag.flowId tag.packetId packet.size

def dropLogger (packet : IpPacket) (reason : DropReason) (monitor : FlowMonitor) :
    Except String FlowMonitor :=
  match packet.tag with
  | none => .ok monitor
  | some tag => do
    let myReason ← reason.code
    return monitor.reportDrop tag.flowId tag.packetId packet.size myReason

def queueDropLogger (code : Nat) (packet : IpPacket) (monitor : FlowMonitor) : FlowMonitor :=
  match packet.tag with
  | none => monitor
  | some tag => monitor.reportDrop tag.flowId tag.packetId tag.packetSize code

end FlowMonitor

/-- What happens to packets at the probes, and to the monitor. -/
inductive FlowEvent where
  | send (now : Int) (unicast : Bool) (packet : IpPacket)
  | forward (now : Int) (packet : IpPacket)
  | forwardUp (now : Int) (packet : IpPacket)
  | drop (packet : IpPacket) (reason : DropReason)
  | queueDrop (packet : IpPacket)
  | queueDiscDrop (packet : IpPacket)
  | check (now : Int)
  | start
  | stop (now : Int)

def FlowMonitor.step (monitor : FlowMonitor) : FlowEvent → Except String FlowMonitor
  | .send now unicast packet => .ok (monitor.sendOutgoingLogger now unicast packet).1
  | .forward now packet => .ok (monitor.forwardLogger now packet)
  | .forwardUp now packet => .ok (monitor.forwardUpLogger now packet)
  | .drop packet reason => monitor.dropLogger packet reason
  | .queueDrop packet => .ok (monitor.queueDropLogger DROP_QUEUE packet)
  | .queueDiscDrop packet => .ok (monitor.queueDropLogger DROP_QUEUE_DISC packet)
  | .check now => monitor.checkForLostPackets now
  | .start => .ok monitor.startRightNow
  | .stop now => monitor.stopRightNow now

end UavFanet.FlowMonitoring
