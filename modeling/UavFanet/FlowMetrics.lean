import UavFanet.FlowMonitor
import UavFanet.Topology

/-! The flows of the monitor by clusters: the counts of the clusters add up to the global ones. -/
namespace UavFanet.Routing
open UavFanet.Internet UavFanet.FlowMonitoring

/-- The counts of a flow. Addresses are numbers, and what is a floating-point number is left out. -/
structure FlowMetrics where
  flow_id : UInt32 := 0
  cluster_id : UInt32 := 0
  src_addr : UInt32 := 0
  dst_addr : UInt32 := 0
  src_port : UInt16 := 0
  dst_port : UInt16 := 0
  tx_packets : UInt64 := 0
  rx_packets : UInt64 := 0
  lost_packets : UInt64 := 0
  tx_bytes : UInt64 := 0
  rx_bytes : UInt64 := 0

structure ClusterMetrics where
  cluster_id : UInt32 := 0
  active_flows : UInt32 := 0
  total_tx : UInt64 := 0
  total_rx : UInt64 := 0
  total_lost : UInt64 := 0

structure GlobalMetrics where
  total_flows : UInt32 := 0
  total_tx : UInt64 := 0
  total_rx : UInt64 := 0
  total_lost : UInt64 := 0

structure FlowMonitorManager where
  m_topo : TopologyResult
  m_installed : Bool := false
  m_flow_metrics : List FlowMetrics := []
  m_global : GlobalMetrics := {}

def computeFlowMetrics (flow_id : UInt32) (stats : FlowStats) : FlowMetrics := {
  flow_id
  tx_packets := stats.txPackets.toUInt64
  rx_packets := stats.rxPackets.toUInt64
  tx_bytes := stats.txBytes
  rx_bytes := stats.rxBytes
  lost_packets := stats.lostPackets.toUInt64 }

/-- `Ipv4FlowClassifier::FindFlow`. -/
def findFlow (flowId : UInt32) (classifier : FlowClassifier) : Except String FiveTuple :=
  match classifier.m_flowMap.find? (·.2 = flowId) with
  | some (tuple,_) => .ok tuple
  | none => .error s!"Could not find the flow with ID {flowId}"

namespace FlowMonitorManager

/-- The cluster that a flow counts for: the one of its source, else the one of its destination. -/
def flowCluster (topo : TopologyResult) (ft : FiveTuple) : Option UInt32 :=
  let sc := getClusterFromAddr topo ft.sourceAddress
  let dc := getClusterFromAddr topo ft.destinationAddress
  if sc = INVALID ∧ dc = INVALID then none else some (if sc ≠ INVALID then sc else dc)

/-- The loop body of `CollectMetrics`. A flow between other nodes is skipped. -/
def collectFlow (classifier : FlowClassifier) (manager : FlowMonitorManager)
    (flow : UInt32 × FlowStats) : Except String FlowMonitorManager := do
  let fm := computeFlowMetrics flow.1 flow.2
  let ft ← findFlow flow.1 classifier
  match flowCluster manager.m_topo ft with
  | none => return manager
  | some cluster_id =>
    let fm := { fm with
      cluster_id
      src_addr := ft.sourceAddress
      dst_addr := ft.destinationAddress
      src_port := ft.sourcePort
      dst_port := ft.destinationPort }
    return { manager with
      m_flow_metrics := manager.m_flow_metrics ++ [fm]
      m_global := { manager.m_global with
        total_tx := manager.m_global.total_tx+fm.tx_packets
        total_rx := manager.m_global.total_rx+fm.rx_packets
        total_lost := manager.m_global.total_lost+fm.lost_packets } }

def collectMetrics (now : Int) (monitor : FlowMonitor) (manager : FlowMonitorManager) :
    Except String (FlowMonitorManager × FlowMonitor) :=
  if !manager.m_installed then .ok (manager,monitor)
  else do
    let monitor ← monitor.checkForLostPackets now
    let flow_stats := monitor.m_flowStats.toList
    let manager := { manager with
      m_flow_metrics := []
      m_global := { total_flows := .ofNat flow_stats.length } }
    let manager ← flow_stats.foldlM (collectFlow monitor.classifier) manager
    return (manager,monitor)

/-- The loop body of `GetClusterMetrics`. -/
def addFlow (cluster : UInt32) (cm : ClusterMetrics) (fm : FlowMetrics) : ClusterMetrics :=
  if fm.cluster_id ≠ cluster then cm
  else { cm with
    active_flows := cm.active_flows+1
    total_tx := cm.total_tx+fm.tx_packets
    total_rx := cm.total_rx+fm.rx_packets
    total_lost := cm.total_lost+fm.lost_packets }

def getClusterMetrics (cluster : UInt32) (manager : FlowMonitorManager) : ClusterMetrics :=
  manager.m_flow_metrics.foldl (addFlow cluster) { cluster_id := cluster }

/-- The sum of a count over flows. -/
def total (count : FlowMetrics → UInt64) (flows : List FlowMetrics) : UInt64 :=
  flows.foldr (fun fm sum => count fm+sum) 0

/-- The flows of a cluster. -/
def flowsOf (cluster : UInt32) (flows : List FlowMetrics) : List FlowMetrics :=
  flows.filter (·.cluster_id = cluster)

variable {count : FlowMetrics → UInt64} {fm : FlowMetrics} {flows : List FlowMetrics}
  {cluster : UInt32}

theorem total_cons : total count (fm :: flows) = count fm+total count flows := rfl

theorem total_snoc : total count (flows ++ [fm]) = total count flows+count fm := by
  induction flows with
  | nil => exact (UInt64.zero_add _).symm ▸ UInt64.add_zero _
  | cons first rest ih => rw [List.cons_append,total_cons,ih,total_cons,UInt64.add_assoc]

theorem flowsOf_here (here : fm.cluster_id = cluster) :
    flowsOf cluster (fm :: flows) = fm :: flowsOf cluster flows :=
  List.filter_cons_of_pos (decide_eq_true here)

theorem flowsOf_elsewhere (elsewhere : fm.cluster_id ≠ cluster) :
    flowsOf cluster (fm :: flows) = flowsOf cluster flows :=
  List.filter_cons_of_neg (by simpa using elsewhere)

theorem foldl_addFlow (cm : ClusterMetrics) :
    flows.foldl (addFlow cluster) cm = { cm with
      active_flows := cm.active_flows+.ofNat (flowsOf cluster flows).length
      total_tx := cm.total_tx+total (·.tx_packets) (flowsOf cluster flows)
      total_rx := cm.total_rx+total (·.rx_packets) (flowsOf cluster flows)
      total_lost := cm.total_lost+total (·.lost_packets) (flowsOf cluster flows) } := by
  induction flows generalizing cm with
  | nil => simp [flowsOf,total]
  | cons fm rest ih =>
    rw [List.foldl_cons,ih]
    by_cases here : fm.cluster_id = cluster
    · rw [addFlow,if_neg (not_not_intro here),flowsOf_here here]
      simp only [total_cons,List.length_cons,UInt64.add_assoc,UInt32.add_assoc]
      rw [Nat.add_comm,UInt32.ofNat_add]
      rfl
    · rw [addFlow,if_pos here,flowsOf_elsewhere here]

/-- Every flow counts for one of the three clusters. -/
def Placed (flows : List FlowMetrics) : Prop :=
  ∀ fm ∈ flows, fm.cluster_id = 0 ∨ fm.cluster_id = 1 ∨ fm.cluster_id = 2

theorem length_clusters (placed : Placed flows) :
    (flowsOf 0 flows).length+(flowsOf 1 flows).length+(flowsOf 2 flows).length = flows.length := by
  induction flows with
  | nil => rfl
  | cons fm rest ih =>
    obtain ⟨first,others⟩ := List.forall_mem_cons.mp placed
    have rest_sum := ih others
    rcases first with here | here | here
    · rw [flowsOf_here here,flowsOf_elsewhere (by rw [here]; decide),
        flowsOf_elsewhere (by rw [here]; decide),List.length_cons,List.length_cons]
      omega
    · rw [flowsOf_here here,flowsOf_elsewhere (by rw [here]; decide),
        flowsOf_elsewhere (by rw [here]; decide),List.length_cons,List.length_cons]
      omega
    · rw [flowsOf_here here,flowsOf_elsewhere (by rw [here]; decide),
        flowsOf_elsewhere (by rw [here]; decide),List.length_cons,List.length_cons]
      omega

theorem total_clusters (placed : Placed flows) :
    total count (flowsOf 0 flows)+total count (flowsOf 1 flows)+total count (flowsOf 2 flows) =
      total count flows := by
  induction flows with
  | nil => rfl
  | cons fm rest ih =>
    obtain ⟨first,others⟩ := List.forall_mem_cons.mp placed
    rw [total_cons,← ih others]
    rcases first with here | here | here
    · rw [flowsOf_here here,flowsOf_elsewhere (by rw [here]; decide),
        flowsOf_elsewhere (by rw [here]; decide),total_cons]
      ac_rfl
    · rw [flowsOf_here here,flowsOf_elsewhere (by rw [here]; decide),
        flowsOf_elsewhere (by rw [here]; decide),total_cons]
      ac_rfl
    · rw [flowsOf_here here,flowsOf_elsewhere (by rw [here]; decide),
        flowsOf_elsewhere (by rw [here]; decide),total_cons]
      ac_rfl

/-- The global counts are those of the flows that were kept. -/
structure Collected (manager : FlowMonitorManager) : Prop where
  placed : Placed manager.m_flow_metrics
  tx : manager.m_global.total_tx = total (·.tx_packets) manager.m_flow_metrics
  rx : manager.m_global.total_rx = total (·.rx_packets) manager.m_flow_metrics
  lost : manager.m_global.total_lost = total (·.lost_packets) manager.m_flow_metrics

end FlowMonitorManager

theorem getClusterFromAddr_range (topo : TopologyResult) (addr : UInt32) :
    getClusterFromAddr topo addr = INVALID ∨ getClusterFromAddr topo addr = 0 ∨
      getClusterFromAddr topo addr = 1 ∨ getClusterFromAddr topo addr = 2 := by
  have small : ∀ c < 3, UInt32.ofNat c = 0 ∨ UInt32.ofNat c = 1 ∨ UInt32.ofNat c = 2 := by decide
  unfold getClusterFromAddr
  split
  · rename_i c found
    exact .inr (small c (List.mem_range.mp (List.mem_of_find?_eq_some found)))
  · split
    · rename_i i found
      have inside := List.mem_range.mp (List.mem_of_find?_eq_some found)
      exact .inr (small (i/6) (by omega))
    · exact .inl rfl

namespace FlowMonitorManager

variable {topo : TopologyResult} {classifier : FlowClassifier} {manager after : FlowMonitorManager}

theorem flowCluster_placed {ft : FiveTuple} {c : UInt32} (kept : flowCluster topo ft = some c) :
    c = 0 ∨ c = 1 ∨ c = 2 := by
  unfold flowCluster at kept
  dsimp only at kept
  split at kept
  · cases kept
  · rename_i valid
    obtain rfl := Option.some.inj kept
    split
    · rename_i source
      exact (getClusterFromAddr_range topo ft.sourceAddress).resolve_left source
    · rename_i source
      refine (getClusterFromAddr_range topo ft.destinationAddress).resolve_left fun target => ?_
      exact valid ⟨by simpa using source,target⟩

theorem collectFlow_collected {flow : UInt32 × FlowStats} (collected : Collected manager)
    (returned : collectFlow classifier manager flow = .ok after) : Collected after := by
  obtain ⟨ft,-,returned⟩ := Library.bind_success.mp returned
  split at returned
  · cases returned
    exact collected
  · rename_i cluster kept
    cases returned
    refine ⟨fun fm inside => ?_,?_,?_,?_⟩
    · rcases List.mem_append.mp inside with before | new
      · exact collected.placed fm before
      · obtain rfl := List.mem_singleton.mp new
        exact flowCluster_placed kept
    · rw [total_snoc,← collected.tx]
    · rw [total_snoc,← collected.rx]
    · rw [total_snoc,← collected.lost]

theorem foldlM_collected {flow_stats : List (UInt32 × FlowStats)} (collected : Collected manager)
    (returned : flow_stats.foldlM (collectFlow classifier) manager = .ok after) : Collected after := by
  induction flow_stats generalizing manager with
  | nil =>
    cases returned
    exact collected
  | cons flow rest ih =>
    rw [List.foldlM_cons] at returned
    obtain ⟨next,first,returned⟩ := Library.bind_success.mp returned
    exact ih (collectFlow_collected collected first) returned

/-- Whatever the monitor has counted, the counts of the three clusters add up to the global ones,
modulo the width of their counters. A manager that is not installed is left as it is. -/
theorem cluster_metrics_add_up {now : Int} {monitor last : FlowMonitor}
    (returned : manager.collectMetrics now monitor = .ok (after,last)) :
    let cluster c := after.getClusterMetrics c
    if manager.m_installed then
      (cluster 0).total_tx+(cluster 1).total_tx+(cluster 2).total_tx = after.m_global.total_tx ∧
      (cluster 0).total_rx+(cluster 1).total_rx+(cluster 2).total_rx = after.m_global.total_rx ∧
      (cluster 0).total_lost+(cluster 1).total_lost+(cluster 2).total_lost =
        after.m_global.total_lost ∧
      (cluster 0).active_flows+(cluster 1).active_flows+(cluster 2).active_flows =
        .ofNat after.m_flow_metrics.length
    else after = manager ∧ last = monitor := by
  rw [collectMetrics] at returned
  cases installed : manager.m_installed with
  | false =>
    rw [installed] at returned
    cases returned
    exact ⟨rfl,rfl⟩
  | true =>
    rw [installed] at returned
    obtain ⟨checked,-,returned⟩ := Library.bind_success.mp returned
    obtain ⟨collecting,looped,returned⟩ := Library.bind_success.mp returned
    cases returned
    have collected : Collected after := by
      refine foldlM_collected ?_ looped
      exact ⟨fun fm none => (nomatch none),rfl,rfl,rfl⟩
    simp only [getClusterMetrics,foldl_addFlow,UInt64.zero_add,UInt32.zero_add,if_true]
    refine ⟨?_,?_,?_,?_⟩
    · rw [collected.tx,total_clusters collected.placed]
    · rw [collected.rx,total_clusters collected.placed]
    · rw [collected.lost,total_clusters collected.placed]
    · rw [← length_clusters collected.placed,UInt32.ofNat_add,UInt32.ofNat_add]

/-- One flow from a UAV of the second cluster to its SKDC. -/
theorem cluster_metrics_add_up_one :
    let topo : TopologyResult := { wifi_interfaces := (List.range 22).map fun k => .ofNat (k+1) }
    let tuple : FiveTuple := {
      sourceAddress := 10, destinationAddress := 2, protocol := 17, sourcePort := 9000
      destinationPort := 9001 }
    let monitor : FlowMonitor := {
      classifier := { m_lastNewFlowId := 1, m_flowMap := [(tuple,1)] }
      m_flowStats := (∅ : Std.ExtTreeMap UInt32 FlowStats compare).insert 1
        { txPackets := 3, rxPackets := 2, lostPackets := 1 } }
    let manager : FlowMonitorManager := { m_topo := topo, m_installed := true }
    ∃ after last, manager.collectMetrics 0 monitor = .ok (after,last) ∧
      (after.getClusterMetrics 0).total_tx+(after.getClusterMetrics 1).total_tx+
        (after.getClusterMetrics 2).total_tx = after.m_global.total_tx := by
  intro topo tuple monitor manager
  obtain ⟨after,last,returned⟩ : ∃ after last,
    manager.collectMetrics 0 monitor = .ok (after,last) := ⟨_,_,rfl⟩
  exact ⟨after,last,returned,(cluster_metrics_add_up returned).1⟩

end FlowMonitorManager
end UavFanet.Routing
