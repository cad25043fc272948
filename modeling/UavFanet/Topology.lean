import Mathlib.Tactic.IntervalCases
import UavFanet.AddressPlan

/-! The nodes of the simulation with their addresses, and the clusters that the flow monitor reads
off the addresses. -/
namespace UavFanet.Routing
open Library UavFanet.Internet

/-- The addresses are numbers here; of the rest only counts are kept. -/
structure TopologyConfig where
  num_clusters : UInt32 := 3
  uavs_per_cluster : UInt32 := 6
  total_uavs : UInt32 := 18
  wifi_base_addr : UInt32 := 0x0a010100
  wifi_mask : UInt32 := 0xffffff00
  csma_base_addr : UInt32 := 0xc0a80000
  csma_mask : UInt32 := 0xffffff00

/-- Nodes are their ids; an interface container is the list of its addresses. -/
structure TopologyResult where
  all_nodes : List Nat := []
  ground_nodes : List Nat := []
  kdc_node : List Nat := []
  skdc_nodes : List Nat := []
  uav_nodes : List Nat := []
  jammer_node : List Nat := []
  wifi_nodes : List Nat := []
  cluster_nodes : List (List Nat) := []
  csma_interfaces : List UInt32 := []
  wifi_interfaces : List UInt32 := []

/-- `TopologyBuilder::CreateNodes`. A read past the end of a container is `none`. -/
def createNodes (cfg : TopologyConfig) : Option TopologyResult := do
  let ground_nodes := List.range 4
  let uav_nodes := (List.range cfg.total_uavs.toNat).map (4+·)
  let jammer_node := [4+cfg.total_uavs.toNat]
  let kdc ← ground_nodes[0]?
  let skdc_nodes ← (List.range cfg.num_clusters.toNat).mapM fun i => ground_nodes[i+1]?
  let cluster_nodes ← (List.range cfg.num_clusters.toNat).mapM fun c =>
    (List.range cfg.uavs_per_cluster.toNat).mapM fun u =>
      uav_nodes[(.ofNat c*cfg.uavs_per_cluster+.ofNat u : UInt32).toNat]?
  return {
    all_nodes := ground_nodes ++ uav_nodes ++ jammer_node
    ground_nodes
    kdc_node := [kdc]
    skdc_nodes
    uav_nodes
    jammer_node
    wifi_nodes := skdc_nodes ++ uav_nodes ++ jammer_node
    cluster_nodes }

/-- `TopologyBuilder::AssignAddresses`. Every WiFi node and every ground node has one device. -/
def assignAddresses (cfg : TopologyConfig) (gen : Generator) (topo : TopologyResult) :
    Except String (TopologyResult × Generator) := do
  let addr ← AddressHelper.setBase cfg.wifi_base_addr cfg.wifi_mask 1
  let ((_,gen),wifi_interfaces) ← addr.assign gen topo.wifi_nodes.length
  let addr ← AddressHelper.setBase cfg.csma_base_addr cfg.csma_mask 1
  let ((_,gen),csma_interfaces) ← addr.assign gen topo.ground_nodes.length
  return ({ topo with wifi_interfaces, csma_interfaces },gen)

def INVALID : UInt32 := 0xffffffff

/-- `FlowMonitorManager::GetClusterFromAddr`. -/
def getClusterFromAddr (topo : TopologyResult) (addr : UInt32) : UInt32 :=
  match (List.range 3).find? fun c => topo.wifi_interfaces[c]? == some addr with
  | some c => .ofNat c
  | none =>
    match (List.range 18).find? fun i => topo.wifi_interfaces[3+i]? == some addr with
    | some i => .ofNat (i/6)
    | none => INVALID

/-- The node belongs to the cluster, as its SKDC or as one of its UAVs. -/
def InCluster (topo : TopologyResult) (node c : Nat) : Prop :=
  topo.skdc_nodes[c]? = some node ∨ ∃ row, topo.cluster_nodes[c]? = some row ∧ node ∈ row

variable {cfg : TopologyConfig}

/-- The rows of the UAVs, where the clusters share them out. -/
def rows (per : Nat) : List (List Nat) :=
  (List.range 3).map fun c => (List.range per).map fun u => 4+(c*per+u)

theorem mapM_some {α β : Type} {f : α → Option β} {g : α → β} {items : List α}
    (each : ∀ a ∈ items, f a = some (g a)) : items.mapM f = some (items.map g) := by
  induction items with
  | nil => rfl
  | cons a rest ih =>
    rw [List.mapM_cons,each a (List.mem_cons_self ..),
      ih fun b inside => each b (List.mem_cons_of_mem a inside)]
    rfl

theorem cluster_nodes_eq (shared : cfg.total_uavs.toNat = 3*cfg.uavs_per_cluster.toNat) :
    ((List.range 3).mapM fun c => (List.range cfg.uavs_per_cluster.toNat).mapM fun u =>
      ((List.range cfg.total_uavs.toNat).map (4+·))[
        (.ofNat c*cfg.uavs_per_cluster+.ofNat u : UInt32).toNat]?) =
      some (rows cfg.uavs_per_cluster.toNat) := by
  refine mapM_some fun c few => mapM_some fun u inside => ?_
  rw [List.mem_range] at few inside
  have whole := cfg.total_uavs.toNat_lt
  have before : c*cfg.uavs_per_cluster.toNat ≤ 2*cfg.uavs_per_cluster.toNat :=
    Nat.mul_le_mul_right _ (by omega)
  have index : (.ofNat c*cfg.uavs_per_cluster+.ofNat u : UInt32).toNat =
      c*cfg.uavs_per_cluster.toNat+u := by
    rw [UInt32.toNat_add,UInt32.toNat_mul,UInt32.toNat_ofNat_of_lt' (Nat.lt_trans few (by decide)),
      UInt32.toNat_ofNat_of_lt' (Nat.lt_trans inside (UInt32.toNat_lt_size _)),Nat.mod_eq_of_lt (by omega),
      Nat.mod_eq_of_lt (by omega)]
  rw [index,List.getElem?_map,List.getElem?_range (by omega)]
  rfl

theorem createNodes_eq (three : cfg.num_clusters = 3)
    (shared : cfg.total_uavs.toNat = 3*cfg.uavs_per_cluster.toNat) :
    ∃ nodes, createNodes cfg = some nodes ∧ nodes.skdc_nodes = [1,2,3] ∧
      nodes.cluster_nodes = rows cfg.uavs_per_cluster.toNat ∧
      nodes.wifi_nodes = (List.range (3+3*cfg.uavs_per_cluster.toNat+1)).map (1+·) := by
  unfold createNodes
  rw [three]
  simp only [UInt32.reduceToNat,cluster_nodes_eq shared]
  refine ⟨_,rfl,rfl,rfl,?_⟩
  have shift : ∀ n, ((1+·) ∘ (3+·)) n = 4+n := fun n => by simp only [Function.comp]; omega
  rw [shared,Nat.add_assoc,List.range_add,@List.range_succ (3*_),List.map_append,List.map_append,
    List.map_append,List.map_map,List.map_map,List.map_congr_left fun n _ => shift n,
    List.map_congr_left fun n _ => shift n]
  exact List.append_assoc ..

/-- The ids of the nodes of a cluster. -/
theorem inCluster_iff {nodes : TopologyResult} {per : Nat} (skdcs : nodes.skdc_nodes = [1,2,3])
    (uavs : nodes.cluster_nodes = rows per) {node c : Nat} :
    InCluster nodes node c ↔ c < 3 ∧ (node = c+1 ∨ 4+c*per ≤ node ∧ node < 4+(c+1)*per) := by
  rw [InCluster,skdcs,uavs,rows,Nat.succ_mul]
  by_cases few : c < 3
  · have skdc : [1,2,3][c]? = some (c+1) := by
      interval_cases c <;> rfl
    rw [List.getElem?_map,List.getElem?_range few,skdc,Option.map_some]
    simp only [Option.some.injEq,exists_eq_left',List.mem_map,List.mem_range]
    refine ⟨?_,?_⟩
    · rintro (rfl | ⟨u,inside,rfl⟩)
      · exact ⟨few,.inl rfl⟩
      · exact ⟨few,.inr ⟨by omega,by omega⟩⟩
    · rintro ⟨-,rfl | range⟩
      · exact .inl rfl
      · exact .inr ⟨node-(4+c*per),by omega,by omega⟩
  · rw [List.getElem?_eq_none (by simpa using few),List.getElem?_eq_none (by simpa using few)]
    simp [few]

/-- A search that one number answers. -/
theorem find_only {p : Nat → Bool} {j : Nat} (only : ∀ i, p i = true ↔ i = j) (n : Nat) :
    (List.range n).find? p = if j < n then some j else none := by
  split
  · rename_i inside
    rw [List.find?_range_eq_some]
    refine ⟨(only j).mpr rfl,List.mem_range.mpr inside,fun i before => ?_⟩
    rw [Bool.not_eq_true',Bool.eq_false_iff]
    exact fun found => Nat.ne_of_lt before ((only i).mp found)
  · rename_i outside
    rw [List.find?_range_eq_none]
    intro i inside
    rw [Bool.not_eq_true',Bool.eq_false_iff]
    rintro found
    exact outside ((only i).mp found ▸ inside)

/-- The cluster that is read off the place of an address. -/
def clusterAt (k : Nat) : UInt32 :=
  if k < 3 then .ofNat k else if k < 21 then .ofNat ((k-3)/6) else INVALID

theorem getClusterFromAddr_at {topo : TopologyResult} (distinct : topo.wifi_interfaces.Nodup)
    {k : Nat} {addr : UInt32} (there : topo.wifi_interfaces[k]? = some addr) :
    getClusterFromAddr topo addr = clusterAt k := by
  have only : ∀ i, (topo.wifi_interfaces[i]? == some addr) = true ↔ i = k := by
    intro i
    rw [beq_iff_eq,← there]
    have inside : k < topo.wifi_interfaces.length := (List.getElem?_eq_some_iff.mp there).1
    refine ⟨fun same => ?_,fun same => by rw [same]⟩
    exact ((List.getElem?_inj inside distinct).mp same.symm).symm
  unfold getClusterFromAddr clusterAt
  rw [find_only only]
  by_cases skdc : k < 3
  · rw [if_pos skdc,if_pos skdc]
  · have shifted : ∀ i, (topo.wifi_interfaces[3+i]? == some addr) = true ↔ i = k-3 := by
      intro i
      rw [only]
      omega
    rw [if_neg skdc,if_neg skdc]
    dsimp only
    rw [find_only shifted]
    by_cases uav : k < 21
    · rw [if_pos uav,if_pos (by omega)]
    · rw [if_neg uav,if_neg (by omega)]

theorem getClusterFromAddr_invalid {topo : TopologyResult} {addr : UInt32}
    (foreign : addr ∉ topo.wifi_interfaces) : getClusterFromAddr topo addr = INVALID := by
  have never : ∀ i : Nat, (topo.wifi_interfaces[i]? == some addr) = false := by
    intro i
    rw [beq_eq_false_iff_ne]
    exact fun found => foreign (List.mem_of_getElem? found)
  unfold getClusterFromAddr
  simp only [never]
  rfl

/-- The addresses of the interfaces, in the order of their nodes. -/
theorem assignAddresses_spec {gen : Generator} {nodes topo : TopologyResult}
    (assigned : assignAddresses cfg (.initial entryList) nodes = .ok (topo,gen)) :
    topo.skdc_nodes = nodes.skdc_nodes ∧ topo.cluster_nodes = nodes.cluster_nodes ∧
      topo.wifi_nodes = nodes.wifi_nodes ∧ topo.wifi_interfaces.length = nodes.wifi_nodes.length ∧
      topo.wifi_interfaces.Nodup ∧ ∀ a ∈ topo.csma_interfaces, a ∉ topo.wifi_interfaces := by
  obtain ⟨first,-,assigned⟩ := bind_success.mp assigned
  obtain ⟨⟨⟨helper,middle⟩,wifi⟩,over_wifi,assigned⟩ := bind_success.mp assigned
  obtain ⟨second,-,assigned⟩ := bind_success.mp assigned
  obtain ⟨⟨⟨last,after⟩,csma⟩,over_csma,assigned⟩ := bind_success.mp assigned
  cases assigned
  obtain ⟨length,distinct,-,-,gave⟩ := AddressHelper.assign_spec Gave.initial over_wifi
  obtain ⟨-,-,-,new,-⟩ := AddressHelper.assign_spec gave over_csma
  refine ⟨rfl,rfl,rfl,length,distinct,fun a member again => new a member ?_⟩
  exact Finset.mem_union_right _ (List.mem_toFinset.mpr again)

theorem cluster_number {a b : Nat} (few : a < 3) (small : b < 3) :
    UInt32.ofNat a = .ofNat b ↔ a = b := by
  interval_cases a <;> interval_cases b <;> decide

theorem invalid_ne {c : Nat} (few : c < 3) : INVALID ≠ .ofNat c := by
  interval_cases c <;> decide

/-- Places and nodes agree about the clusters in fleets of six UAVs to the cluster only. -/
theorem clusterAt_right (per : Nat) :
    (∀ k ≤ 3+3*per, ∀ c < 3,
      (clusterAt k = .ofNat c ↔ 1+k = c+1 ∨ 4+c*per ≤ 1+k ∧ 1+k < 4+(c+1)*per)) ↔ per = 6 := by
  refine ⟨fun right => ?_,?_⟩
  · by_contra other
    rcases Nat.lt_or_gt_of_ne other with fewer | more
    · -- The jammer's address is read as the one of a UAV.
      have jammer := (right (3+3*per) (Nat.le_refl _) (3*per/6) (by omega)).mp (by
        rw [clusterAt,if_neg (by omega),if_pos (by omega),Nat.add_sub_cancel_left])
      interval_cases per <;> omega
    · -- The seventh UAV of the first cluster is taken for one of the second.
      have seventh := (right 9 (by omega) 0 (by decide)).mpr (.inr (by omega))
      revert seventh
      decide
  · rintro rfl k inside c few
    unfold clusterAt
    split
    · rw [cluster_number (by assumption) few]
      omega
    · split
      · rw [cluster_number (by omega) few]
        omega
      · refine iff_of_false (invalid_ne few) ?_
        omega

/-- The flow monitor reads the right cluster off the address of every node if and only if six UAVs
share a cluster. Whatever is not an address of the WiFi network has no cluster. -/
theorem clusters_attributed (three : cfg.num_clusters = 3)
    (shared : cfg.total_uavs.toNat = 3*cfg.uavs_per_cluster.toNat) :
    ∃ nodes, createNodes cfg = some nodes ∧
      ∀ topo gen, assignAddresses cfg (.initial entryList) nodes = .ok (topo,gen) →
        ((∀ (k node : Nat) (addr : UInt32), topo.wifi_nodes[k]? = some node →
            topo.wifi_interfaces[k]? = some addr → ∀ c < 3,
              (getClusterFromAddr topo addr = .ofNat c ↔ InCluster topo node c)) ↔
          cfg.uavs_per_cluster = 6) ∧
        (∀ addr ∉ topo.wifi_interfaces, getClusterFromAddr topo addr = INVALID) ∧
        ∀ addr ∈ topo.csma_interfaces, getClusterFromAddr topo addr = INVALID := by
  obtain ⟨nodes,created,skdcs,uavs,wifi_nodes⟩ := createNodes_eq three shared
  refine ⟨nodes,created,fun topo gen assigned => ?_⟩
  obtain ⟨same_skdcs,same_rows,same_wifi,length,distinct,apart⟩ := assignAddresses_spec assigned
  rw [skdcs] at same_skdcs
  rw [uavs] at same_rows
  rw [wifi_nodes] at same_wifi
  rw [wifi_nodes,List.length_map,List.length_range] at length
  refine ⟨?_,fun addr foreign => getClusterFromAddr_invalid foreign,fun addr member =>
    getClusterFromAddr_invalid (apart addr member)⟩
  rw [← UInt32.toNat_inj,show (6 : UInt32).toNat = 6 from rfl,← clusterAt_right,same_wifi]
  refine ⟨fun right k inside c few => ?_,fun right k node addr at_node at_addr c few => ?_⟩
  · have at_node : ((List.range (3+3*cfg.uavs_per_cluster.toNat+1)).map (1+·))[k]? = some (1+k) := by
      rw [List.getElem?_map,List.getElem?_range (by omega)]
      rfl
    have at_addr := List.getElem?_eq_getElem (l := topo.wifi_interfaces) (i := k) (by omega)
    have attributed := right k (1+k) _ at_node at_addr c few
    rw [getClusterFromAddr_at distinct at_addr,inCluster_iff same_skdcs same_rows] at attributed
    exact attributed.trans (and_iff_right few)
  · rw [List.getElem?_map,Option.map_eq_some_iff] at at_node
    obtain ⟨same,at_range,rfl⟩ := at_node
    obtain ⟨inside,value⟩ := List.getElem?_eq_some_iff.mp at_range
    rw [List.getElem_range] at value
    subst value
    rw [List.length_range] at inside
    rw [getClusterFromAddr_at distinct at_addr,inCluster_iff same_skdcs same_rows,
      right k (by omega) c few]
    exact (and_iff_right few).symm

/-- The addresses of the default configuration can be assigned, and are read off right. -/
theorem clusters_attributed_default : ∃ nodes topo gen, createNodes {} = some nodes ∧
    assignAddresses {} (.initial entryList) nodes = .ok (topo,gen) ∧
    ∀ (k node : Nat) (addr : UInt32), topo.wifi_nodes[k]? = some node →
      topo.wifi_interfaces[k]? = some addr → ∀ c < 3,
        (getClusterFromAddr topo addr = .ofNat c ↔ InCluster topo node c) := by
  obtain ⟨nodes,created,right⟩ := @clusters_attributed {} rfl rfl
  have possible : ∃ state, (createNodes {}).map (assignAddresses {} (.initial entryList)) =
      some (.ok state) := ⟨_,rfl⟩
  obtain ⟨⟨topo,gen⟩,assigned⟩ := possible
  rw [created] at assigned
  have assigned := Option.some.inj assigned
  exact ⟨nodes,topo,gen,created,assigned,(right topo gen assigned).1.mpr rfl⟩

end UavFanet.Routing
