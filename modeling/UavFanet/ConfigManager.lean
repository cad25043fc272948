import UavFanet.JsonIntegers

/-! `ConfigManager`: the settings that `LoadSimConfig` takes from a simulation file, and when the
integers among them are those of the file. -/
namespace UavFanet
open JsonLoader

/-- The members that `ParseSimJson` sets, with the defaults of those that are no `double`. -/
structure ConfigManager (D : Type) where
  m_sim_loaded : Bool := false
  m_num_kdc : UInt32 := 1
  m_num_skdcs : UInt32 := 3
  m_num_clusters : UInt32 := 3
  m_uavs_per_cluster : UInt32 := 6
  m_num_uavs : UInt32 := 18
  m_num_jammers : UInt32 := 1
  m_max_uav_count : UInt32 := 30
  m_sim_duration : D
  m_rng_seed : UInt32 := 10
  m_num_runs : UInt32 := 10
  m_debug : Bool := false
  m_enable_netanim : Bool := true
  m_enable_pcap : Bool := true
  m_enable_flowmonitor : Bool := true
  m_area_x_min : D
  m_area_x_max : D
  m_area_y_min : D
  m_area_y_max : D
  m_area_z_min : D
  m_area_z_max : D
  m_uav_speed_min : D
  m_uav_speed_max : D
  m_uav_alt_min : D
  m_uav_alt_max : D
  m_jammer_speed : D
  m_freq_hz : D
  m_channel_width_mhz : D
  m_tx_power_dbm : D
  m_phy_rate_mbps : D
  m_jammer_power_dbm : D
  m_sinr_threshold_db : D
  m_olsr_hello_interval : D
  m_olsr_tc_interval : D
  m_node_compromise_prob : D
  m_replay_window_size : UInt32 := 64
  m_replay_skew_us : UInt64 := 5000000
  m_log_dir : String := "logs"
  m_output_dir : String := "output"
  m_pcap_dir : String := "pcap"
  m_json_dir : String := "json"
  m_graphs_dir : String := "graphs"
  m_csv_interval_s : D
  m_netanim_interval_ms : D
  m_kdc_udp_port : UInt16 := 9000
  m_skdc_udp_port : UInt16 := 9001
  m_uav_data_udp_port : UInt16 := 9100
  m_mtk_multicast_port : UInt16 := 9200

namespace ConfigManager

variable {D : Type}

/-- The getters with a default, which is for a missing key only. -/
def orDefault {α : Type} (get : Node D → String → Result α) (L : Node D) (dot_path : String)
    (def_ : α) : Result α :=
  if !has L dot_path then .ok def_ else get L dot_path

section Parse

variable (convert : Int → D) (L : Node D) (mgr : ConfigManager D)

def parseTopology : Result (ConfigManager D) := do
  let u32 := orDefault getU32 L
  let m_num_kdc ← u32 "topology.num_kdc" mgr.m_num_kdc
  let m_num_skdcs ← u32 "topology.num_skdcs" mgr.m_num_skdcs
  let m_num_clusters ← u32 "topology.num_clusters" mgr.m_num_clusters
  let m_uavs_per_cluster ← u32 "topology.uavs_per_cluster" mgr.m_uavs_per_cluster
  let m_num_uavs ← u32 "topology.num_uavs" mgr.m_num_uavs
  let m_num_jammers ← u32 "topology.num_jammers" mgr.m_num_jammers
  let m_max_uav_count ← u32 "topology.max_uav_count" mgr.m_max_uav_count
  return { mgr with
    m_num_kdc, m_num_skdcs, m_num_clusters, m_uavs_per_cluster, m_num_uavs, m_num_jammers,
    m_max_uav_count }

def parseSimulation : Result (ConfigManager D) := do
  let m_sim_duration ← orDefault (getDouble · · convert) L "simulation.duration_s"
    mgr.m_sim_duration
  let m_rng_seed ← orDefault getU32 L "simulation.rng_seed" mgr.m_rng_seed
  let m_num_runs ← orDefault getU32 L "simulation.runs" mgr.m_num_runs
  let m_debug ← orDefault getBool L "simulation.debug" mgr.m_debug
  let m_enable_netanim ← orDefault getBool L "simulation.enable_netanim" mgr.m_enable_netanim
  let m_enable_pcap ← orDefault getBool L "simulation.enable_pcap" mgr.m_enable_pcap
  let m_enable_flowmonitor ← orDefault getBool L "simulation.enable_flowmonitor"
    mgr.m_enable_flowmonitor
  return { mgr with
    m_sim_duration, m_rng_seed, m_num_runs, m_debug, m_enable_netanim, m_enable_pcap,
    m_enable_flowmonitor }

/-- Area, mobility, wireless and OLSR: nothing but `double`s. -/
def parseWorld : Result (ConfigManager D) := do
  let double := orDefault (getDouble · · convert) L
  let m_area_x_min ← double "area.x_min" mgr.m_area_x_min
  let m_area_x_max ← double "area.x_max" mgr.m_area_x_max
  let m_area_y_min ← double "area.y_min" mgr.m_area_y_min
  let m_area_y_max ← double "area.y_max" mgr.m_area_y_max
  let m_area_z_min ← double "area.z_min" mgr.m_area_z_min
  let m_area_z_max ← double "area.z_max" mgr.m_area_z_max
  let m_uav_speed_min ← double "mobility.uav_speed_min" mgr.m_uav_speed_min
  let m_uav_speed_max ← double "mobility.uav_speed_max" mgr.m_uav_speed_max
  let m_uav_alt_min ← double "mobility.uav_alt_min" mgr.m_uav_alt_min
  let m_uav_alt_max ← double "mobility.uav_alt_max" mgr.m_uav_alt_max
  let m_jammer_speed ← double "mobility.jammer_speed" mgr.m_jammer_speed
  let m_freq_hz ← double "wireless.freq_hz" mgr.m_freq_hz
  let m_channel_width_mhz ← double "wireless.channel_width_mhz" mgr.m_channel_width_mhz
  let m_tx_power_dbm ← double "wireless.tx_power_dbm" mgr.m_tx_power_dbm
  let m_phy_rate_mbps ← double "wireless.phy_rate_mbps" mgr.m_phy_rate_mbps
  let m_jammer_power_dbm ← double "wireless.jammer_power_dbm" mgr.m_jammer_power_dbm
  let m_sinr_threshold_db ← double "wireless.sinr_threshold_db" mgr.m_sinr_threshold_db
  let m_olsr_hello_interval ← double "olsr.hello_interval_s" mgr.m_olsr_hello_interval
  let m_olsr_tc_interval ← double "olsr.tc_interval_s" mgr.m_olsr_tc_interval
  return { mgr with
    m_area_x_min, m_area_x_max, m_area_y_min, m_area_y_max, m_area_z_min, m_area_z_max,
    m_uav_speed_min, m_uav_speed_max, m_uav_alt_min, m_uav_alt_max, m_jammer_speed, m_freq_hz,
    m_channel_width_mhz, m_tx_power_dbm, m_phy_rate_mbps, m_jammer_power_dbm,
    m_sinr_threshold_db, m_olsr_hello_interval, m_olsr_tc_interval }

def parseSecurity : Result (ConfigManager D) := do
  let m_node_compromise_prob ← orDefault (getDouble · · convert) L "security.node_compromise_prob"
    mgr.m_node_compromise_prob
  let m_replay_window_size ← orDefault getU32 L "security.replay_window_size"
    mgr.m_replay_window_size
  let m_replay_skew_us ← orDefault getU64 L "security.replay_skew_us" mgr.m_replay_skew_us
  return { mgr with m_node_compromise_prob, m_replay_window_size, m_replay_skew_us }

def parseOutput : Result (ConfigManager D) := do
  let m_log_dir ← orDefault getString L "output.log_dir" mgr.m_log_dir
  let m_output_dir ← orDefault getString L "output.output_dir" mgr.m_output_dir
  let m_pcap_dir ← orDefault getString L "output.pcap_dir" mgr.m_pcap_dir
  let m_json_dir ← orDefault getString L "output.json_dir" mgr.m_json_dir
  let m_graphs_dir ← orDefault getString L "output.graphs_dir" mgr.m_graphs_dir
  let m_csv_interval_s ← orDefault (getDouble · · convert) L "output.csv_interval_s"
    mgr.m_csv_interval_s
  let m_netanim_interval_ms ← orDefault (getDouble · · convert) L "output.netanim_interval_ms"
    mgr.m_netanim_interval_ms
  return { mgr with
    m_log_dir, m_output_dir, m_pcap_dir, m_json_dir, m_graphs_dir, m_csv_interval_s,
    m_netanim_interval_ms }

/-- `static_cast<utils::u16>(L.GetU32(…))`: a port is cut to 16 bits. -/
def port (dot_path : String) (def_ : UInt16) : Result UInt16 := do
  let v ← orDefault getU32 L dot_path def_.toUInt32
  return v.toUInt16

def parsePorts : Result (ConfigManager D) := do
  let m_kdc_udp_port ← port L "ports.kdc_udp" mgr.m_kdc_udp_port
  let m_skdc_udp_port ← port L "ports.skdc_udp" mgr.m_skdc_udp_port
  let m_uav_data_udp_port ← port L "ports.uav_data_udp" mgr.m_uav_data_udp_port
  let m_mtk_multicast_port ← port L "ports.mtk_multicast" mgr.m_mtk_multicast_port
  return { mgr with
    m_kdc_udp_port, m_skdc_udp_port, m_uav_data_udp_port, m_mtk_multicast_port }

/-- `ParseSimJson`, by its sections. -/
def parseSimJson : Result (ConfigManager D) := do
  let mgr ← parseTopology L mgr
  let mgr ← parseSimulation convert L mgr
  let mgr ← parseWorld convert L mgr
  let mgr ← parseSecurity convert L mgr
  let mgr ← parseOutput convert L mgr
  parsePorts L mgr

end Parse

/-- `file` is what `FromFile` makes of the file, where there is one. The text of the exception goes
on with that of the one it replaces. -/
def loadSimConfig (convert : Int → D) (mgr : ConfigManager D) (file : Option (Result (Node D))) :
    Result (ConfigManager D) := do
  match file with
  | none => return { mgr with m_sim_loaded := true }
  | some contents =>
    let parsed : Result (ConfigManager D) := do
      let loader ← contents
      mgr.parseSimJson convert loader
    match ← parsed.caught with
    | some mgr => return { mgr with m_sim_loaded := true }
    | none => configError "LoadSimConfig failed: "

structure IntegerSetting (D : Type) where
  dot_path : String
  stored : ConfigManager D → Nat

def topologySettings : List (IntegerSetting D) :=
  [⟨"topology.num_kdc",(·.m_num_kdc.toNat)⟩,
    ⟨"topology.num_skdcs",(·.m_num_skdcs.toNat)⟩,
    ⟨"topology.num_clusters",(·.m_num_clusters.toNat)⟩,
    ⟨"topology.uavs_per_cluster",(·.m_uavs_per_cluster.toNat)⟩,
    ⟨"topology.num_uavs",(·.m_num_uavs.toNat)⟩,
    ⟨"topology.num_jammers",(·.m_num_jammers.toNat)⟩,
    ⟨"topology.max_uav_count",(·.m_max_uav_count.toNat)⟩]

def simulationSettings : List (IntegerSetting D) :=
  [⟨"simulation.rng_seed",(·.m_rng_seed.toNat)⟩,⟨"simulation.runs",(·.m_num_runs.toNat)⟩]

def replayWindow : IntegerSetting D :=
  ⟨"security.replay_window_size",(·.m_replay_window_size.toNat)⟩

/-- Of 64 bits, as against 32 bits before. -/
def replaySkew : IntegerSetting D := ⟨"security.replay_skew_us",(·.m_replay_skew_us.toNat)⟩

def portSettings : List (IntegerSetting D) :=
  [⟨"ports.kdc_udp",(·.m_kdc_udp_port.toNat)⟩,
    ⟨"ports.skdc_udp",(·.m_skdc_udp_port.toNat)⟩,
    ⟨"ports.uav_data_udp",(·.m_uav_data_udp_port.toNat)⟩,
    ⟨"ports.mtk_multicast",(·.m_mtk_multicast_port.toNat)⟩]

def integerSettings : List (IntegerSetting D) :=
  topologySettings ++ simulationSettings ++ [replayWindow,replaySkew] ++ portSettings

/-- Where the document has the setting it is an integer, and the one that is stored. -/
def AsWritten (L : Node D) (mgr : ConfigManager D) (setting : IntegerSetting D) : Prop :=
  ∀ node, navigate L setting.dot_path = some node → node.integer = some (setting.stored mgr : Int)

/-- The integer at a path, if any, is within the bound. -/
def Within (L : Node D) (bound : Int) (dot_path : String) : Prop :=
  ∀ node, navigate L dot_path = some node → ∀ n, node.integer = some n → 0 ≤ n ∧ n < bound

/-- What is stored for these settings has not changed. -/
def Same (settings : List (IntegerSetting D)) (before after : ConfigManager D) : Prop :=
  settings.map (·.stored after) = settings.map (·.stored before)

theorem Same.as_written_iff {settings : List (IntegerSetting D)} {before after : ConfigManager D}
    (same : Same settings before after) {L : Node D} {setting : IntegerSetting D}
    (member : setting ∈ settings) : AsWritten L after setting ↔ AsWritten L before setting := by
  rw [AsWritten,AsWritten,List.map_inj_left.mp same setting member]

theorem Same.as_written {settings : List (IntegerSetting D)} {before after : ConfigManager D}
    (same : Same settings before after) {L : Node D}
    (written : ∀ setting ∈ settings, AsWritten L before setting) :
    ∀ setting ∈ settings, AsWritten L after setting :=
  fun setting member => (same.as_written_iff member).mpr (written setting member)

section Reads

variable {L : Node D} {dot_path : String}

theorem orDefault_found {α : Type} {get : Node D → String → Result α} {def_ : α} {node : Node D}
    (found : navigate L dot_path = some node) : orDefault get L dot_path def_ = get L dot_path := by
  rw [orDefault,has,found]
  rfl

theorem u32_as_written {def_ v : UInt32} (read : orDefault getU32 L dot_path def_ = .ok v) :
    ∀ node, navigate L dot_path = some node → node.integer = some (v.toNat : Int) := by
  intro node found
  rw [orDefault_found found] at read
  exact getU32_denotes found read

theorem u64_as_written_iff {def_ v : UInt64} (read : orDefault getU64 L dot_path def_ = .ok v) :
    (∀ node, navigate L dot_path = some node → node.integer = some (v.toNat : Int)) ↔
      Within L (2^64) dot_path := by
  apply forall_congr'
  intro node
  apply imp_congr_right
  intro found
  rw [orDefault_found found] at read
  rcases getU64_cases found with ⟨integer,same⟩ | ⟨-,failure,threw⟩
  · obtain rfl : node.asU64 = v := Except.ok.inj (same.symm.trans read)
    rw [asU64_exact integer]
    obtain ⟨n,stored,above,-⟩ := integer_casts integer
    constructor
    · intro natural m same_number
      obtain rfl : n = m := Option.some.inj (stored.symm.trans same_number)
      exact ⟨natural n stored,above⟩
    · intro within m same_number
      exact (within m same_number).1
  · rw [threw] at read
    cases read

theorem port_as_written_iff {def_ v : UInt16} (read : port L dot_path def_ = .ok v) :
    (∀ node, navigate L dot_path = some node → node.integer = some (v.toNat : Int)) ↔
      Within L (2^16) dot_path := by
  obtain ⟨wide,wide_read,cut⟩ := Result.bind_ok.mp read
  cases cut
  apply forall_congr'
  intro node
  apply imp_congr_right
  intro found
  have stored := u32_as_written wide_read node found
  have kept : wide.toUInt16.toNat = wide.toNat%2^16 := UInt32.toNat_toUInt16 wide
  rw [stored]
  constructor
  · intro same n number
    have := Option.some.inj same
    obtain rfl : (wide.toNat : Int) = n := Option.some.inj number
    omega
  · intro within
    have := within wide.toNat rfl
    congr 1
    omega

end Reads

section Sections

variable {convert : Int → D} {L : Node D} {mgr after : ConfigManager D}

theorem parseTopology_ok (parsed : parseTopology L mgr = .ok after) :
    ∀ setting ∈ topologySettings, AsWritten L after setting := by
  obtain ⟨num_kdc,kdc_read,parsed⟩ := Result.bind_ok.mp parsed
  obtain ⟨num_skdcs,skdcs_read,parsed⟩ := Result.bind_ok.mp parsed
  obtain ⟨num_clusters,clusters_read,parsed⟩ := Result.bind_ok.mp parsed
  obtain ⟨uavs_per_cluster,per_cluster_read,parsed⟩ := Result.bind_ok.mp parsed
  obtain ⟨num_uavs,uavs_read,parsed⟩ := Result.bind_ok.mp parsed
  obtain ⟨num_jammers,jammers_read,parsed⟩ := Result.bind_ok.mp parsed
  obtain ⟨max_uav_count,max_read,parsed⟩ := Result.bind_ok.mp parsed
  cases parsed
  simp only [topologySettings,List.forall_mem_cons]
  refine ⟨?_,?_,?_,?_,?_,?_,?_,by simp⟩
  · exact u32_as_written kdc_read
  · exact u32_as_written skdcs_read
  · exact u32_as_written clusters_read
  · exact u32_as_written per_cluster_read
  · exact u32_as_written uavs_read
  · exact u32_as_written jammers_read
  · exact u32_as_written max_read

theorem parseSimulation_ok (parsed : parseSimulation convert L mgr = .ok after) :
    (∀ setting ∈ simulationSettings, AsWritten L after setting) ∧
      Same topologySettings mgr after := by
  obtain ⟨sim_duration,-,parsed⟩ := Result.bind_ok.mp parsed
  obtain ⟨rng_seed,seed_read,parsed⟩ := Result.bind_ok.mp parsed
  obtain ⟨num_runs,runs_read,parsed⟩ := Result.bind_ok.mp parsed
  obtain ⟨debug,-,parsed⟩ := Result.bind_ok.mp parsed
  obtain ⟨enable_netanim,-,parsed⟩ := Result.bind_ok.mp parsed
  obtain ⟨enable_pcap,-,parsed⟩ := Result.bind_ok.mp parsed
  obtain ⟨enable_flowmonitor,-,parsed⟩ := Result.bind_ok.mp parsed
  cases parsed
  refine ⟨?_,rfl⟩
  simp only [simulationSettings,List.forall_mem_cons]
  refine ⟨?_,?_,by simp⟩
  · exact u32_as_written seed_read
  · exact u32_as_written runs_read

theorem parseWorld_ok (parsed : parseWorld convert L mgr = .ok after) :
    Same topologySettings mgr after ∧ Same simulationSettings mgr after := by
  iterate 19 obtain ⟨_,-,parsed⟩ := Result.bind_ok.mp parsed
  cases parsed
  exact ⟨rfl,rfl⟩

theorem parseSecurity_ok (parsed : parseSecurity convert L mgr = .ok after) :
    AsWritten L after replayWindow ∧
      (AsWritten L after replaySkew ↔ Within L (2^64) "security.replay_skew_us") ∧
      Same topologySettings mgr after ∧ Same simulationSettings mgr after := by
  obtain ⟨node_compromise_prob,-,parsed⟩ := Result.bind_ok.mp parsed
  obtain ⟨replay_window_size,window_read,parsed⟩ := Result.bind_ok.mp parsed
  obtain ⟨replay_skew_us,skew_read,parsed⟩ := Result.bind_ok.mp parsed
  cases parsed
  exact ⟨u32_as_written window_read,u64_as_written_iff skew_read,rfl,rfl⟩

theorem parseOutput_ok (parsed : parseOutput convert L mgr = .ok after) :
    Same topologySettings mgr after ∧ Same simulationSettings mgr after ∧
      Same [replayWindow,replaySkew] mgr after := by
  iterate 7 obtain ⟨_,-,parsed⟩ := Result.bind_ok.mp parsed
  cases parsed
  exact ⟨rfl,rfl,rfl⟩

theorem parsePorts_ok (parsed : parsePorts L mgr = .ok after) :
    (∀ setting ∈ portSettings,
        AsWritten L after setting ↔ Within L (2^16) setting.dot_path) ∧
      Same topologySettings mgr after ∧ Same simulationSettings mgr after ∧
      Same [replayWindow,replaySkew] mgr after := by
  obtain ⟨kdc_udp_port,kdc_read,parsed⟩ := Result.bind_ok.mp parsed
  obtain ⟨skdc_udp_port,skdc_read,parsed⟩ := Result.bind_ok.mp parsed
  obtain ⟨uav_data_udp_port,data_read,parsed⟩ := Result.bind_ok.mp parsed
  obtain ⟨mtk_multicast_port,multicast_read,parsed⟩ := Result.bind_ok.mp parsed
  cases parsed
  refine ⟨?_,rfl,rfl,rfl⟩
  simp only [portSettings,List.forall_mem_cons]
  refine ⟨?_,?_,?_,?_,by simp⟩
  · exact port_as_written_iff kdc_read
  · exact port_as_written_iff skdc_read
  · exact port_as_written_iff data_read
  · exact port_as_written_iff multicast_read

/-- All settings of 32 bits are those of the document, and the others are within their bounds. -/
theorem parseSimJson_as_written_iff (parsed : parseSimJson convert L mgr = .ok after) :
    (∀ setting ∈ integerSettings, AsWritten L after setting) ↔
      Within L (2^64) "security.replay_skew_us" ∧
        ∀ setting ∈ portSettings (D := D), Within L (2^16) setting.dot_path := by
  obtain ⟨first,topology,parsed⟩ := Result.bind_ok.mp parsed
  obtain ⟨second,simulation,parsed⟩ := Result.bind_ok.mp parsed
  obtain ⟨third,world,parsed⟩ := Result.bind_ok.mp parsed
  obtain ⟨fourth,security,parsed⟩ := Result.bind_ok.mp parsed
  obtain ⟨fifth,output,ports⟩ := Result.bind_ok.mp parsed
  obtain ⟨runs_written,topology_kept⟩ := parseSimulation_ok simulation
  obtain ⟨topology_world,simulation_world⟩ := parseWorld_ok world
  obtain ⟨window,skew,topology_security,simulation_security⟩ := parseSecurity_ok security
  obtain ⟨topology_output,simulation_output,security_output⟩ := parseOutput_ok output
  obtain ⟨ports_iff,topology_ports,simulation_ports,security_ports⟩ := parsePorts_ok ports
  have nodes_written := topology_ports.as_written (topology_output.as_written
    (topology_security.as_written (topology_world.as_written
      (topology_kept.as_written (parseTopology_ok topology)))))
  have seed_written := simulation_ports.as_written (simulation_output.as_written
    (simulation_security.as_written (simulation_world.as_written runs_written)))
  have window_written := ((security_ports.as_written_iff (by simp)).trans
    (security_output.as_written_iff (by simp))).mpr window
  have skew_iff := ((security_ports.as_written_iff (by simp)).trans
    (security_output.as_written_iff (by simp))).trans skew
  rw [← skew_iff]
  constructor
  · intro written
    refine ⟨written replaySkew (by simp [integerSettings]),fun setting member => ?_⟩
    exact (ports_iff setting member).mp (written setting (List.mem_append_right _ member))
  · rintro ⟨skew_written,within⟩ setting member
    simp only [integerSettings,List.mem_append,List.mem_cons,List.not_mem_nil,or_false] at member
    rcases member with ((node | seed) | rfl | rfl) | udp
    · exact nodes_written setting node
    · exact seed_written setting seed
    · exact window_written
    · exact skew_written
    · exact (ports_iff setting udp).mpr (within setting udp)

theorem loadSimConfig_ok {contents : Result (Node D)}
    (loaded : loadSimConfig convert mgr (some contents) = .ok after) :
    ∃ L parsed, contents = .ok L ∧ parseSimJson convert L mgr = .ok parsed ∧
      after = { parsed with m_sim_loaded := true } := by
  obtain ⟨caught,kept,loaded⟩ := Result.bind_ok.mp loaded
  cases caught with
  | none => cases loaded
  | some parsed =>
    cases loaded
    cases contents with
    | error failure => cases failure <;> cases kept
    | ok L =>
      refine ⟨L,parsed,rfl,?_,rfl⟩
      rw [Result.ok_bind] at kept
      cases read : parseSimJson convert L mgr with
      | error failure =>
        rw [read] at kept
        cases failure <;> cases kept
      | ok value =>
        rw [read] at kept
        cases kept
        rfl

end Sections

/-- The getters for integers and the load of a simulation file read the integers of a document
exactly, but for those that a cast changes: negative ones, those from `2^63` on as `i64`, those from
`2^32` on in an array, and port numbers from `2^16` on. -/
theorem json_integers_exact_iff (D : Type) :
    (∀ (getter : IntegerGetter) (root : Node D) (dot_path : String),
      getter.ReadsExactly root dot_path ↔
        ∀ node, navigate root dot_path = some node → getter.Holds node) ∧
    (∀ (convert : Int → D) (mgr after : ConfigManager D) (L : Node D),
      loadSimConfig convert mgr (some (.ok L)) = .ok after →
      ((∀ setting ∈ integerSettings, AsWritten L after setting) ↔
        Within L (2^64) "security.replay_skew_us" ∧
          ∀ setting ∈ portSettings (D := D), Within L (2^16) setting.dot_path)) := by
  refine ⟨IntegerGetter.reads_exactly_iff,fun convert mgr after L loaded => ?_⟩
  obtain ⟨_,parsed,⟨⟩,read,rfl⟩ := loadSimConfig_ok loaded
  have same : Same integerSettings parsed { parsed with m_sim_loaded := true } := rfl
  rw [← parseSimJson_as_written_iff read]
  exact forall₂_congr (fun setting member => same.as_written_iff member)

/-- As constructed, with nothing for the `double`s. -/
def plainManager : ConfigManager Unit where
  m_sim_duration := ()
  m_area_x_min := ()
  m_area_x_max := ()
  m_area_y_min := ()
  m_area_y_max := ()
  m_area_z_min := ()
  m_area_z_max := ()
  m_uav_speed_min := ()
  m_uav_speed_max := ()
  m_uav_alt_min := ()
  m_uav_alt_max := ()
  m_jammer_speed := ()
  m_freq_hz := ()
  m_channel_width_mhz := ()
  m_tx_power_dbm := ()
  m_phy_rate_mbps := ()
  m_jammer_power_dbm := ()
  m_sinr_threshold_db := ()
  m_olsr_hello_interval := ()
  m_olsr_tc_interval := ()
  m_node_compromise_prob := ()
  m_csv_interval_s := ()
  m_netanim_interval_ms := ()

/-- A file with the port of the KDC and nothing else. -/
def portFile (value : UInt64) : Node Unit :=
  .object [("ports",.object [("kdc_udp",.numberUnsigned value)])]

theorem portFile_paths : split "ports.kdc_udp" '.' = ["ports","kdc_udp"] ∧
    split "ports.skdc_udp" '.' = ["ports","skdc_udp"] ∧
    split "ports.uav_data_udp" '.' = ["ports","uav_data_udp"] ∧
    split "ports.mtk_multicast" '.' = ["ports","mtk_multicast"] ∧
    split "security.replay_skew_us" '.' = ["security","replay_skew_us"] := by decide +kernel

theorem portFile_port (value : UInt64) :
    navigate (portFile value) "ports.kdc_udp" = some (.numberUnsigned value) := by
  simp [navigate,portFile_paths.1,walk,portFile,Node.find]

theorem portFile_small_port : ∃ after,
    loadSimConfig (fun _ => ()) plainManager (some (.ok (portFile 9500))) = .ok after ∧
    ∀ setting ∈ integerSettings, AsWritten (portFile 9500) after setting := by
  have returned :
      (loadSimConfig (fun _ => ()) plainManager (some (.ok (portFile 9500)))).isOk = true := by
    decide +kernel
  cases loaded : loadSimConfig (fun _ => ()) plainManager (some (.ok (portFile 9500))) with
  | error failure =>
    rw [loaded] at returned
    cases returned
  | ok after =>
    obtain ⟨-,skdc,data,multicast,skew⟩ := portFile_paths
    refine ⟨after,rfl,((json_integers_exact_iff Unit).2 _ _ _ _ loaded).mpr ⟨?_,?_⟩⟩
    · intro node found
      simp [navigate,skew,walk,portFile,Node.find] at found
    · simp only [portSettings,List.forall_mem_cons]
      refine ⟨?_,?_,?_,?_,by simp⟩
      · intro node found
        rw [portFile_port] at found
        cases found
        rintro n ⟨⟩
        decide
      · intro node found
        simp [navigate,skdc,walk,portFile,Node.find] at found
      · intro node found
        simp [navigate,data,walk,portFile,Node.find] at found
      · intro node found
        simp [navigate,multicast,walk,portFile,Node.find] at found

/-- Port 75000 becomes 9464, and the integer `-1` the largest number of 64 bits. -/
theorem changed_integers :
    (loadSimConfig (fun _ => ()) plainManager (some (.ok (portFile 75000)))).map
      (·.m_kdc_udp_port) = .ok 9464 ∧
    navigate (portFile 75000) "ports.kdc_udp" = some (.numberUnsigned 75000) ∧
    getU64 (Node.numberInteger (-1) : Node Unit) "" = .ok 18446744073709551615 ∧
    ¬ IntegerGetter.getU64.ReadsExactly (Node.numberInteger (-1) : Node Unit) "" := by
  have here : navigate (Node.numberInteger (-1) : Node Unit) "" = some (.numberInteger (-1)) := by
    have path : split "" '.' = [] := by decide +kernel
    rw [navigate,path,walk]
  refine ⟨by decide +kernel,portFile_port 75000,?_,?_⟩
  · rcases getU64_cases here with ⟨-,read⟩ | ⟨other,-⟩
    · exact read
    · cases other
  · rw [IntegerGetter.reads_exactly_iff]
    intro held
    exact absurd (held _ here (-1) rfl) (by decide)

end ConfigManager
end UavFanet
