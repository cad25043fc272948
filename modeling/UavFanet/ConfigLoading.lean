import UavFanet.ConfigManager
import UavFanet.Library.Members

/-! `LoadSimConfig` and `LoadCryptoConfig` as they leave the manager, exception or not: when a load
that throws changes nothing. -/
namespace UavFanet
open JsonLoader Library
open ConfigManager (orDefault)

structure SlaveKeyParams where
  uav_id : UInt32 := 0
  e_i : String := ""
  d_i : String := ""
  n_i : String := ""
  deriving DecidableEq

structure ClusterCryptoParams where
  cluster_id : UInt32 := 0
  skdc_id : UInt32 := 0
  num_slaves : UInt32 := 0
  master_key_eM : String := ""
  master_mod_M : String := ""
  tek : String := ""
  slaves : List SlaveKeyParams := []
  deriving DecidableEq

/-- All members of the class: those that `ParseSimJson` sets and the others. -/
structure ConfigState (D : Type) extends ConfigManager D where
  m_crypto_loaded : Bool := false
  m_run_index : UInt32 := 1
  m_crypto_scheme : String := "CRT-GCRT"
  m_crypto_aes_bits : UInt32 := 256
  m_crypto_hmac : String := "SHA256"
  m_key_version : UInt32 := 1
  m_num_safe_primes : UInt32 := 18
  m_prime_bits : UInt32 := 512
  m_clusters : List ClusterCryptoParams := []

namespace ConfigState

variable {D : Type}

abbrev Setting (D : Type) := Assignment (ConfigState D) (Node D) Failure

/-- What a getter with a default has of the document: nothing for a missing key. -/
def read {α : Type} (get : Node D → String → Result α) (dot_path : String) (L : Node D) :
    Option α × Result Unit :=
  if !has L dot_path then (none,.ok ())
  else
    match get L dot_path with
    | .ok v => (some v,.ok ())
    | .error failure => (none,.error failure)

def setting {α : Type} (get : Node D → String → Result α) (dot_path : String)
    (member : Member (ConfigState D) α) : Setting D :=
  ⟨α,member,read get dot_path⟩

def u32 (dot_path : String) (member : Member (ConfigState D) UInt32) : Setting D :=
  setting getU32 dot_path member

def u64 (dot_path : String) (member : Member (ConfigState D) UInt64) : Setting D :=
  setting getU64 dot_path member

/-- A port is read with 32 bits and cut to 16. -/
def u16 (dot_path : String) (member : Member (ConfigState D) UInt16) : Setting D :=
  setting (fun L dot_path => (getU32 L dot_path).map UInt32.toUInt16) dot_path member

def bool (dot_path : String) (member : Member (ConfigState D) Bool) : Setting D :=
  setting getBool dot_path member

def double (convert : Int → D) (dot_path : String) (member : Member (ConfigState D) D) :
    Setting D :=
  setting (getDouble · · convert) dot_path member

def text (dot_path : String) (member : Member (ConfigState D) String) : Setting D :=
  setting getString dot_path member

def topologySettings : List (Setting D) :=
  [u32 "topology.num_kdc" (.mk (·.m_num_kdc) ({ · with m_num_kdc := · })),
    u32 "topology.num_skdcs" (.mk (·.m_num_skdcs) ({ · with m_num_skdcs := · })),
    u32 "topology.num_clusters" (.mk (·.m_num_clusters) ({ · with m_num_clusters := · })),
    u32 "topology.uavs_per_cluster"
      (.mk (·.m_uavs_per_cluster) ({ · with m_uavs_per_cluster := · })),
    u32 "topology.num_uavs" (.mk (·.m_num_uavs) ({ · with m_num_uavs := · })),
    u32 "topology.num_jammers" (.mk (·.m_num_jammers) ({ · with m_num_jammers := · })),
    u32 "topology.max_uav_count" (.mk (·.m_max_uav_count) ({ · with m_max_uav_count := · }))]

def simulationSettings (convert : Int → D) : List (Setting D) :=
  [double convert "simulation.duration_s"
      (.mk (·.m_sim_duration) ({ · with m_sim_duration := · })),
    u32 "simulation.rng_seed" (.mk (·.m_rng_seed) ({ · with m_rng_seed := · })),
    u32 "simulation.runs" (.mk (·.m_num_runs) ({ · with m_num_runs := · })),
    bool "simulation.debug" (.mk (·.m_debug) ({ · with m_debug := · })),
    bool "simulation.enable_netanim" (.mk (·.m_enable_netanim) ({ · with m_enable_netanim := · })),
    bool "simulation.enable_pcap" (.mk (·.m_enable_pcap) ({ · with m_enable_pcap := · })),
    bool "simulation.enable_flowmonitor"
      (.mk (·.m_enable_flowmonitor) ({ · with m_enable_flowmonitor := · }))]

def worldSettings (convert : Int → D) : List (Setting D) :=
  [double convert "area.x_min" (.mk (·.m_area_x_min) ({ · with m_area_x_min := · })),
    double convert "area.x_max" (.mk (·.m_area_x_max) ({ · with m_area_x_max := · })),
    double convert "area.y_min" (.mk (·.m_area_y_min) ({ · with m_area_y_min := · })),
    double convert "area.y_max" (.mk (·.m_area_y_max) ({ · with m_area_y_max := · })),
    double convert "area.z_min" (.mk (·.m_area_z_min) ({ · with m_area_z_min := · })),
    double convert "area.z_max" (.mk (·.m_area_z_max) ({ · with m_area_z_max := · })),
    double convert "mobility.uav_speed_min"
      (.mk (·.m_uav_speed_min) ({ · with m_uav_speed_min := · })),
    double convert "mobility.uav_speed_max"
      (.mk (·.m_uav_speed_max) ({ · with m_uav_speed_max := · })),
    double convert "mobility.uav_alt_min" (.mk (·.m_uav_alt_min) ({ · with m_uav_alt_min := · })),
    double convert "mobility.uav_alt_max" (.mk (·.m_uav_alt_max) ({ · with m_uav_alt_max := · })),
    double convert "mobility.jammer_speed"
      (.mk (·.m_jammer_speed) ({ · with m_jammer_speed := · })),
    double convert "wireless.freq_hz" (.mk (·.m_freq_hz) ({ · with m_freq_hz := · })),
    double convert "wireless.channel_width_mhz"
      (.mk (·.m_channel_width_mhz) ({ · with m_channel_width_mhz := · })),
    double convert "wireless.tx_power_dbm"
      (.mk (·.m_tx_power_dbm) ({ · with m_tx_power_dbm := · })),
    double convert "wireless.phy_rate_mbps"
      (.mk (·.m_phy_rate_mbps) ({ · with m_phy_rate_mbps := · })),
    double convert "wireless.jammer_power_dbm"
      (.mk (·.m_jammer_power_dbm) ({ · with m_jammer_power_dbm := · })),
    double convert "wireless.sinr_threshold_db"
      (.mk (·.m_sinr_threshold_db) ({ · with m_sinr_threshold_db := · })),
    double convert "olsr.hello_interval_s"
      (.mk (·.m_olsr_hello_interval) ({ · with m_olsr_hello_interval := · })),
    double convert "olsr.tc_interval_s"
      (.mk (·.m_olsr_tc_interval) ({ · with m_olsr_tc_interval := · }))]

def securitySettings (convert : Int → D) : List (Setting D) :=
  [double convert "security.node_compromise_prob"
      (.mk (·.m_node_compromise_prob) ({ · with m_node_compromise_prob := · })),
    u32 "security.replay_window_size"
      (.mk (·.m_replay_window_size) ({ · with m_replay_window_size := · })),
    u64 "security.replay_skew_us" (.mk (·.m_replay_skew_us) ({ · with m_replay_skew_us := · }))]

def directorySettings : List (Setting D) :=
  [text "output.log_dir" (.mk (·.m_log_dir) ({ · with m_log_dir := · })),
    text "output.output_dir" (.mk (·.m_output_dir) ({ · with m_output_dir := · })),
    text "output.pcap_dir" (.mk (·.m_pcap_dir) ({ · with m_pcap_dir := · })),
    text "output.json_dir" (.mk (·.m_json_dir) ({ · with m_json_dir := · })),
    text "output.graphs_dir" (.mk (·.m_graphs_dir) ({ · with m_graphs_dir := · }))]

def intervalSettings (convert : Int → D) : List (Setting D) :=
  [double convert "output.csv_interval_s"
      (.mk (·.m_csv_interval_s) ({ · with m_csv_interval_s := · })),
    double convert "output.netanim_interval_ms"
      (.mk (·.m_netanim_interval_ms) ({ · with m_netanim_interval_ms := · }))]

def portSettings : List (Setting D) :=
  [u16 "ports.kdc_udp" (.mk (·.m_kdc_udp_port) ({ · with m_kdc_udp_port := · })),
    u16 "ports.skdc_udp" (.mk (·.m_skdc_udp_port) ({ · with m_skdc_udp_port := · })),
    u16 "ports.uav_data_udp" (.mk (·.m_uav_data_udp_port) ({ · with m_uav_data_udp_port := · })),
    u16 "ports.mtk_multicast" (.mk (·.m_mtk_multicast_port) ({ · with m_mtk_multicast_port := · }))]

def schemeSettings : List (Setting D) :=
  [text "crypto.scheme" (.mk (·.m_crypto_scheme) ({ · with m_crypto_scheme := · })),
    u32 "crypto.aes_bits" (.mk (·.m_crypto_aes_bits) ({ · with m_crypto_aes_bits := · })),
    text "crypto.hmac" (.mk (·.m_crypto_hmac) ({ · with m_crypto_hmac := · })),
    u32 "crypto.key_version" (.mk (·.m_key_version) ({ · with m_key_version := · }))]

def kdcSettings : List (Setting D) :=
  [u32 "crypto.kdc.num_safe_primes"
      (.mk (·.m_num_safe_primes) ({ · with m_num_safe_primes := · })),
    u32 "crypto.kdc.prime_bits" (.mk (·.m_prime_bits) ({ · with m_prime_bits := · }))]

/-- The body of the inner loop. -/
def parseSlave (cl : Node D) (j : Nat) : Result SlaveKeyParams := do
  let sl ← arrayElement cl "slaves" j
  let uav_id ← orDefault getU32 sl "uav_id" (UInt32.ofNat j)
  let e_i ← orDefault getBigInt sl "e_i" "65537"
  let d_i ← orDefault getBigInt sl "d_i" "0"
  let n_i ← orDefault getBigInt sl "n_i" "0"
  return { uav_id, e_i, d_i, n_i }

/-- The body of the loop over the clusters, up to the `push_back`. -/
def parseCluster (L : Node D) (i : Nat) : Result ClusterCryptoParams := do
  let cl ← arrayElement L "crypto.clusters" i
  let cluster_id ← orDefault getU32 cl "cluster_id" (UInt32.ofNat i)
  let skdc_id ← orDefault getU32 cl "skdc_id" (UInt32.ofNat i)
  let num_slaves ← orDefault getU32 cl "num_slaves" 6
  let master_key_eM ← orDefault getBigInt cl "master_key_eM" "0"
  let master_mod_M ← orDefault getBigInt cl "master_mod_M" "0"
  let tek ← orDefault getString cl "tek" (String.ofList (List.replicate 64 '0'))
  let slaves ← (List.range (arraySize cl "slaves")).mapM (parseSlave cl)
  return { cluster_id, skdc_id, num_slaves, master_key_eM, master_mod_M, tek, slaves }

/-- The loop: what was pushed before an exception stays. -/
def pushClusters (L : Node D) (m_clusters : List ClusterCryptoParams) :
    List Nat → List ClusterCryptoParams × Result Unit
  | [] => (m_clusters,.ok ())
  | i::rest =>
    match parseCluster L i with
    | .error failure => (m_clusters,.error failure)
    | .ok cp => pushClusters L (m_clusters ++ [cp]) rest

/-- The list is cleared first. -/
def clusterSetting : Setting D where
  Value := List ClusterCryptoParams
  member := .mk (·.m_clusters) ({ · with m_clusters := · })
  given L :=
    let (m_clusters,outcome) := pushClusters L [] (List.range (arraySize L "crypto.clusters"))
    (some m_clusters,outcome)

def simSettings (convert : Int → D) : List (Setting D) :=
  topologySettings ++ simulationSettings convert ++ worldSettings convert ++
    securitySettings convert ++ directorySettings ++ intervalSettings convert ++ portSettings

def cryptoSettings (L : Node D) : List (Setting D) :=
  schemeSettings ++ (if has L "crypto.kdc" then kdcSettings else []) ++ [clusterSetting]

def parseSimJson (convert : Int → D) (L : Node D) (mgr : ConfigState D) :
    ConfigState D × Result Unit :=
  Assignment.run L (simSettings convert) mgr

def parseCryptoJson (L : Node D) (mgr : ConfigState D) : ConfigState D × Result Unit :=
  Assignment.run L (cryptoSettings L) mgr

/-- What both loads do: `file` is what `FromFile` makes of the file, where there is one, and the
flag is set last. -/
def load (parse : Node D → ConfigState D → ConfigState D × Result Unit)
    (loaded : ConfigState D → ConfigState D) (complaint : String) (mgr : ConfigState D)
    (file : Option (Result (Node D))) : ConfigState D × Result Unit :=
  match file with
  | none => (loaded mgr,.ok ())
  | some contents =>
    let (after,outcome) : ConfigState D × Result Unit :=
      match contents with
      | .error failure => (mgr,.error failure)
      | .ok L => parse L mgr
    match Result.caught outcome with
    | .error failure => (after,.error failure)
    | .ok none => (after,configError complaint)
    | .ok (some _) => (loaded after,.ok ())

def loadSimConfig (convert : Int → D) : ConfigState D → Option (Result (Node D)) →
    ConfigState D × Result Unit :=
  load (parseSimJson convert) ({ · with m_sim_loaded := true }) "LoadSimConfig failed: "

def loadCryptoConfig : ConfigState D → Option (Result (Node D)) → ConfigState D × Result Unit :=
  load parseCryptoJson ({ · with m_crypto_loaded := true }) "LoadCryptoConfig failed: "

section Outcome

/-- The manager that a call returns with. -/
def settle (left : ConfigState D × Result Unit) : Result (ConfigState D) := left.2.map fun _ => left.1

def withSim (mgr : ConfigState D) (sim : ConfigManager D) : ConfigState D :=
  { mgr with toConfigManager := sim }

variable {convert : Int → D} {L : Node D} {mgr : ConfigState D}

theorem map_bind {α β γ : Type} (f : β → γ) (first : Result α) (next : α → Result β) :
    (first >>= next).map f = first >>= fun v => (next v).map f := by
  cases first with
  | error failure => rfl
  | ok v => rfl

theorem settle_append (items others : List (Setting D)) :
    settle (Assignment.run L (items ++ others) mgr) =
      settle (Assignment.run L items mgr) >>= fun mgr => settle (Assignment.run L others mgr) := by
  induction items generalizing mgr with
  | nil => rfl
  | cons setting rest ih =>
    rw [List.cons_append,Assignment.run,Assignment.run]
    cases (setting.given L).2 with
    | error failure => rfl
    | ok _ => exact ih

theorem settle_nil : settle (Assignment.run L [] mgr) = .ok mgr := rfl

theorem settle_setting {α : Type} (get : Node D → String → Result α) (dot_path : String)
    (member : Member (ConfigState D) α) (rest : List (Setting D)) :
    settle (Assignment.run L (setting get dot_path member::rest) mgr) =
      orDefault get L dot_path (member.get mgr) >>=
        fun v => settle (Assignment.run L rest (member.set mgr v)) := by
  simp only [Assignment.run,Assignment.apply,setting,read,orDefault]
  cases has L dot_path with
  | false =>
    have kept : settle (Assignment.run L rest mgr) =
        settle (Assignment.run L rest (member.set mgr (member.get mgr))) := by rw [member.set_get]
    exact kept
  | true =>
    cases get L dot_path with
    | error failure => rfl
    | ok v => rfl

theorem port_eq (dot_path : String) (def_ : UInt16) :
    orDefault (fun L dot_path => (getU32 L dot_path).map UInt32.toUInt16) L dot_path def_ =
      ConfigManager.port L dot_path def_ := by
  rw [ConfigManager.port,orDefault,orDefault]
  split
  · rw [Result.ok_bind,UInt16.toUInt16_toUInt32]
    rfl
  · cases getU32 L dot_path with
    | error failure => rfl
    | ok v => rfl

theorem topology_eq : settle (Assignment.run L topologySettings mgr) =
    (ConfigManager.parseTopology L mgr.toConfigManager).map mgr.withSim := by
  simp only [topologySettings,u32,settle_setting,settle_nil,ConfigManager.parseTopology,map_bind]
  rfl

theorem simulation_eq : settle (Assignment.run L (simulationSettings convert) mgr) =
    (ConfigManager.parseSimulation convert L mgr.toConfigManager).map mgr.withSim := by
  simp only [simulationSettings,u32,double,bool,settle_setting,settle_nil,
    ConfigManager.parseSimulation,map_bind]
  rfl

theorem world_eq : settle (Assignment.run L (worldSettings convert) mgr) =
    (ConfigManager.parseWorld convert L mgr.toConfigManager).map mgr.withSim := by
  simp only [worldSettings,double,settle_setting,settle_nil,ConfigManager.parseWorld,map_bind]
  rfl

theorem security_eq : settle (Assignment.run L (securitySettings convert) mgr) =
    (ConfigManager.parseSecurity convert L mgr.toConfigManager).map mgr.withSim := by
  simp only [securitySettings,double,u32,u64,settle_setting,settle_nil,
    ConfigManager.parseSecurity,map_bind]
  rfl

theorem output_eq :
    settle (Assignment.run L (directorySettings ++ intervalSettings convert) mgr) =
      (ConfigManager.parseOutput convert L mgr.toConfigManager).map mgr.withSim := by
  simp only [directorySettings,intervalSettings,List.cons_append,List.nil_append,double,text,
    settle_setting,settle_nil,ConfigManager.parseOutput,map_bind]
  rfl

theorem ports_eq : settle (Assignment.run L portSettings mgr) =
    (ConfigManager.parsePorts L mgr.toConfigManager).map mgr.withSim := by
  simp only [portSettings,u16,settle_setting,settle_nil,ConfigManager.parsePorts,map_bind,port_eq]
  rfl

theorem map_withSim_bind {sim : Result (ConfigManager D)}
    {next : ConfigState D → Result (ConfigState D)}
    {after : ConfigManager D → Result (ConfigManager D)}
    (same : ∀ mgr, next mgr = (after mgr.toConfigManager).map mgr.withSim) :
    sim.map mgr.withSim >>= next = (sim >>= after).map mgr.withSim := by
  cases sim with
  | error failure => rfl
  | ok sim => exact same (mgr.withSim sim)

/-- What `ParseSimJson` returns with is what its sections return with. -/
theorem parseSimJson_eq : settle (parseSimJson convert L mgr) =
    (ConfigManager.parseSimJson convert L mgr.toConfigManager).map mgr.withSim := by
  rw [parseSimJson,simSettings,List.append_assoc _ directorySettings]
  rw [settle_append,settle_append,settle_append,settle_append,settle_append]
  simp only [bind_assoc]
  rw [topology_eq]
  refine map_withSim_bind fun mgr => ?_
  rw [simulation_eq]
  refine map_withSim_bind fun mgr => ?_
  rw [world_eq]
  refine map_withSim_bind fun mgr => ?_
  rw [security_eq]
  refine map_withSim_bind fun mgr => ?_
  rw [output_eq]
  exact map_withSim_bind fun mgr => ports_eq

/-- A load returns with the manager of the load that forgets what an exception leaves. -/
theorem loadSimConfig_eq (file : Option (Result (Node D))) :
    settle (loadSimConfig convert mgr file) =
      (ConfigManager.loadSimConfig convert mgr.toConfigManager file).map mgr.withSim := by
  cases file with
  | none => rfl
  | some contents =>
    cases contents with
    | error failure => cases failure <;> rfl
    | ok L =>
      have same : settle (parseSimJson convert L mgr) =
        (ConfigManager.parseSimJson convert L mgr.toConfigManager).map mgr.withSim := parseSimJson_eq
      rw [loadSimConfig,load,ConfigManager.loadSimConfig]
      dsimp only
      rw [Result.ok_bind]
      revert same
      generalize parseSimJson convert L mgr = left
      generalize ConfigManager.parseSimJson convert L mgr.toConfigManager = parsed
      obtain ⟨after,outcome⟩ := left
      intro same
      cases outcome with
      | ok _ =>
        cases parsed with
        | ok sim =>
          obtain rfl : after = mgr.withSim sim := Except.ok.inj same
          rfl
        | error failure => cases same
      | error failure =>
        cases parsed with
        | ok sim => cases same
        | error other =>
          obtain rfl : failure = other := Except.error.inj same
          cases failure <;> rfl

end Outcome

theorem simSettings_apart (convert : Int → D) :
    (simSettings convert).Pairwise Assignment.Apart := by
  simp only [simSettings,topologySettings,simulationSettings,worldSettings,securitySettings,
    directorySettings,intervalSettings,portSettings,List.cons_append,List.nil_append]
  repeat' first
    | refine List.forall_mem_cons.mpr ⟨⟨fun _ _ => rfl,fun _ _ => rfl⟩,?_⟩
    | refine List.Pairwise.cons ?_ ?_
    | exact List.Pairwise.nil
    | exact List.forall_mem_nil _

theorem cryptoSettings_sublist (L : Node D) :
    (cryptoSettings L).Sublist (schemeSettings ++ kdcSettings ++ [clusterSetting]) := by
  rw [cryptoSettings]
  split
  · exact List.Sublist.refl _
  · rw [List.append_nil]
    exact (List.sublist_append_left _ _).append_right _

theorem cryptoSettings_apart (L : Node D) : (cryptoSettings L).Pairwise Assignment.Apart := by
  refine List.Pairwise.sublist (cryptoSettings_sublist L) ?_
  simp only [schemeSettings,kdcSettings,List.cons_append,List.nil_append]
  repeat' first
    | refine List.forall_mem_cons.mpr ⟨⟨fun _ _ => rfl,fun _ _ => rfl⟩,?_⟩
    | refine List.Pairwise.cons ?_ ?_
    | exact List.Pairwise.nil
    | exact List.forall_mem_nil _

section Failures

/-- The only exceptions are those that the loader itself throws. -/
abbrev ThrowsConfig {α : Type} (outcome : Result α) : Prop :=
  outcome.Throws fun failure => ∃ text, failure = .configException text

theorem configError_throws {α : Type} (text : String) : ThrowsConfig (configError text : Result α) :=
  .error ⟨text,rfl⟩

variable (L : Node D) (dot_path : String)

theorem navigateOrThrow_throws : ThrowsConfig (navigateOrThrow L dot_path) := by
  unfold navigateOrThrow
  split
  · exact configError_throws _
  · exact .ok _

theorem getU64_throws : ThrowsConfig (getU64 L dot_path) :=
  (navigateOrThrow_throws L dot_path).bind fun _ _ =>
    .ite ((configError_throws _).bind fun _ _ => .ok _) fun _ => .ok _

theorem getU32_throws : ThrowsConfig (getU32 L dot_path) :=
  (getU64_throws L dot_path).bind fun _ _ => .ite (configError_throws _) fun _ => .ok _

theorem getBool_throws : ThrowsConfig (getBool L dot_path) := by
  refine (navigateOrThrow_throws L dot_path).bind fun node _ => ?_
  cases node with
  | boolean value => exact .ok value
  | _ => exact configError_throws _

theorem getString_throws : ThrowsConfig (getString L dot_path) := by
  refine (navigateOrThrow_throws L dot_path).bind fun node _ => ?_
  cases node with
  | string text => exact .ok text
  | _ => exact configError_throws _

theorem getDouble_throws (convert : Int → D) : ThrowsConfig (getDouble L dot_path convert) :=
  (navigateOrThrow_throws L dot_path).bind fun _ _ => .ite (configError_throws _) fun _ => .ok _

theorem getBigInt_throws : ThrowsConfig (getBigInt L dot_path) := by
  refine (navigateOrThrow_throws L dot_path).bind fun node _ => ?_
  cases node with
  | string text => exact .ok text
  | numberInteger value => exact .ok _
  | numberUnsigned value => exact .ok _
  | _ => exact configError_throws _

theorem arrayElement_throws (index : Nat) : ThrowsConfig (arrayElement L dot_path index) := by
  refine (navigateOrThrow_throws L dot_path).bind fun node _ => ?_
  cases node with
  | array elements =>
    dsimp only
    split
    · exact configError_throws _
    · exact .ok _
  | _ => exact configError_throws _

theorem orDefault_throws {α : Type} {get : Node D → String → Result α} {def_ : α}
    (throws : ∀ L dot_path, ThrowsConfig (get L dot_path)) :
    ThrowsConfig (orDefault get L dot_path def_) :=
  .ite (.ok _) fun _ => throws L dot_path

theorem parseSlave_throws (j : Nat) : ThrowsConfig (parseSlave L j) :=
  (arrayElement_throws L _ j).bind fun sl _ =>
    (orDefault_throws sl _ getU32_throws).bind fun _ _ =>
      (orDefault_throws sl _ getBigInt_throws).bind fun _ _ =>
        (orDefault_throws sl _ getBigInt_throws).bind fun _ _ =>
          (orDefault_throws sl _ getBigInt_throws).bind fun _ _ => .ok _

theorem parseCluster_throws (i : Nat) : ThrowsConfig (parseCluster L i) :=
  (arrayElement_throws L _ i).bind fun cl _ =>
    (orDefault_throws cl _ getU32_throws).bind fun _ _ =>
      (orDefault_throws cl _ getU32_throws).bind fun _ _ =>
        (orDefault_throws cl _ getU32_throws).bind fun _ _ =>
          (orDefault_throws cl _ getBigInt_throws).bind fun _ _ =>
            (orDefault_throws cl _ getBigInt_throws).bind fun _ _ =>
              (orDefault_throws cl _ getString_throws).bind fun _ _ =>
                (Result.Throws.mapM _ (parseSlave_throws cl)).bind fun _ _ => .ok _

theorem pushClusters_throws (m_clusters : List ClusterCryptoParams) (indices : List Nat) :
    ThrowsConfig (pushClusters L m_clusters indices).2 := by
  induction indices generalizing m_clusters with
  | nil => exact .ok ()
  | cons i rest ih =>
    rw [pushClusters]
    cases parsed : parseCluster L i with
    | error failure =>
      rintro _ ⟨⟩
      exact parseCluster_throws L i failure parsed
    | ok cp => exact ih (m_clusters ++ [cp])

theorem setting_throws {α : Type} {get : Node D → String → Result α} {dot_path : String}
    {member : Member (ConfigState D) α} (throws : ∀ L dot_path, ThrowsConfig (get L dot_path)) :
    ThrowsConfig ((setting get dot_path member).given L).2 := by
  unfold setting read
  dsimp only
  split
  · exact .ok ()
  · cases got : get L dot_path with
    | error failure =>
      rintro _ ⟨⟩
      exact throws L dot_path failure got
    | ok v => exact .ok ()

theorem simSettings_throw (convert : Int → D) :
    ∀ setting ∈ simSettings convert, ThrowsConfig (setting.given L).2 := by
  have u32_throws dot_path member : ThrowsConfig ((u32 (D := D) dot_path member).given L).2 :=
    setting_throws L getU32_throws
  have u64_throws dot_path member : ThrowsConfig ((u64 (D := D) dot_path member).given L).2 :=
    setting_throws L getU64_throws
  have u16_throws dot_path member : ThrowsConfig ((u16 (D := D) dot_path member).given L).2 :=
    setting_throws L fun L dot_path => (getU32_throws L dot_path).map
  have bool_throws dot_path member : ThrowsConfig ((bool (D := D) dot_path member).given L).2 :=
    setting_throws L getBool_throws
  have text_throws dot_path member : ThrowsConfig ((text (D := D) dot_path member).given L).2 :=
    setting_throws L getString_throws
  have double_throws dot_path member : ThrowsConfig ((double convert dot_path member).given L).2 :=
    setting_throws L fun L dot_path => getDouble_throws L dot_path convert
  simp only [simSettings,topologySettings,simulationSettings,worldSettings,securitySettings,
    directorySettings,intervalSettings,portSettings,List.forall_mem_append,List.forall_mem_cons,
    u32_throws,u64_throws,u16_throws,bool_throws,text_throws,double_throws,true_and]
  simp

theorem cryptoSettings_throw : ∀ setting ∈ cryptoSettings L, ThrowsConfig (setting.given L).2 := by
  have all : ∀ setting ∈ schemeSettings ++ kdcSettings ++ [clusterSetting],
      ThrowsConfig (setting.given L).2 := by
    simp only [schemeSettings,kdcSettings,List.cons_append,List.nil_append,List.forall_mem_cons]
    exact ⟨setting_throws L getString_throws,setting_throws L getU32_throws,
      setting_throws L getString_throws,setting_throws L getU32_throws,
      setting_throws L getU32_throws,setting_throws L getU32_throws,
      pushClusters_throws L [] _,List.forall_mem_nil _⟩
  exact fun setting member => all setting ((cryptoSettings_sublist L).subset member)

end Failures

section Atomicity

/-- A `ConfigException` leaves every member as it was. -/
def Atomic (before : ConfigState D) (left : ConfigState D × Result Unit) : Prop :=
  ∀ text, left.2 = .error (.configException text) → left.1 = before

/-- Where the document has a setting that cannot be read, all that the load assigns until then is
there already. -/
def Harmless (settings : List (Setting D)) (L : Node D) (mgr : ConfigState D) : Prop :=
  (∃ setting ∈ settings, (setting.given L).2 ≠ .ok ()) →
    ∀ setting ∈ Assignment.reached L settings, setting.Keeps L mgr

variable {parse : Node D → ConfigState D → ConfigState D × Result Unit}
  {loaded : ConfigState D → ConfigState D} {complaint : String} {mgr : ConfigState D}

theorem load_document (L : Node D) (throws : ThrowsConfig (parse L mgr).2) :
    load parse loaded complaint mgr (some (.ok L)) =
      match (parse L mgr).2 with
      | .ok _ => (loaded (parse L mgr).1,.ok ())
      | .error _ => ((parse L mgr).1,configError complaint) := by
  cases outcome : (parse L mgr).2 with
  | ok _ => simp only [load,outcome,Result.caught]
  | error failure =>
    obtain ⟨text,rfl⟩ := throws failure outcome
    simp only [load,outcome,Result.caught]

theorem load_unread {file : Option (Result (Node D))} (unread : ∀ L, file ≠ some (.ok L)) :
    Atomic mgr (load parse loaded complaint mgr file) := by
  intro text threw
  cases file with
  | none => cases threw
  | some contents =>
    cases contents with
    | ok L => exact absurd rfl (unread L)
    | error failure =>
      simp only [load] at threw ⊢
      split
      · rfl
      · rfl
      · rename_i ended
        rw [ended] at threw
        cases threw

theorem load_atomic_iff {settings : Node D → List (Setting D)}
    (parses : ∀ L mgr, parse L mgr = Assignment.run L (settings L) mgr)
    (apart : ∀ L, (settings L).Pairwise Assignment.Apart)
    (throw : ∀ L, ∀ setting ∈ settings L, ThrowsConfig (setting.given L).2)
    (file : Option (Result (Node D))) :
    Atomic mgr (load parse loaded complaint mgr file) ↔
      ∀ L, file = some (.ok L) → Harmless (settings L) L mgr := by
  by_cases document : ∃ L, file = some (.ok L)
  · obtain ⟨L,rfl⟩ := document
    have ended : (parse L mgr).2 = Assignment.ends L (settings L) := by
      rw [parses,Assignment.run_eq]
    have throws : ThrowsConfig (parse L mgr).2 := by
      rw [ended]
      intro failure threw
      obtain ⟨setting,member,thrower⟩ := Assignment.ends_error threw
      exact throw L setting member failure thrower
    rw [load_document L throws]
    cases outcome : (parse L mgr).2 with
    | ok _ =>
      rw [ended,Assignment.ends_ok_iff] at outcome
      refine iff_of_true (fun text impossible => nomatch impossible) ?_
      rintro _ ⟨⟩ ⟨setting,member,thrower⟩
      exact absurd (outcome setting member) thrower
    | error failure =>
      have thrower : ∃ setting ∈ settings L, (setting.given L).2 ≠ .ok () := by
        rw [ended] at outcome
        obtain ⟨setting,member,threw⟩ := Assignment.ends_error outcome
        exact ⟨setting,member,by simp [threw]⟩
      have unchanged := @Assignment.run_unchanged_iff _ _ _ L mgr _ (apart L)
      constructor
      · rintro atomic _ ⟨⟩ -
        refine unchanged.mp ?_
        rw [← parses]
        exact atomic complaint rfl
      · intro harmless text _
        refine Eq.trans ?_ (unchanged.mpr (harmless L rfl thrower))
        rw [parses]
  · have unread : ∀ L, file ≠ some (.ok L) := fun L same => document ⟨L,same⟩
    exact iff_of_true (load_unread unread) fun L same => absurd same (unread L)

end Atomicity

/-- A load that throws a `ConfigException` leaves the manager alone unless, before or at the first
setting that it cannot read, the document has something else for a member than what is there. For
the clusters that is any list other than that of the entries before the one that cannot be read. -/
theorem loads_atomic_iff (convert : Int → D) (mgr : ConfigState D)
    (file : Option (Result (Node D))) :
    (Atomic mgr (loadSimConfig convert mgr file) ↔
      ∀ L, file = some (.ok L) → Harmless (simSettings convert) L mgr) ∧
    (Atomic mgr (loadCryptoConfig mgr file) ↔
      ∀ L, file = some (.ok L) → Harmless (cryptoSettings L) L mgr) := by
  refine ⟨load_atomic_iff (fun _ _ => rfl) (fun _ => simSettings_apart convert) ?_ file,
    load_atomic_iff (fun _ _ => rfl) cryptoSettings_apart cryptoSettings_throw file⟩
  exact fun L => simSettings_throw L convert

/-- As constructed, with nothing for the `double`s. -/
def plainState : ConfigState Unit := { ConfigManager.plainManager with }

/-- Two keys of the topology, the second no integer. -/
def badTopology : Node Unit :=
  .object [("topology",.object [("num_kdc",.numberUnsigned 2),("num_skdcs",.string "three")])]

/-- A list of clusters whose first entry has a word for its id. -/
def badClusters : Node Unit :=
  .object [("crypto",.object [("clusters",.array [.object [("cluster_id",.string "zero")]])])]

theorem bad_files_change_settings :
    (loadSimConfig (fun _ => ()) plainState (some (.ok badTopology))).2 =
      .error (.configException "LoadSimConfig failed: ") ∧
    plainState.m_num_kdc = 1 ∧
    (loadSimConfig (fun _ => ()) plainState (some (.ok badTopology))).1.m_num_kdc = 2 ∧
    (loadCryptoConfig { plainState with m_clusters := [{}] } (some (.ok badClusters))).2 =
      .error (.configException "LoadCryptoConfig failed: ") ∧
    (loadCryptoConfig { plainState with m_clusters := [{}] } (some (.ok badClusters))).1.m_clusters =
      [] ∧
    ¬ Atomic plainState (loadSimConfig (fun _ => ()) plainState (some (.ok badTopology))) := by
  refine ⟨by decide +kernel,rfl,by decide +kernel,by decide +kernel,by decide +kernel,?_⟩
  intro atomic
  have same := congrArg (·.m_num_kdc) (atomic "LoadSimConfig failed: " (by decide +kernel))
  revert same
  decide +kernel

end ConfigState
end UavFanet
