import UavFanet.ConfigLoading

/-! `ApplyCliOverrides` and `Reset`: which settings of earlier loads a reset leaves in the
manager. -/
namespace UavFanet
open JsonLoader Library

namespace ConfigState

variable {D : Type}

/-- The constants of type `double` that members start with. -/
structure Constants (D : Type) where
  DEFAULT_SIM_DURATION_S : D
  AREA_X_MIN : D
  AREA_X_MAX : D
  AREA_Y_MIN : D
  AREA_Y_MAX : D
  AREA_Z_MIN : D
  AREA_Z_MAX : D
  UAV_SPEED_MIN : D
  UAV_SPEED_MAX : D
  UAV_ALT_MIN : D
  UAV_ALT_MAX : D
  JAMMER_SPEED : D
  WIFI_FREQ_HZ : D
  WIFI_CHANNEL_WIDTH_MHZ : D
  WIFI_TX_POWER_DBM : D
  WIFI_PHY_RATE_MBPS : D
  JAMMER_TX_POWER : D
  SINR_FAILURE_DB : D
  OLSR_HELLO_INTERVAL : D
  OLSR_TC_INTERVAL : D
  NODE_COMPROMISE_PROB : D
  CSV_EXPORT_INTERVAL_S : D
  NETANIM_UPDATE_INTERVAL_MS : D

/-- A manager as constructed: the member initialisers of the header. -/
def fresh (constants : Constants D) : ConfigState D where
  m_sim_duration := constants.DEFAULT_SIM_DURATION_S
  m_area_x_min := constants.AREA_X_MIN
  m_area_x_max := constants.AREA_X_MAX
  m_area_y_min := constants.AREA_Y_MIN
  m_area_y_max := constants.AREA_Y_MAX
  m_area_z_min := constants.AREA_Z_MIN
  m_area_z_max := constants.AREA_Z_MAX
  m_uav_speed_min := constants.UAV_SPEED_MIN
  m_uav_speed_max := constants.UAV_SPEED_MAX
  m_uav_alt_min := constants.UAV_ALT_MIN
  m_uav_alt_max := constants.UAV_ALT_MAX
  m_jammer_speed := constants.JAMMER_SPEED
  m_freq_hz := constants.WIFI_FREQ_HZ
  m_channel_width_mhz := constants.WIFI_CHANNEL_WIDTH_MHZ
  m_tx_power_dbm := constants.WIFI_TX_POWER_DBM
  m_phy_rate_mbps := constants.WIFI_PHY_RATE_MBPS
  m_jammer_power_dbm := constants.JAMMER_TX_POWER
  m_sinr_threshold_db := constants.SINR_FAILURE_DB
  m_olsr_hello_interval := constants.OLSR_HELLO_INTERVAL
  m_olsr_tc_interval := constants.OLSR_TC_INTERVAL
  m_node_compromise_prob := constants.NODE_COMPROMISE_PROB
  m_csv_interval_s := constants.CSV_EXPORT_INTERVAL_S
  m_netanim_interval_ms := constants.NETANIM_UPDATE_INTERVAL_MS

def reset (constants : Constants D) (mgr : ConfigState D) : ConfigState D :=
  { mgr with
    m_sim_loaded := false
    m_crypto_loaded := false
    m_clusters := []
    m_num_kdc := 1
    m_num_skdcs := 3
    m_num_clusters := 3
    m_uavs_per_cluster := 6
    m_num_uavs := 18
    m_num_jammers := 1
    m_max_uav_count := 30
    m_sim_duration := constants.DEFAULT_SIM_DURATION_S
    m_rng_seed := 10
    m_run_index := 1
    m_num_runs := 10
    m_debug := false
    m_enable_netanim := true
    m_enable_pcap := true
    m_enable_flowmonitor := true
    m_log_dir := "logs"
    m_output_dir := "output"
    m_pcap_dir := "pcap"
    m_json_dir := "json"
    m_graphs_dir := "graphs"
    m_crypto_scheme := "CRT-GCRT"
    m_crypto_aes_bits := 256
    m_crypto_hmac := "SHA256"
    m_key_version := 1
    m_num_safe_primes := 18
    m_prime_bits := 512
    m_kdc_udp_port := 9000
    m_skdc_udp_port := 9001
    m_uav_data_udp_port := 9100
    m_mtk_multicast_port := 9200 }

section Overrides

def isSpace (c : Char) : Bool := c = ' ' || 9 ≤ c.toNat && c.toNat ≤ 13

/-- `std::stoul` in base 10: blanks, a sign, and digits up to the first other character. A negative
number is taken modulo `2^64`. -/
def stoul (val : String) : Result UInt64 :=
  let (negative,rest) :=
    match val.toList.dropWhile isSpace with
    | '-'::rest => (true,rest)
    | '+'::rest => (false,rest)
    | rest => (false,rest)
  let digits := rest.takeWhile Char.isDigit
  let n := digits.foldl (fun n c => 10*n+(c.toNat-48)) 0
  if digits.isEmpty || 2^64 ≤ n then .error (.standardException "stoul")
  else .ok (if negative then -UInt64.ofNat n else UInt64.ofNat n)

example : stoul " -1x" = .ok 18446744073709551615 := by decide +kernel

variable (stod : String → Result D) (mgr : ConfigState D)

/-- The chain of comparisons. An unknown key is only logged. -/
def override (key val : String) : Result (ConfigState D) :=
  match key with
  | "simDuration" => do return { mgr with m_sim_duration := ← stod val }
  | "RngSeed" => do return { mgr with m_rng_seed := (← stoul val).toUInt32 }
  | "runIndex" => do return { mgr with m_run_index := (← stoul val).toUInt32 }
  | "logDir" => return { mgr with m_log_dir := val }
  | "outputDir" => return { mgr with m_output_dir := val }
  | "pcapDir" => return { mgr with m_pcap_dir := val }
  | "jsonDir" => return { mgr with m_json_dir := val }
  | "numUavs" => do return { mgr with m_num_uavs := (← stoul val).toUInt32 }
  | "debug" => return { mgr with m_debug := val == "true" || val == "1" }
  | _ => return mgr

/-- The body of the loop. An exception is only logged. -/
def applyOverride (arg : String) : ConfigState D :=
  match arg.toList with
  | '-' :: '-' :: first :: rest =>
    let body := first::rest
    let key := String.ofList (body.takeWhile (· != '='))
    match body.dropWhile (· != '=') with
    | [] => if key = "debug" then { mgr with m_debug := true } else mgr
    | _::val =>
      match override stod mgr key (String.ofList val) with
      | .ok after => after
      | .error _ => mgr
  | _ => mgr

/-- `args` are those after the name of the program. -/
def applyCliOverrides (args : List String) : ConfigState D := args.foldl (applyOverride stod) mgr

end Overrides

/-- The settings that `Reset` does not mention. -/
def leftOut (convert : Int → D) : List (Setting D) :=
  worldSettings convert ++ securitySettings convert ++ intervalSettings convert

inductive Call (D : Type) where
  | loadSimConfig (file : Option (Result (Node D)))
  | loadCryptoConfig (file : Option (Result (Node D)))
  | applyCliOverrides (args : List String)

def perform (convert : Int → D) (stod : String → Result D) (mgr : ConfigState D) :
    Call D → ConfigState D
  | .loadSimConfig file => (mgr.loadSimConfig convert file).1
  | .loadCryptoConfig file => (mgr.loadCryptoConfig file).1
  | .applyCliOverrides args => mgr.applyCliOverrides stod args

/-- The call loads a document that it reads as far as the setting, and that has a value for it. -/
def Gives (convert : Int → D) (setting : Setting D) (call : Call D) (v : setting.Value) : Prop :=
  ∃ L, call = .loadSimConfig (some (.ok L)) ∧
    setting ∈ Assignment.reached L (simSettings convert) ∧ (setting.given L).1 = some v

section Reset

variable {constants : Constants D} {convert : Int → D} {stod : String → Result D}
  {mgr after : ConfigState D} {setting : Setting D}

theorem get_reset (member : setting ∈ leftOut convert) :
    setting.member.get (mgr.reset constants) = setting.member.get mgr := by
  revert setting
  simp only [leftOut,worldSettings,securitySettings,intervalSettings,List.cons_append,
    List.nil_append,List.forall_mem_cons]
  refine ⟨rfl,rfl,rfl,rfl,rfl,rfl,rfl,rfl,rfl,rfl,rfl,rfl,rfl,rfl,rfl,rfl,rfl,rfl,rfl,rfl,rfl,rfl,
    rfl,rfl,List.forall_mem_nil _⟩

/-- What `Reset` would make the same of two managers is in what it does not mention. -/
theorem get_same (same : after.reset constants = mgr.reset constants)
    (member : setting ∈ leftOut convert) :
    setting.member.get after = setting.member.get mgr :=
  calc setting.member.get after
    _ = setting.member.get (after.reset constants) := (get_reset member).symm
    _ = setting.member.get (mgr.reset constants) := by rw [same]
    _ = setting.member.get mgr := get_reset member

theorem reset_eq_fresh_iff (constants : Constants D) (convert : Int → D) (mgr : ConfigState D) :
    mgr.reset constants = fresh constants ↔
      ∀ setting ∈ leftOut convert,
        setting.member.get mgr = setting.member.get (fresh constants) := by
  have settled : (fresh constants).reset constants = fresh constants := rfl
  constructor
  · intro same setting member
    have reset_same : mgr.reset constants = (fresh constants).reset constants :=
      same.trans settled.symm
    exact get_same reset_same member
  · simp only [leftOut,worldSettings,securitySettings,intervalSettings,List.cons_append,
      List.nil_append,List.forall_mem_cons,double,u32,u64,setting]
    rintro ⟨x_min,x_max,y_min,y_max,z_min,z_max,speed_min,speed_max,alt_min,alt_max,jammer,freq,width,
      power,rate,jammer_power,sinr,hello,tc,compromise,window,skew,csv,netanim,-⟩
    rw [reset,x_min,x_max,y_min,y_max,z_min,z_max,speed_min,speed_max,alt_min,alt_max,jammer,freq,
      width,power,rate,jammer_power,sinr,hello,tc,compromise,window,skew,csv,netanim]
    rfl

theorem reset_override {key val : String} (taken : mgr.override stod key val = .ok after) :
    after.reset constants = mgr.reset constants := by
  unfold override at taken
  split at taken
  · obtain ⟨v,-,⟨⟩⟩ := Result.bind_ok.mp taken
    rfl
  · obtain ⟨v,-,⟨⟩⟩ := Result.bind_ok.mp taken
    rfl
  · obtain ⟨v,-,⟨⟩⟩ := Result.bind_ok.mp taken
    rfl
  · cases taken
    rfl
  · cases taken
    rfl
  · cases taken
    rfl
  · cases taken
    rfl
  · obtain ⟨v,-,⟨⟩⟩ := Result.bind_ok.mp taken
    rfl
  · cases taken
    rfl
  · cases taken
    rfl

theorem reset_applyOverride (arg : String) :
    (mgr.applyOverride stod arg).reset constants = mgr.reset constants := by
  unfold applyOverride
  split
  · dsimp only
    split
    · split
      · rfl
      · rfl
    · split
      · rename_i taken
        exact reset_override taken
      · rfl
  · rfl

theorem reset_applyCliOverrides (args : List String) :
    (mgr.applyCliOverrides stod args).reset constants = mgr.reset constants := by
  induction args generalizing mgr with
  | nil => rfl
  | cons arg rest ih => exact ih.trans (reset_applyOverride arg)

/-- The flag apart, a load leaves what its parser leaves. -/
theorem reset_load {parse : Node D → ConfigState D → ConfigState D × Result Unit}
    {loaded : ConfigState D → ConfigState D} {complaint : String}
    (flag : ∀ mgr, (loaded mgr).reset constants = mgr.reset constants) (L : Node D) :
    (load parse loaded complaint mgr (some (.ok L))).1.reset constants =
      (parse L mgr).1.reset constants := by
  simp only [load]
  split
  · rfl
  · rfl
  · exact flag _

theorem reset_load_unread {parse : Node D → ConfigState D → ConfigState D × Result Unit}
    {loaded : ConfigState D → ConfigState D} {complaint : String}
    (flag : ∀ mgr, (loaded mgr).reset constants = mgr.reset constants)
    {file : Option (Result (Node D))} (unread : ∀ L, file ≠ some (.ok L)) :
    (load parse loaded complaint mgr file).1.reset constants = mgr.reset constants := by
  cases file with
  | none => exact flag mgr
  | some contents =>
    cases contents with
    | ok L => exact absurd rfl (unread L)
    | error failure => cases failure <;> rfl

theorem reset_loadSimConfig (L : Node D) :
    (mgr.loadSimConfig convert (some (.ok L))).1.reset constants =
      (parseSimJson convert L mgr).1.reset constants := by
  refine reset_load ?_ L
  exact fun mgr => rfl

theorem reset_parseCryptoJson (L : Node D) :
    (parseCryptoJson L mgr).1.reset constants = mgr.reset constants := by
  have all : ∀ setting ∈ schemeSettings ++ kdcSettings ++ [clusterSetting],
      ∀ (mgr : ConfigState D) v,
        (setting.member.set mgr v).reset constants = mgr.reset constants := by
    simp only [schemeSettings,kdcSettings,List.cons_append,List.nil_append,List.forall_mem_cons]
    exact ⟨fun _ _ => rfl,fun _ _ => rfl,fun _ _ => rfl,fun _ _ => rfl,fun _ _ => rfl,
      fun _ _ => rfl,fun _ _ => rfl,List.forall_mem_nil _⟩
  rw [parseCryptoJson,Assignment.run_eq]
  exact Assignment.applyAll_invariant fun setting member mgr v =>
    all setting ((Assignment.reached_sublist.trans (cryptoSettings_sublist L)).subset member) mgr v

theorem reset_loadCryptoConfig (file : Option (Result (Node D))) :
    (mgr.loadCryptoConfig file).1.reset constants = mgr.reset constants := by
  have flag (mgr : ConfigState D) :
      ConfigState.reset constants { mgr with m_crypto_loaded := true } = mgr.reset constants := rfl
  by_cases document : ∃ L, file = some (.ok L)
  · obtain ⟨L,rfl⟩ := document
    exact (reset_load flag L).trans (reset_parseCryptoJson L)
  · exact reset_load_unread flag fun L same => document ⟨L,same⟩

theorem leftOut_loaded (member : setting ∈ leftOut convert) : setting ∈ simSettings convert := by
  simp only [leftOut,simSettings,List.mem_append] at member ⊢
  tauto

/-- Of the calls only a load of a simulation file reaches a setting that `Reset` does not mention. -/
theorem perform_writes (constants : Constants D) (member : setting ∈ leftOut convert) :
    Writes setting.member.get (perform convert stod) (Gives convert setting) := by
  intro mgr call
  have kept {after : ConfigState D} (same : after.reset constants = mgr.reset constants) :
      setting.member.get after = setting.member.get mgr := get_same same member
  cases call with
  | loadSimConfig file =>
    by_cases document : ∃ L, file = some (.ok L)
    · obtain ⟨L,rfl⟩ := document
      have left : setting.member.get (perform convert stod mgr (.loadSimConfig (some (.ok L)))) =
          setting.member.get (Assignment.run L (simSettings convert) mgr).1 :=
        @get_same _ constants _ _ _ _ (reset_loadSimConfig L) member
      have apart := simSettings_apart convert
      by_cases came : setting ∈ Assignment.reached L (simSettings convert)
      · rw [Assignment.get_run_reached apart came] at left
        cases assigned : (setting.given L).1 with
        | none =>
          rw [assigned] at left
          refine .inr ⟨?_,left⟩
          rintro v ⟨_,⟨⟩,-,given⟩
          cases assigned.symm.trans given
        | some v =>
          rw [assigned] at left
          refine .inl ⟨⟨v,L,rfl,came,assigned⟩,?_⟩
          rintro w ⟨_,⟨⟩,-,given⟩
          exact left.trans (Option.some.inj (assigned.symm.trans given))
      · rw [Assignment.get_run_unreached apart (leftOut_loaded member) came] at left
        refine .inr ⟨?_,left⟩
        rintro v ⟨_,⟨⟩,reached,-⟩
        exact came reached
    · have unread : ∀ L, file ≠ some (.ok L) := fun L same => document ⟨L,same⟩
      refine .inr ⟨?_,kept ?_⟩
      · rintro v ⟨L,⟨⟩,-⟩
        exact unread L rfl
      · refine reset_load_unread ?_ unread
        exact fun mgr => rfl
  | loadCryptoConfig file =>
    refine .inr ⟨?_,kept (reset_loadCryptoConfig file)⟩
    rintro v ⟨L,⟨⟩,-⟩
  | applyCliOverrides args =>
    refine .inr ⟨?_,kept (reset_applyCliOverrides args)⟩
    rintro v ⟨L,⟨⟩,-⟩

end Reset

/-- After any history of loads and overrides, a reset gives a manager as constructed if and only if
each setting that it does not mention has its default in the last document that gives it. -/
theorem reset_forgets_iff (constants : Constants D) (convert : Int → D)
    (stod : String → Result D) (history : List (Call D)) :
    (history.foldl (perform convert stod) (fresh constants)).reset constants = fresh constants ↔
      ∀ setting ∈ leftOut convert, ∀ earlier call later v, history = earlier ++ call::later →
        Gives convert setting call v → (∀ other ∈ later, ∀ w, ¬ Gives convert setting other w) →
        v = setting.member.get (fresh constants) := by
  rw [reset_eq_fresh_iff constants convert]
  exact forall₂_congr fun setting member =>
    (perform_writes constants member).unchanged_iff history (fresh constants)

/-- The constants as integers, with none for the probability of 0.05. -/
def wholeConstants : Constants Int :=
  ⟨180,0,1500,0,1500,50,200,10,25,50,150,10,5000000000,20,20,26,30,8,2,5,0,1,100⟩

/-- A file with a replay window and nothing else. -/
def windowFile : Node Int :=
  .object [("security",.object [("replay_window_size",.numberUnsigned 128)])]

theorem reset_keeps_window :
    (reset wholeConstants
      ([Call.loadSimConfig (some (.ok windowFile))].foldl (perform id fun _ => .ok 0)
        (fresh wholeConstants))).m_replay_window_size = 128 ∧
    (fresh wholeConstants).m_replay_window_size = 64 ∧
    reset wholeConstants
      ([Call.loadSimConfig (some (.ok windowFile))].foldl (perform id fun _ => .ok 0)
        (fresh wholeConstants)) ≠ fresh wholeConstants := by
  have kept : (reset wholeConstants
      ([Call.loadSimConfig (some (.ok windowFile))].foldl (perform id fun _ => .ok 0)
        (fresh wholeConstants))).m_replay_window_size = 128 := by decide +kernel
  refine ⟨kept,rfl,fun same => ?_⟩
  rw [same] at kept
  exact absurd kept (by decide)

end ConfigState
end UavFanet
