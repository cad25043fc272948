import UavFanet.BigInt
import UavFanet.ConfigReset
import UavFanet.CryptoParamsLoader

/-! The three validations of node counts, and when what they accept adds up over the integers. -/
namespace UavFanet
open Result

namespace ConfigState

variable {D : Type} [LE D] [LT D] [Zero D] [DecidableLE D] [DecidableLT D] (mgr : ConfigState D)

/-- `if (condition) errors.push_back(text)`. -/
def complaint (condition : Prop) [Decidable condition] (text : String) : List String :=
  if condition then [text] else []

def errors : List String :=
  complaint (mgr.m_num_uavs = 0) "num_uavs must be > 0" ++
  complaint (mgr.m_num_clusters = 0) "num_clusters must be > 0" ++
  complaint (mgr.m_uavs_per_cluster = 0) "uavs_per_cluster must be > 0" ++
  complaint (mgr.m_num_uavs ≠ mgr.m_num_clusters*mgr.m_uavs_per_cluster)
    ("num_uavs (" ++ toString mgr.m_num_uavs ++ ") != num_clusters * uavs_per_cluster (" ++
      toString mgr.m_num_clusters ++ " * " ++ toString mgr.m_uavs_per_cluster ++ ")") ++
  complaint (mgr.m_num_skdcs ≠ mgr.m_num_clusters)
    ("num_skdcs (" ++ toString mgr.m_num_skdcs ++ ") must equal num_clusters (" ++
      toString mgr.m_num_clusters ++ ")") ++
  complaint (mgr.m_sim_duration ≤ 0) "sim_duration must be > 0" ++
  complaint (mgr.m_rng_seed = 0) "rng_seed must be > 0" ++
  complaint (mgr.m_area_x_max ≤ mgr.m_area_x_min ∨ mgr.m_area_y_max ≤ mgr.m_area_y_min ∨
      mgr.m_area_z_max ≤ mgr.m_area_z_min)
    "area max must be > area min on all axes" ++
  complaint (mgr.m_sinr_threshold_db < 0) "sinr_threshold_db must be >= 0" ++
  complaint (mgr.m_crypto_aes_bits ≠ 128 ∧ mgr.m_crypto_aes_bits ≠ 256)
    "crypto.aes_bits must be 128 or 256"

def validateOrThrow : Result Unit :=
  throwIf (mgr.errors ≠ []) (.configException ("ConfigManager validation failed (" ++
    toString mgr.errors.length ++ " error(s)):\n" ++
    String.join (mgr.errors.map fun e => "  - " ++ e ++ "\n")))

theorem complaint_nil {condition : Prop} [Decidable condition] {text : String} :
    complaint condition text = [] ↔ ¬ condition := by
  unfold complaint
  split
  · simp [*]
  · simp [*]

theorem validated_product {mgr : ConfigState D} (accepted : mgr.validateOrThrow = .ok ()) :
    mgr.m_num_uavs = mgr.m_num_clusters*mgr.m_uavs_per_cluster := by
  have quiet := not_not.mp (throwIf_ok.mp accepted)
  simp only [errors,List.append_eq_nil_iff,complaint_nil] at quiet
  obtain ⟨⟨⟨⟨⟨⟨⟨-,product⟩,-⟩,-⟩,-⟩,-⟩,-⟩,-⟩ := quiet
  exact not_not.mp product

end ConfigState

/-- Short-circuit evaluation of a check over a list. -/
def allValid {α : Type} (check : α → Result Bool) : List α → Result Bool
  | [] => .ok true
  | item::rest => do
    if !(← check item) then return false
    allValid check rest

def SlaveKeyEntry.validate (sk : SlaveKeyEntry) : Result Bool :=
  if sk.xy_i ≠ sk.x_i*sk.y_i then .ok false
  else if sk.n_i ≤ 0 then .ok false
  else (BigInt.mod sk.e_i 4).map (· == 1)

def ClusterCryptoEntry.validate (c : ClusterCryptoEntry) : Result Bool :=
  if c.slave_keys.isEmpty then .ok false
  else if c.slave_keys.length ≠ c.num_uavs.toNat then .ok false
  else if c.eM ≤ 0 then .ok false
  else if c.MT_K ≤ 0 then .ok false
  else allValid SlaveKeyEntry.validate c.slave_keys

def CryptoParamsFile.validate (params : CryptoParamsFile) : Result Bool :=
  if params.clusters.isEmpty then .ok false
  else if params.clusters.length ≠ params.num_clusters.toNat then .ok false
  else if params.total_uavs ≠ params.num_clusters*params.uavs_per_cluster then .ok false
  else allValid ClusterCryptoEntry.validate params.clusters

namespace ConfigCounts

theorem allValid_true {α : Type} {check : α → Result Bool} {items : List α} :
    allValid check items = .ok true ↔ ∀ item ∈ items, check item = .ok true := by
  induction items with
  | nil => simp [allValid]
  | cons item rest ih =>
    rw [allValid,List.forall_mem_cons,← ih]
    cases check item with
    | error failure => simp
    | ok valid =>
      cases valid with
      | false => exact iff_of_false (fun same => nomatch same) (fun same => nomatch same.1)
      | true => simp

/-- A test that returns `false` where it holds. -/
theorem passed {refused : Prop} [Decidable refused] {others : Result Bool}
    (valid : (if refused then .ok false else others) = .ok true) :
    ¬ refused ∧ others = .ok true := by
  split at valid
  · cases valid
  · exact ⟨‹_›,valid⟩

theorem cluster_counted {c : ClusterCryptoEntry} (valid : c.validate = .ok true) :
    c.slave_keys.length = c.num_uavs.toNat := by
  obtain ⟨-,valid⟩ := passed valid
  exact not_not.mp (passed valid).1

/-- What the law asks of the numbers of a file, and of what the file holds. -/
structure Counted (params : CryptoParamsFile) : Prop where
  total : params.total_uavs.toNat = params.num_clusters.toNat*params.uavs_per_cluster.toNat
  clusters : params.clusters.length = params.num_clusters.toNat
  each : ∀ c ∈ params.clusters, c.slave_keys.length = params.uavs_per_cluster.toNat
  slaves : (params.clusters.map (·.slave_keys.length)).sum = params.total_uavs.toNat

theorem product_iff {total clusters each : UInt32} (product : total = clusters*each) :
    total.toNat = clusters.toNat*each.toNat ↔ clusters.toNat*each.toNat < 2^32 := by
  have below := total.toNat_lt
  rw [product,UInt32.toNat_mul] at *
  constructor
  · intro exact_
    omega
  · exact Nat.mod_eq_of_lt

/-- Where the lists have the lengths that are written beside them, the law is about the numbers. -/
theorem counted_iff {params : CryptoParamsFile}
    (clusters : params.clusters.length = params.num_clusters.toNat)
    (slaves : ∀ c ∈ params.clusters, c.slave_keys.length = c.num_uavs.toNat) :
    Counted params ↔
      params.total_uavs.toNat = params.num_clusters.toNat*params.uavs_per_cluster.toNat ∧
        ∀ c ∈ params.clusters, c.num_uavs = params.uavs_per_cluster := by
  constructor
  · intro counted
    refine ⟨counted.total,fun c member => UInt32.toNat_inj.mp ?_⟩
    exact (slaves c member).symm.trans (counted.each c member)
  · rintro ⟨total,same⟩
    have each : ∀ c ∈ params.clusters, c.slave_keys.length = params.uavs_per_cluster.toNat :=
      fun c member => same c member ▸ slaves c member
    refine ⟨total,clusters,each,?_⟩
    rw [List.map_congr_left each,List.map_const',List.sum_replicate,clusters,total]
    rfl

/-- What the validations accept adds up as long as the product does not wrap and, in a parameter
file, every cluster has the number of UAVs of the file. The loader does not look at the total. -/
theorem accepted_counts_iff (D : Type) [LE D] [LT D] [Zero D] [DecidableLE D] [DecidableLT D] :
    (∀ mgr : ConfigState D, mgr.validateOrThrow = .ok () →
      (mgr.m_num_uavs.toNat = mgr.m_num_clusters.toNat*mgr.m_uavs_per_cluster.toNat ↔
        mgr.m_num_clusters.toNat*mgr.m_uavs_per_cluster.toNat < 2^32)) ∧
    (∀ params : CryptoParamsFile, params.validate = .ok true →
      (Counted params ↔ params.num_clusters.toNat*params.uavs_per_cluster.toNat < 2^32 ∧
        ∀ c ∈ params.clusters, c.num_uavs = params.uavs_per_cluster)) ∧
    (∀ params : CryptoParamsFile, CryptoParamsLoader.validateOrThrow params = .ok () →
      (Counted params ↔
        params.total_uavs.toNat = params.num_clusters.toNat*params.uavs_per_cluster.toNat ∧
        ∀ c ∈ params.clusters, c.num_uavs = params.uavs_per_cluster)) := by
  refine ⟨fun mgr accepted => product_iff (ConfigState.validated_product accepted),?_,?_⟩
  · intro params valid
    obtain ⟨-,valid⟩ := passed valid
    obtain ⟨clusters,valid⟩ := passed valid
    obtain ⟨product,valid⟩ := passed valid
    have slaves := fun c member => cluster_counted (allValid_true.mp valid c member)
    rw [counted_iff (not_not.mp clusters) slaves,product_iff (not_not.mp product)]
  · intro params accepted
    have checked := CryptoParamsLoader.validateOrThrow_ok.mp accepted
    exact counted_iff checked.counted fun c member => (checked.each c member).counted

/-- One cluster of one UAV, with the keys that a validation looks at. -/
def smallCluster : ClusterCryptoEntry where
  cluster_id := 0
  skdc_id := 1
  num_uavs := 1
  eM := 13
  n_total := 15
  N_global := 77
  N_group := 77
  tek := Vector.replicate 32 0
  tek_int := 2
  MT_K := 90
  e_MK := 13
  user_indices := [0]
  slave_keys := [
    { uav_index := 0, uav_id := 0, e_i := 13, d_i := 37, n_i := 77, x_i := 3, y_i := 5,
      Mi := 1, Ni := 1, xy_i := 15, p_i := 7, q_i := 11 }]
  tek_hex := String.ofList (List.replicate 64 '0')

def smallFile (num_clusters uavs_per_cluster total_uavs : UInt32) : CryptoParamsFile where
  num_clusters
  uavs_per_cluster
  total_uavs
  clusters := List.replicate num_clusters.toNat smallCluster
  scheme := "MKE-MGKM"

theorem small_counts_add_up :
    ((ConfigState.fresh ConfigState.wholeConstants).m_num_uavs.toNat = 18) ∧
    Counted (smallFile 2 1 2) ∧ Counted (smallFile 3 1 3) := by
  have sane := ((accepted_counts_iff Int).1 (ConfigState.fresh ConfigState.wholeConstants)
    (by decide +kernel)).mpr (by decide)
  refine ⟨sane,?_,?_⟩
  · exact ((accepted_counts_iff Int).2.1 (smallFile 2 1 2) (by decide +kernel)).mpr
      ⟨by decide,by decide +kernel⟩
  · exact ((accepted_counts_iff Int).2.2 (smallFile 3 1 3) (by decide +kernel)).mpr
      ⟨by decide,by decide +kernel⟩

/-- Three clusters of 1431655766 UAVs are two more than `2^32`. -/
def wrappedTopology : ConfigState Int :=
  { ConfigState.fresh ConfigState.wholeConstants with
    m_num_uavs := 2
    m_uavs_per_cluster := 1431655766 }

theorem wrapped_counts_accepted :
    wrappedTopology.validateOrThrow = .ok () ∧
    wrappedTopology.m_num_uavs.toNat ≠
      wrappedTopology.m_num_clusters.toNat*wrappedTopology.m_uavs_per_cluster.toNat ∧
    (smallFile 2 2147483648 0).validate = .ok true ∧ ¬ Counted (smallFile 2 2147483648 0) ∧
    CryptoParamsLoader.validateOrThrow (smallFile 2 1 18) = .ok () ∧
    ¬ Counted (smallFile 2 1 18) := by
  refine ⟨by decide +kernel,by decide +kernel,by decide +kernel,?_,by decide +kernel,?_⟩
  · exact fun counted => absurd counted.total (by decide +kernel)
  · exact fun counted => absurd counted.total (by decide +kernel)

end ConfigCounts
end UavFanet
