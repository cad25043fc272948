import UavFanet.GeneratedKeys
import UavFanet.NumberTexts

/-! Whether the generator of parameter files, their verifier and the loader agree. -/
namespace UavFanet
open Library CryptoParamsLoader GenCrypto MkeMgkm

/-- A cluster of a file and the record it is loaded to: the secret that the verifier checks, the
loaded integer and the loaded key are one number. -/
structure SameSecret (cluster : Json) (entry : ClusterCryptoEntry) : Prop where
  checked : VerifyCrypto.integer "T" cluster = .ok entry.tek_int
  hex : (BigEndian.decode entry.tek.toList : Int) = entry.tek_int

/-- The verifier and the loader accept the file, with one secret for each cluster. -/
structure Agreement (file : Json) : Prop where
  verified : VerifyCrypto.verifyFile file = .ok true
  loaded : ∃ params, loadFromString file = .ok params
  secrets : ∀ clusters params, file.atKey "clusters" = .ok (.array clusters) →
    loadFromString file = .ok params → List.Forall₂ SameSecret clusters params.clusters

variable {args : Args}

/-- The dictionary of a cluster has no key `T`. -/
theorem verifyCluster_refuses (generated : Generated) (c : Nat) :
    VerifyCrypto.verifyCluster (clusterJson args generated c) =
      .error (.scriptException "KeyError" "T") := by
  have MT_K : VerifyCrypto.integer "MT_K" (clusterJson args generated c) =
      .ok generated.mtoken.MT_K := int_str _
  have T : VerifyCrypto.integer "T" (clusterJson args generated c) =
      .error (.scriptException "KeyError" "T") := by
    simp [VerifyCrypto.integer,VerifyCrypto.subscript,clusterJson,Json.field]
  rw [VerifyCrypto.verifyCluster,MT_K,T]
  rfl

theorem verifyFile_refuses {clusters : List Generated} (some_cluster : clusters ≠ [])
    (num_clusters uavs_per_cluster total_uavs seed : Json) :
    VerifyCrypto.verifyFile (.object [
      ("scheme",.string "MKE-MGKM"),
      ("num_clusters",num_clusters),
      ("uavs_per_cluster",uavs_per_cluster),
      ("total_uavs",total_uavs),
      ("seed",seed),
      ("clusters",.array (clusters.mapIdx fun c generated => clusterJson args generated c))]) =
    .error (.scriptException "KeyError" "T") := by
  obtain ⟨first,rest,rfl⟩ := List.exists_cons_of_ne_nil some_cluster
  rw [VerifyCrypto.verifyFile,List.mapIdx_cons]
  simp [VerifyCrypto.subscript,Json.field,VerifyCrypto.iterate,verifyCluster_refuses]

theorem loadFromString_ok {j : Json} {params : CryptoParamsFile} :
    loadFromString j = .ok params ↔ parseJson j = .ok params ∧ Accepted params := by
  rw [loadFromString,Result.bind_ok]
  constructor
  · rintro ⟨parsed,read,checked⟩
    obtain ⟨valid,same⟩ := Result.bind_ok_unit.mp checked
    obtain rfl := Except.ok.inj same
    exact ⟨read,validateOrThrow_ok.mp valid⟩
  · rintro ⟨read,accepted⟩
    exact ⟨params,read,Result.bind_ok_unit.mpr ⟨validateOrThrow_ok.mpr accepted,rfl⟩⟩

section Loaded

variable {key : String} {fields : List (String × Json)}

theorem ofNat_ne_zero {n : Nat} (positive : 0 < n) (small : n < 2^32) : UInt32.ofNat n ≠ 0 := by
  intro zero
  have value := congrArg UInt32.toNat zero
  rw [UInt32.toNat_ofNat',UInt32.toNat_zero] at value
  omega

theorem number_int {j : Json} {n : Int} (present : j.atKey key = .ok (.int n)) (low : 0 ≤ n)
    (high : n < 2^32) : number key j = .ok (UInt32.ofNat n.toNat) := by
  have whole : n = n.toNat := by omega
  rw [number,present,Result.ok_bind,whole,Json.getU32_ofNat (by omega)]
  rfl

theorem decimal_str {j : Json} {n : Int} (present : j.atKey key = .ok (str n)) :
    decimal key j = .ok n := by
  rw [decimal,present]
  exact fromDecString_str n

end Loaded

theorem parseSlaveKey_written (args : Args) (c : Nat) (slave : Slave) (i : Nat)
    (low : 0 ≤ c*args.uavs_per_cluster) (high : c*args.uavs_per_cluster+i < 2^32) :
    ∃ entry, parseSlaveKey (slaveJson args c slave i) = .ok entry ∧ entry.n_i = slave.n_i ∧
      entry.d_i = slave.d_i := by
  have uav_index : number "uav_index" (slaveJson args c slave i) = .ok (UInt32.ofNat i) :=
    number_int (n := i) rfl (by omega) (by omega)
  have uav_id : number "uav_id" (slaveJson args c slave i) =
      .ok (UInt32.ofNat (c*args.uavs_per_cluster+i : Int).toNat) := number_int rfl (by omega) high
  have texts : ∀ key n, (slaveJson args c slave i).atKey key = .ok (str n) →
      decimal key (slaveJson args c slave i) = .ok n := fun key n => decimal_str
  rw [parseSlaveKey,uav_index,uav_id]
  simp only [Result.ok_bind,texts "e_i" _ rfl,texts "d_i" _ rfl,texts "n_i" _ rfl,
    texts "x_i" _ rfl,texts "y_i" _ rfl,texts "Mi" _ rfl,texts "Ni" _ rfl,texts "xy_i" _ rfl,
    texts "p_i" _ rfl,texts "q_i" _ rfl]
  exact ⟨_,rfl,rfl,rfl⟩

theorem slaveKeys_written {args : Args} {generated : Generated} (sound : Sound args generated)
    {c : Nat} (high : c*args.uavs_per_cluster+args.uavs_per_cluster < 2^32) :
    ∃ slave_keys,
      (generated.mkg.slaves.mapIdx fun i slave => slaveJson args c slave i).mapM parseSlaveKey =
        .ok slave_keys ∧ slave_keys.length = generated.mkg.slaves.length ∧
      ∀ sk ∈ slave_keys, 0 < sk.n_i ∧ 0 < sk.d_i := by
  have counted := sound.counted
  have low : 0 ≤ c*args.uavs_per_cluster := Int.mul_nonneg (by omega) (by omega)
  have every : ∀ skj ∈ generated.mkg.slaves.mapIdx fun i slave => slaveJson args c slave i,
      ∃ sk, parseSlaveKey skj = .ok sk ∧ 0 < sk.n_i ∧ 0 < sk.d_i := by
    intro skj inside
    obtain ⟨i,small,rfl⟩ := List.mem_mapIdx.mp inside
    obtain ⟨sk,parsed,n_i,d_i⟩ := parseSlaveKey_written args c generated.mkg.slaves[i] i low
      (by omega)
    refine ⟨sk,parsed,?_⟩
    rw [n_i,d_i]
    exact sound.slaves _ (List.getElem_mem small)
  simpa using Result.mapM_every every

theorem parseCluster_written {args : Args} {generated : Generated} (sound : Sound args generated)
    {c : Nat} (narrow : c < 2^32)
    (high : c*args.uavs_per_cluster+args.uavs_per_cluster < 2^32) :
    ∃ entry, parseCluster (clusterJson args generated c) = .ok entry ∧ AcceptedCluster entry ∧
      (BigEndian.decode entry.tek.toList : Int) = entry.tek_int := by
  have counted := sound.counted
  have low : 0 ≤ c*args.uavs_per_cluster := Int.mul_nonneg (by omega) (by omega)
  obtain ⟨slave_keys,slaves_parsed,length,slaves_good⟩ := slaveKeys_written sound high
  obtain ⟨tek,tek_parsed,tek_value,hex_size⟩ := hexToAesKey_format
    (n := (generated.tek_int%2^256).toNat) (by omega)
  have cluster_id : number "cluster_id" (clusterJson args generated c) = .ok (UInt32.ofNat c) :=
    number_int (n := c) rfl (by omega) (by omega)
  have skdc_id : number "skdc_id" (clusterJson args generated c) = .ok (UInt32.ofNat c) :=
    number_int (n := c) rfl (by omega) (by omega)
  have num_uavs : number "num_uavs" (clusterJson args generated c) =
      .ok (UInt32.ofNat args.uavs_per_cluster.toNat) := number_int rfl (by omega) (by omega)
  have texts : ∀ key n, (clusterJson args generated c).atKey key = .ok (str n) →
      decimal key (clusterJson args generated c) = .ok n := fun key n => decimal_str
  have indices : ∀ index ∈ generated.all_indices.map Json.int,
      ∃ number, index.getU32 = .ok number ∧ True := by
    intro index inside
    rw [sound.indices,List.map_map] at inside
    obtain ⟨i,small,rfl⟩ := List.mem_map.mp inside
    rw [range,List.mem_range] at small
    exact ⟨_,Json.getU32_ofNat (by omega),trivial⟩
  obtain ⟨user_indices,indices_parsed,-⟩ := Result.mapM_every indices
  have tek_int : (clusterJson args generated c).contains "tek_int" = true := rfl
  have N_global : decimalIfContained "N_global" (clusterJson args generated c) =
      .ok generated.mkg.N_global := texts "N_global" _ rfl
  have N_group : decimalIfContained "N_group" (clusterJson args generated c) =
      .ok generated.mtoken.N_group := texts "N_group" _ rfl
  have tek_hex : (clusterJson args generated c).atKey "tek_hex" =
      .ok (.string (format064x (generated.tek_int%2^256).toNat)) := rfl
  have users : (clusterJson args generated c).atKey "user_indices" =
      .ok (.array (generated.all_indices.map Json.int)) := rfl
  have keys : (clusterJson args generated c).atKey "slave_keys" = .ok (.array
      (generated.mkg.slaves.mapIdx fun i slave => slaveJson args c slave i)) := rfl
  rw [parseCluster,cluster_id,skdc_id,num_uavs]
  simp only [Result.ok_bind,texts "eM" _ rfl,texts "n_total" _ rfl,tek_int,if_true,
    texts "tek_int" _ rfl,texts "MT_K" _ rfl,texts "e_MK" _ rfl,N_global,N_group,tek_hex,
    Json.getString,tek_parsed,users,keys,Json.items,indices_parsed,slaves_parsed]
  refine ⟨_,rfl,⟨?_,sound.exponent,sound.token,hex_size,slaves_good⟩,?_⟩
  · rw [length,UInt32.toNat_ofNat']
    omega
  · have low_tek : 0 ≤ generated.tek_int := by
      have large := sound.tek_low
      omega
    have exact_value : generated.tek_int%2^256 = generated.tek_int :=
      Int.emod_eq_of_lt low_tek sound.tek_high
    rw [tek_value,exact_value,Int.toNat_of_nonneg low_tek]

section Written

variable {pool : List (Int × Int)} {draws : Draws} {args : Args} {file : Json}
  (written : writeParameters pool draws args = .ok file)
include written

theorem writeParameters_ok : ∃ clusters : List Generated,
    clusters.length = args.clusters.toNat ∧ args.clusters*args.uavs_per_cluster ≤ pool.length ∧
      file = .object [
        ("scheme",.string "MKE-MGKM"),
        ("num_clusters",.int args.clusters),
        ("uavs_per_cluster",.int args.uavs_per_cluster),
        ("total_uavs",.int (args.clusters*args.uavs_per_cluster)),
        ("seed",.int args.seed),
        ("clusters",.array (clusters.mapIdx fun c generated => clusterJson args generated c))] ∧
      (0 ≤ args.uavs_per_cluster → ∀ generated ∈ clusters, Sound args generated) := by
  obtain ⟨all_primes,batch,written⟩ := Result.bind_ok.mp written
  obtain ⟨clusters,generated,written⟩ := Result.bind_ok.mp written
  obtain ⟨-,-,written⟩ := Result.bind_ok.mp written
  have width := (Result.mapM_ok.mp generated).length_eq
  rw [range,List.length_range] at width
  unfold getSequentialBatch at batch
  split at batch
  · cases batch
  · rename_i enough
    refine ⟨clusters,width.symm,by omega,(Except.ok.inj written).symm,fun uavs one inside => ?_⟩
    obtain ⟨c,place,cluster_written⟩ := (Result.mapM_mem generated).2 one inside
    rw [range,List.mem_range] at place
    have last : c*args.uavs_per_cluster+args.uavs_per_cluster ≤
        args.clusters*args.uavs_per_cluster := by
      have within : (c : Int)+1 ≤ args.clusters := by omega
      calc c*args.uavs_per_cluster+args.uavs_per_cluster = (c+1)*args.uavs_per_cluster := by ring
        _ ≤ args.clusters*args.uavs_per_cluster := Int.mul_le_mul_of_nonneg_right within uavs
    have low : 0 ≤ args.clusters*args.uavs_per_cluster := Int.mul_nonneg (by omega) uavs
    have size : ((slice pool 0 (0+args.clusters*args.uavs_per_cluster)).length : Int) =
        args.clusters*args.uavs_per_cluster := length_slice (le_refl 0) low (by omega)
    rw [Except.ok.inj batch] at size
    exact generateCluster_ok uavs (by omega) cluster_written

/-- The loader takes every file with a UAV, whose keys it reads as the integers beside them. -/
theorem loadFromString_written (some_cluster : 0 < args.clusters)
    (some_uav : 0 < args.uavs_per_cluster) (short : pool.length < 2^32)
    (seed : -2^63 ≤ args.seed ∧ args.seed < 2^64) : ∃ params, loadFromString file = .ok params ∧
      params.clusters.length = args.clusters.toNat ∧
      ∀ entry ∈ params.clusters, (BigEndian.decode entry.tek.toList : Int) = entry.tek_int := by
  obtain ⟨clusters,width,enough,rfl,sound⟩ := writeParameters_ok written
  have one_each : args.clusters ≤ args.clusters*args.uavs_per_cluster :=
    le_mul_of_one_le_right some_cluster.le some_uav
  have few : args.uavs_per_cluster ≤ args.clusters*args.uavs_per_cluster :=
    le_mul_of_one_le_left some_uav.le some_cluster
  have every : ∀ cj ∈ clusters.mapIdx fun c generated => clusterJson args generated c,
      ∃ entry, parseCluster cj = .ok entry ∧ AcceptedCluster entry ∧
        (BigEndian.decode entry.tek.toList : Int) = entry.tek_int := by
    intro cj inside
    obtain ⟨c,place,rfl⟩ := List.mem_mapIdx.mp inside
    have last : c*args.uavs_per_cluster+args.uavs_per_cluster ≤
        args.clusters*args.uavs_per_cluster := by
      have within : (c : Int)+1 ≤ args.clusters := by omega
      calc c*args.uavs_per_cluster+args.uavs_per_cluster = (c+1)*args.uavs_per_cluster := by ring
        _ ≤ args.clusters*args.uavs_per_cluster :=
          Int.mul_le_mul_of_nonneg_right within some_uav.le
    exact parseCluster_written (sound some_uav.le _ (List.getElem_mem place)) (by omega) (by omega)
  obtain ⟨entries,parsed,length,good⟩ := Result.mapM_every every
  rw [List.length_mapIdx,width] at length
  let file : Json := .object [
    ("scheme",.string "MKE-MGKM"),
    ("num_clusters",.int args.clusters),
    ("uavs_per_cluster",.int args.uavs_per_cluster),
    ("total_uavs",.int (args.clusters*args.uavs_per_cluster)),
    ("seed",.int args.seed),
    ("clusters",.array (clusters.mapIdx fun c generated => clusterJson args generated c))]
  have num_clusters : number "num_clusters" file = .ok (UInt32.ofNat args.clusters.toNat) :=
    number_int rfl some_cluster.le (by omega)
  have uavs : number "uavs_per_cluster" file = .ok (UInt32.ofNat args.uavs_per_cluster.toNat) :=
    number_int rfl some_uav.le (by omega)
  have total : number "total_uavs" file =
      .ok (UInt32.ofNat (args.clusters*args.uavs_per_cluster).toNat) :=
    number_int rfl (by omega) (by omega)
  have seeded : file.value Json.getU32 "seed" 42 = .ok (UInt32.ofInt args.seed) :=
    if_pos seed
  have scheme : file.atKey "scheme" = .ok (.string "MKE-MGKM") := rfl
  have key : file.value Json.getString "global_bootstrap_key"
      (String.ofList (List.replicate 64 '0')) = .ok (String.ofList (List.replicate 64 '0')) := rfl
  have array : file.atKey "clusters" = .ok (.array
      (clusters.mapIdx fun c generated => clusterJson args generated c)) := rfl
  have read : ∃ params, parseJson file = .ok params ∧ Accepted params ∧
      params.clusters = entries := by
    rw [parseJson,scheme,num_clusters,uavs,total,key,seeded,array]
    simp only [Result.ok_bind,Json.getString,Json.items,parsed]
    refine ⟨_,rfl,⟨rfl,?_,?_,?_,fun c inside => (good c inside).1⟩,rfl⟩
    · exact ofNat_ne_zero (by omega) (by omega)
    · exact ofNat_ne_zero (by omega) (by omega)
    · rw [length,UInt32.toNat_ofNat']
      omega
  obtain ⟨params,parsed,accepted,same⟩ := read
  exact ⟨params,loadFromString_ok.mpr ⟨parsed,accepted⟩,same ▸ length,
    fun entry inside => (good entry (same ▸ inside)).2⟩

theorem verifyFile_written (some_cluster : 0 < args.clusters) :
    VerifyCrypto.verifyFile file = .error (.scriptException "KeyError" "T") := by
  obtain ⟨clusters,width,-,rfl,-⟩ := writeParameters_ok written
  refine verifyFile_refuses ?_ _ _ _ _
  rintro rfl
  rw [List.length_nil] at width
  omega

/-- Without a cluster there is nothing to load. -/
theorem loadFromString_empty (no_cluster : args.clusters ≤ 0) (params : CryptoParamsFile) :
    loadFromString file ≠ .ok params := by
  obtain ⟨clusters,width,-,rfl,-⟩ := writeParameters_ok written
  obtain rfl : clusters = [] := List.length_eq_zero_iff.mp (by omega)
  intro loaded
  obtain ⟨parsed,accepted⟩ := loadFromString_ok.mp loaded
  have counted := accepted.counted
  rw [parseJson] at parsed
  obtain ⟨scheme_json,-,parsed⟩ := Result.bind_ok.mp parsed
  obtain ⟨scheme,-,parsed⟩ := Result.bind_ok.mp parsed
  obtain ⟨key,-,parsed⟩ := Result.bind_ok.mp parsed
  obtain ⟨num_clusters,-,parsed⟩ := Result.bind_ok.mp parsed
  obtain ⟨uavs_per_cluster,-,parsed⟩ := Result.bind_ok.mp parsed
  obtain ⟨total_uavs,-,parsed⟩ := Result.bind_ok.mp parsed
  obtain ⟨seed,-,parsed⟩ := Result.bind_ok.mp parsed
  obtain ⟨array,present,parsed⟩ := Result.bind_ok.mp parsed
  obtain ⟨entries,mapped,parsed⟩ := Result.bind_ok.mp parsed
  obtain rfl : Json.array [] = array := Except.ok.inj present
  obtain rfl : [] = entries := Except.ok.inj mapped
  obtain rfl := Except.ok.inj parsed
  exact accepted.clusters (UInt32.toNat_inj.mp counted.symm)

end Written

/-- The verifier and the loader never agree on a file that was written. The verifier asks every
cluster for a `T` that none has; what the loader reads is consistent. -/
theorem format_never_agrees {pool : List (Int × Int)} {draws : Draws} {args : Args} {file : Json}
    (written : writeParameters pool draws args = .ok file) : ¬ Agreement file ∧
      (0 < args.clusters →
        VerifyCrypto.verifyFile file = .error (.scriptException "KeyError" "T")) ∧
      (0 < args.clusters → 0 < args.uavs_per_cluster → pool.length < 2^32 →
        -2^63 ≤ args.seed ∧ args.seed < 2^64 → ∃ params, loadFromString file = .ok params ∧
          params.clusters.length = args.clusters.toNat ∧
          ∀ entry ∈ params.clusters,
            (BigEndian.decode entry.tek.toList : Int) = entry.tek_int) := by
  refine ⟨fun agreement => ?_,verifyFile_written written,loadFromString_written written⟩
  rcases le_or_gt args.clusters 0 with none_given | some_cluster
  · obtain ⟨params,loaded⟩ := agreement.loaded
    exact loadFromString_empty written none_given params loaded
  · have verified := agreement.verified
    rw [verifyFile_written written some_cluster] at verified
    cases verified

def samplePool : List (Int × Int) := [(7,11),(23,47)]

def samplePoolDraws : Draws where
  getrandbits _ := [3,4]
  token_bytes _ := [Vector.replicate 32 5]

def sampleArgs : Args where
  clusters := 1
  uavs_per_cluster := 2

theorem sampleFile_written : ∃ file, writeParameters samplePool samplePoolDraws sampleArgs = .ok file := by
  have present : (writeParameters samplePool samplePoolDraws sampleArgs).isOk = true := by
    decide +kernel
  cases written : writeParameters samplePool samplePoolDraws sampleArgs with
  | error failure =>
    rw [written] at present
    cases present
  | ok file => exact ⟨file,rfl⟩

theorem sampleFile_unverified : ∃ file,
    writeParameters samplePool samplePoolDraws sampleArgs = .ok file ∧ ¬ Agreement file := by
  obtain ⟨file,written⟩ := sampleFile_written
  refine ⟨file,written,fun agreement => ?_⟩
  have verdict : (writeParameters samplePool samplePoolDraws sampleArgs >>= VerifyCrypto.verifyFile) =
      .error (.scriptException "KeyError" "T") := by decide +kernel
  rw [written,Result.ok_bind,agreement.verified] at verdict
  cases verdict

theorem sampleFile_never_agrees : ∃ file,
    writeParameters samplePool samplePoolDraws sampleArgs = .ok file ∧ ¬ Agreement file ∧
      VerifyCrypto.verifyFile file = .error (.scriptException "KeyError" "T") ∧
      ∃ params, loadFromString file = .ok params ∧ ∀ entry ∈ params.clusters,
        (BigEndian.decode entry.tek.toList : Int) = entry.tek_int := by
  obtain ⟨file,written⟩ := sampleFile_written
  obtain ⟨disagree,refused,loads⟩ := format_never_agrees written
  obtain ⟨params,loaded,-,same⟩ := loads (by decide) (by decide) (by decide) (by decide)
  exact ⟨file,written,disagree,refused (by decide),params,loaded,same⟩

end UavFanet
