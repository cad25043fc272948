import UavFanet.CryptoParamsLoader
import UavFanet.Library.Placement
import UavFanet.TokenGeneration

/-! What the checks of `ValidateOrThrow` leave open: where the clusters of an accepted file go,
and whether its keys open its tokens. -/
namespace UavFanet
open Library CrtManager BigInt KeyGroup TokenGeneration CryptoParamsLoader

def clusterCell (cp : ClusterCryptoEntry) : Nat := cp.cluster_id.toNat

/-- The entry of a file that a cluster of the manager is left with. -/
def CryptoParamsFile.loadedEntry (params : CryptoParamsFile) (c : Nat) : Option ClusterCryptoEntry :=
  Placement.lastAt clusterCell params.clusters c

/-- `LoadFromParams` together with the indices that it used. -/
def loadTrace (params : CryptoParamsFile) : Result (Clusters × List Nat) :=
  params.clusters.foldlM
    (fun (loaded : Clusters × List Nat) cp =>
      if cp.cluster_id.toNat < loaded.1.length then
        .ok (loaded.1.set cp.cluster_id.toNat (loadedCluster cp),
          loaded.2 ++ [cp.cluster_id.toNat])
      else .error .outOfRange)
    (List.replicate params.num_clusters.toNat emptyCluster,[])

def emptyTable (params : CryptoParamsFile) : Clusters :=
  List.replicate params.num_clusters.toNat emptyCluster

section Loading

variable {params : CryptoParamsFile} {clusters : Clusters}

@[simp] theorem length_emptyTable : (emptyTable params).length = params.num_clusters.toNat :=
  List.length_replicate

theorem loadFromParams_ok : loadFromParams params = .ok clusters ↔
    (∀ cp ∈ params.clusters, clusterCell cp < params.num_clusters.toNat) ∧
      Placement.place clusterCell loadedCluster (emptyTable params) params.clusters = clusters := by
  have filled := Placement.foldlM_guard
    (fun (table : Clusters) cp => clusterCell cp < table.length)
    (fun table cp => table.set (clusterCell cp) (loadedCluster cp))
    Failure.outOfRange (by simp) params.clusters (emptyTable params) clusters
  simp only [length_emptyTable] at filled
  exact filled

theorem loadTrace_ok {indices : List Nat} : loadTrace params = .ok (clusters,indices) ↔
    loadFromParams params = .ok clusters ∧ params.clusters.map clusterCell = indices := by
  have filled := Placement.foldlM_guard
    (fun (loaded : Clusters × List Nat) cp => clusterCell cp < loaded.1.length)
    (fun loaded cp => (loaded.1.set (clusterCell cp) (loadedCluster cp),
      loaded.2 ++ [clusterCell cp]))
    Failure.outOfRange (by simp) params.clusters (emptyTable params,[]) (clusters,indices)
  have both : ∀ (entries : List ClusterCryptoEntry) (table : Clusters) (used : List Nat),
      entries.foldl (fun (loaded : Clusters × List Nat) cp =>
        (loaded.1.set (clusterCell cp) (loadedCluster cp),loaded.2 ++ [clusterCell cp]))
        (table,used) =
      (Placement.place clusterCell loadedCluster table entries,
        used ++ entries.map clusterCell) := by
    intro entries
    induction entries with
    | nil => simp [Placement.place]
    | cons cp entries ih =>
      intro table used
      rw [List.foldl_cons,ih]
      simp [Placement.place]
  simp only [length_emptyTable,both,List.nil_append,Prod.mk.injEq] at filled
  rw [loadFromParams_ok,and_assoc]
  exact filled

end Loading

/-! ### Addressing -/

/-- Loading stays in bounds and writes every cluster once, and a cluster's position in the file
denotes the entry that its number does. -/
structure ConsistentAddressing (params : CryptoParamsFile) : Prop where
  loaded : ∃ clusters indices, loadTrace params = .ok (clusters,indices) ∧
    loadFromParams params = .ok clusters ∧
    ∀ c < params.num_clusters.toNat, indices.count c = 1
  same : ∀ c < params.num_clusters, params.clusters[c.toNat]? = params.getCluster c

/-- Entries that stand at the position that they name. -/
def InOrder (params : CryptoParamsFile) : Prop :=
  ∀ (i : Nat) cp, params.clusters[i]? = some cp → clusterCell cp = i

section Addressing

variable {params : CryptoParamsFile}

theorem getCluster_some {c : UInt32} {cp : ClusterCryptoEntry}
    (found : params.getCluster c = some cp) : cp ∈ params.clusters ∧ clusterCell cp = c.toNat := by
  have named := List.find?_some found
  exact ⟨List.mem_of_find?_eq_some found,congrArg UInt32.toNat (by simpa using named)⟩

theorem getCluster_inOrder (ordered : InOrder params) {c : UInt32} {cp : ClusterCryptoEntry}
    (here : params.clusters[c.toNat]? = some cp) : params.getCluster c = some cp := by
  have listed : (params.clusters.find? (fun cp => cp.cluster_id == c)).isSome := by
    rw [List.find?_isSome]
    exact ⟨cp,List.mem_of_getElem? here,by simpa using UInt32.toNat_inj.mp (ordered _ _ here)⟩
  obtain ⟨other,found⟩ := Option.isSome_iff_exists.mp listed
  obtain ⟨member,named⟩ := getCluster_some found
  obtain ⟨i,there⟩ := List.mem_iff_getElem?.mp member
  have position := ordered i other there
  rw [named] at position
  subst position
  rw [CryptoParamsFile.getCluster,found,← there,here]

theorem inOrder_cells (ordered : InOrder params) :
    params.clusters.map clusterCell = List.range params.clusters.length := by
  apply List.ext_getElem
  · simp
  · intro i inside _
    rw [List.length_map] at inside
    rw [List.getElem_map,List.getElem_range]
    exact ordered i _ (List.getElem?_eq_getElem inside)

/-- An accepted file has its clusters addressed consistently if and only if they are listed in
the order of their numbers. -/
theorem addressing_iff {params : CryptoParamsFile} (accepted : validateOrThrow params = .ok ()) :
    ConsistentAddressing params ↔
      ∀ (i : Nat) cp, params.clusters[i]? = some cp → cp.cluster_id.toNat = i := by
  have counted := (validateOrThrow_ok.mp accepted).counted
  constructor
  · intro consistent i cp here
    obtain ⟨inside,_⟩ := List.getElem?_eq_some_iff.mp here
    rw [counted] at inside
    have small := params.num_clusters.toNat_lt
    have number : (UInt32.ofNat i).toNat = i := by
      rw [UInt32.toNat_ofNat']
      omega
    have known : UInt32.ofNat i < params.num_clusters := by
      rw [UInt32.lt_iff_toNat_lt,number]
      exact inside
    have same := consistent.same (UInt32.ofNat i) known
    rw [number,here] at same
    have named := (getCluster_some same.symm).2
    rwa [number] at named
  · intro ordered
    have cells := inOrder_cells ordered
    have bounded : ∀ cp ∈ params.clusters, clusterCell cp < params.num_clusters.toNat := by
      intro cp member
      have listed : clusterCell cp ∈ params.clusters.map clusterCell := List.mem_map_of_mem member
      rw [cells,counted] at listed
      exact List.mem_range.mp listed
    have loads := loadFromParams_ok.mpr ⟨bounded,rfl⟩
    refine ⟨⟨_,_,loadTrace_ok.mpr ⟨loads,rfl⟩,loads,?_⟩,?_⟩
    · intro c inside
      rw [← counted] at inside
      exact Placement.count_range cells inside
    · intro c known
      rw [UInt32.lt_iff_toNat_lt,← counted] at known
      have here := List.getElem?_eq_getElem known
      rw [here,getCluster_inOrder ordered here]

end Addressing

/-- Two genuine slaves with the token of 2, beside a key that ends in the byte `last`. -/
def pairCluster (cluster_id : UInt32) (last : UInt8) (tek_hex : String) : ClusterCryptoEntry where
  cluster_id
  skdc_id := cluster_id
  num_uavs := 2
  eM := 14173
  n_total := 3795
  N_global := 83237
  N_group := 83237
  tek := (Vector.replicate 31 0).push last
  tek_int := 2
  MT_K := 27057
  e_MK := 14173
  user_indices := [0,1]
  slave_keys := twoSlaves.slaves
  tek_hex

def keyOfTwo : String := "0000000000000000000000000000000000000000000000000000000000000002"

def pairFile (clusters : List ClusterCryptoEntry) : CryptoParamsFile where
  num_clusters := UInt32.ofNat clusters.length
  uavs_per_cluster := 2
  total_uavs := 2*UInt32.ofNat clusters.length
  clusters
  scheme := "MKE-MGKM"

def swappedFile : CryptoParamsFile := pairFile [pairCluster 1 2 keyOfTwo,pairCluster 0 2 keyOfTwo]

def strayFile : CryptoParamsFile := pairFile [pairCluster 5 2 keyOfTwo]

/-- An accepted file with its two clusters swapped has each number denote another cluster than
the same position, and an accepted file of one cluster, number five, is loaded out of bounds. -/
theorem swapped_and_stray_accepted :
    validateOrThrow swappedFile = .ok () ∧ ¬ ConsistentAddressing swappedFile ∧
    validateOrThrow strayFile = .ok () ∧ loadFromParams strayFile = .error .outOfRange := by
  refine ⟨by decide +kernel,?_,by decide +kernel,by decide +kernel⟩
  intro consistent
  have same := consistent.same 0 (by decide)
  exact absurd same (by decide +kernel)

theorem ordered_consistent :
    ConsistentAddressing (pairFile [pairCluster 0 2 keyOfTwo,pairCluster 1 2 keyOfTwo]) := by
  refine (addressing_iff (by decide +kernel)).mpr ?_
  intro i cp here
  match i with
  | 0 =>
    cases Option.some.inj here
    rfl
  | 1 =>
    cases Option.some.inj here
    rfl

/-! ### Usable keys -/

/-- Loading gives a manager that verifies, and whose members recover their cluster's TEK. -/
def Usable (params : CryptoParamsFile) : Prop :=
  ∃ clusters, loadFromParams params = .ok clusters ∧ verifyAll clusters = .ok true ∧
    ∀ cs ∈ clusters, ∀ sk ∈ cs.mkg.slaves, sk.uav_index ∈ cs.mtoken.user_indices →
      (slaveDecrypt sk cs.mtoken.MT_K >>= tekFromBigInt) = .ok cs.tek

/-- A member's modulus exceeds the key, of which `tek_int` is the integer as far as the modulus
tells, and its exponent opens the token. -/
structure OpensWith (cp : ClusterCryptoEntry) (sk : SlaveKeyEntry) : Prop where
  room : tekToBigInt cp.tek < sk.n_i
  agrees : cp.tek_int ≡ tekToBigInt cp.tek [ZMOD sk.n_i]
  opens : cp.MT_K^sk.d_i.toNat ≡ cp.tek_int [ZMOD sk.n_i]

section Usability

variable {clusters : Clusters} {cp : ClusterCryptoEntry} {sk : SlaveKeyEntry}

theorem tekToBigInt_nonneg (tek : AesGcmKey) : 0 ≤ tekToBigInt tek := Int.natCast_nonneg _

theorem tekFromBigInt_ok {T : Int} {tek : AesGcmKey} :
    tekFromBigInt T = .ok tek ↔ T = tekToBigInt tek := by
  constructor
  · intro ok
    obtain ⟨raw,encoded,ok⟩ := Result.bind_ok.mp ok
    rw [toBytes] at encoded
    split_ifs at encoded with negative large
    rw [not_not] at large
    have width : (BigEndian.encode 32 T.toNat).length = 32 := BigEndian.length_encode 32 T.toNat
    rw [← Except.ok.inj encoded,if_neg (by omega),AesGcm.keyFromBytes,dif_pos width] at ok
    have same := Except.ok.inj ok
    subst same
    have fits : T.toNat < 256^32 := (Nat.div_eq_zero_iff.mp large).resolve_left (by norm_num)
    show T = (BigEndian.decode (BigEndian.encode 32 T.toNat) : ℕ)
    rw [BigEndian.decode_encode,Nat.mod_eq_of_lt fits]
    omega
  · rintro rfl
    have width : tek.toList.length = 32 := tek.length_toList
    have fits : BigEndian.decode tek.toList < 256^32 := by
      have below := BigEndian.decode_lt tek.toList
      rwa [width] at below
    have encoded : BigEndian.encode 32 (BigEndian.decode tek.toList) = tek.toList := by
      have back := BigEndian.encode_decode tek.toList
      rwa [width] at back
    rw [tekToBigInt,fromBytes,tekFromBigInt,toBytes_fits fits,Result.ok_bind,encoded,if_neg (by omega),
      AesGcm.keyFromBytes,dif_pos width]
    rfl

theorem verifyAll_ok : verifyAll clusters = .ok true ↔
    ∀ c < clusters.length, verifyCluster clusters (UInt32.ofNat c) = .ok true := by
  have every : ∀ cells : List Nat, verifyAll.verifyFrom clusters cells = .ok true ↔
      ∀ c ∈ cells, verifyCluster clusters (UInt32.ofNat c) = .ok true := by
    intro cells
    induction cells with
    | nil => simp [verifyAll.verifyFrom]
    | cons c cells ih =>
      rw [verifyAll.verifyFrom,List.forall_mem_cons,← ih]
      cases verified : verifyCluster clusters (UInt32.ofNat c) with
      | error failure => simp
      | ok passed => cases passed <;> simp
  simp only [verifyAll,every,List.mem_range]

theorem verifyCluster_ok {c : UInt32} {cs : ClusterState} (known : clusters[c.toNat]? = some cs) :
    verifyCluster clusters c = .ok true ↔
      ∀ sk ∈ cs.mkg.slaves, sk.uav_index ∈ cs.mtoken.user_indices →
        verifySlaveDecrypt sk cs.mtoken.MT_K cs.mtoken.T = .ok true := by
  have every : ∀ slaves : List SlaveKeyEntry, verifyCluster.verifySlaves cs slaves = .ok true ↔
      ∀ sk ∈ slaves, sk.uav_index ∈ cs.mtoken.user_indices →
        verifySlaveDecrypt sk cs.mtoken.MT_K cs.mtoken.T = .ok true := by
    intro slaves
    induction slaves with
    | nil => simp [verifyCluster.verifySlaves]
    | cons sk slaves ih =>
      rw [verifyCluster.verifySlaves,List.forall_mem_cons,← ih]
      by_cases inside : sk.uav_index ∈ cs.mtoken.user_indices
      · rw [if_pos (inGroup_iff.mpr inside),verifySlaveDecrypt,slaveDecrypt]
        cases modPow cs.mtoken.MT_K sk.d_i sk.n_i with
        | error failure => simp [inside]
        | ok recovered =>
          cases mod cs.mtoken.T sk.n_i with
          | error failure => simp [inside]
          | ok T_mod =>
            by_cases same : recovered = T_mod
            · simp [same,inside]
            · simp [same,inside]
      · rw [if_neg (mt inGroup_iff.mp inside)]
        simp [inside]
  simp only [verifyCluster,getClusterState,known,Result.ok_bind,every]

theorem member_opens (accepted : AcceptedCluster cp) (listed : sk ∈ cp.slave_keys) :
    verifySlaveDecrypt sk cp.MT_K cp.tek_int = .ok true ∧
      (slaveDecrypt sk cp.MT_K >>= tekFromBigInt) = .ok cp.tek ↔ OpensWith cp sk := by
  obtain ⟨modulus,exponent⟩ := accepted.slaves sk listed
  have decrypts := modPow_nonneg accepted.token.le exponent.le modulus
  rw [verifySlaveDecrypt,slaveDecrypt,decrypts,mod_positive modulus]
  simp only [Result.ok_bind,tekFromBigInt_ok,Except.ok.injEq,beq_iff_eq]
  have nonneg := tekToBigInt_nonneg cp.tek
  constructor
  · rintro ⟨verified,recovered⟩
    have room : tekToBigInt cp.tek < sk.n_i := recovered ▸ Int.emod_lt_of_pos _ modulus
    refine ⟨room,?_,verified⟩
    rw [Int.ModEq,← verified,recovered,Int.emod_eq_of_lt nonneg room]
  · rintro ⟨room,agrees,opens⟩
    refine ⟨opens,?_⟩
    rw [opens.eq.trans agrees.eq,Int.emod_eq_of_lt nonneg room]

/-- Of genuine keys with the token of their members only the room and the agreement are in
question. -/
theorem genuine_opens (accepted : AcceptedCluster cp) (master : MasterKey (loadedKeys cp))
    (nonneg : 0 ≤ cp.tek_int)
    (token : TokenFor (loadedKeys cp) cp.user_indices cp.tek_int (loadedCluster cp).mtoken)
    (listed : sk ∈ cp.slave_keys) (inside : sk.uav_index ∈ cp.user_indices) :
    OpensWith cp sk ↔ tekToBigInt cp.tek < sk.n_i ∧
      cp.tek_int ≡ tekToBigInt cp.tek [ZMOD sk.n_i] := by
  obtain ⟨modulus,exponent⟩ := accepted.slaves sk listed
  have recovers := slaveDecrypt_token master nonneg token listed inside
  have decrypts := modPow_nonneg accepted.token.le exponent.le modulus
  have opens : cp.MT_K^sk.d_i.toNat%sk.n_i = cp.tek_int%sk.n_i :=
    Except.ok.inj (decrypts.symm.trans recovers)
  exact ⟨fun fit => ⟨fit.room,fit.agrees⟩,fun ⟨room,agrees⟩ => ⟨room,agrees,opens⟩⟩

end Usability

theorem mem_loaded {params : CryptoParamsFile} {clusters : Clusters} {cs : ClusterState}
    (loads : loadFromParams params = .ok clusters) (member : cs ∈ clusters) :
    (∃ c cp, params.loadedEntry c = some cp ∧ cs = loadedCluster cp) ∨ cs = emptyCluster := by
  obtain ⟨_,rfl⟩ := loadFromParams_ok.mp loads
  obtain ⟨c,_,found⟩ := Placement.mem_place member
  cases last : Placement.lastAt clusterCell params.clusters c with
  | none =>
    rw [last] at found
    have blank := List.mem_of_getElem? found
    exact .inr (List.eq_of_mem_replicate blank)
  | some cp =>
    rw [last] at found
    exact .inl ⟨c,cp,last,(Option.some.inj found).symm⟩

theorem loaded_entry {params : CryptoParamsFile} {clusters : Clusters} {c : Nat}
    {cp : ClusterCryptoEntry} (loads : loadFromParams params = .ok clusters)
    (entry : params.loadedEntry c = some cp) : clusters[c]? = some (loadedCluster cp) := by
  obtain ⟨bounded,rfl⟩ := loadFromParams_ok.mp loads
  obtain ⟨member,cell⟩ := Placement.lastAt_some entry
  have inside := bounded cp member
  rw [cell,← length_emptyTable] at inside
  rw [Placement.getElem?_place inside]
  exact congrArg (fun last => (Option.map loadedCluster last).or _) entry

/-- The clusters of a manager are numbered in 32 bits. -/
theorem loaded_cell {params : CryptoParamsFile} {clusters : Clusters} {c : Nat}
    (loads : loadFromParams params = .ok clusters) (inside : c < clusters.length) :
    (UInt32.ofNat c).toNat = c := by
  obtain ⟨_,rfl⟩ := loadFromParams_ok.mp loads
  rw [Placement.length_place,length_emptyTable] at inside
  have small := params.num_clusters.toNat_lt
  rw [UInt32.toNat_ofNat']
  omega

/-- An accepted file is usable if and only if every entry names a cluster of the manager, and in
the clusters that it leaves there every member's key has room for the TEK and opens the token. -/
theorem usable_iff {params : CryptoParamsFile} (accepted : validateOrThrow params = .ok ()) :
    (Usable params ↔
      (∀ cp ∈ params.clusters, clusterCell cp < params.num_clusters.toNat) ∧
      ∀ c cp, params.loadedEntry c = some cp →
        ∀ sk ∈ cp.slave_keys, sk.uav_index ∈ cp.user_indices → OpensWith cp sk) ∧
    ∀ cp ∈ params.clusters, MasterKey (loadedKeys cp) → 0 ≤ cp.tek_int →
      TokenFor (loadedKeys cp) cp.user_indices cp.tek_int (loadedCluster cp).mtoken →
      ∀ sk ∈ cp.slave_keys, sk.uav_index ∈ cp.user_indices →
        (OpensWith cp sk ↔ tekToBigInt cp.tek < sk.n_i ∧
          cp.tek_int ≡ tekToBigInt cp.tek [ZMOD sk.n_i]) := by
  have each := (validateOrThrow_ok.mp accepted).each
  refine ⟨?_,fun cp member master nonneg token sk listed inside =>
    genuine_opens (each cp member) master nonneg token listed inside⟩
  constructor
  · intro ⟨clusters,loads,verified,recovered⟩
    refine ⟨(loadFromParams_ok.mp loads).1,?_⟩
    intro c cp entry sk listed inside
    have there := loaded_entry loads entry
    obtain ⟨below,_⟩ := List.getElem?_eq_some_iff.mp there
    have verifies := verifyAll_ok.mp verified c below
    rw [verifyCluster_ok ((loaded_cell loads below).symm ▸ there)] at verifies
    have member := List.mem_of_getElem? there
    exact (member_opens (each cp (Placement.lastAt_some entry).1) listed).mp
      ⟨verifies sk listed inside,recovered _ member sk listed inside⟩
  · intro ⟨bounded,opens⟩
    obtain ⟨clusters,loads⟩ : ∃ clusters, loadFromParams params = .ok clusters :=
      ⟨_,loadFromParams_ok.mpr ⟨bounded,rfl⟩⟩
    -- A member of a cluster that stayed empty would have nothing to open.
    have every : ∀ cs ∈ clusters, ∀ sk ∈ cs.mkg.slaves, sk.uav_index ∈ cs.mtoken.user_indices →
        verifySlaveDecrypt sk cs.mtoken.MT_K cs.mtoken.T = .ok true ∧
          (slaveDecrypt sk cs.mtoken.MT_K >>= tekFromBigInt) = .ok cs.tek := by
      intro cs member sk listed inside
      rcases mem_loaded loads member with ⟨c,cp,entry,rfl⟩ | rfl
      · exact (member_opens (each cp (Placement.lastAt_some entry).1) listed).mpr
          (opens c cp entry sk listed inside)
      · cases listed
    refine ⟨clusters,loads,verifyAll_ok.mpr ?_,fun cs member sk listed inside =>
      (every cs member sk listed inside).2⟩
    intro c below
    obtain ⟨cs,there⟩ : ∃ cs, clusters[c]? = some cs := ⟨_,List.getElem?_eq_getElem below⟩
    have member := List.mem_of_getElem? there
    rw [← loaded_cell loads below] at there
    rw [verifyCluster_ok there]
    exact fun sk listed inside => (every cs member sk listed inside).1

/-- The digits of the key end in three, while the token is that of `tek_int`, which is two. -/
def mismatchedFile : CryptoParamsFile :=
  pairFile [pairCluster 0 3 "0000000000000000000000000000000000000000000000000000000000000003"]

/-- The file is accepted and even verifies, and its members recover another key. -/
theorem mismatched_accepted :
    validateOrThrow mismatchedFile = .ok () ∧ (loadFromParams mismatchedFile >>= verifyAll) = .ok true ∧
    (∀ cp ∈ mismatchedFile.clusters, hexToAesKey cp.tek_hex = .ok cp.tek) ∧
    ¬ Usable mismatchedFile := by
  refine ⟨by decide +kernel,by decide +kernel,?_,?_⟩
  · intro cp member
    cases List.mem_singleton.mp member
    decide +kernel
  · intro ⟨clusters,loads,_,recovered⟩
    have table : loadFromParams mismatchedFile = .ok (mismatchedFile.clusters.map loadedCluster) := rfl
    cases Except.ok.inj (table.symm.trans loads)
    have first := recovered _ (List.mem_singleton_self _) _ (List.mem_cons_self ..) (by decide)
    exact absurd first (by decide +kernel)

/-- The genuine key in the file is that of its token and fits below both moduli. -/
theorem matched_usable : Usable (pairFile [pairCluster 0 2 keyOfTwo]) := by
  have accepted : validateOrThrow (pairFile [pairCluster 0 2 keyOfTwo]) = .ok () := by decide +kernel
  have master : MasterKey (loadedKeys (pairCluster 0 2 keyOfTwo)) :=
    (mKeyGen_ok twoPairs_safe twoSlaves_generated).1
  obtain ⟨mt,produced,token⟩ := mTokenGen_ok master [0,1] 2 0
  have generated : mTokenGen twoSlaves [0,1] 2 0 =
      .ok (loadedCluster (pairCluster 0 2 keyOfTwo)).mtoken := by decide +kernel
  cases Except.ok.inj (generated.symm.trans produced)
  obtain ⟨decides,genuine⟩ := usable_iff accepted
  refine decides.mpr ⟨by decide,?_⟩
  intro c cp entry sk listed inside
  have member := (Placement.lastAt_some entry).1
  cases List.mem_singleton.mp member
  rw [genuine _ member master (by decide) token sk listed inside]
  rcases List.mem_cons.mp listed with rfl | listed
  · decide +kernel
  · cases List.mem_singleton.mp listed
    decide +kernel

end UavFanet
