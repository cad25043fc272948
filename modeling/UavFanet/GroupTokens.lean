import UavFanet.MulticastManager
import UavFanet.MemberUpdates
import UavFanet.SkdcRuns
import Mathlib.Tactic.ReduceModChar

/-! Runs of `AddMember` and `RemoveMember` from an initialised manager: which groups keep the
token of their members. -/
namespace UavFanet.Apps
open Library UavFanet.BigInt UavFanet.CrtManager UavFanet.KeyGroup UavFanet.TokenGeneration
open UavFanet.MemberUpdates

/-- The shape of the files that the generator writes: three clusters of six slaves, which
number from zero in each. -/
structure Fleet (file : CryptoParamsFile) : Prop where
  clusters : file.clusters.length = 3
  indices : ∀ cp ∈ file.clusters, cp.slave_keys.map (·.uav_index) = [0,1,2,3,4,5]

/-- An entry with real keys and the token of all its slaves. -/
structure Genuine (cp : ClusterCryptoEntry) : Prop where
  master : MasterKey (loadedKeys cp)
  token : TokenFor (loadedKeys cp) [0,1,2,3,4,5] cp.tek_int
    { MT_K := cp.MT_K, e_MK := cp.e_MK, T := cp.tek_int, N_group := cp.N_group
      user_indices := [0,1,2,3,4,5], cluster_id := cp.cluster_id, version := 1 }
  nonneg : 0 ≤ cp.tek_int

namespace MulticastManager

/-- The group of cluster `c` has the token of its member set, and every member can leave. -/
structure HasToken (cp : ClusterCryptoEntry) (c : Fin 3) (mgr : MulticastManager) : Prop where
  modulus : (mgr.m_groups c).n_group =
    groupModulus cp.slave_keys (mgr.m_groups c).members.toList
  generated : ∃ mt, mTokenGen (loadedKeys cp) (mgr.m_groups c).members.toList cp.tek_int
    (UInt32.ofNat c) = .ok mt ∧ (mgr.m_groups c).e_mk = mt.e_MK ∧ (mgr.m_groups c).mt_k = mt.MT_K
  decrypts : ∀ sk ∈ cp.slave_keys, sk.uav_index ∈ (mgr.m_groups c).members →
    slaveDecrypt sk (mgr.m_groups c).mt_k = mod cp.tek_int sk.n_i
  removable : ∀ i ∈ (mgr.m_groups c).members, ∀ u,
    (mgr.removeMember (UInt32.ofNat c) i u).2 = .ok true

/-- The members are slaves, and the token is theirs. -/
structure Tracks (cp : ClusterCryptoEntry) (c : Fin 3) (mgr : MulticastManager) : Prop where
  entry : mgr.m_params.bind (fun file => file.clusters[c]?) = some cp
  keys : mgr.m_mkg c = loadedKeys cp
  slaves : ∀ i ∈ (mgr.m_groups c).members, ∃ sk ∈ cp.slave_keys, sk.uav_index = i
  token : TokenFor (loadedKeys cp) (mgr.m_groups c).members.toList cp.tek_int
    (groupToken c cp.tek_int (mgr.m_groups c))

section Cluster

variable {cp : ClusterCryptoEntry} {c : Fin 3} {mgr : MulticastManager}

private theorem stored_token {members : List UInt32} {mt : MTokenResult} {g : MulticastGroupInfo}
    (token : TokenFor (loadedKeys cp) members cp.tek_int mt) (same : ∀ i, i ∈ g.members ↔ i ∈ members)
    (power : g.mt_k = mt.MT_K) (exponent : g.e_mk = mt.e_MK) (modulus : g.n_group = mt.N_group) :
    TokenFor (loadedKeys cp) g.members.toList cp.tek_int (groupToken c cp.tek_int g) := by
  have listed : ∀ i, i ∈ g.members.toList ↔ i ∈ members :=
    fun i => Std.ExtTreeSet.mem_toList.trans (same i)
  have regrouped := token.regroup listed
  refine ⟨?_,?_,?_,rfl,rfl⟩
  · simpa only [groupToken,exponent] using regrouped.exponent
  · simpa only [groupToken,modulus] using regrouped.modulus
  · simpa only [groupToken,exponent,modulus,power] using regrouped.power

theorem Tracks.joined (master : MasterKey (loadedKeys cp))
    (distinct : (cp.slave_keys.map (·.uav_index)).Nodup) (tracks : Tracks cp c mgr) {i u : UInt32}
    {result : MTokenResult} (outside : i ∉ (mgr.m_groups c).members)
    (updated : joKeyUpdate (loadedKeys cp) (groupToken c cp.tek_int (mgr.m_groups c)) i = .ok result) :
    Tracks cp c (mgr.joined c i u result) := by
  obtain ⟨sk,member,rfl⟩ := joKeyUpdate_slave updated
  obtain ⟨mt,produced,token⟩ := joKeyUpdate_ok master distinct tracks.token member
    (by simpa using outside)
  rw [updated,Except.ok.injEq] at produced
  subst produced
  refine ⟨tracks.entry,tracks.keys,?_,?_⟩
  · intro j inside
    rw [joined_same,Std.ExtTreeSet.mem_insert] at inside
    rcases inside with same | inside
    · exact ⟨sk,member,by simpa using same⟩
    · exact tracks.slaves j inside
  · rw [joined_same]
    apply stored_token token _ rfl rfl rfl
    intro j
    rw [Std.ExtTreeSet.mem_insert,List.mem_append,List.mem_singleton,Std.ExtTreeSet.mem_toList,
      Std.LawfulEqCmp.compare_eq_iff_eq,or_comm,eq_comm]

theorem Tracks.left (master : MasterKey (loadedKeys cp))
    (distinct : (cp.slave_keys.map (·.uav_index)).Nodup) (tracks : Tracks cp c mgr) {i u : UInt32}
    {result : MTokenResult} (inside : i ∈ (mgr.m_groups c).members)
    (updated : leKeyUpdate (loadedKeys cp) (groupToken c cp.tek_int (mgr.m_groups c)) i = .ok result) :
    Tracks cp c (mgr.left c i u result) := by
  obtain ⟨sk,member,rfl⟩ := leKeyUpdate_slave updated
  obtain ⟨mt,produced,token⟩ := leKeyUpdate_ok master distinct tracks.token member
    (by simpa using inside)
  rw [updated,Except.ok.injEq] at produced
  subst produced
  refine ⟨tracks.entry,tracks.keys,?_,?_⟩
  · intro j kept
    rw [left_same,Std.ExtTreeSet.mem_erase] at kept
    exact tracks.slaves j kept.2
  · rw [left_same]
    apply stored_token token _ rfl rfl rfl
    intro j
    rw [Std.ExtTreeSet.mem_erase,List.mem_filter,Std.ExtTreeSet.mem_toList,and_comm,bne_iff_ne,
      ne_eq,ne_eq,Std.LawfulEqCmp.compare_eq_iff_eq,eq_comm]

theorem Tracks.other (tracks : Tracks cp c mgr) {next : MulticastManager}
    (params : next.m_params = mgr.m_params) (keys : next.m_mkg = mgr.m_mkg)
    (group : next.m_groups c = mgr.m_groups c) : Tracks cp c next := by
  obtain ⟨entry,same,slaves,token⟩ := tracks
  refine ⟨?_,?_,?_,?_⟩
  · rwa [params]
  · rwa [keys]
  · rwa [group]
  · rwa [group]

theorem Tracks.perform (master : MasterKey (loadedKeys cp))
    (distinct : (cp.slave_keys.map (·.uav_index)).Nodup) (tracks : Tracks cp c mgr)
    (call : GroupCall) : Tracks cp c (call.perform mgr).1 := by
  apply call.perform_cluster (c := c)
  · intro next params keys group
    exact tracks.other params keys group
  · intro i u result outside updated
    rw [currentToken_some tracks.entry,Result.ok_bind,tracks.keys] at updated
    exact tracks.joined master distinct outside updated
  · intro i u result inside updated
    rw [currentToken_some tracks.entry,Result.ok_bind,tracks.keys] at updated
    exact tracks.left master distinct inside updated

theorem Tracks.hasToken (genuine : Genuine cp)
    (distinct : (cp.slave_keys.map (·.uav_index)).Nodup) (tracks : Tracks cp c mgr) :
    HasToken cp c mgr where
  modulus := tracks.token.modulus
  generated := by
    obtain ⟨mt,produced,token⟩ := mTokenGen_ok genuine.master (mgr.m_groups c).members.toList
      cp.tek_int (UInt32.ofNat c)
    obtain ⟨exponents,_,powers⟩ := tracks.token.unique genuine.master token
    exact ⟨mt,produced,exponents,powers⟩
  decrypts := by
    intro sk member inside
    have positive := (genuine.master.slave sk member).modulus_positive
    rw [mod_positive positive]
    exact slaveDecrypt_token genuine.master genuine.nonneg tracks.token member (by simpa using inside)
  removable := by
    intro i inside u
    obtain ⟨sk,member,rfl⟩ := tracks.slaves i inside
    obtain ⟨mt,produced,_⟩ := leKeyUpdate_ok genuine.master distinct tracks.token member
      (by simpa using inside)
    simp only [removeMember,clusterSlot_ofNat,inside,not_true_eq_false,if_false,
      currentToken_some tracks.entry,Result.ok_bind,tracks.keys,produced]

end Cluster

end MulticastManager

def GroupCall.step (mgr : MulticastManager) (call : GroupCall) :
    MulticastManager × Option (Result Bool) :=
  ((call.perform mgr).1,some (call.perform mgr).2)

namespace MulticastManager

variable {file : CryptoParamsFile} {cp : ClusterCryptoEntry}

/-- In cluster zero the numbers of the first members are slave indices. -/
theorem start_tracks (fleet : Fleet file) (entry : file.clusters[(0 : Fin 3)]? = some cp)
    (genuine : Genuine cp) : Tracks cp 0 (start file) := by
  have indices := fleet.indices cp (List.mem_of_getElem? entry)
  have listed : ∀ i, i ∈ ((start file).m_groups 0).members ↔ i ∈ [0,1,2,3,4,5] :=
    fun i => (mem_start entry).trans SkdcApplication.mem_initialMembers
  refine ⟨entry,start_keys entry,?_,?_⟩
  · intro i inside
    have found := (listed i).mp inside
    rw [← indices] at found
    exact List.mem_map.mp found
  · apply stored_token genuine.token listed
    · rw [start_group entry]; rfl
    · rw [start_group entry]; rfl
    · rw [start_group entry]; rfl

/-- A member that no slave key belongs to. -/
structure Stuck (i : UInt32) (c : Fin 3) (mgr : MulticastManager) : Prop where
  member : i ∈ (mgr.m_groups c).members
  keyless : ∀ sk ∈ (mgr.m_mkg c).slaves, sk.uav_index ≠ i

theorem Stuck.perform {i : UInt32} {c : Fin 3} {mgr : MulticastManager} (stuck : Stuck i c mgr)
    (call : GroupCall) : Stuck i c (call.perform mgr).1 := by
  obtain ⟨member,keyless⟩ := stuck
  apply call.perform_cluster (c := c)
  · intro next params keys group
    rw [← group] at member
    rw [← keys] at keyless
    exact ⟨member,keyless⟩
  · intro j u result outside updated
    refine ⟨?_,keyless⟩
    rw [joined_same,Std.ExtTreeSet.mem_insert]
    exact .inr member
  · intro j u result inside updated
    refine ⟨?_,keyless⟩
    obtain ⟨current,_,updated⟩ := Result.bind_ok.mp updated
    obtain ⟨sk,slave,named⟩ := leKeyUpdate_slave updated
    rw [left_same,Std.ExtTreeSet.mem_erase,ne_eq,Std.LawfulEqCmp.compare_eq_iff_eq]
    refine ⟨?_,member⟩
    intro same
    exact keyless sk slave (named.trans same)

theorem Stuck.not_removable {i : UInt32} {c : Fin 3} {mgr : MulticastManager}
    (stuck : Stuck i c mgr) (u : UInt32) :
    (mgr.removeMember (UInt32.ofNat c) i u).2 ≠ .ok true := by
  intro removed
  have outcome := (GroupCall.remove (UInt32.ofNat c) i u).perform_outcome mgr
  generalize reached : (GroupCall.remove (UInt32.ofNat c) i u).perform mgr = result at outcome
  have value : result.2 = .ok true := by
    rw [← reached]
    exact removed
  cases outcome with
  | removeRefused absent => cases value
  | removeFailed slot inside thrown => cases value
  | removed slot inside updated =>
    rw [clusterSlot_ofNat] at slot
    cases slot
    obtain ⟨current,_,updated⟩ := Result.bind_ok.mp updated
    obtain ⟨sk,slave,named⟩ := leKeyUpdate_slave updated
    exact stuck.keyless sk slave named

theorem start_stuck (fleet : Fleet file) {c : Fin 3} (entry : file.clusters[c]? = some cp)
    (later : c ≠ 0) : Stuck (UInt32.ofNat c*6) c (start file) := by
  have indices := fleet.indices cp (List.mem_of_getElem? entry)
  refine ⟨?_,?_⟩
  · rw [mem_start entry,SkdcApplication.mem_initialMembers]
    exact List.mem_cons_self
  · rw [start_keys entry]
    intro sk slave named
    have inside : UInt32.ofNat c*6 ∈ [0,1,2,3,4,5] := by
      rw [← indices,← named]
      exact List.mem_map_of_mem slave
    revert later inside
    fin_cases c <;> decide

/-- Of an initialised manager the groups of the clusters after the first never have the token
of their members: a first member is numbered as a UAV of the fleet, and none can leave whose
number is no slave index. Cluster zero keeps its token over every run. -/
theorem group_tokens (fleet : Fleet file) (calls : List GroupCall) :
    ¬ (∀ c : Fin 3, ∀ cp, file.clusters[c]? = some cp →
        HasToken cp c (Run.final GroupCall.step (start file) calls)) ∧
    ∀ (c : Fin 3) (cp : ClusterCryptoEntry), file.clusters[c]? = some cp → Genuine cp →
      (HasToken cp c (Run.final GroupCall.step (start file) calls) ↔ c = 0) := by
  have lost : ∀ (c : Fin 3) (cp : ClusterCryptoEntry), file.clusters[c]? = some cp → c ≠ 0 →
      ¬ HasToken cp c (Run.final GroupCall.step (start file) calls) := by
    intro c cp entry later has
    have stuck : Stuck (UInt32.ofNat c*6) c (Run.final GroupCall.step (start file) calls) :=
      Run.final_invariant GroupCall.step (fun mgr call kept => kept.perform call)
        (start_stuck fleet entry later) calls
    exact stuck.not_removable 0 (has.removable _ stuck.member 0)
  constructor
  · intro every
    have present : (1 : Nat) < file.clusters.length := by
      rw [fleet.clusters]
      decide
    have entry : file.clusters[(1 : Fin 3)]? = some file.clusters[1] :=
      List.getElem?_eq_getElem present
    exact lost 1 _ entry (by decide) (every 1 _ entry)
  · intro c cp entry genuine
    constructor
    · intro has
      by_contra later
      exact lost c cp entry later has
    · rintro rfl
      have distinct : (cp.slave_keys.map (·.uav_index)).Nodup := by
        rw [fleet.indices cp (List.mem_of_getElem? entry)]
        decide
      have tracks : Tracks cp 0 (Run.final GroupCall.step (start file) calls) :=
        Run.final_invariant GroupCall.step
          (fun mgr call kept => kept.perform genuine.master distinct call)
          (start_tracks fleet entry genuine) calls
      exact tracks.hasToken genuine distinct

theorem fleetFile_fleet : Fleet fleetFile where
  clusters := rfl
  indices := by
    intro cp member
    simp only [fleetFile,List.mem_cons,List.not_mem_nil,or_false] at member
    rcases member with rfl | rfl | rfl
    · rfl
    · rfl
    · rfl

def sampleDraws (position : Nat) : List UInt64 := if position = 0 then [2] else [0]

def samplePairs : List (Int × Int) :=
  [(7,11),(23,47),(59,83),(107,167),(179,227),(263,347)]

theorem samplePairs_safe : SafePairs samplePairs where
  safe := by
    intro pair member
    simp only [samplePairs,List.mem_cons,List.not_mem_nil,or_false] at member
    rcases member with rfl | rfl | rfl | rfl | rfl | rfl
    all_goals
      constructor
      · exact ⟨by decide,by decide +kernel,by decide +kernel⟩
      · exact ⟨by decide,by decide +kernel,by decide +kernel⟩
  distinct := by decide

theorem sampleEntry_generated : mKeyGen sampleDraws samplePairs = .ok (loadedKeys sampleEntry) := by
  decide +kernel

theorem sampleEntry_power :
    modPow sampleEntry.tek_int sampleEntry.e_MK sampleEntry.N_group = .ok sampleEntry.MT_K := by
  rw [modPow_nonneg (by decide) (by decide) (by decide)]
  -- The power itself has more than 10^19 bits.
  have power : (2 : ℤ)^16890021938993478973 ≡ 24904538995484444441791
      [ZMOD 27009147924680312986133] := by
    apply (ZMod.intCast_eq_intCast_iff _ _ 27009147924680312986133).mp
    rw [Int.cast_pow,Int.cast_ofNat,Int.cast_ofNat]
    reduce_mod_char
  exact congrArg Except.ok power

theorem sampleEntry_genuine : Genuine sampleEntry where
  master := (mKeyGen_ok samplePairs_safe sampleEntry_generated).1
  token := {
    exponent := ⟨by decide +kernel,by decide +kernel,by decide +kernel⟩
    modulus := by decide +kernel
    power := sampleEntry_power
    secret := rfl
    users := rfl }
  nonneg := by decide

/-- UAV 3 leaves cluster zero and comes back, and its cluster keeps its token. -/
theorem fleetFile_tokens : ¬ (∀ c : Fin 3, ∀ cp, fleetFile.clusters[c]? = some cp →
      HasToken cp c (Run.final GroupCall.step (start fleetFile) [.remove 0 3 3,.add 0 3 3])) ∧
    HasToken sampleEntry 0
      (Run.final GroupCall.step (start fleetFile) [.remove 0 3 3,.add 0 3 3]) := by
  obtain ⟨never,each⟩ := group_tokens fleetFile_fleet [.remove 0 3 3,.add 0 3 3]
  exact ⟨never,(each 0 sampleEntry rfl sampleEntry_genuine).mpr rfl⟩

/-- Right after initialisation UAV 6 is a member of cluster one that cannot leave. -/
theorem sixth_member_stuck :
    Fleet fleetFile ∧ (loadFromParams fleetFile >>= verifyAll) = .ok true ∧
    (6 : UInt32) ∈ ((start fleetFile).m_groups 1).members ∧
    ((start fleetFile).removeMember 1 6 6).2 =
      .error (.cryptoException "LeKeyUpdate: slave index 6 not found") ∧
    ¬ HasToken secondEntry 1 (start fleetFile) := by
  have member : (6 : UInt32) ∈ ((start fleetFile).m_groups 1).members := by decide +kernel
  have thrown : ((start fleetFile).removeMember 1 6 6).2 =
      .error (.cryptoException "LeKeyUpdate: slave index 6 not found") := by decide +kernel
  refine ⟨fleetFile_fleet,by decide +kernel,member,thrown,?_⟩
  intro has
  have removed := has.removable 6 member 6
  exact absurd (thrown.symm.trans removed) (by decide)

end MulticastManager
end UavFanet.Apps
