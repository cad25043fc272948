import UavFanet.TokenSecrets

/-! `MulticastManager::HandoverMember`: a removal and an addition that fail apart from each
other, and who recovers the tokens of the two groups afterwards. -/
namespace UavFanet.MemberHandovers
open Library UavFanet.BigInt UavFanet.CrtManager UavFanet.KeyGroup UavFanet.TokenGeneration
open UavFanet.MemberUpdates UavFanet.Apps UavFanet.Apps.MulticastManager

/-- The calls that change the groups of a manager. -/
inductive MemberCall where
  | update (call : GroupCall)
  | handover (old_cluster new_cluster uav_index uav_id : UInt32)
  deriving DecidableEq,Repr

namespace MemberCall

def perform (mgr : MulticastManager) : MemberCall → MulticastManager × Result Bool
  | update call => call.perform mgr
  | handover old_cluster new_cluster uav_index uav_id =>
    mgr.handoverMember old_cluster new_cluster uav_index uav_id

def step (mgr : MulticastManager) (call : MemberCall) : MulticastManager × Option (Result Bool) :=
  ((call.perform mgr).1,some (call.perform mgr).2)

end MemberCall

section States

variable (mgr : MulticastManager) (c : Fin 3) (i : UInt32)

def HasKey : Prop := ∃ sk ∈ (mgr.m_mkg c).slaves, sk.uav_index = i

def Leaves : Prop := i ∈ (mgr.m_groups c).members ∧ HasKey mgr c i

def Enters : Prop := i ∉ (mgr.m_groups c).members ∧ HasKey mgr c i

def newIndex : UInt32 := UInt32.ofNat c*6+UInt32.ofNat (mgr.m_groups c).members.size

/-- The member decrypts the token of its group to the secret. -/
def Recovers : Prop := ∃ current sk, mgr.currentToken c = .ok current ∧
  findSlave (mgr.m_mkg c) i = some sk ∧ verifySlaveDecrypt sk current.MT_K current.T = .ok true

variable {mgr c i}

instance : Decidable (HasKey mgr c i) :=
  inferInstanceAs (Decidable (∃ sk ∈ (mgr.m_mkg c).slaves, sk.uav_index = i))

instance : Decidable (Leaves mgr c i) :=
  inferInstanceAs (Decidable (i ∈ (mgr.m_groups c).members ∧ HasKey mgr c i))

instance : Decidable (Enters mgr c i) :=
  inferInstanceAs (Decidable (i ∉ (mgr.m_groups c).members ∧ HasKey mgr c i))

theorem Recovers.hasKey (recovers : Recovers mgr c i) : HasKey mgr c i := by
  obtain ⟨current,sk,_,found,_⟩ := recovers
  exact ⟨sk,findSlave_some found⟩

theorem Recovers.other (recovers : Recovers mgr c i) {next : MulticastManager}
    (params : next.m_params = mgr.m_params) (keys : next.m_mkg = mgr.m_mkg)
    (group : next.m_groups c = mgr.m_groups c) : Recovers next c i := by
  rw [Recovers,currentToken,params,keys,group]
  exact recovers

end States

section Updates

variable {mgr : MulticastManager} {c : Fin 3} {cp : ClusterCryptoEntry}

/-- The token of a cluster is a power of the secret, modulo a multiple of the moduli of all members
with a slave key. Nothing is said about the members that the exponent counts. -/
structure Powered (cp : ClusterCryptoEntry) (c : Fin 3) (mgr : MulticastManager) : Prop where
  entry : mgr.m_params.bind (fun file => file.clusters[c]?) = some cp
  keys : mgr.m_mkg c = loadedKeys cp
  exponent : 0 ≤ (mgr.m_groups c).e_mk ∧ (mgr.m_groups c).e_mk%4 = 1
  positive : 0 < (mgr.m_groups c).n_group
  moduli : ∀ sk ∈ cp.slave_keys, sk.uav_index ∈ (mgr.m_groups c).members →
    sk.n_i ∣ (mgr.m_groups c).n_group
  power : modPow cp.tek_int (mgr.m_groups c).e_mk (mgr.m_groups c).n_group =
    .ok (mgr.m_groups c).mt_k

theorem Powered.other (powered : Powered cp c mgr) {next : MulticastManager}
    (params : next.m_params = mgr.m_params) (keys : next.m_mkg = mgr.m_mkg)
    (group : next.m_groups c = mgr.m_groups c) : Powered cp c next := by
  obtain ⟨entry,same,exponent,positive,moduli,power⟩ := powered
  refine ⟨?_,?_,?_,?_,?_,?_⟩
  · rwa [params]
  · rwa [keys]
  · rwa [group]
  · rwa [group]
  · rwa [group]
  · rwa [group]

theorem Powered.updated (master : MasterKey (loadedKeys cp)) (powered : Powered cp c mgr)
    {exponent : ℤ} {listed : List UInt32} {result : MTokenResult}
    (updated : Updated (loadedKeys cp) exponent cp.tek_int listed result) {members : Members}
    (covered : ∀ j ∈ members, j ∈ listed) {next : MulticastManager}
    (params : next.m_params = mgr.m_params) (keys : next.m_mkg = mgr.m_mkg)
    (group : next.m_groups c = { mgr.m_groups c with
      members
      version := result.version
      mt_k := result.MT_K
      n_group := result.N_group
      e_mk := result.e_MK }) : Powered cp c next where
  entry := by rw [params]; exact powered.entry
  keys := by rw [keys]; exact powered.keys
  exponent := by rw [group]; exact ⟨updated.range.1,updated.four⟩
  positive := by
    rw [group,updated.modulus]
    exact groupModulus_positive master listed
  moduli := by
    intro sk member inside
    rw [group] at inside ⊢
    rw [updated.modulus]
    exact List.dvd_prod (List.mem_map_of_mem
      (List.mem_filter.mpr ⟨member,inGroup_iff.mpr (covered _ inside)⟩))
  power := by rw [group]; exact updated.power

variable (master : MasterKey (loadedKeys cp)) (distinct : (cp.slave_keys.map (·.uav_index)).Nodup)
include master distinct

theorem joined_updated {i : UInt32} {result : MTokenResult}
    (updated : joKeyUpdate (loadedKeys cp) (groupToken c cp.tek_int (mgr.m_groups c)) i = .ok result) :
    ∃ sk ∈ cp.slave_keys, sk.uav_index = i ∧
      Updated (loadedKeys cp) ((mgr.m_groups c).e_mk+contribution sk) cp.tek_int
        ((mgr.m_groups c).members.toList ++ [i]) result := by
  obtain ⟨sk,member,rfl⟩ := joKeyUpdate_slave updated
  obtain ⟨mt,produced,found⟩ := joKeyUpdate_updated master distinct
    (groupToken c cp.tek_int (mgr.m_groups c)) member
  rw [updated,Except.ok.injEq] at produced
  subst produced
  exact ⟨sk,member,rfl,found⟩

theorem left_updated {i : UInt32} {result : MTokenResult}
    (updated : leKeyUpdate (loadedKeys cp) (groupToken c cp.tek_int (mgr.m_groups c)) i = .ok result) :
    ∃ sk ∈ cp.slave_keys, sk.uav_index = i ∧
      Updated (loadedKeys cp) ((mgr.m_groups c).e_mk-contribution sk) cp.tek_int
        ((mgr.m_groups c).members.toList.filter (· != i)) result := by
  obtain ⟨sk,member,rfl⟩ := leKeyUpdate_slave updated
  obtain ⟨mt,produced,found⟩ := leKeyUpdate_updated master distinct
    (groupToken c cp.tek_int (mgr.m_groups c)) member
  rw [updated,Except.ok.injEq] at produced
  subst produced
  exact ⟨sk,member,rfl,found⟩

theorem Powered.joined (powered : Powered cp c mgr) {i u : UInt32} {result : MTokenResult}
    (updated : joKeyUpdate (loadedKeys cp) (groupToken c cp.tek_int (mgr.m_groups c)) i = .ok result) :
    Powered cp c (mgr.joined c i u result) := by
  obtain ⟨sk,member,rfl,found⟩ := joined_updated master distinct updated
  refine powered.updated master found ?_ rfl rfl (mgr.joined_same c _ u result)
  intro j inside
  rw [Std.ExtTreeSet.mem_insert,Std.LawfulEqCmp.compare_eq_iff_eq] at inside
  rw [List.mem_append,List.mem_singleton,Std.ExtTreeSet.mem_toList,or_comm,eq_comm]
  exact inside

theorem Powered.left (powered : Powered cp c mgr) {i u : UInt32} {result : MTokenResult}
    (updated : leKeyUpdate (loadedKeys cp) (groupToken c cp.tek_int (mgr.m_groups c)) i = .ok result) :
    Powered cp c (mgr.left c i u result) := by
  obtain ⟨sk,member,rfl,found⟩ := left_updated master distinct updated
  refine powered.updated master found ?_ rfl rfl (mgr.left_same c _ u result)
  intro j inside
  rw [Std.ExtTreeSet.mem_erase,ne_eq,Std.LawfulEqCmp.compare_eq_iff_eq] at inside
  rw [List.mem_filter,bne_iff_ne,Std.ExtTreeSet.mem_toList]
  exact ⟨inside.2,fun same => inside.1 same.symm⟩

theorem Powered.perform (powered : Powered cp c mgr) (call : GroupCall) :
    Powered cp c (call.perform mgr).1 := by
  apply call.perform_cluster (c := c)
  · intro next params keys group
    exact powered.other params keys group
  · intro i u result outside updated
    rw [currentToken_some powered.entry,Result.ok_bind,powered.keys] at updated
    exact powered.joined master distinct updated
  · intro i u result inside updated
    rw [currentToken_some powered.entry,Result.ok_bind,powered.keys] at updated
    exact powered.left master distinct updated

end Updates

section Recovery

variable {mgr next : MulticastManager} {c : Fin 3} {cp : ClusterCryptoEntry} {sk : SlaveKeyEntry}
  (genuine : Genuine cp) (distinct : (cp.slave_keys.map (·.uav_index)).Nodup)
  (member : sk ∈ cp.slave_keys)
include genuine distinct member

theorem Powered.recovers_iff (powered : Powered cp c mgr)
    (inside : sk.uav_index ∈ (mgr.m_groups c).members) : Recovers mgr c sk.uav_index ↔
      cp.tek_int^((mgr.m_groups c).e_mk.toNat*sk.d_i.toNat) ≡ cp.tek_int [ZMOD sk.n_i] := by
  have key := genuine.master.slave sk member
  have found : findSlave (mgr.m_mkg c) sk.uav_index = some sk := by
    rw [powered.keys]
    exact findSlave_index distinct member
  have decrypted := slaveDecrypt_power key genuine.nonneg powered.exponent.1 powered.positive
    (powered.moduli sk member inside) powered.power
  have verified : verifySlaveDecrypt sk (mgr.m_groups c).mt_k cp.tek_int =
      .ok (cp.tek_int^((mgr.m_groups c).e_mk.toNat*sk.d_i.toNat)%sk.n_i == cp.tek_int%sk.n_i) := by
    rw [verifySlaveDecrypt,decrypted,mod_positive key.modulus_positive]
    rfl
  constructor
  · rintro ⟨current,other,token,named,recovered⟩
    rw [currentToken_some powered.entry] at token
    cases token
    obtain rfl : sk = other := Option.some.inj (found.symm.trans named)
    rw [groupToken,verified,Except.ok.injEq,beq_iff_eq] at recovered
    exact recovered
  · intro same
    refine ⟨_,sk,currentToken_some powered.entry,found,?_⟩
    rw [groupToken,verified,Except.ok.injEq,beq_iff_eq]
    exact same

theorem Powered.recovers_after (before : Powered cp c mgr) (after : Powered cp c next)
    (was : sk.uav_index ∈ (mgr.m_groups c).members) (is : sk.uav_index ∈ (next.m_groups c).members)
    (same : (next.m_groups c).e_mk ≡ (mgr.m_groups c).e_mk [ZMOD sk.xy_i])
    (recovers : Recovers mgr c sk.uav_index) : Recovers next c sk.uav_index := by
  have key := genuine.master.slave sk member
  rw [before.recovers_iff genuine distinct member was] at recovers
  rw [after.recovers_iff genuine distinct member is]
  obtain ⟨low,four⟩ := before.exponent
  obtain ⟨low',four'⟩ := after.exponent
  have whole := exponents_modEq key (four'.trans four.symm) same
  have exponents : (((next.m_groups c).e_mk.toNat*sk.d_i.toNat : ℕ) : ℤ) ≡
      ((mgr.m_groups c).e_mk.toNat*sk.d_i.toNat : ℕ) [ZMOD 4*sk.xy_i] := by
    rw [Nat.cast_mul,Nat.cast_mul,Int.toNat_of_nonneg low,Int.toNat_of_nonneg low']
    exact whole.mul_right _
  have positive : ∀ e : ℤ, 0 ≤ e → e%4 = 1 → 0 < e.toNat*sk.d_i.toNat := by
    intro e nonneg one
    exact Nat.mul_pos (by omega) (decryption_positive key)
  exact (power_modulus key (positive _ low' four') (positive _ low four) exponents _).trans recovers

end Recovery

theorem Powered.left_recovers {mgr : MulticastManager} {c : Fin 3} {cp : ClusterCryptoEntry}
    (genuine : Genuine cp) (distinct : (cp.slave_keys.map (·.uav_index)).Nodup)
    (powered : Powered cp c mgr) {i j u : UInt32} {result : MTokenResult}
    (updated : leKeyUpdate (loadedKeys cp) (groupToken c cp.tek_int (mgr.m_groups c)) i = .ok result)
    (was : j ∈ (mgr.m_groups c).members) (apart : j ≠ i) (recovers : Recovers mgr c j) :
    Recovers (mgr.left c i u result) c j := by
  obtain ⟨sk,member,rfl⟩ := recovers.hasKey
  rw [powered.keys] at member
  obtain ⟨leaver,leaving,rfl,found⟩ := left_updated genuine.master distinct updated
  have is : sk.uav_index ∈ ((mgr.left c leaver.uav_index u result).m_groups c).members := by
    rw [left_same,Std.ExtTreeSet.mem_erase,ne_eq,Std.LawfulEqCmp.compare_eq_iff_eq]
    exact ⟨fun same => apart same.symm,was⟩
  have kept : contribution leaver ≡ 0 [ZMOD sk.xy_i] := by
    have residue := genuine.master.based.contribution_residue leaving member
    rwa [if_neg (fun same => apart (congrArg SlaveKeyEntry.uav_index same))] at residue
  refine powered.recovers_after genuine distinct member
    (powered.left genuine.master distinct updated) was is ?_ recovers
  rw [left_same]
  have residue := found.residue.of_dvd (modulus_dvd_total genuine.master member)
  have difference := (Int.ModEq.refl (mgr.m_groups c).e_mk).sub kept
  rw [sub_zero] at difference
  exact residue.trans difference

section Runs

variable {file : CryptoParamsFile} {mgr : MulticastManager}

/-- No member number of the cluster is larger than those of the fleet. -/
def Small (c : Fin 3) (mgr : MulticastManager) : Prop :=
  ∀ i ∈ (mgr.m_groups c).members, i.toNat < 18

/-- What holds of a manager in every run from the file. -/
structure Reached (file : CryptoParamsFile) (mgr : MulticastManager) : Prop where
  powered : ∀ (c : Fin 3) (cp : ClusterCryptoEntry), file.clusters[c]? = some cp → Powered cp c mgr
  small : ∀ c, Small c mgr
  stuck : ∀ c : Fin 3, c ≠ 0 → Stuck (UInt32.ofNat c*6) c mgr
  tracks : ∀ cp, file.clusters[(0 : Fin 3)]? = some cp → Tracks cp 0 mgr

theorem fleet_entry (fleet : Fleet file) (c : Fin 3) : ∃ cp, file.clusters[c]? = some cp := by
  have present : (c : Nat) < file.clusters.length := by
    rw [fleet.clusters]
    exact c.isLt
  exact ⟨file.clusters[c],List.getElem?_eq_getElem present⟩

theorem fleet_index (fleet : Fleet file) {cp : ClusterCryptoEntry} (listed : cp ∈ file.clusters)
    {sk : SlaveKeyEntry} (member : sk ∈ cp.slave_keys) : sk.uav_index.toNat < 6 := by
  have inside : sk.uav_index ∈ [0,1,2,3,4,5] := by
    rw [← fleet.indices cp listed]
    exact List.mem_map_of_mem member
  simp only [List.mem_cons,List.not_mem_nil,or_false] at inside
  rcases inside with same | same | same | same | same | same
  all_goals
    rw [same]
    decide

theorem start_powered (written : Written file) {c : Fin 3} {cp : ClusterCryptoEntry}
    (entry : file.clusters[c]? = some cp) : Powered cp c (start file) := by
  have listed := List.mem_of_getElem? entry
  have genuine := written.genuine cp listed
  have modulus : cp.N_group = groupModulus cp.slave_keys [0,1,2,3,4,5] := genuine.token.modulus
  refine ⟨entry,start_keys entry,?_,?_,?_,?_⟩
  · rw [start_group entry]
    exact ⟨genuine.token.exponent.range.1,genuine.token.exponent.four⟩
  · rw [start_group entry,initializeGroup,modulus]
    exact groupModulus_positive genuine.master _
  · intro sk member inside
    rw [start_group entry,initializeGroup,modulus]
    apply List.dvd_prod
    apply List.mem_map_of_mem
    refine List.mem_filter.mpr ⟨member,inGroup_iff.mpr ?_⟩
    rw [← written.indices cp listed]
    exact List.mem_map_of_mem member
  · rw [start_group entry]
    exact genuine.token.power

theorem start_reached (written : Written file) : Reached file (start file) where
  powered := fun c cp entry => start_powered written entry
  small := by
    intro c i inside
    obtain ⟨cp,entry⟩ := fleet_entry written.toFleet c
    rw [mem_start entry,SkdcApplication.mem_initialMembers] at inside
    simp only [List.mem_cons,List.not_mem_nil,or_false] at inside
    clear entry
    rcases inside with rfl | rfl | rfl | rfl | rfl | rfl
    all_goals
      revert c
      decide
  stuck := by
    intro c later
    obtain ⟨cp,entry⟩ := fleet_entry written.toFleet c
    exact start_stuck written.toFleet entry later
  tracks := fun cp entry =>
    start_tracks written.toFleet entry (written.genuine cp (List.mem_of_getElem? entry))

theorem Reached.same (reached : Reached file mgr) {next : MulticastManager}
    (params : next.m_params = mgr.m_params) (keys : next.m_mkg = mgr.m_mkg)
    (groups : next.m_groups = mgr.m_groups) : Reached file next where
  powered := fun c cp entry =>
    (reached.powered c cp entry).other params keys (congrFun groups c)
  small := by
    intro c
    rw [Small,groups]
    exact reached.small c
  stuck := by
    intro c later
    obtain ⟨member,keyless⟩ := reached.stuck c later
    exact ⟨groups ▸ member,keys ▸ keyless⟩
  tracks := fun cp entry => (reached.tracks cp entry).other params keys (congrFun groups 0)

variable (written : Written file)
include written

theorem Reached.perform (reached : Reached file mgr) (call : GroupCall) :
    Reached file (call.perform mgr).1 where
  powered := by
    intro c cp entry
    have genuine := written.genuine cp (List.mem_of_getElem? entry)
    exact (reached.powered c cp entry).perform genuine.master (written.distinct entry) call
  small := by
    intro c
    apply call.perform_cluster (c := c)
    · intro next params keys group
      rw [Small,group]
      exact reached.small c
    · intro i u result outside updated j inside
      rw [joined_same,Std.ExtTreeSet.mem_insert,Std.LawfulEqCmp.compare_eq_iff_eq] at inside
      rcases inside with rfl | inside
      · obtain ⟨cp,entry⟩ := fleet_entry written.toFleet c
        obtain ⟨current,_,updated⟩ := Result.bind_ok.mp updated
        obtain ⟨sk,member,rfl⟩ := joKeyUpdate_slave updated
        rw [(reached.powered c cp entry).keys] at member
        have := fleet_index written.toFleet (List.mem_of_getElem? entry) member
        omega
      · exact reached.small c j inside
    · intro i u result present updated j inside
      rw [left_same,Std.ExtTreeSet.mem_erase] at inside
      exact reached.small c j inside.2
  stuck := fun c later => (reached.stuck c later).perform call
  tracks := by
    intro cp entry
    have genuine := written.genuine cp (List.mem_of_getElem? entry)
    exact (reached.tracks cp entry).perform genuine.master (written.distinct entry) call

theorem Reached.removed (reached : Reached file mgr) (k i u : UInt32) :
    Reached file (mgr.removeMember k i u).1 :=
  reached.perform written (.remove k i u)

theorem Reached.added (reached : Reached file mgr) (k i u : UInt32) :
    Reached file (mgr.addMember k i u).1 :=
  reached.perform written (.add k i u)

theorem Reached.handover (reached : Reached file mgr) (old_cluster new_cluster i u : UInt32) :
    Reached file (mgr.handoverMember old_cluster new_cluster i u).1 := by
  unfold handoverMember
  split
  · exact reached
  · rename_i d slot
    split
    · exact reached
    · have removed := reached.removed written old_cluster i u
      split
      · rename_i mid failure result
        rw [result] at removed
        exact removed
      · rename_i mid left result
        rw [result] at removed
        dsimp only
        have added := removed.added written new_cluster
          (new_cluster*6+UInt32.ofNat (mid.m_groups d).members.size) u
        split
        · rename_i last failure result
          rw [result] at added
          exact added
        · rename_i last joined result
          rw [result] at added
          exact added.same rfl rfl rfl

theorem reached_run (calls : List MemberCall) :
    Reached file (Run.final MemberCall.step (start file) calls) := by
  refine Run.final_invariant MemberCall.step ?_ (start_reached written) calls
  intro mgr call reached
  cases call with
  | update call => exact reached.perform written call
  | handover old_cluster new_cluster i u => exact reached.handover written old_cluster new_cluster i u

/-- In a reached state a removal fails for want of membership or of a slave key only. -/
theorem Reached.removal (reached : Reached file mgr) (c : Fin 3) (i u : UInt32) :
    (i ∉ (mgr.m_groups c).members ∧ mgr.removeMember (UInt32.ofNat c) i u = (mgr,.ok false)) ∨
    (i ∈ (mgr.m_groups c).members ∧ ¬ Leaves mgr c i ∧
      ∃ failure, mgr.removeMember (UInt32.ofNat c) i u = (mgr,.error failure)) ∨
    (Leaves mgr c i ∧ ∃ cp result, file.clusters[c]? = some cp ∧
      leKeyUpdate (loadedKeys cp) (groupToken c cp.tek_int (mgr.m_groups c)) i = .ok result ∧
      mgr.removeMember (UInt32.ofNat c) i u = (mgr.left c i u result,.ok true)) := by
  obtain ⟨cp,entry⟩ := fleet_entry written.toFleet c
  have powered := reached.powered c cp entry
  have master := (written.genuine cp (List.mem_of_getElem? entry)).master
  by_cases inside : i ∈ (mgr.m_groups c).members
  · have unfolded : (mgr.currentToken c >>= fun current => leKeyUpdate (mgr.m_mkg c) current i) =
        leKeyUpdate (loadedKeys cp) (groupToken c cp.tek_int (mgr.m_groups c)) i := by
      rw [currentToken_some powered.entry,Result.ok_bind,powered.keys]
    cases updated : leKeyUpdate (loadedKeys cp) (groupToken c cp.tek_int (mgr.m_groups c)) i with
    | error failure =>
      have thrown : mgr.removeMember (UInt32.ofNat c) i u = (mgr,.error failure) := by
        simp only [removeMember,clusterSlot_ofNat,inside,not_true_eq_false,if_false,unfolded,updated]
      refine .inr (.inl ⟨inside,?_,failure,thrown⟩)
      rintro ⟨_,sk,member,rfl⟩
      rw [powered.keys] at member
      obtain ⟨mt,produced,_⟩ := leKeyUpdate_updated master (written.distinct entry)
        (groupToken c cp.tek_int (mgr.m_groups c)) member
      cases updated.symm.trans produced
    | ok result =>
      have removed : mgr.removeMember (UInt32.ofNat c) i u = (mgr.left c i u result,.ok true) := by
        simp only [removeMember,clusterSlot_ofNat,inside,not_true_eq_false,if_false,unfolded,updated]
      refine .inr (.inr ⟨⟨inside,?_⟩,cp,result,entry,updated,removed⟩)
      rw [HasKey,powered.keys]
      exact leKeyUpdate_slave updated
  · left
    refine ⟨inside,?_⟩
    rw [removeMember,clusterSlot_ofNat]
    simp only [inside,not_false_eq_true,if_true]

theorem Reached.addition (reached : Reached file mgr) (c : Fin 3) (i u : UInt32) :
    (¬ Enters mgr c i ∧ ∃ outcome, mgr.addMember (UInt32.ofNat c) i u = (mgr,outcome) ∧
      outcome ≠ .ok true) ∨
    (Enters mgr c i ∧ ∃ result,
      mgr.addMember (UInt32.ofNat c) i u = (mgr.joined c i u result,.ok true)) := by
  obtain ⟨cp,entry⟩ := fleet_entry written.toFleet c
  have powered := reached.powered c cp entry
  have master := (written.genuine cp (List.mem_of_getElem? entry)).master
  by_cases inside : i ∈ (mgr.m_groups c).members
  · refine .inl ⟨fun enters => enters.1 inside,.ok false,?_,by simp⟩
    rw [addMember,clusterSlot_ofNat]
    simp only [inside,if_true]
  · have unfolded : (mgr.currentToken c >>= fun current => joKeyUpdate (mgr.m_mkg c) current i) =
        joKeyUpdate (loadedKeys cp) (groupToken c cp.tek_int (mgr.m_groups c)) i := by
      rw [currentToken_some powered.entry,Result.ok_bind,powered.keys]
    cases updated : joKeyUpdate (loadedKeys cp) (groupToken c cp.tek_int (mgr.m_groups c)) i with
    | error failure =>
      have thrown : mgr.addMember (UInt32.ofNat c) i u = (mgr,.error failure) := by
        simp only [addMember,clusterSlot_ofNat,inside,if_false,unfolded,updated]
      refine .inl ⟨?_,.error failure,thrown,by simp⟩
      rintro ⟨_,sk,member,rfl⟩
      rw [powered.keys] at member
      obtain ⟨mt,produced,_⟩ := joKeyUpdate_updated master (written.distinct entry)
        (groupToken c cp.tek_int (mgr.m_groups c)) member
      cases updated.symm.trans produced
    | ok result =>
      have added : mgr.addMember (UInt32.ofNat c) i u = (mgr.joined c i u result,.ok true) := by
        simp only [addMember,clusterSlot_ofNat,inside,if_false,unfolded,updated]
      refine .inr ⟨⟨inside,?_⟩,result,added⟩
      rw [HasKey,powered.keys]
      exact joKeyUpdate_slave updated

end Runs

/-- How a handover between two clusters ends: with both groups as they were, with one of them
changed, or with both. -/
inductive Outcome (file : CryptoParamsFile) (mgr : MulticastManager) (c d : Fin 3) (i u : UInt32) :
    MulticastManager × Result Bool → Prop
  | idle {after : MulticastManager × Result Bool} (stays : ¬ Leaves mgr c i)
      (out : i ∉ (mgr.m_groups c).members → ¬ Enters mgr d (newIndex mgr d))
      (groups : after.1.m_groups = mgr.m_groups) (failed : after.2 ≠ .ok true) :
      Outcome file mgr c d i u after
  | entered {after : MulticastManager × Result Bool} {result : MTokenResult}
      (absent : i ∉ (mgr.m_groups c).members) (enters : Enters mgr d (newIndex mgr d))
      (groups : after.1.m_groups = (mgr.joined d (newIndex mgr d) u result).m_groups)
      (failed : after.2 ≠ .ok true) : Outcome file mgr c d i u after
  | lost {after : MulticastManager × Result Bool} {result : MTokenResult}
      (leaves : Leaves mgr c i) (out : ¬ Enters mgr d (newIndex mgr d))
      (groups : after.1.m_groups = (mgr.left c i u result).m_groups)
      (failed : after.2 ≠ .ok true) : Outcome file mgr c d i u after
  | moved {after : MulticastManager × Result Bool} {cp : ClusterCryptoEntry}
      {first second : MTokenResult} (leaves : Leaves mgr c i)
      (enters : Enters mgr d (newIndex mgr d)) (entry : file.clusters[c]? = some cp)
      (updated : leKeyUpdate (loadedKeys cp) (groupToken c cp.tek_int (mgr.m_groups c)) i = .ok first)
      (params : after.1.m_params = mgr.m_params) (keys : after.1.m_mkg = mgr.m_mkg)
      (groups : after.1.m_groups =
        ((mgr.left c i u first).joined d (newIndex mgr d) u second).m_groups)
      (done : after.2 = .ok true) : Outcome file mgr c d i u after

section Handovers

variable {file : CryptoParamsFile} {mgr : MulticastManager} (written : Written file)
include written

theorem Reached.handover_outcome (reached : Reached file mgr) {c d : Fin 3} (apart : c ≠ d)
    (i u : UInt32) : Outcome file mgr c d i u
      (mgr.handoverMember (UInt32.ofNat c) (UInt32.ofNat d) i u) := by
  have valid : ¬ (clusterSlot (UInt32.ofNat c) = none ∨ UInt32.ofNat c = UInt32.ofNat d) := by
    rw [clusterSlot_ofNat]
    rintro (missing | same)
    · cases missing
    · have slots := congrArg clusterSlot same
      rw [clusterSlot_ofNat,clusterSlot_ofNat] at slots
      exact apart (Option.some.inj slots)
  rw [handoverMember,clusterSlot_ofNat d]
  simp only [valid,if_false]
  rcases reached.removal written c i u with ⟨absent,removed⟩ | ⟨inside,stays,failure,removed⟩ |
    ⟨leaves,cp,result,entry,updated,removed⟩
  · rw [removed]
    dsimp only
    rcases reached.addition written d (newIndex mgr d) u with
      ⟨out,outcome,added,failed⟩ | ⟨enters,result,added⟩
    · have stays : ¬ Leaves mgr c i := fun leaves => absent leaves.1
      rw [newIndex] at added
      rw [added]
      cases outcome with
      | error failure => exact .idle stays (fun _ => out) rfl (by simp)
      | ok joined => exact .idle stays (fun _ => out) rfl (by simp)
    · rw [newIndex] at added
      rw [added]
      exact .entered absent enters rfl (by simp)
  · rw [removed]
    exact .idle stays (fun absent => absurd inside absent) rfl (by simp)
  · have next := reached.removed written (UInt32.ofNat c) i u
    rw [removed] at next ⊢
    dsimp only at next ⊢
    have group : (mgr.left c i u result).m_groups d = mgr.m_groups d :=
      left_other mgr c i u result apart.symm
    have index : newIndex (mgr.left c i u result) d = newIndex mgr d := by
      rw [newIndex,group,newIndex]
    have same : Enters (mgr.left c i u result) d (newIndex mgr d) ↔
        Enters mgr d (newIndex mgr d) := by
      rw [Enters,group]
      exact Iff.rfl
    have addition := next.addition written d (newIndex mgr d) u
    rw [same] at addition
    rw [← newIndex,index]
    rcases addition with ⟨out,outcome,added,failed⟩ | ⟨enters,second,added⟩
    · rw [added]
      cases outcome with
      | error failure => exact .lost leaves out rfl (by simp)
      | ok joined =>
        cases joined with
        | false => exact .lost leaves out rfl (by simp)
        | true => exact absurd rfl failed
    · rw [added]
      exact .moved leaves enters entry updated rfl rfl rfl rfl

end Handovers

structure Unchanged (before after : MulticastManager) : Prop where
  members : ∀ c i, i ∈ (after.m_groups c).members ↔ i ∈ (before.m_groups c).members
  modulus : ∀ c, (after.m_groups c).n_group = (before.m_groups c).n_group
  exponent : ∀ c, (after.m_groups c).e_mk = (before.m_groups c).e_mk
  token : ∀ c, (after.m_groups c).mt_k = (before.m_groups c).mt_k

/-- One member is gone from the old group and one has come to the new group. -/
structure MovedOne (before after : MulticastManager) (c d : Fin 3) (i : UInt32) : Prop where
  was : i ∈ (before.m_groups c).members
  gone : ∀ j, j ∈ (after.m_groups c).members ↔ j ∈ (before.m_groups c).members ∧ j ≠ i
  arrived : ∃ k, k ∉ (before.m_groups d).members ∧
    ∀ j, j ∈ (after.m_groups d).members ↔ j ∈ (before.m_groups d).members ∨ j = k

def AllRecover (_ after : MulticastManager) (c : Fin 3) : Prop :=
  ∀ j ∈ (after.m_groups c).members, Recovers after c j

/-- The weaker reading: of the members that the group had before, only those have to recover the
token that recovered it then. -/
def StillRecover (before after : MulticastManager) (c : Fin 3) : Prop :=
  ∀ j ∈ (after.m_groups c).members,
    (j ∈ (before.m_groups c).members → Recovers before c j) → Recovers after c j

/-- `HandoverMember` changes nothing, or it reports success and has moved one member. -/
structure Atomic (Recover : MulticastManager → MulticastManager → Fin 3 → Prop)
    (mgr : MulticastManager) (old_cluster new_cluster i u : UInt32) : Prop where
  failed : (mgr.handoverMember old_cluster new_cluster i u).2 ≠ .ok true →
    Unchanged mgr (mgr.handoverMember old_cluster new_cluster i u).1
  done : (mgr.handoverMember old_cluster new_cluster i u).2 = .ok true →
    ∃ c d, clusterSlot old_cluster = some c ∧ clusterSlot new_cluster = some d ∧ c ≠ d ∧
      MovedOne mgr (mgr.handoverMember old_cluster new_cluster i u).1 c d i ∧
      Recover mgr (mgr.handoverMember old_cluster new_cluster i u).1 c ∧
      Recover mgr (mgr.handoverMember old_cluster new_cluster i u).1 d

/-- Neither the removal nor the addition takes effect. The addition is not reached where the
removal throws. -/
def Neither (mgr : MulticastManager) (old_cluster new_cluster i : UInt32) : Prop :=
  ∀ c d, clusterSlot old_cluster = some c → clusterSlot new_cluster = some d → c ≠ d →
    ¬ Leaves mgr c i ∧ (i ∉ (mgr.m_groups c).members → ¬ Enters mgr d (newIndex mgr d))

def Both (mgr : MulticastManager) (old_cluster new_cluster i : UInt32) : Prop :=
  ∃ c d, clusterSlot old_cluster = some c ∧ clusterSlot new_cluster = some d ∧ c ≠ d ∧
    Leaves mgr c i ∧ Enters mgr d (newIndex mgr d)

section Atomicity

variable {file : CryptoParamsFile} {mgr : MulticastManager} {c d : Fin 3} {i u : UInt32}

theorem unchanged_same {after : MulticastManager} (groups : after.m_groups = mgr.m_groups) :
    Unchanged mgr after := by
  constructor
  · intro c i
    rw [groups]
  · intro c
    rw [groups]
  · intro c
    rw [groups]
  · intro c
    rw [groups]

theorem changed_joined {after : MulticastManager} {result : MTokenResult} {k : UInt32}
    (outside : k ∉ (mgr.m_groups d).members)
    (groups : after.m_groups = (mgr.joined d k u result).m_groups) : ¬ Unchanged mgr after := by
  intro same
  apply outside
  rw [← same.members,groups,joined_same,Std.ExtTreeSet.mem_insert]
  exact .inl (Std.LawfulEqCmp.compare_eq_iff_eq.mpr rfl)

theorem changed_left {after : MulticastManager} {result : MTokenResult}
    (inside : i ∈ (mgr.m_groups c).members)
    (groups : after.m_groups = (mgr.left c i u result).m_groups) : ¬ Unchanged mgr after := by
  intro same
  rw [← same.members,groups,left_same,Std.ExtTreeSet.mem_erase] at inside
  exact inside.1 (Std.LawfulEqCmp.compare_eq_iff_eq.mpr rfl)

theorem movedOne (apart : c ≠ d) (inside : i ∈ (mgr.m_groups c).members)
    {after : MulticastManager} {first second : MTokenResult} {k : UInt32}
    (outside : k ∉ (mgr.m_groups d).members)
    (groups : after.m_groups = ((mgr.left c i u first).joined d k u second).m_groups) :
    MovedOne mgr after c d i where
  was := inside
  gone := by
    intro j
    rw [groups,joined_other _ d k u second apart,left_same,Std.ExtTreeSet.mem_erase,ne_eq,
      Std.LawfulEqCmp.compare_eq_iff_eq,and_comm,eq_comm]
  arrived := by
    refine ⟨k,outside,?_⟩
    intro j
    rw [groups,joined_same,left_other _ c i u first apart.symm,Std.ExtTreeSet.mem_insert,
      Std.LawfulEqCmp.compare_eq_iff_eq,or_comm,eq_comm]

variable (written : Written file)
include written

omit written in
theorem size_le {members : Members} {bound : Nat} (small : ∀ i ∈ members, i.toNat < bound) :
    members.size ≤ bound := by
  have distinct : (members.toList.map UInt32.toNat).Nodup :=
    (nodup_toList members).map (fun _ _ same => UInt32.toNat_inj.mp same)
  have within : members.toList.map UInt32.toNat ⊆ List.range bound := by
    intro n listed
    obtain ⟨i,inside,rfl⟩ := List.mem_map.mp listed
    exact List.mem_range.mpr (small i (Std.ExtTreeSet.mem_toList.mp inside))
  have length := (distinct.subperm within).length_le
  rwa [List.length_map,List.length_range,Std.ExtTreeSet.length_toList] at length

/-- Groups are small, so that the assigned index is a slave's in the first cluster only. -/
theorem Reached.enters_first (reached : Reached file mgr) (enters : Enters mgr d (newIndex mgr d)) :
    d = 0 := by
  by_contra later
  obtain ⟨cp,entry⟩ := fleet_entry written.toFleet d
  obtain ⟨_,sk,member,named⟩ := enters
  rw [(reached.powered d cp entry).keys] at member
  have slave := fleet_index written.toFleet (List.mem_of_getElem? entry) member
  have size := size_le (reached.small d)
  have first : ∀ d : Fin 3, (UInt32.ofNat d*6).toNat = d*6 := by decide
  have bound := d.isLt
  have positive : 0 < (d : Nat) := Fin.pos_iff_ne_zero.mpr later
  rw [named,newIndex,UInt32.toNat_add,first,UInt32.toNat_ofNat',Nat.mod_eq_of_lt (by omega)] at slave
  omega

omit written in
theorem neither_iff (apart : c ≠ d) : Neither mgr (UInt32.ofNat c) (UInt32.ofNat d) i ↔
    ¬ Leaves mgr c i ∧ (i ∉ (mgr.m_groups c).members → ¬ Enters mgr d (newIndex mgr d)) := by
  constructor
  · intro neither
    exact neither c d (clusterSlot_ofNat c) (clusterSlot_ofNat d) apart
  · intro without c' d' old new _
    rw [clusterSlot_ofNat] at old new
    cases old
    cases new
    exact without

omit written in
theorem handoverMember_closed {old_cluster new_cluster : UInt32}
    (closed : ¬ ∃ c d, clusterSlot old_cluster = some c ∧ clusterSlot new_cluster = some d ∧ c ≠ d) :
    mgr.handoverMember old_cluster new_cluster i u = (mgr,.ok false) := by
  unfold handoverMember
  split
  · rfl
  · rename_i d new
    rw [if_pos]
    by_contra valid
    rw [not_or] at valid
    obtain ⟨c,old⟩ := Option.ne_none_iff_exists'.mp valid.1
    refine closed ⟨c,d,old,new,?_⟩
    rintro rfl
    exact valid.2 ((clusterSlot_some old).trans (clusterSlot_some new).symm)

/-- Of the ways in which a handover ends, those that change one group only are not atomic. -/
theorem Reached.atomic_between (reached : Reached file mgr)
    (Recover : MulticastManager → MulticastManager → Fin 3 → Prop) (apart : c ≠ d) (i u : UInt32) :
    Atomic Recover mgr (UInt32.ofNat c) (UInt32.ofNat d) i u ↔
      Neither mgr (UInt32.ofNat c) (UInt32.ofNat d) i ∨
      (Leaves mgr c i ∧ Enters mgr d (newIndex mgr d) ∧
        Recover mgr (mgr.handoverMember (UInt32.ofNat c) (UInt32.ofNat d) i u).1 c ∧
        Recover mgr (mgr.handoverMember (UInt32.ofNat c) (UInt32.ofNat d) i u).1 d) := by
  rw [neither_iff apart]
  have outcome := reached.handover_outcome written apart i u
  cases outcome with
  | idle stays out groups failed =>
    refine iff_of_true ?_ (.inl ⟨stays,out⟩)
    exact ⟨fun _ => unchanged_same groups,fun done => absurd done failed⟩
  | entered absent enters groups failed =>
    apply iff_of_false
    · intro atomic
      exact changed_joined enters.1 groups (atomic.failed failed)
    · rintro (⟨_,out⟩ | ⟨leaves,_⟩)
      · exact out absent enters
      · exact absent leaves.1
  | lost leaves out groups failed =>
    apply iff_of_false
    · intro atomic
      exact changed_left leaves.1 groups (atomic.failed failed)
    · rintro (⟨stays,_⟩ | ⟨_,enters,_⟩)
      · exact stays leaves
      · exact out enters
  | moved leaves enters entry updated params keys groups done =>
    constructor
    · intro atomic
      obtain ⟨c',d',old,new,_,_,first,second⟩ := atomic.done done
      rw [clusterSlot_ofNat] at old new
      cases old
      cases new
      exact .inr ⟨leaves,enters,first,second⟩
    · rintro (⟨stays,_⟩ | ⟨_,_,first,second⟩)
      · exact absurd leaves stays
      · refine ⟨fun failed => absurd done failed,fun _ => ?_⟩
        exact ⟨c,d,clusterSlot_ofNat c,clusterSlot_ofNat d,apart,
          movedOne apart leaves.1 enters.1 groups,first,second⟩

theorem Reached.atomic_iff (reached : Reached file mgr)
    (Recover : MulticastManager → MulticastManager → Fin 3 → Prop)
    (old_cluster new_cluster i u : UInt32) :
    Atomic Recover mgr old_cluster new_cluster i u ↔ Neither mgr old_cluster new_cluster i ∨
      ∃ c d, clusterSlot old_cluster = some c ∧ clusterSlot new_cluster = some d ∧ c ≠ d ∧
        Leaves mgr c i ∧ Enters mgr d (newIndex mgr d) ∧
        Recover mgr (mgr.handoverMember old_cluster new_cluster i u).1 c ∧
        Recover mgr (mgr.handoverMember old_cluster new_cluster i u).1 d := by
  by_cases between : ∃ c d, clusterSlot old_cluster = some c ∧ clusterSlot new_cluster = some d ∧ c ≠ d
  · obtain ⟨c,d,old,new,apart⟩ := between
    obtain rfl := clusterSlot_some old
    obtain rfl := clusterSlot_some new
    rw [reached.atomic_between written Recover apart i u]
    constructor
    · rintro (neither | ⟨leaves,enters,recovered⟩)
      · exact .inl neither
      · exact .inr ⟨c,d,old,new,apart,leaves,enters,recovered⟩
    · rintro (neither | ⟨c',d',old',new',_,both⟩)
      · exact .inl neither
      · cases old.symm.trans old'
        cases new.symm.trans new'
        exact .inr both
  · have same : mgr.handoverMember old_cluster new_cluster i u = (mgr,.ok false) :=
      handoverMember_closed between
    refine iff_of_true ?_ (.inl (fun c d old new apart => absurd ⟨c,d,old,new,apart⟩ between))
    constructor
    · intro _
      rw [same]
      exact unchanged_same rfl
    · intro done
      rw [same] at done
      cases done

omit written in
theorem tracks_recovers {cp : ClusterCryptoEntry} (genuine : Genuine cp)
    (distinct : (cp.slave_keys.map (·.uav_index)).Nodup) (tracks : Tracks cp c mgr)
    (inside : i ∈ (mgr.m_groups c).members) : Recovers mgr c i := by
  obtain ⟨sk,member,rfl⟩ := tracks.slaves i inside
  have positive := (genuine.master.slave sk member).modulus_positive
  have decrypted := (tracks.hasToken genuine distinct).decrypts sk member inside
  refine ⟨_,sk,currentToken_some tracks.entry,?_,?_⟩
  · rw [tracks.keys]
    exact findSlave_index distinct member
  · rw [groupToken,verifySlaveDecrypt,decrypted,mod_positive positive]
    simp only [Result.ok_bind,beq_self_eq_true]

omit written in
/-- One of the two groups is not the first, and has a member without a slave key. -/
theorem Reached.not_allRecover (reached : Reached file mgr) (apart : c ≠ d)
    (old : AllRecover mgr mgr c) (new : AllRecover mgr mgr d) : False := by
  have keyed : ∀ e, e ≠ 0 → AllRecover mgr mgr e → False := by
    intro e later all
    obtain ⟨member,keyless⟩ := reached.stuck e later
    obtain ⟨sk,slave,named⟩ := (all _ member).hasKey
    exact keyless sk slave named
  by_cases first : c = 0
  · exact keyed d (fun same => apart (first.trans same.symm)) new
  · exact keyed c first old

/-- Where both effects take place nobody loses a token, and the first group has its own. -/
theorem Reached.stillRecover (reached : Reached file mgr) (apart : c ≠ d) (leaves : Leaves mgr c i)
    (enters : Enters mgr d (newIndex mgr d)) :
    StillRecover mgr (mgr.handoverMember (UInt32.ofNat c) (UInt32.ofNat d) i u).1 c ∧
      StillRecover mgr (mgr.handoverMember (UInt32.ofNat c) (UInt32.ofNat d) i u).1 d := by
  have next := reached.handover written (UInt32.ofNat c) (UInt32.ofNat d) i u
  have outcome := reached.handover_outcome written apart i u
  obtain rfl := reached.enters_first written enters
  generalize mgr.handoverMember (UInt32.ofNat c) (UInt32.ofNat (0 : Fin 3)) i u = after
    at next outcome ⊢
  cases outcome with
  | idle stays out groups failed => exact absurd leaves stays
  | entered absent enters groups failed => exact absurd leaves.1 absent
  | lost leaves out groups failed => exact absurd enters out
  | @moved cp first second leaves enters entry updated params keys groups done =>
    constructor
    · have genuine := written.genuine cp (List.mem_of_getElem? entry)
      have group : after.1.m_groups c = (mgr.left c i u first).m_groups c := by
        rw [groups]
        exact joined_other _ 0 _ u second apart
      intro j inside recovered
      rw [group,left_same,Std.ExtTreeSet.mem_erase,ne_eq,Std.LawfulEqCmp.compare_eq_iff_eq] at inside
      have still := (reached.powered c cp entry).left_recovers genuine (written.distinct entry)
        (u := u) updated inside.2 (fun same => inside.1 same.symm) (recovered inside.2)
      exact still.other params keys group
    · obtain ⟨cp,entry⟩ := fleet_entry written.toFleet 0
      have genuine := written.genuine cp (List.mem_of_getElem? entry)
      intro j inside _
      exact tracks_recovers genuine (written.distinct entry) (next.tracks cp entry) inside

end Atomicity

def managerAfter (file : CryptoParamsFile) (calls : List MemberCall) : MulticastManager :=
  Run.final MemberCall.step (start file) calls

/-- In every state that a manager reaches, `HandoverMember` is atomic in the strict sense only
where it has no effect: a handover that succeeds leaves members without a slave key in one of its
groups. Asked only to keep what members recovered before, it is atomic where the removal and the
addition take effect both or neither. -/
theorem handovers_atomic_iff {file : CryptoParamsFile} (written : Written file)
    (calls : List MemberCall) (old_cluster new_cluster uav_index uav_id : UInt32) :
    (Atomic AllRecover (managerAfter file calls) old_cluster new_cluster uav_index uav_id ↔
      Neither (managerAfter file calls) old_cluster new_cluster uav_index) ∧
    (Atomic StillRecover (managerAfter file calls) old_cluster new_cluster uav_index uav_id ↔
      Neither (managerAfter file calls) old_cluster new_cluster uav_index ∨
        Both (managerAfter file calls) old_cluster new_cluster uav_index) := by
  have reached : Reached file (managerAfter file calls) := reached_run written calls
  generalize managerAfter file calls = mgr at reached
  rw [reached.atomic_iff written,reached.atomic_iff written]
  constructor
  · constructor
    · rintro (neither | ⟨c,d,old,new,apart,_,_,first,second⟩)
      · exact neither
      · have next := reached.handover written old_cluster new_cluster uav_index uav_id
        exact (next.not_allRecover apart first second).elim
    · exact .inl
  · constructor
    · rintro (neither | ⟨c,d,old,new,apart,leaves,enters,_⟩)
      · exact .inl neither
      · exact .inr ⟨c,d,old,new,apart,leaves,enters⟩
    · rintro (neither | ⟨c,d,old,new,apart,leaves,enters⟩)
      · exact .inl neither
      · obtain rfl := clusterSlot_some old
        obtain rfl := clusterSlot_some new
        obtain ⟨first,second⟩ := reached.stillRecover written (u := uav_id) apart leaves enters
        exact .inr ⟨c,d,old,new,apart,leaves,enters,first,second⟩

/-- UAV 3 joins cluster one beside the UAVs without a key, UAV 5 leaves cluster zero, and UAV 3
takes its place. -/
def swapCalls : List MemberCall := [.update (.add 1 3 3),.update (.remove 0 5 5)]

theorem swap_both : Both (managerAfter fleetFile swapCalls) 1 0 3 :=
  ⟨1,0,rfl,rfl,by decide,by decide +kernel,by decide +kernel⟩

theorem swap_atomic : ((managerAfter fleetFile swapCalls).handoverMember 1 0 3 3).2 = .ok true ∧
    Atomic StillRecover (managerAfter fleetFile swapCalls) 1 0 3 3 ∧
    ¬ Atomic AllRecover (managerAfter fleetFile swapCalls) 1 0 3 3 := by
  obtain ⟨strict,still⟩ := handovers_atomic_iff fleetFile_written swapCalls 1 0 3 3
  refine ⟨by decide +kernel,still.mpr (.inr swap_both),?_⟩
  rw [strict]
  intro neither
  obtain ⟨c,d,old,new,apart,leaves,_⟩ := swap_both
  exact (neither c d old new apart).1 leaves

/-- Right after initialisation UAV 0 is to move on to cluster one: it has left cluster zero when
the key update of cluster one fails. -/
theorem first_handover_half_done :
    (0 : UInt32) ∈ ((start fleetFile).m_groups 0).members ∧
    ((start fleetFile).handoverMember 0 1 0 0).2 =
      .error (.cryptoException "JoKeyUpdate: slave index 12 not found") ∧
    (0 : UInt32) ∉ (((start fleetFile).handoverMember 0 1 0 0).1.m_groups 0).members ∧
    ¬ Atomic AllRecover (start fleetFile) 0 1 0 0 ∧
    ¬ Atomic StillRecover (start fleetFile) 0 1 0 0 := by
  have was : (0 : UInt32) ∈ ((start fleetFile).m_groups 0).members := by decide +kernel
  have thrown : ((start fleetFile).handoverMember 0 1 0 0).2 =
      .error (.cryptoException "JoKeyUpdate: slave index 12 not found") := by decide +kernel
  have gone : (0 : UInt32) ∉ (((start fleetFile).handoverMember 0 1 0 0).1.m_groups 0).members := by
    decide +kernel
  have never : ∀ Recover, ¬ Atomic Recover (start fleetFile) 0 1 0 0 := by
    intro Recover atomic
    have kept := atomic.failed (by rw [thrown]; simp)
    exact gone ((kept.members 0 0).mpr was)
  exact ⟨was,thrown,gone,never AllRecover,never StillRecover⟩

end UavFanet.MemberHandovers
