import UavFanet.HandoverRuns
import UavFanet.SlaveKeyDelivery

/-! Which slot of which cluster each UAV has the slave key of, as the KDC forwards the keys: when
no two UAVs have the same, and who else takes the slot of a UAV for the same. -/
namespace UavFanet.SlaveSlots
open Library Library.Seats UavFanet.Apps UavFanet.Handover UavFanet.SlaveKeyDelivery

abbrev Slot := UInt32 × UInt32

/-- A message on port 9050, with the draw of the IV for what it leads to and the groups that
`HandoverManager` finds for the same handover. -/
structure Notice where
  iv : Result GcmIv
  buf : ByteBuffer
  mc : MulticastManager

/-- The slots that `main` gives with `SetUavId`. -/
def initialHolding (params : CryptoParamsFile) : Holding UInt32 Slot := fun uav_id =>
  if uav_id.toNat < params.num_clusters.toNat*params.uavs_per_cluster.toNat then
    some (uav_id/params.uavs_per_cluster,uav_id%params.uavs_per_cluster)
  else none

/-- Every UAV has the index that its number gives. -/
def Aligned (params : CryptoParamsFile) (holding : Holding UInt32 Slot) : Prop :=
  ∀ uav_id slot, holding uav_id = some slot → slot.2 = uav_id%params.uavs_per_cluster

theorem initialHolding_aligned (params : CryptoParamsFile) :
    Aligned params (initialHolding params) := by
  intro uav_id slot has
  rw [initialHolding] at has
  split at has
  · cases has
    rfl
  · cases has

/-- Cluster and index give the number back. -/
theorem same_of_div_mod {first second k : UInt32} (cluster : first/k = second/k)
    (index : first%k = second%k) : first = second := by
  apply UInt32.toNat_inj.mp
  rw [← Nat.div_add_mod first.toNat k.toNat,← Nat.div_add_mod second.toNat k.toNat,
    ← UInt32.toNat_div,← UInt32.toNat_div,← UInt32.toNat_mod,← UInt32.toNat_mod,cluster,index]

theorem initialHolding_unshared (params : CryptoParamsFile) : Unshared (initialHolding params) := by
  intro first second slot has_first has_second
  rw [initialHolding] at has_first has_second
  split at has_first
  · split at has_second
    · cases has_first
      have same := Prod.mk.inj (Option.some.inj has_second)
      exact same_of_div_mod same.1.symm same.2.symm
    · cases has_second
  · cases has_first

section Runs

variable (crypto : Primitives) (kdc : KdcApplication)

def forwarded (notice : Notice) : Option SlaveForward :=
  (kdc.receiveHandoverNotify crypto notice.iv notice.buf).toOption.join

def step (holding : Holding UInt32 Slot) (notice : Notice) :
    Holding UInt32 Slot × Option SlaveForward :=
  match forwarded crypto kdc notice with
  | none => (holding,none)
  | some fwd =>
    (Function.update holding fwd.uav_id (some (fwd.new_cluster,fwd.new_idx)),some fwd)

/-- The notice passes its check, and the KDC has what it takes to forward the slave key. -/
structure Served (notice : Notice) (np : NotifyPkt) : Prop where
  parsed : parseNotify crypto notice.buf kdc.m_gk = .ok (some np)
  drawn : ∃ iv, notice.iv = .ok iv
  entry : ∃ sk, Forwards kdc np.uav_id np.new_cluster sk ∧ Natural sk

/-- No other UAV of the cluster that a UAV moves to has a number that agrees with its own modulo
the size of a cluster. -/
def Apart (params : CryptoParamsFile) (holding : Holding UInt32 Slot) (notice : Notice) : Prop :=
  ∀ np, Served crypto kdc notice np → ∀ other slot, holding other = some slot →
    slot.1 = np.new_cluster → other ≠ np.uav_id →
    other%params.uavs_per_cluster ≠ np.uav_id%params.uavs_per_cluster

/-- The UAV moves to the cluster that it has at the start. -/
def Home (params : CryptoParamsFile) (notice : Notice) : Prop :=
  ∀ np, Served crypto kdc notice np → np.new_cluster = np.uav_id/params.uavs_per_cluster

/-- The size of the group gives the index that the number of the UAV gives. -/
def Sized (params : CryptoParamsFile) (notice : Notice) : Prop :=
  ∀ np, Served crypto kdc notice np →
    notice.mc.getGroupSize np.new_cluster%6 = np.uav_id%params.uavs_per_cluster

/-- The new SKDC and `HandoverManager` take the index that the KDC forwards. -/
structure Agreed (notice : Notice) (fwd : SlaveForward) : Prop where
  skdc : ∀ (skdc : SkdcApplication) draw now_us, skdc.m_gk = kdc.m_gk →
    skdc.m_cluster_id = fwd.new_cluster →
    (skdc.receiveSlaveKeyFwd crypto draw now_us fwd.wire).1.pendingIndex fwd.uav_id =
      some fwd.new_idx
  manager : Managers.newIndex notice.mc fwd.new_cluster = fwd.new_idx

structure SlotsExclusive (params : CryptoParamsFile) (notices : List Notice) : Prop where
  unshared : ∀ front rest, notices = front ++ rest →
    Unshared (Run.final (step crypto kdc) (initialHolding params) front)
  agreed : ∀ notice ∈ notices, ∀ fwd, forwarded crypto kdc notice = some fwd →
    Agreed crypto kdc notice fwd

theorem hexBytes_natural {v : Int} {bytes : ByteBuffer}
    (written : KdcApplication.hexBytes v = .ok bytes) : 0 ≤ v := by
  unfold KdcApplication.hexBytes at written
  split at written
  · cases written
  · omega

theorem pendingIndex_forwarded {crypto : Primitives} (inverts : Inverts crypto)
    {iv draw : Result GcmIv} {now_us : UInt64} {uav_id : UInt32} {blob : SlaveKeyBlob}
    {wire : ByteBuffer} (skdc : SkdcApplication)
    (built : buildSlaveFwd crypto iv uav_id skdc.m_cluster_id blob skdc.m_gk = .ok wire) :
    (skdc.receiveSlaveKeyFwd crypto draw now_us wire).1.pendingIndex uav_id =
      some blob.uav_index := by
  simp only [SkdcApplication.receiveSlaveKeyFwd,parseSlaveFwd_buildSlaveFwd inverts built,ne_eq,
    not_true_eq_false,if_false]
  simp [SkdcApplication.pendingIndex]

theorem buildSlaveFwd_drawn {crypto : Primitives} {iv : Result GcmIv} {uav_id new_cluster : UInt32}
    {blob : SlaveKeyBlob} {gk : GlobalKey} {wire : ByteBuffer}
    (built : buildSlaveFwd crypto iv uav_id new_cluster blob gk = .ok wire) :
    ∃ drawn, iv = .ok drawn := by
  obtain ⟨enc,encrypted,-⟩ := Result.bind_ok.mp built
  obtain ⟨drawn,same,-⟩ := Result.bind_ok.mp encrypted
  exact ⟨drawn,same⟩

variable {crypto kdc}

theorem Served.unique {notice : Notice} {np again : NotifyPkt}
    (served : Served crypto kdc notice np) (served_again : Served crypto kdc notice again) :
    np = again := by
  have same := served.parsed.symm.trans served_again.parsed
  simpa using same

variable {params : CryptoParamsFile} (loaded : kdc.m_params = some params)
include loaded

theorem forwarded_built {notice : Notice} {fwd : SlaveForward}
    (sent : forwarded crypto kdc notice = some fwd) :
    ∃ np blob, Served crypto kdc notice np ∧ fwd.uav_id = np.uav_id ∧
      fwd.new_cluster = np.new_cluster ∧ fwd.new_idx = np.uav_id%params.uavs_per_cluster ∧
      blob.uav_index = fwd.new_idx ∧
      buildSlaveFwd crypto notice.iv fwd.uav_id fwd.new_cluster blob kdc.m_gk = .ok fwd.wire := by
  obtain ⟨outcome,handled,rfl⟩ : ∃ outcome,
      kdc.receiveHandoverNotify crypto notice.iv notice.buf = .ok outcome ∧ outcome = some fwd := by
    unfold forwarded at sent
    cases handled : kdc.receiveHandoverNotify crypto notice.iv notice.buf with
    | error failure => simp [handled,Except.toOption] at sent
    | ok outcome => exact ⟨outcome,rfl,by simpa [handled,Except.toOption] using sent⟩
  rw [KdcApplication.receiveHandoverNotify] at handled
  obtain ⟨parsed,authentic,handled⟩ := Result.bind_ok.mp handled
  cases parsed with
  | none => cases handled
  | some np =>
    simp only [KdcApplication.forwardSlaveKey,loaded] at handled
    split at handled
    · cases handled
    rename_i topology
    split at handled
    · cases handled
    rename_i known
    split at handled
    · cases handled
    rename_i slots
    split at handled
    · cases handled
    rename_i nc found
    split at handled
    · cases handled
    rename_i sk slave
    obtain ⟨d_i,d_natural,handled⟩ := Result.bind_ok.mp handled
    obtain ⟨n_i,n_natural,handled⟩ := Result.bind_ok.mp handled
    obtain ⟨e_i,e_natural,handled⟩ := Result.bind_ok.mp handled
    obtain ⟨Mi,M_natural,handled⟩ := Result.bind_ok.mp handled
    obtain ⟨Ni,N_natural,handled⟩ := Result.bind_ok.mp handled
    obtain ⟨wire,built,handled⟩ := Result.bind_ok.mp handled
    split at handled
    · rename_i socket
      cases handled
      have forwards : Forwards kdc np.uav_id np.new_cluster sk := by
        refine ⟨?_,socket,UInt32.not_le.mp known,params,nc,loaded,slots,found,slave⟩
        simpa using topology
      have natural : Natural sk := (natural_iff sk).mpr
        ⟨hexBytes_natural d_natural,hexBytes_natural n_natural,hexBytes_natural e_natural,
          hexBytes_natural M_natural,hexBytes_natural N_natural⟩
      exact ⟨np,_,⟨authentic,buildSlaveFwd_drawn built,sk,forwards,natural⟩,rfl,rfl,rfl,
        rfl,built⟩
    · cases handled

theorem Served.forwards {notice : Notice} {np : NotifyPkt} (served : Served crypto kdc notice np) :
    ∃ fwd, forwarded crypto kdc notice = some fwd ∧ fwd.uav_id = np.uav_id ∧
      fwd.new_cluster = np.new_cluster ∧ fwd.new_idx = np.uav_id%params.uavs_per_cluster := by
  obtain ⟨parsed,⟨iv,drawn⟩,sk,forwards,natural⟩ := id served
  obtain ⟨fwd,blob,handled,-,-⟩ := forwardSlaveKey_blob crypto forwards natural iv np.old_index
  have sent : forwarded crypto kdc notice = some fwd := by
    simp only [forwarded,KdcApplication.receiveHandoverNotify,parsed,drawn,Result.ok_bind,handled]
    rfl
  obtain ⟨again,-,served_again,uav,cluster,index,-⟩ := forwarded_built loaded sent
  obtain rfl := served.unique served_again
  exact ⟨fwd,sent,uav,cluster,index⟩

theorem step_aligned {holding : Holding UInt32 Slot} (aligned : Aligned params holding)
    (notice : Notice) : Aligned params (step crypto kdc holding notice).1 := by
  unfold step
  cases sent : forwarded crypto kdc notice with
  | none => exact aligned
  | some fwd =>
    obtain ⟨np,-,-,uav,-,index,-⟩ := forwarded_built loaded sent
    intro uav_id slot has
    simp only at has
    by_cases same : uav_id = fwd.uav_id
    · rw [same,Function.update_self] at has
      cases has
      rw [same,index,uav]
    · rw [Function.update_of_ne same] at has
      exact aligned uav_id slot has

/-- As indices follow from numbers, who has the slot forwarded is a matter of numbers alone. -/
theorem step_unshared_iff {holding : Holding UInt32 Slot} (unshared : Unshared holding)
    (aligned : Aligned params holding) (notice : Notice) :
    Unshared (step crypto kdc holding notice).1 ↔ Apart crypto kdc params holding notice := by
  unfold step Apart
  cases sent : forwarded crypto kdc notice with
  | none =>
    simp only [unshared,true_iff]
    intro np served
    obtain ⟨fwd,forwarded,-⟩ := served.forwards loaded
    cases sent.symm.trans forwarded
  | some fwd =>
    obtain ⟨np,-,served,uav,cluster,index,-⟩ := forwarded_built loaded sent
    rw [unshared.given_iff]
    constructor
    · intro free again served_again other slot has there differs agrees
      obtain rfl := served.unique served_again
      refine differs (uav ▸ free other ?_)
      rw [has,cluster,index,← there,← agrees,← aligned other slot has]
    · intro apart other has
      by_contra differs
      rw [uav] at differs
      apply apart np served other _ has cluster differs
      rw [← aligned other _ has]
      exact index

theorem unshared_iff (notices : List Notice) :
    (∀ front rest, notices = front ++ rest →
        Unshared (Run.final (step crypto kdc) (initialHolding params) front)) ↔
      Run.Along (step crypto kdc) (Apart crypto kdc params) (initialHolding params) notices := by
  have kept_iff : ∀ holding notice, Unshared holding ∧ Aligned params holding →
      ((Unshared (step crypto kdc holding notice).1 ∧
          Aligned params (step crypto kdc holding notice).1) ↔
        Apart crypto kdc params holding notice) := by
    intro holding notice ⟨unshared,aligned⟩
    rw [and_iff_left (step_aligned loaded aligned notice)]
    exact step_unshared_iff loaded unshared aligned notice
  have always := Run.always_iff kept_iff (initialHolding params) notices
  rw [and_iff_right ⟨initialHolding_unshared params,initialHolding_aligned params⟩] at always
  rw [← always]
  constructor
  · intro unshared front rest split
    refine ⟨unshared front rest split,?_⟩
    exact @Run.final_invariant _ _ _ (step crypto kdc) (Aligned params)
      (fun _ notice aligned => step_aligned loaded aligned notice) _
      (initialHolding_aligned params) front
  · exact fun good front rest split => (good front rest split).1

theorem agreed_iff (inverts : Inverts crypto) (notice : Notice) :
    (∀ fwd, forwarded crypto kdc notice = some fwd → Agreed crypto kdc notice fwd) ↔
      Sized crypto kdc params notice := by
  constructor
  · intro agreed np served
    obtain ⟨fwd,sent,-,cluster,index⟩ := served.forwards loaded
    rw [← cluster,← index]
    exact (agreed fwd sent).manager
  · intro sized fwd sent
    obtain ⟨np,blob,served,-,cluster,index,carried,built⟩ := forwarded_built loaded sent
    constructor
    · intro skdc draw now_us gk here
      rw [← gk,← here] at built
      rw [← carried]
      exact pendingIndex_forwarded inverts skdc built
    · rw [Managers.newIndex,cluster,index]
      exact sized np served

/-- The cluster is one of those that `main` fills. -/
theorem Served.inside (full : ∀ c nc, params.getCluster c = some nc → c < params.num_clusters)
    {notice : Notice} {np : NotifyPkt} (served : Served crypto kdc notice np) :
    0 < params.uavs_per_cluster.toNat ∧ np.new_cluster.toNat < params.num_clusters.toNat := by
  obtain ⟨sk,⟨-,-,-,file,nc,same,slots,found,-⟩,-⟩ := served.entry
  obtain rfl : params = file := Option.some.inj (loaded.symm.trans same)
  refine ⟨Nat.pos_of_ne_zero ?_,UInt32.lt_iff_toNat_lt.mp (full _ nc found)⟩
  exact fun zero => slots (UInt32.toNat_inj.mp zero)

section Full

variable (full : ∀ c nc, params.getCluster c = some nc → c < params.num_clusters)
include full

theorem step_home {notice : Notice} (home : Home crypto kdc params notice) :
    (step crypto kdc (initialHolding params) notice).1 = initialHolding params := by
  unfold step
  cases sent : forwarded crypto kdc notice with
  | none => rfl
  | some fwd =>
    obtain ⟨np,-,served,uav,cluster,index,-⟩ := forwarded_built loaded sent
    obtain ⟨positive,inside⟩ := served.inside loaded full
    apply Function.update_eq_self_iff.mpr
    rw [home np served,UInt32.toNat_div,Nat.div_lt_iff_lt_mul positive] at inside
    rw [cluster,index,uav,home np served,initialHolding,if_pos inside]

variable (room : params.num_clusters.toNat*params.uavs_per_cluster.toNat ≤ 2^32)
include room

/-- Every slot has its holder at the start: only a move to the own cluster finds it free. -/
theorem apart_initial_iff (notice : Notice) :
    Apart crypto kdc params (initialHolding params) notice ↔ Home crypto kdc params notice := by
  constructor
  · intro apart np served
    obtain ⟨positive,inside⟩ := served.inside loaded full
    have index := Nat.mod_lt np.uav_id.toNat positive
    have below : (np.new_cluster.toNat+1)*params.uavs_per_cluster.toNat ≤
        params.num_clusters.toNat*params.uavs_per_cluster.toNat :=
      Nat.mul_le_mul_right _ inside
    rw [Nat.add_one_mul] at below
    have holder : (np.new_cluster*params.uavs_per_cluster+
        np.uav_id%params.uavs_per_cluster).toNat =
        np.uav_id.toNat%params.uavs_per_cluster.toNat+
          params.uavs_per_cluster.toNat*np.new_cluster.toNat := by
      rw [UInt32.toNat_add,UInt32.toNat_mul,UInt32.toNat_mod,
        Nat.mod_eq_of_lt (a := np.new_cluster.toNat*_) (by omega),Nat.mod_eq_of_lt (by omega),
        Nat.add_comm,Nat.mul_comm]
    generalize np.new_cluster*params.uavs_per_cluster+np.uav_id%params.uavs_per_cluster = other
      at holder
    have cluster : other/params.uavs_per_cluster = np.new_cluster := by
      apply UInt32.toNat_inj.mp
      rw [UInt32.toNat_div,holder,Nat.add_mul_div_left _ _ positive,Nat.div_eq_of_lt index,
        Nat.zero_add]
    have agrees : other%params.uavs_per_cluster = np.uav_id%params.uavs_per_cluster := by
      apply UInt32.toNat_inj.mp
      rw [UInt32.toNat_mod,UInt32.toNat_mod,holder,Nat.add_mul_mod_self_left,Nat.mod_mod]
    have has : initialHolding params other =
        some (np.new_cluster,other%params.uavs_per_cluster) := by
      rw [initialHolding,if_pos,cluster]
      rw [Nat.mul_comm] at below
      omega
    by_contra away
    refine apart np served other _ has rfl ?_ agrees
    rintro rfl
    exact away cluster.symm
  · intro home np served other slot has there differs agrees
    rw [initialHolding] at has
    split at has
    · cases has
      exact differs (same_of_div_mod (there.trans (home np served)) agrees)
    · cases has

theorem along_initial_iff (notices : List Notice) :
    Run.Along (step crypto kdc) (Apart crypto kdc params) (initialHolding params) notices ↔
      ∀ notice ∈ notices, Home crypto kdc params notice := by
  induction notices with
  | nil => simp [Run.Along.nil]
  | cons notice rest ih =>
    rw [List.forall_mem_cons,← ih,← apart_initial_iff loaded full room]
    constructor
    · intro along
      have home := (apart_initial_iff loaded full room notice).mp along.head
      refine ⟨along.head,?_⟩
      rw [← step_home loaded full home]
      exact along.tail
    · rintro ⟨first,later⟩
      have home := (apart_initial_iff loaded full room notice).mp first
      refine Run.Along.cons first ?_
      rwa [step_home loaded full home]

end Full
end Runs

/-- The slots stay exclusive and the three agree on every index exactly as long as nobody moves to
a cluster with a UAV of the same number modulo the size of a cluster, and the size of the group is
that number too. In the full fleet of the start nobody may leave its cluster. -/
theorem slots_exclusive_iff {crypto : Primitives} (inverts : Inverts crypto) {kdc : KdcApplication}
    {params : CryptoParamsFile} (loaded : kdc.m_params = some params) (notices : List Notice) :
    (SlotsExclusive crypto kdc params notices ↔
      Run.Along (step crypto kdc) (Apart crypto kdc params) (initialHolding params) notices ∧
      ∀ notice ∈ notices, Sized crypto kdc params notice) ∧
    ((∀ c nc, params.getCluster c = some nc → c < params.num_clusters) →
      params.num_clusters.toNat*params.uavs_per_cluster.toNat ≤ 2^32 →
      (SlotsExclusive crypto kdc params notices ↔
        ∀ notice ∈ notices, Home crypto kdc params notice ∧ Sized crypto kdc params notice)) := by
  have exclusive_iff : SlotsExclusive crypto kdc params notices ↔
      Run.Along (step crypto kdc) (Apart crypto kdc params) (initialHolding params) notices ∧
      ∀ notice ∈ notices, Sized crypto kdc params notice := by
    simp only [← unshared_iff loaded,← agreed_iff loaded inverts]
    exact ⟨fun ⟨unshared,agreed⟩ => ⟨unshared,agreed⟩,fun ⟨unshared,agreed⟩ => ⟨unshared,agreed⟩⟩
  refine ⟨exclusive_iff,fun full room => ?_⟩
  rw [exclusive_iff,along_initial_iff loaded full room]
  simp only [forall_and]

/-- UAV 6 is announced to the cluster that it has. -/
def homeNotice : Notice where
  iv := .ok (Vector.replicate 12 0)
  buf := (buildNotify handoverCrypto 0 (.ok zeroKey) 6 0 1 0 zeroKey).toOption.getD []
  mc := fleetManagers.mc

/-- The old SKDC of UAV 7 says that it moves from cluster 1 to cluster 0. -/
def sampleNotice : Notice where
  iv := .ok (Vector.replicate 12 0)
  buf := (buildNotify handoverCrypto 0 (.ok zeroKey) 7 1 0 1 zeroKey).toOption.getD []
  mc := fleetManagers.mc

theorem homeNotice_parsed : parseNotify handoverCrypto homeNotice.buf zeroKey =
    .ok (some { uav_id := 6, old_cluster := 0, new_cluster := 1, old_index := 0, timestamp := 0 }) := by
  decide +kernel

theorem homeNotice_served {np : NotifyPkt} (served : Served handoverCrypto fleetKdc homeNotice np) :
    np.uav_id = 6 ∧ np.new_cluster = 1 := by
  have same := homeNotice_parsed.symm.trans served.parsed
  simp only [Except.ok.injEq,Option.some.injEq] at same
  rw [← same]
  exact ⟨rfl,rfl⟩

theorem fleetFile_full (c : UInt32) (nc : ClusterCryptoEntry)
    (found : fleetFile.getCluster c = some nc) : c < fleetFile.num_clusters := by
  have member := List.mem_of_find?_eq_some found
  have here : nc.cluster_id = c := by simpa using List.find?_some found
  have inside : ∀ entry ∈ fleetFile.clusters, entry.cluster_id < fleetFile.num_clusters := by
    decide +kernel
  exact here ▸ inside nc member

theorem home_slots_exclusive : SlotsExclusive handoverCrypto fleetKdc fleetFile [homeNotice] ∧
    (forwarded handoverCrypto fleetKdc homeNotice).map
      (fun fwd => (fwd.uav_id,fwd.new_cluster,fwd.new_idx)) = some (6,1,0) := by
  constructor
  · have loaded : fleetKdc.m_params = some fleetFile := rfl
    have condition := (slots_exclusive_iff handoverCrypto_inverts loaded [homeNotice]).2
      fleetFile_full (by decide)
    apply condition.mpr
    intro notice member
    obtain rfl := List.mem_singleton.mp member
    constructor
    · intro np served
      obtain ⟨uav,cluster⟩ := homeNotice_served served
      rw [uav,cluster]
      decide
    · intro np served
      obtain ⟨uav,cluster⟩ := homeNotice_served served
      rw [uav,cluster]
      decide +kernel
  · decide +kernel

/-- In the whole fleet UAV 7 comes to share the slot of UAV 1, and `HandoverManager` takes another
index for it. -/
theorem fleet_slot_shared :
    ¬ SlotsExclusive handoverCrypto fleetKdc fleetFile [sampleNotice] ∧
    Run.final (step handoverCrypto fleetKdc) (initialHolding fleetFile) [sampleNotice] 7 =
      some (0,1) ∧
    Run.final (step handoverCrypto fleetKdc) (initialHolding fleetFile) [sampleNotice] 1 =
      some (0,1) ∧
    Managers.newIndex sampleNotice.mc 0 = 0 := by
  have moved : Run.final (step handoverCrypto fleetKdc) (initialHolding fleetFile) [sampleNotice] 7 =
      some (0,1) := by decide +kernel
  have kept : Run.final (step handoverCrypto fleetKdc) (initialHolding fleetFile) [sampleNotice] 1 =
      some (0,1) := by decide +kernel
  refine ⟨?_,moved,kept,by decide +kernel⟩
  intro exclusive
  have same := exclusive.unshared [sampleNotice] [] rfl 7 1 (0,1) moved kept
  cases same

end UavFanet.SlaveSlots
