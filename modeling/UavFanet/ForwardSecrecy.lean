import UavFanet.SkdcRuns

/-! The members of an SKDC's cluster against the token it broadcasts: whether a departed
UAV can still use what is sent after it left. -/
namespace UavFanet.ForwardSecrecy
open Library UavFanet.ByteUtils UavFanet.Packet UavFanet.Apps SkdcCall

/-- An SKDC, with the UAVs that a leave has removed and that have not joined since. -/
structure Tracked where
  app : SkdcApplication
  departed : List UInt32 := []

def departedAfter (crypto : Primitives) (state : Tracked) (call : SkdcCall) : List UInt32 :=
  match call.memberChange crypto state.app with
  | none => state.departed
  | some (.join uav_id) => state.departed.filter (· != uav_id)
  | some (.leave uav_id) =>
    if uav_id ∈ state.app.m_state.members then uav_id :: state.departed else state.departed

def step (crypto : Primitives) (state : Tracked) (call : SkdcCall) : Tracked × Option MtkBroadcast :=
  let outcome := call.perform crypto state.app
  ({ app := outcome.1, departed := departedAfter crypto state call },outcome.2)

def decrypted (sk : SlaveKeyEntry) (mt_k : Int) : Int := mt_k^sk.d_i.toNat%sk.n_i

/-- A token made without a UAV: its modulus is not in the group's, and it does not find the
value that a member finds. -/
structure Without (slave : UInt32 → SlaveKeyEntry) (mt_k n_group : Int) (uav_id : UInt32)
    (members : Members) : Prop where
  modulus : ¬ (slave uav_id).n_i ∣ n_group
  value : ∀ member ∈ members, decrypted (slave uav_id) mt_k ≠ decrypted (slave member) mt_k

/-- The SKDC has just started on an entry whose token is right for the initial members. -/
structure Loaded (slave : UInt32 → SlaveKeyEntry) (entry : ClusterCryptoEntry) (T : Int)
    (start : Tracked) : Prop where
  started : ∃ app file random_key, app.m_params = some file ∧
    file.clusters[app.m_cluster_id.toNat]? = some entry ∧
    SkdcApplication.initializeState random_key app = .ok start.app
  departed : start.departed = []
  divides : ∀ member ∈ SkdcApplication.initialMembers start.app.m_cluster_id,
    (slave member).n_i ∣ entry.N_group
  decrypts : ∀ member ∈ SkdcApplication.initialMembers start.app.m_cluster_id,
    decrypted (slave member) entry.MT_K = T%(slave member).n_i

structure KeepsToken (entry : ClusterCryptoEntry) (state : Tracked) : Prop where
  mt_k : state.app.m_state.mt_k = entry.MT_K
  n_group : state.app.m_state.n_group = entry.N_group

structure SendsToken (entry : ClusterCryptoEntry) (_ : Tracked) (broadcast : MtkBroadcast) : Prop where
  mtk : broadcast.packet.body.mtk = entry.MT_K
  n_group : broadcast.packet.body.n_group = entry.N_group

variable {slave : UInt32 → SlaveKeyEntry} {entry : ClusterCryptoEntry} {T : Int} {start : Tracked}

theorem Loaded.keepsToken (loaded : Loaded slave entry T start) : KeepsToken entry start := by
  obtain ⟨app,file,random_key,params,position,started⟩ := loaded.started
  rw [SkdcApplication.initializeState_loaded random_key params position] at started
  have reached := Except.ok.inj started
  exact ⟨by rw [← reached],by rw [← reached]⟩

/-- No entry point makes a new token. -/
theorem KeepsToken.step (crypto : Primitives) (state : Tracked) (call : SkdcCall)
    (keeps : KeepsToken entry state) : KeepsToken entry (step crypto state call).1 := by
  obtain ⟨reached,-,-⟩ := perform_effect crypto state.app call
  constructor
  · rw [ForwardSecrecy.step,reached,SkdcState.withKeys_mt_k,SkdcState.withMembers_mt_k,keeps.mt_k]
  · rw [ForwardSecrecy.step,reached,SkdcState.withKeys_n_group,SkdcState.withMembers_n_group,
      keeps.n_group]

theorem SendsToken.step (crypto : Primitives) (state : Tracked) (call : SkdcCall)
    (broadcast : MtkBroadcast) (keeps : KeepsToken entry state)
    (made : (step crypto state call).2 = some broadcast) :
    SendsToken entry (ForwardSecrecy.step crypto state call).1 broadcast := by
  have announces := (perform_effect crypto state.app call).announces broadcast made
  have kept := keeps.step crypto state call
  exact ⟨announces.mtk.trans kept.mt_k,announces.n_group.trans kept.n_group⟩

theorem broadcast_carries_loaded (crypto : Primitives) (loaded : Loaded slave entry T start)
    (calls : List SkdcCall) {sent : Tracked × MtkBroadcast}
    (made : sent ∈ Run.outputs (step crypto) start calls) : SendsToken entry sent.1 sent.2 :=
  Run.outputs_safe (step crypto) (KeepsToken.step crypto) (SendsToken.step crypto)
    loaded.keepsToken calls made

/-- Every broadcast of a run is made without every UAV departed by then. -/
def DepartedExcluded (crypto : Primitives) (slave : UInt32 → SlaveKeyEntry) (start : Tracked)
    (calls : List SkdcCall) : Prop :=
  ∀ sent ∈ Run.outputs (step crypto) start calls, ∀ uav_id ∈ sent.1.departed,
    Without slave sent.2.packet.body.mtk sent.2.packet.body.n_group uav_id sent.1.app.m_state.members

def DepartedOutside (crypto : Primitives) (slave : UInt32 → SlaveKeyEntry)
    (entry : ClusterCryptoEntry) (start : Tracked) (calls : List SkdcCall) : Prop :=
  ∀ sent ∈ Run.outputs (step crypto) start calls, ∀ uav_id ∈ sent.1.departed,
    uav_id ∉ SkdcApplication.initialMembers start.app.m_cluster_id ∧
      Without slave entry.MT_K entry.N_group uav_id sent.1.app.m_state.members

/-- What is broadcast excludes the departed exactly where the token loaded at the start does; and
that token excludes no initial member. -/
theorem departed_excluded_iff (crypto : Primitives) (loaded : Loaded slave entry T start)
    (calls : List SkdcCall) :
    DepartedExcluded crypto slave start calls ↔ DepartedOutside crypto slave entry start calls := by
  constructor
  · intro excluded sent made uav_id left
    obtain ⟨mtk,n_group⟩ := broadcast_carries_loaded crypto loaded calls made
    have without := excluded sent made uav_id left
    rw [mtk,n_group] at without
    -- The loaded group modulus has the modulus of every initial member.
    exact ⟨fun initial => without.modulus (loaded.divides uav_id initial),without⟩
  · intro outside sent made uav_id left
    obtain ⟨mtk,n_group⟩ := broadcast_carries_loaded crypto loaded calls made
    rw [mtk,n_group]
    exact (outside sent made uav_id left).2

def sampleSlave (uav_id : UInt32) : SlaveKeyEntry :=
  (sampleEntry.slave_keys[uav_id.toNat]?).getD
    { uav_index := 0, uav_id := uav_id, e_i := 5, d_i := 109405, n_i := 137497, x_i := 179
      y_i := 191, Mi := 0, Ni := 0, xy_i := 34189, p_i := 359, q_i := 383 }

theorem mem_initialMembers_zero {uav_id : UInt32} :
    uav_id ∈ SkdcApplication.initialMembers 0 ↔ uav_id ∈ [0,1,2,3,4,5] :=
  SkdcApplication.mem_initialMembers

theorem sample_loaded : Loaded sampleSlave sampleEntry 2 { app := startedSkdc } where
  started := ⟨idleSkdc,sampleFile,.ok zeroKey,rfl,rfl,rfl⟩
  departed := rfl
  divides member initial := by
    have each : [0,1,2,3,4,5].all (fun member => sampleEntry.N_group%(sampleSlave member).n_i == 0) = true := by
      decide +kernel
    have remainder := List.all_eq_true.mp each member (mem_initialMembers_zero.mp initial)
    exact Int.dvd_of_emod_eq_zero (beq_iff_eq.mp remainder)
  decrypts member initial := by
    have each : [0,1,2,3,4,5].all (fun member =>
        decrypted (sampleSlave member) sampleEntry.MT_K == 2%(sampleSlave member).n_i) = true := by
      decide +kernel
    exact beq_iff_eq.mp (List.all_eq_true.mp each member (mem_initialMembers_zero.mp initial))

/-- A UAV of no group joins and leaves: it never could read the token, and still cannot. -/
theorem outsider_excluded :
    DepartedExcluded rotationCrypto sampleSlave { app := startedSkdc }
      [.processJoin sampleRekeyDraws 40 0,.processLeave sampleRekeyDraws 40] := by
  refine (departed_excluded_iff rotationCrypto sample_loaded _).mpr ?_
  have seen : (Run.outputs (step rotationCrypto) { app := startedSkdc }
      [.processJoin sampleRekeyDraws 40 0,.processLeave sampleRekeyDraws 40]).map
        (fun sent => (sent.1.departed,sent.1.app.m_state.members.toList)) =
          [([],[0,1,2,3,4,5,40]),([40],[0,1,2,3,4,5])] := by decide +kernel
  intro sent made uav_id left
  have listed : (sent.1.departed,sent.1.app.m_state.members.toList) ∈
      [([],[0,1,2,3,4,5,40]),([40],[0,1,2,3,4,5])] :=
    seen ▸ List.mem_map_of_mem made
  rcases List.mem_pair.mp listed with joined | departed
  · rw [(Prod.mk.inj joined).1] at left
    cases left
  · obtain ⟨only,members⟩ := Prod.mk.inj departed
    rw [only,List.mem_singleton] at left
    subst left
    refine ⟨fun initial => absurd (mem_initialMembers_zero.mp initial) (by decide),?_,?_⟩
    · decide +kernel
    · intro member inside
      rw [← Std.ExtTreeSet.mem_toList,members] at inside
      have each : [0,1,2,3,4,5].all (fun member => decrypted (sampleSlave 40) sampleEntry.MT_K !=
          decrypted (sampleSlave member) sampleEntry.MT_K) = true := by decide +kernel
      exact bne_iff_ne.mp (List.all_eq_true.mp each member inside)

/-- UAV 0 leaves, and the broadcast of that very rekey is made for a group with its modulus. -/
theorem departed_member_included :
    Loaded sampleSlave sampleEntry 2 { app := startedSkdc } ∧
    ¬ DepartedExcluded rotationCrypto sampleSlave { app := startedSkdc }
        [.processLeave sampleRekeyDraws 0] := by
  refine ⟨sample_loaded,fun excluded => ?_⟩
  have seen : (Run.outputs (step rotationCrypto) { app := startedSkdc }
      [.processLeave sampleRekeyDraws 0]).map
        (fun sent => (sent.1.departed,sent.2.packet.body.n_group)) =
          [([0],sampleEntry.N_group)] := by decide +kernel
  obtain ⟨sent,made,facts⟩ := List.mem_map.mp (seen ▸ List.mem_singleton_self _)
  obtain ⟨departed,n_group⟩ := Prod.mk.inj facts
  have without := excluded sent made 0 (by rw [departed]; exact List.mem_singleton_self 0)
  apply without.modulus
  rw [n_group]
  decide +kernel

end UavFanet.ForwardSecrecy
