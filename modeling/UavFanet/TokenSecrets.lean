import UavFanet.GroupTokens
import UavFanet.Membership
import Mathlib.Tactic.NormNum.Prime

/-! Runs of the managers: when the tokens of the clusters carry the integers of the TEKs that
the TEK manager holds. -/
namespace UavFanet.Apps
open Library UavFanet.BigInt UavFanet.CrtManager UavFanet.KeyGroup UavFanet.TokenGeneration

/-- A file with genuine entries, whose slaves are numbered on through the clusters. -/
structure Written (file : CryptoParamsFile) : Prop extends Fleet file where
  genuine : ∀ cp ∈ file.clusters, Genuine cp
  numbers : ∀ (c : Fin 3) (cp : ClusterCryptoEntry), file.clusters[c]? = some cp →
    ∀ sk ∈ cp.slave_keys, sk.uav_id = UInt32.ofNat c*6+sk.uav_index

/-- Every member has a slave key, under its index or under its number in the fleet, and
decrypts the token of its cluster to the integer that the TEK manager holds. -/
structure CarriesTek (file : CryptoParamsFile) (keys : GroupKeys) : Prop where
  keyed : ∀ (c : Fin 3) (cp : ClusterCryptoEntry), file.clusters[c]? = some cp →
    ∀ i ∈ (keys.mc.m_groups c).members, ∃ sk ∈ cp.slave_keys, sk.uav_index = i ∨ sk.uav_id = i
  decrypts : ∀ (c : Fin 3) (cp : ClusterCryptoEntry), file.clusters[c]? = some cp →
    ∀ sk ∈ cp.slave_keys,
      sk.uav_index ∈ (keys.mc.m_groups c).members ∨ sk.uav_id ∈ (keys.mc.m_groups c).members →
        slaveDecrypt sk (keys.mc.m_groups c).mt_k = mod (keys.tek.m_teks c).tek_int sk.n_i

/-- A rotation leaves the integer as it was for every slave of the cluster, and no slave is added
to a cluster after the first, whose token counts all slaves from the start. -/
def Move.Keeps (crypto : Primitives) (keys : GroupKeys) : Move → Prop
  | member (.add k i _) => ∀ c, clusterSlot k = some c → c ≠ 0 →
    ∀ sk ∈ (keys.mc.m_mkg c).slaves, sk.uav_index ≠ i
  | rotate draws k => ∀ c, clusterSlot k = some c → ∀ sk ∈ (keys.mc.m_mkg c).slaves,
    fromBytes (keys.tek.rotatedTek crypto draws c).toList ≡ (keys.tek.m_teks c).tek_int [ZMOD sk.n_i]
  | _ => True

def ManagerCall.Keeps (crypto : Primitives) (state : Managers) (call : ManagerCall) : Prop :=
  Run.Along (Move.step crypto) (Move.Keeps crypto) state.keys (call.plan crypto state)

/-- The managers after `Initialize` of the two that read the file. -/
def Managers.initialised (now : UInt64) (hmac_key : HmacKey) (file : CryptoParamsFile)
    (rest : Managers) : Managers :=
  { rest with
    mc := MulticastManager.start file
    tek := TekManager.initializeTeks now { m_params := some file, m_hmac_key := hmac_key } }

/-- The group of a cluster follows its members in cluster zero, and stays as it was in the
others; the integer of the TEK stays the one of the file for every slave. -/
structure Served (file : CryptoParamsFile) (c : Fin 3) (cp : ClusterCryptoEntry) (keys : GroupKeys) :
    Prop where
  loaded : keys.mc.m_mkg c = loadedKeys cp
  first : c = 0 → MulticastManager.Tracks cp 0 keys.mc
  later : c ≠ 0 → keys.mc.m_groups c = MulticastManager.initializeGroup c cp {}
  secret : ∀ sk ∈ cp.slave_keys, (keys.tek.m_teks c).tek_int ≡ cp.tek_int [ZMOD sk.n_i]

section Clusters

variable {crypto : Primitives} {file : CryptoParamsFile} {c : Fin 3} {cp : ClusterCryptoEntry}
  {keys : GroupKeys}

theorem Written.distinct (written : Written file) (entry : file.clusters[c]? = some cp) :
    (cp.slave_keys.map (·.uav_index)).Nodup := by
  rw [written.indices cp (List.mem_of_getElem? entry)]
  decide

theorem Written.index (written : Written file) (entry : file.clusters[c]? = some cp)
    {sk : SlaveKeyEntry} (member : sk ∈ cp.slave_keys) : sk.uav_index ∈ [0,1,2,3,4,5] := by
  rw [← written.indices cp (List.mem_of_getElem? entry)]
  exact List.mem_map_of_mem member

theorem Served.start (written : Written file) (entry : file.clusters[c]? = some cp) (now : UInt64)
    (hmac_key : HmacKey) (rest : Managers) :
    Served file c cp (rest.initialised now hmac_key file).keys where
  loaded := MulticastManager.start_keys entry
  first := by
    rintro rfl
    exact MulticastManager.start_tracks written.toFleet entry
      (written.genuine cp (List.mem_of_getElem? entry))
  later _ := MulticastManager.start_group entry
  secret := by
    intro sk _
    rw [show ((rest.initialised now hmac_key file).keys.tek.m_teks c).tek_int = cp.tek_int from
      TekManager.initializeTeks_tek_int entry]

theorem mem_first {i : UInt32} : i ∈ (MulticastManager.initializeGroup c cp {}).members ↔
    i ∈ SkdcApplication.initialMembers (UInt32.ofNat c) := by
  rw [MulticastManager.initializeGroup,Std.ExtTreeSet.mem_union_iff]
  simp

theorem index_not_first (later : c ≠ 0) {i : UInt32} (index : i ∈ [0,1,2,3,4,5]) :
    i ∉ (MulticastManager.initializeGroup c cp {}).members := by
  have zero : i ∈ SkdcApplication.initialMembers (UInt32.ofNat (0 : Fin 3)) :=
    SkdcApplication.mem_initialMembers.mpr index
  rw [mem_first]
  intro inside
  exact later (SkdcApplication.initialMembers_apart inside zero)

/-- In a cluster after the first no slave joins by assumption, and no member can leave. -/
theorem Served.member_later (written : Written file) (entry : file.clusters[c]? = some cp)
    (served : Served file c cp keys) (later : c ≠ 0) (call : GroupCall)
    (kept : (Move.member call).Keeps crypto keys) :
    (call.perform keys.mc).1.m_groups c = MulticastManager.initializeGroup c cp {} := by
  have group := served.later later
  by_cases here : clusterSlot call.cluster_id = some c
  · have outcome := call.perform_outcome keys.mc
    generalize call.perform keys.mc = reached at outcome
    cases outcome with
    | addRefused taken => exact group
    | addFailed slot outside thrown => exact group
    | added slot outside updated =>
      obtain ⟨current,_,updated⟩ := Result.bind_ok.mp updated
      obtain ⟨sk,slave,named⟩ := MemberUpdates.joKeyUpdate_slave updated
      cases slot.symm.trans here
      exact absurd named (kept c slot later sk slave)
    | removeRefused absent => exact group
    | removeFailed slot inside thrown => exact group
    | removed slot inside updated =>
      obtain ⟨current,_,updated⟩ := Result.bind_ok.mp updated
      obtain ⟨sk,slave,named⟩ := MemberUpdates.leKeyUpdate_slave updated
      cases slot.symm.trans here
      rw [served.loaded] at slave
      rw [group] at inside
      exact absurd inside (index_not_first later (named ▸ written.index entry slave))
  · rw [call.perform_other keys.mc here]
    exact group

theorem Served.perform (written : Written file) (entry : file.clusters[c]? = some cp)
    (served : Served file c cp keys) (move : Move) (kept : move.Keeps crypto keys) :
    Served file c cp (move.perform crypto keys) := by
  have genuine := written.genuine cp (List.mem_of_getElem? entry)
  cases move with
  | member call =>
    refine ⟨?_,?_,?_,served.secret⟩
    · exact (congrFun (call.perform_keys keys.mc) c).trans served.loaded
    · rintro rfl
      exact (served.first rfl).perform genuine.master (written.distinct entry) call
    · exact fun later => served.member_later written entry later call kept
  | rotate draws k =>
    refine ⟨served.loaded,served.first,served.later,?_⟩
    intro sk member
    by_cases here : clusterSlot k = some c
    · have rotated := kept c here sk (served.loaded ▸ member)
      rw [clusterSlot_some here]
      change ((keys.tek.doRotate crypto draws (UInt32.ofNat c)).m_teks c).tek_int ≡ _ [ZMOD _]
      rw [TekManager.doRotate_same]
      exact rotated.trans (served.secret sk member)
    · change ((keys.tek.doRotate crypto draws k).m_teks c).tek_int ≡ _ [ZMOD _]
      rw [TekManager.doRotate_other draws here]
      exact served.secret sk member
  | update now k tek version =>
    refine ⟨served.loaded,served.first,served.later,?_⟩
    intro sk member
    change ((keys.tek.updateTek now k tek version).m_teks c).tek_int ≡ _ [ZMOD _]
    rw [TekManager.updateTek_tek_int]
    exact served.secret sk member

/-- Every slave that a member number stands for decrypts the token to the secret of the file. -/
theorem Served.decrypts (written : Written file) (entry : file.clusters[c]? = some cp)
    (served : Served file c cp keys) {sk : SlaveKeyEntry} (member : sk ∈ cp.slave_keys)
    (inside : sk.uav_index ∈ (keys.mc.m_groups c).members ∨
      sk.uav_id ∈ (keys.mc.m_groups c).members) :
    slaveDecrypt sk (keys.mc.m_groups c).mt_k = .ok (cp.tek_int%sk.n_i) := by
  have genuine := written.genuine cp (List.mem_of_getElem? entry)
  by_cases zero : c = 0
  · subst zero
    have index : sk.uav_index ∈ (keys.mc.m_groups 0).members := by
      have same := written.numbers 0 cp entry sk member
      rcases inside with index | number
      · exact index
      · rw [same] at number
        simpa using number
    exact slaveDecrypt_token genuine.master genuine.nonneg (served.first rfl).token member
      (by simpa using index)
  · rw [served.later zero]
    exact slaveDecrypt_token genuine.master genuine.nonneg genuine.token member
      (written.index entry member)

theorem Served.keyed (written : Written file) (entry : file.clusters[c]? = some cp)
    (served : Served file c cp keys) {i : UInt32} (inside : i ∈ (keys.mc.m_groups c).members) :
    ∃ sk ∈ cp.slave_keys, sk.uav_index = i ∨ sk.uav_id = i := by
  by_cases zero : c = 0
  · subst zero
    obtain ⟨sk,member,index⟩ := (served.first rfl).slaves i inside
    exact ⟨sk,member,.inl index⟩
  · rw [served.later zero,mem_first,SkdcApplication.mem_initialMembers] at inside
    have numbers : [UInt32.ofNat c*6,UInt32.ofNat c*6+1,UInt32.ofNat c*6+2,UInt32.ofNat c*6+3,
        UInt32.ofNat c*6+4,UInt32.ofNat c*6+5] =
          [0,1,2,3,4,5].map (fun j => UInt32.ofNat c*6+j) := by simp
    rw [numbers] at inside
    obtain ⟨j,index,number⟩ := List.mem_map.mp inside
    rw [← written.indices cp (List.mem_of_getElem? entry)] at index
    obtain ⟨sk,member,rfl⟩ := List.mem_map.mp index
    exact ⟨sk,member,.inr ((written.numbers c cp entry sk member).trans number)⟩

theorem Served.call (written : Written file) (entry : file.clusters[c]? = some cp)
    {state : Managers} (served : Served file c cp state.keys) (call : ManagerCall)
    (kept : call.Keeps crypto state) : Served file c cp (call.perform crypto state).1.keys :=
  (call.perform_carries crypto state).invariant kept
    (fun _ move allowed served => served.perform written entry move allowed) served

theorem CarriesTek.of_served (written : Written file)
    (served : ∀ (c : Fin 3) (cp : ClusterCryptoEntry), file.clusters[c]? = some cp →
      Served file c cp keys) : CarriesTek file keys where
  keyed c cp entry i inside := (served c cp entry).keyed written entry inside
  decrypts := by
    intro c cp entry sk member inside
    have genuine := written.genuine cp (List.mem_of_getElem? entry)
    rw [mod_positive (genuine.master.slave sk member).modulus_positive,
      (served c cp entry).decrypts written entry member inside]
    exact congrArg Except.ok ((served c cp entry).secret sk member).symm

theorem mod_eq_iff {a b n : Int} (positive : 0 < n) : mod a n = mod b n ↔ a ≡ b [ZMOD n] := by
  rw [mod_positive positive,mod_positive positive,Except.ok.injEq]
  exact Iff.rfl

/-- A rotation keeps the tokens exactly if it keeps the integer for every member. -/
theorem CarriesTek.rotated_iff (written : Written file) (carries : CarriesTek file keys)
    (draws : RotationDraws) (c : Fin 3) :
    CarriesTek file ((Move.rotate draws (UInt32.ofNat c)).perform crypto keys) ↔
      ∀ cp, file.clusters[c]? = some cp → ∀ sk ∈ cp.slave_keys,
        sk.uav_index ∈ (keys.mc.m_groups c).members ∨ sk.uav_id ∈ (keys.mc.m_groups c).members →
          fromBytes (keys.tek.rotatedTek crypto draws c).toList ≡
            (keys.tek.m_teks c).tek_int [ZMOD sk.n_i] := by
  have positive : ∀ (d : Fin 3) cp, file.clusters[d]? = some cp → ∀ sk ∈ cp.slave_keys, 0 < sk.n_i :=
    fun d cp entry sk member =>
      ((written.genuine cp (List.mem_of_getElem? entry)).master.slave sk member).modulus_positive
  constructor
  · intro after cp entry sk member inside
    have now := after.decrypts c cp entry sk member inside
    change _ = mod ((keys.tek.doRotate crypto draws (UInt32.ofNat c)).m_teks c).tek_int sk.n_i at now
    rw [TekManager.doRotate_same] at now
    apply (mod_eq_iff (positive c cp entry sk member)).mp
    exact now.symm.trans (carries.decrypts c cp entry sk member inside)
  · intro same
    refine ⟨carries.keyed,?_⟩
    intro d cp entry sk member inside
    have before := carries.decrypts d cp entry sk member inside
    change _ = mod ((keys.tek.doRotate crypto draws (UInt32.ofNat c)).m_teks d).tek_int sk.n_i
    by_cases here : d = c
    · subst here
      rw [TekManager.doRotate_same,(mod_eq_iff (positive d cp entry sk member)).mpr
        (same cp entry sk member inside)]
      exact before
    · rw [TekManager.doRotate_other]
      · exact before
      · rw [clusterSlot_ofNat]
        exact fun equal => here (Option.some.inj equal).symm

end Clusters

/-- From initialised managers on, the tokens carry the integers of the TEKs over every run whose
rotations keep them for every slave and whose joins add no slave to a cluster after the first. The
next rotation then keeps this exactly if it keeps its integer for every member. -/
theorem tokens_carry_teks (crypto : Primitives) {file : CryptoParamsFile} (written : Written file)
    (now : UInt64) (hmac_key : HmacKey) (rest : Managers) (calls : List ManagerCall)
    (kept : Run.Along (ManagerCall.step crypto) (ManagerCall.Keeps crypto)
      (rest.initialised now hmac_key file) calls) :
    let state := Run.final (ManagerCall.step crypto) (rest.initialised now hmac_key file) calls
    CarriesTek file state.keys ∧
    ∀ (draws : RotationDraws) (c : Fin 3),
      CarriesTek file ((ManagerCall.rotateOnTimer draws (UInt32.ofNat c)).perform crypto state).1.keys ↔
        ∀ cp, file.clusters[c]? = some cp → ∀ sk ∈ cp.slave_keys,
          sk.uav_index ∈ (state.mc.m_groups c).members ∨ sk.uav_id ∈ (state.mc.m_groups c).members →
            fromBytes (state.tek.rotatedTek crypto draws c).toList ≡
              (state.tek.m_teks c).tek_int [ZMOD sk.n_i] := by
  intro state
  have carries : CarriesTek file state.keys := by
    apply CarriesTek.of_served written
    intro c cp entry
    have safe : ∀ state call, ManagerCall.Keeps crypto state call → Served file c cp state.keys →
        Served file c cp (ManagerCall.step crypto state call).1.keys :=
      fun state call allowed served => served.call written entry call allowed
    exact kept.invariant safe (Served.start written entry now hmac_key rest)
  exact ⟨carries,fun draws c => carries.rotated_iff written draws c⟩

def secondPairs : List (Int × Int) :=
  [(359,383),(467,479),(503,563),(587,719),(839,863),(887,983)]

def thirdPairs : List (Int × Int) :=
  [(1019,1187),(1283,1307),(1319,1367),(1439,1487),(1523,1619),(1823,1907)]

theorem secondPairs_safe : SafePairs secondPairs where
  safe := by
    intro pair member
    simp only [secondPairs,List.mem_cons,List.not_mem_nil,or_false] at member
    rcases member with rfl | rfl | rfl | rfl | rfl | rfl
    all_goals
      constructor
      · apply SafePrime.of_natural <;> norm_num
      · apply SafePrime.of_natural <;> norm_num
  distinct := by decide

theorem thirdPairs_safe : SafePairs thirdPairs where
  safe := by
    intro pair member
    simp only [thirdPairs,List.mem_cons,List.not_mem_nil,or_false] at member
    rcases member with rfl | rfl | rfl | rfl | rfl | rfl
    all_goals
      constructor
      · apply SafePrime.of_natural <;> norm_num
      · apply SafePrime.of_natural <;> norm_num
  distinct := by decide

theorem secondEntry_genuine : Genuine secondEntry where
  master := by
    have generated : mKeyGen (fun _ => [0]) secondPairs =
      .ok (renumbered SlaveKeyEntry.uav_index (loadedKeys secondEntry)) := by decide +kernel
    exact (mKeyGen_ok secondPairs_safe generated).1.of_renumbered
  token := {
    exponent := ⟨by decide +kernel,by decide +kernel,by decide +kernel⟩
    modulus := by decide +kernel
    power := by decide +kernel
    secret := rfl
    users := rfl }
  nonneg := by decide

theorem thirdEntry_genuine : Genuine thirdEntry where
  master := by
    have generated : mKeyGen (fun _ => [0]) thirdPairs =
      .ok (renumbered SlaveKeyEntry.uav_index (loadedKeys thirdEntry)) := by decide +kernel
    exact (mKeyGen_ok thirdPairs_safe generated).1.of_renumbered
  token := {
    exponent := ⟨by decide +kernel,by decide +kernel,by decide +kernel⟩
    modulus := by decide +kernel
    power := by decide +kernel
    secret := rfl
    users := rfl }
  nonneg := by decide

theorem fleetFile_written : Written fleetFile where
  toFleet := MulticastManager.fleetFile_fleet
  genuine := by
    intro cp member
    simp only [fleetFile,List.mem_cons,List.not_mem_nil,or_false] at member
    rcases member with rfl | rfl | rfl
    · exact MulticastManager.sampleEntry_genuine
    · exact secondEntry_genuine
    · exact thirdEntry_genuine
  numbers := by
    intro c cp entry
    fin_cases c
    · cases entry
      decide
    · cases entry
      decide
    · cases entry
      decide

def sampleTekDraws : TekDraws where
  ts := 1700000000000000
  nonce := Vector.replicate 16 3
  update_us := 1700000000000000
  second_us := 1700000000000001
  broadcast := { packet := samplePacketDraws, now := 1700000000000002 }

theorem rekey_keeps (crypto : Primitives) (state : Managers) (draws : TekDraws) (k : UInt32)
    (reason : RekeyCause) (skdc : Option (Fin 3)) :
    (ManagerCall.triggerRekey draws k reason skdc).Keeps crypto state := by
  change Run.Along (Move.step crypto) (Move.Keeps crypto) state.keys (state.rekeyPlan crypto draws k skdc)
  unfold Managers.rekeyPlan
  split
  · exact Run.Along.nil
  · dsimp only
    refine Run.Along.cons trivial ?_
    split
    · exact Run.Along.cons trivial Run.Along.nil
    · exact Run.Along.nil

/-- Cluster zero is rekeyed, and a join of cluster one names a member that is there already. -/
theorem rekeyed_fleet_carries : CarriesTek fleetFile
    (Run.final (ManagerCall.step rotationCrypto) (fleetManagers.initialised 0 zeroKey fleetFile)
      [.triggerRekey sampleTekDraws 0 .periodic (some 0),
        .processJoin sampleJoinDraws 6 6 1 (some 1)]).keys := by
  refine (tokens_carry_teks rotationCrypto fleetFile_written 0 zeroKey fleetManagers _ ?_).1
  refine Run.Along.cons ?_ (Run.Along.cons ?_ Run.Along.nil)
  · exact rekey_keeps rotationCrypto _ sampleTekDraws 0 .periodic (some 0)
  · refine Run.Along.cons ?_ Run.Along.nil
    intro c slot later
    cases slot
    decide +kernel

/-- What the rotation at the sample time makes of the loaded key under the HMAC key of zeros. -/
def timerTek : AesGcmKey := ⟨#[77,56,115,77,29,31,114,146,250,33,230,255,223,150,87,40,140,133,244,228,
  42,23,107,213,239,208,254,240,138,213,81,29],rfl⟩

def timerCrypto : Primitives := { rotationCrypto with
  hmacSha256 := fun key message =>
    if key = zeroKey ∧ message = loadedTek.toList ++ ByteUtils.writeU64BE 1700000000000000 ++
        (Vector.replicate 16 3).toList then timerTek
    else rotationCrypto.hmacSha256 key message }

/-- The timer rotates the TEK of cluster zero, whose token keeps the integer of the key before. -/
theorem rotation_leaves_token : Written fleetFile ∧ ¬ CarriesTek fleetFile
    (Run.final (ManagerCall.step timerCrypto) (fleetManagers.initialised 0 zeroKey fleetFile)
      [.rotateOnTimer sampleLeaveDraws.rotation 0]).keys := by
  refine ⟨fleetFile_written,?_⟩
  intro carries
  have first := carries.decrypts 0 sampleEntry rfl
    { uav_index := 0, uav_id := 0, e_i := 13, d_i := 37, n_i := 77, x_i := 3, y_i := 5,
      Mi := 301607534624883553, Ni := 7, xy_i := 15, p_i := 7, q_i := 11 } (by decide)
    (.inl (by decide +kernel))
  revert first
  decide +kernel

end UavFanet.Apps
