import UavFanet.UavRuns

/-! The keys of a UAV over whole runs: start, tokens, moves and key deliveries. -/
namespace UavFanet.Apps
open Library UavFanet.ByteUtils UavFanet.Packet UavFanet.Handover

namespace KeyFields

variable {fields : KeyFields} {token : Option Int}

theorem Right.forget (right : fields.Right token) : fields.Right none := by
  obtain ⟨cluster,sk,hold⟩ := right
  refine ⟨cluster,sk,{ hold with decrypts := ?_ }⟩
  intro mt_k absent
  cases absent

/-- In that cluster the index names the key that its remainder by six names. -/
def SameSlot (params : Option CryptoParamsFile) (c uav_index : UInt32) : Prop :=
  ∀ cluster taken, params.bind (·.getCluster c) = some cluster →
    cluster.getSlaveKey (uav_index%6) = some taken → ∃ own,
      cluster.getSlaveKey uav_index = some own ∧ taken.d_i = own.d_i ∧ taken.n_i = own.n_i ∧
        taken.e_i = own.e_i

theorem Accepts.valid {mt_k : Int} {after : KeyFields} (accepts : fields.Accepts mt_k after) :
    after.tek_valid = true := by
  cases accepts with
  | own found decrypts => rfl
  | other foreign found slave decrypts => rfl

/-- A token of the own cluster leaves the keys right if and only if they were, valid or not. -/
theorem Accepts.stays_iff {mt_k : Int} {after : KeyFields} (accepts : fields.Accepts mt_k after)
    (same : after.cluster_id = fields.cluster_id) : after.Right (some mt_k) ↔ fields.Right none := by
  cases accepts with
  | @own cluster found decrypts =>
    constructor
    · rintro ⟨held,sk,hold⟩
      refine ⟨held,sk,hold.found,hold.slave,hold.d_i,hold.n_i,hold.e_i,hold.tek,hold.hmac,?_⟩
      intro other absent
      cases absent
    · rintro ⟨held,sk,hold⟩
      obtain rfl : held = cluster := Option.some.inj (hold.found.symm.trans found)
      refine ⟨held,sk,hold.found,hold.slave,hold.d_i,hold.n_i,hold.e_i,hold.tek,hold.hmac,?_⟩
      intro other accepted
      cases accepted
      exact decrypts
  | other foreign found slave decrypts => exact absurd same foreign

/-- A move leaves the keys right if and only if the key taken over is that of the index. -/
theorem Accepts.moves_iff {mt_k : Int} {after : KeyFields} (accepts : fields.Accepts mt_k after)
    (elsewhere : after.cluster_id ≠ fields.cluster_id) :
    after.Right (some mt_k) ↔ SameSlot fields.params after.cluster_id fields.uav_index := by
  cases accepts with
  | own found decrypts => exact absurd rfl elsewhere
  | @other c cl sk foreign found slave decrypts =>
    constructor
    · rintro ⟨held,own,hold⟩ cluster taken cluster_found taken_slave
      obtain rfl : cl = cluster := Option.some.inj (found.symm.trans cluster_found)
      obtain rfl : sk = taken := Option.some.inj (slave.symm.trans taken_slave)
      obtain rfl : cl = held := Option.some.inj (found.symm.trans hold.found)
      exact ⟨own,hold.slave,hold.d_i,hold.n_i,hold.e_i⟩
    · intro slot
      obtain ⟨own,own_slave,d_i,n_i,e_i⟩ := slot cl sk found slave
      refine ⟨cl,own,found,own_slave,d_i,n_i,e_i,rfl,rfl,?_⟩
      intro other accepted
      cases accepted
      exact decrypts

end KeyFields

/-- A delivery of the slave key of a slot in a cluster whose TEK, with its HMAC key, the UAV
holds already. -/
structure Delivers (app : UavApplication) (accept : JoinAccept) (cluster : ClusterCryptoEntry)
    (sk : SlaveKeyEntry) : Prop where
  found : app.m_params.bind (·.getCluster accept.new_cluster) = some cluster
  slave : cluster.getSlaveKey accept.new_index = some sk
  d_i : BigInt.fromBytes accept.blob.d_i_bytes = sk.d_i
  n_i : BigInt.fromBytes accept.blob.n_i_bytes = sk.n_i
  e_i : BigInt.fromBytes accept.blob.e_i_bytes = sk.e_i
  tek : app.m_state.current_tek = cluster.tek
  hmac : app.m_state.hmac_key = Hmac.keyFromAesKey app.m_state.current_tek

theorem delivers_iff {app : UavApplication} {accept : JoinAccept} :
    (app.updateSlaveKey accept.blob accept.new_cluster accept.new_index).keyFields.Right none ↔
      ∃ cluster sk, Delivers app accept cluster sk := by
  constructor
  · rintro ⟨cluster,sk,hold⟩
    exact ⟨cluster,sk,hold.found,hold.slave,hold.d_i,hold.n_i,hold.e_i,hold.tek,hold.hmac⟩
  · rintro ⟨cluster,sk,delivers⟩
    refine ⟨cluster,sk,delivers.found,delivers.slave,delivers.d_i,delivers.n_i,delivers.e_i,
      delivers.tek,delivers.hmac,?_⟩
    intro mt_k absent
    cases absent

namespace KeyedUav
open UavApplication KeyFields

/-- What the acceptance of a token asks for: that the key delivered before a token of the own cluster
was as above, and that a token of another cluster moves the UAV only where its index names the key
it takes over. -/
structure Keeps (crypto : Primitives) (uav : KeyedUav) (event : UavEvent) : Prop where
  delivery : ∀ buf before accept, event = .receivePacket buf →
    (uav.app.acceptedToken crypto buf).isSome = true →
    (uav.app.receivePacket crypto buf).1.m_cluster_id = uav.app.m_cluster_id →
    uav.delivered = some (before,accept) → ∃ cluster sk, Delivers before accept cluster sk
  move : ∀ buf, event = .receivePacket buf →
    (uav.app.receivePacket crypto buf).1.m_cluster_id ≠ uav.app.m_cluster_id →
      SameSlot uav.app.m_params (uav.app.receivePacket crypto buf).1.m_cluster_id uav.app.m_uav_index

theorem Keeps.silent {crypto : Primitives} {uav : KeyedUav} {event : UavEvent}
    (silent : ∀ buf, event ≠ .receivePacket buf) : Keeps crypto uav event where
  delivery buf _ _ received := absurd received (silent buf)
  move buf received := absurd received (silent buf)

def KeepsSlots (crypto : Primitives) : KeyedUav → List UavEvent → Prop :=
  Run.Along (step crypto) (Keeps crypto)

/-- A TEK that is taken for valid, and the keys beside it, are those of the UAV's slot. -/
def Sound (uav : KeyedUav) : Prop :=
  uav.app.m_state.tek_valid = true → uav.app.keyFields.Right uav.token

def KeysRight (crypto : Primitives) (start : KeyedUav) (events : List UavEvent) : Prop :=
  ∀ front rest, events = front ++ rest → (final crypto start front).Sound

structure Fresh (uav : KeyedUav) : Prop where
  state : uav.app.m_state = { uav_id := uav.app.m_uav_id, uav_index := uav.app.m_uav_index
                              cluster_id := uav.app.m_cluster_id }
  token : uav.token = none
  delivered : uav.delivered = none

/-- Before keys are loaded none are in use; then they are right, or as the last delivery left them. -/
inductive Ready (uav : KeyedUav) : Prop
  | unkeyed (unkeyed : uav.app.keyFields.Unkeyed) (token : uav.token = none)
      (settled : uav.delivered = none)
  | right (right : uav.app.keyFields.Right uav.token) (settled : uav.delivered = none)
  | waiting {before : UavApplication} {accept : JoinAccept} (waits : uav.delivered = some (before,accept))
      (fields : uav.app.keyFields =
        (before.updateSlaveKey accept.blob accept.new_cluster accept.new_index).keyFields)
      (token : uav.token = none)

variable {crypto : Primitives} {uav start : KeyedUav}

theorem Fresh.ready (fresh : Fresh start) : start.Ready := by
  refine .unkeyed ⟨?_,?_⟩ fresh.token fresh.delivered
  · rw [keyFields,fresh.state]
  · rw [keyFields,fresh.state]

theorem Fresh.sound (fresh : Fresh start) : start.Sound := by
  intro valid
  rw [fresh.state] at valid
  cases valid

/-- A UAV is sound that takes no TEK for valid. -/
theorem Ready.sound (ready : uav.Ready) : uav.Sound := by
  intro valid
  have taken : uav.app.keyFields.tek_valid = true := valid
  cases ready with
  | unkeyed unkeyed token settled =>
    rw [unkeyed.tek_valid] at taken
    cases taken
  | right right settled => exact right
  | waiting waits fields token =>
    rw [fields] at taken
    cases taken

/-- What leaves the keys alone leaves a ready UAV ready. -/
theorem Ready.same {event : UavEvent} {app : UavApplication} (ready : uav.Ready)
    (same : app.keyFields = uav.app.keyFields) (nothing : uav.app.installs crypto event = none)
    {token : Option Int} (kept : token = uav.token ∨ token = none) :
    (uav.after crypto event app token).Ready := by
  have delivered : (uav.after crypto event app token).delivered =
      if app.keyFields.tek_valid then none else uav.delivered := by
    rw [after,nothing]
    rfl
  cases ready with
  | unkeyed unkeyed none_taken settled =>
    refine .unkeyed (same ▸ unkeyed) ?_ ?_
    · rcases kept with rfl | rfl
      · exact none_taken
      · rfl
    · rw [delivered,settled,ite_self]
  | right right settled =>
    refine .right ?_ (by rw [delivered,settled,ite_self])
    show app.keyFields.Right token
    rw [same]
    rcases kept with rfl | rfl
    · exact right
    · exact right.forget
  | waiting waits fields none_taken =>
    refine .waiting ?_ (same.trans fields) ?_
    · rw [delivered,same,fields]
      exact waits
    · rcases kept with rfl | rfl
      · exact none_taken
      · rfl

/-- An accepted token leaves the keys of a ready UAV right under exactly these conditions. -/
theorem Ready.accepts_iff (ready : uav.Ready) {mt_k : Int} {after : KeyFields}
    (loaded : 0 < uav.app.m_state.d_i) (accepts : uav.app.keyFields.Accepts mt_k after) :
    after.Right (some mt_k) ↔
      (after.cluster_id = uav.app.m_cluster_id → ∀ before accept,
        uav.delivered = some (before,accept) → ∃ cluster sk, Delivers before accept cluster sk) ∧
      (after.cluster_id ≠ uav.app.m_cluster_id →
        SameSlot uav.app.m_params after.cluster_id uav.app.m_uav_index) := by
  by_cases same : after.cluster_id = uav.app.m_cluster_id
  · rw [accepts.stays_iff same]
    constructor
    · intro right
      refine ⟨fun _ before accept waits => ?_,fun moved => absurd same moved⟩
      cases ready with
      | unkeyed unkeyed token settled => cases settled.symm.trans waits
      | right own settled => cases settled.symm.trans waits
      | waiting delivered fields token =>
        obtain ⟨rfl,rfl⟩ := Prod.mk.inj (Option.some.inj (delivered.symm.trans waits))
        rw [fields] at right
        exact delivers_iff.mp right
    · rintro ⟨delivery,-⟩
      cases ready with
      | unkeyed unkeyed token settled =>
        have zero : uav.app.m_state.d_i = 0 := unkeyed.d_i
        omega
      | right own settled => exact own.forget
      | waiting waits fields token =>
        rw [fields]
        exact delivers_iff.mpr (delivery same _ _ waits)
  · rw [accepts.moves_iff same]
    constructor
    · exact fun slot => ⟨fun stays => absurd stays same,fun _ => slot⟩
    · exact fun ⟨_,slot⟩ => slot same

theorem step_delivers {event : UavEvent} {accept : JoinAccept}
    (installed : uav.app.installs crypto event = some accept) :
    (step crypto uav event).1 = {
      app := uav.app.updateSlaveKey accept.blob accept.new_cluster accept.new_index
      token := none
      delivered := some (uav.app,accept) } := by
  cases event with
  | updateSlaveKey blob new_cluster new_index =>
    cases installed
    rfl
  | receiveJoinAccept now_us buf =>
    rw [step]
    simp only
    rw [after,receiveJoinAccept_app,installed]
    rfl
  | initializeSlaveKey => cases installed
  | receivePacket buf => cases installed
  | sendData draws payload => cases installed

/-- Without a packet no token is accepted. -/
theorem Ready.step (ready : uav.Ready) {event : UavEvent} (silent : ∀ buf, event ≠ .receivePacket buf) :
    (step crypto uav event).1.Ready := by
  cases installed : uav.app.installs crypto event with
  | some accept =>
    rw [step_delivers installed]
    exact .waiting rfl rfl rfl
  | none =>
    cases event with
    | initializeSlaveKey =>
      rcases initializeSlaveKey_keyFields uav.app with same | ⟨valid,right⟩
      · exact ready.same same installed (.inr rfl)
      · exact .right right (if_pos valid)
    | receivePacket buf => exact absurd rfl (silent buf)
    | receiveJoinAccept now_us buf =>
      have reached := receiveJoinAccept_app crypto now_us buf uav.app
      rw [installed] at reached
      apply ready.same (congrArg keyFields reached) installed
      rw [installed]
      exact .inl rfl
    | updateSlaveKey blob new_cluster new_index => cases installed
    | sendData draws payload =>
      exact ready.same (sendData_keyFields draws payload uav.app) installed (.inl rfl)

theorem Ready.packet (ready : uav.Ready) (buf : ByteBuffer) :
    ((KeyedUav.step crypto uav (.receivePacket buf)).1.Sound ↔ Keeps crypto uav (.receivePacket buf)) ∧
      ((KeyedUav.step crypto uav (.receivePacket buf)).1.Sound →
        (KeyedUav.step crypto uav (.receivePacket buf)).1.Ready) := by
  rcases receivePacket_effect crypto buf uav.app with ⟨silent,same⟩ | ⟨mt_k,accepted,loaded,accepts⟩
  · have next : (KeyedUav.step crypto uav (.receivePacket buf)).1.Ready := by
      refine ready.same same rfl (.inl ?_)
      rw [silent,Option.none_or]
    refine ⟨⟨fun _ => ⟨?_,?_⟩,fun _ => next.sound⟩,fun _ => next⟩
    · intro other before accept received taken
      cases received
      rw [silent] at taken
      cases taken
    · intro other received elsewhere
      cases received
      exact absurd (congrArg KeyFields.cluster_id same) elsewhere
  · have valid : (uav.app.receivePacket crypto buf).1.m_state.tek_valid = true := accepts.valid
    have sound_iff : (KeyedUav.step crypto uav (.receivePacket buf)).1.Sound ↔
        (uav.app.receivePacket crypto buf).1.keyFields.Right (some mt_k) := by
      rw [Sound,KeyedUav.step]
      simp only [after,accepted,Option.some_or]
      exact ⟨fun sound => sound valid,fun right _ => right⟩
    have judged := ready.accepts_iff loaded accepts
    constructor
    · rw [sound_iff,judged]
      constructor
      · rintro ⟨delivery,move⟩
        constructor
        · intro other before accept received taken stays waits
          cases received
          exact delivery stays before accept waits
        · intro other received elsewhere
          cases received
          exact move elsewhere
      · intro keeps
        refine ⟨fun stays before accept waits => ?_,keeps.move buf rfl⟩
        exact keeps.delivery buf before accept rfl (by rw [accepted]; rfl) stays waits
    · intro sound
      have right := sound_iff.mp sound
      refine .right ?_ (if_pos valid)
      rw [KeyedUav.step]
      simp only [after,accepted,Option.some_or]
      exact right

theorem Ready.step_iff (ready : uav.Ready) (event : UavEvent) :
    ((KeyedUav.step crypto uav event).1.Sound ↔ Keeps crypto uav event) ∧
      ((KeyedUav.step crypto uav event).1.Sound → (KeyedUav.step crypto uav event).1.Ready) := by
  by_cases packet : ∃ buf, event = .receivePacket buf
  · obtain ⟨buf,rfl⟩ := packet
    exact ready.packet buf
  · have silent : ∀ buf, event ≠ .receivePacket buf := not_exists.mp packet
    have next : (KeyedUav.step crypto uav event).1.Ready := ready.step silent
    exact ⟨⟨fun _ => .silent silent,fun _ => next.sound⟩,fun _ => next⟩

/-- From a fresh start on, a TEK in use and the keys beside it are those of the slot for as long as
every accepted token finds them so. -/
theorem keys_of_slot (crypto : Primitives) {start : KeyedUav} (fresh : Fresh start)
    (events : List UavEvent) : KeysRight crypto start events ↔ KeepsSlots crypto start events :=
  Run.always_along (fun _ event ready => (ready.step_iff event).1)
    (fun _ event ready => (ready.step_iff event).2) fresh.ready fresh.sound events

end KeyedUav

def fleetUav : KeyedUav where
  app := { m_uav_id := 1, m_uav_index := 1, m_params := some fleetFile
           m_state := { uav_id := 1, uav_index := 1 } }

/-- The bytes of a slave key, each number in its last bytes. -/
def keyBlob (new_cluster new_index : UInt32) (d_i n_i e_i : Nat) : SlaveKeyBlob where
  uav_index := new_index
  cluster_id := new_cluster
  d_i_bytes := BigEndian.encode 4 d_i
  n_i_bytes := BigEndian.encode 4 n_i
  e_i_bytes := BigEndian.encode 4 e_i

/-- The broadcast of a cluster's SKDC with the token of the file. -/
def tokenWire (c : UInt32) (cluster : ClusterCryptoEntry) : ByteBuffer :=
  let skdc : SkdcApplication :=
    { m_cluster_id := c, node_id := c+1, m_params := some fleetFile, m_wifi_socket := true
      m_state := { cluster_id := c, current_tek := cluster.tek, hmac_key := cluster.tek,
                   mt_k := cluster.MT_K, n_group := cluster.N_group
                   e_mk := cluster.e_MK, tek_received := true } }
  match (skdc.broadcastMtk samplePacketDraws).2 with
  | .ok (some broadcast) => broadcast.wire
  | _ => []

/-- The UAV gets another slave key of its cluster, and then a token of that cluster. -/
def swapEvents : List UavEvent :=
  [.initializeSlaveKey,.updateSlaveKey (keyBlob 0 2 3805 4897 5) 0 2,
    .receivePacket (tokenWire 0 sampleEntry)]

theorem swap_right :
    (KeyedUav.final rotationCrypto fleetUav swapEvents).token = some sampleEntry.MT_K ∧
      KeyedUav.KeysRight rotationCrypto fleetUav swapEvents := by
  refine ⟨by decide +kernel,?_⟩
  refine (KeyedUav.keys_of_slot rotationCrypto ⟨rfl,rfl,rfl⟩ swapEvents).mpr ?_
  refine Run.Along.cons (.silent nofun) (Run.Along.cons (.silent nofun) ?_)
  refine Run.Along.cons ⟨?_,?_⟩ Run.Along.nil
  · intro buf before accept received taken stays waits
    cases waits
    exact ⟨sampleEntry,sampleEntry.slave_keys.get ⟨2,by decide⟩,rfl,rfl,by decide +kernel,
      by decide +kernel,by decide +kernel,rfl,rfl⟩
  · intro buf received elsewhere
    cases received
    exact absurd (by decide +kernel) elsewhere

/-- The UAV gets a slave key of the second cluster, and then a token of that cluster. -/
def handoverEvents : List UavEvent :=
  [.initializeSlaveKey,.updateSlaveKey (keyBlob 1 0 109405 137497 5) 1 0,
    .receivePacket (tokenWire 1 secondEntry)]

/-- It takes its TEK for valid, and still holds the TEK of the first cluster. -/
theorem handover_stale :
    KeyedUav.Fresh fleetUav ∧ ¬ KeyedUav.KeysRight rotationCrypto fleetUav handoverEvents := by
  refine ⟨⟨rfl,rfl,rfl⟩,?_⟩
  intro right
  have reached : let app := (KeyedUav.final rotationCrypto fleetUav handoverEvents).app
      app.m_state.tek_valid = true ∧ app.m_cluster_id = 1 ∧ app.m_params = some fleetFile ∧
        app.m_state.current_tek = loadedTek := by decide +kernel
  obtain ⟨valid,cluster_id,params,tek⟩ := reached
  obtain ⟨cluster,sk,hold⟩ := right handoverEvents [] (by simp) valid
  have found := hold.found
  have same := hold.tek
  unfold UavApplication.keyFields at found same
  simp only at found same
  rw [cluster_id,params] at found
  obtain rfl : secondEntry = cluster := Option.some.inj found
  rw [tek] at same
  exact absurd same (by decide)

end UavFanet.Apps
