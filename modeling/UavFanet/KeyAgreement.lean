import UavFanet.SkdcRuns
import UavFanet.UavApp

/-! An SKDC and a member UAV with the broadcasts in flight between them: what the keys
of both are after every run. -/
namespace UavFanet.KeyAgreement
open Library UavFanet.ByteUtils UavFanet.Packet UavFanet.Apps SkdcCall

/-- The last call that set keys: the state it met, what it set, and how many broadcasts had
been sent before it. -/
structure LastChange where
  before : SkdcState
  change : KeyChange
  sent : Nat

/-- `air` lists every broadcast sent so far; `last` is bookkeeping for the statements. -/
structure World where
  skdc : SkdcApplication
  uav : UavApplication
  air : List ByteBuffer := []
  last : Option LastChange := none

inductive Event where
  | skdc (call : SkdcCall)
  /-- The UAV receives a broadcast: any of them, in any order, any number of times. -/
  | deliver (position sim_now : Nat)
  | sendData (draws : DataDraws) (payload : ByteBuffer)

/-- The largest datagram a UDP socket of the simulator sends. -/
def maxDatagram : Nat := 65507

def step (crypto : Primitives) (world : World) : Event → World × Option Reception
  | .skdc call =>
    let outcome := call.perform crypto world.skdc
    ({ world with
        skdc := outcome.1
        air := world.air ++ (outcome.2.map MtkBroadcast.wire).toList
        last := match call.keyChange crypto world.skdc with
          | none => world.last
          | some change => some { before := world.skdc.m_state, change, sent := world.air.length } },
      none)
  | .deliver position sim_now =>
    match world.air[position]? with
    | none => (world,none)
    | some wire =>
      if wire.length > maxDatagram then (world,none)
      else
        let outcome := world.uav.receivePacket crypto wire
        match outcome.2 with
        | .error _ => ({ world with uav := outcome.1 },none)
        | .ok reception =>
          let skdc := match reception.ack with
            | none => world.skdc
            | some version => (world.skdc.onUavRekeyAck sim_now outcome.1.m_uav_id version).1
          ({ world with uav := outcome.1, skdc },some reception)
  | .sendData draws payload => ({ world with uav := (world.uav.sendData crypto draws payload).1 },none)

abbrev run (crypto : Primitives) (world : World) (events : List Event) : World :=
  Run.final (step crypto) world events

/-- Both applications have just started on a parameter file. -/
structure Started (file : CryptoParamsFile) (cluster_id index : UInt32) (world : World) : Prop where
  skdc : ∃ app random_key, app.m_params = some file ∧ app.m_cluster_id = cluster_id ∧
    SkdcApplication.initializeState random_key app = .ok world.skdc
  uav : ∃ app, app.m_params = some file ∧ app.m_cluster_id = cluster_id ∧
    app.m_uav_index = index ∧ world.uav = UavApplication.initializeSlaveKey app
  air : world.air = []
  last : world.last = none

/-- Both load one entry of the file, and with the UAV's slave key its token decrypts to
what the UAV expects of it. -/
structure Provisioned (file : CryptoParamsFile) (cluster_id index : UInt32)
    (entry : ClusterCryptoEntry) (sk : SlaveKeyEntry) : Prop where
  position : file.clusters[cluster_id.toNat]? = some entry
  found : file.getCluster cluster_id = some entry
  slave : entry.getSlaveKey index = some sk
  decrypts : ∀ recovered, BigInt.modPow entry.MT_K sk.d_i sk.n_i = .ok recovered →
    UavApplication.matchesTek entry sk.n_i recovered = .ok true

def Agreed (world : World) : Prop :=
  world.uav.m_state.current_tek = world.skdc.m_state.current_tek ∧
    world.uav.m_state.hmac_key = world.skdc.m_state.hmac_key

/-- The last change of keys, if any, put the loaded key back: an update that carries it, or
a rotation under its HMAC key whose digest is the key itself. -/
def Restored (crypto : Primitives) (tek : AesGcmKey) : Option LastChange → Prop
  | none => True
  | some ⟨_,.install installed,_⟩ => installed = tek
  | some ⟨before,.rotate epoch_us,_⟩ => before.hmac_key = Hmac.keyFromAesKey tek ∧
      Hmac.compute crypto before.hmac_key (before.current_tek.toList ++ writeU64BE epoch_us) = tek

structure SameKeys (before after : UavApplication) : Prop where
  cluster : after.m_cluster_id = before.m_cluster_id
  params : after.m_params = before.m_params
  d_i : after.m_state.d_i = before.m_state.d_i
  n_i : after.m_state.n_i = before.m_state.n_i
  tek : after.m_state.current_tek = before.m_state.current_tek
  hmac : after.m_state.hmac_key = before.m_state.hmac_key

theorem SameKeys.refl (app : UavApplication) : SameKeys app app := ⟨rfl,rfl,rfl,rfl,rfl,rfl⟩

theorem decryptMtk_keeps {app verified : UavApplication} {file : CryptoParamsFile}
    {entry : ClusterCryptoEntry} {mt_k n_group : Int}
    (returned : app.decryptMtk mt_k n_group = .ok (some verified)) (params : app.m_params = some file)
    (found : file.getCluster app.m_cluster_id = some entry)
    (decrypts : ∀ recovered, BigInt.modPow mt_k app.m_state.d_i app.m_state.n_i = .ok recovered →
      UavApplication.matchesTek entry app.m_state.n_i recovered = .ok true) :
    SameKeys app verified := by
  rw [UavApplication.decryptMtk] at returned
  split at returned
  · cases returned
  · obtain ⟨recovered,power,returned⟩ := Result.bind_ok.mp returned
    have own : app.verifyMtk mt_k recovered = .ok (some app) := by
      rw [UavApplication.verifyMtk,params]
      simp only [found,decrypts recovered power,Result.ok_bind,if_true]
      rfl
    rw [own,Result.ok_bind] at returned
    cases returned
    exact ⟨rfl,rfl,rfl,rfl,rfl,rfl⟩

structure CarriesToken (cluster_id : UInt32) (mt_k : Int) (wire : ByteBuffer) (packet : MtkPacket) :
    Prop where
  cluster : packet.body.cluster_id = cluster_id
  mtk : packet.body.mtk = mt_k
  magic : packet.header.magic = packetMagic
  kind : packet.header.packet_type = .mtkPacket
  written : ∃ bytes, packet.serialize = .ok bytes ∧ wire = bytes ++ List.replicate 32 0

theorem CarriesToken.parsed {cluster_id : UInt32} {mt_k : Int} {wire : ByteBuffer} {packet : MtkPacket}
    (carries : CarriesToken cluster_id mt_k wire packet) (short : wire.length ≤ maxDatagram) :
    MtkPacket.deserializeNoHmac wire = .ok packet ∧ peekType wire = .mtkPacket := by
  obtain ⟨bytes,written,rfl⟩ := carries.written
  obtain ⟨body_buf,-,whole,total⟩ := MtkPacket.serialize_ok written
  rw [List.length_append,maxDatagram] at short
  refine ⟨MtkPacket.deserialize_serialize carries.magic written (by omega) (by omega) (by simp),?_⟩
  rw [← whole,List.append_assoc,List.append_assoc,peekType_serialize carries.magic,carries.kind]

section Uav

variable (crypto : Primitives) {app : UavApplication} {file : CryptoParamsFile}
  {entry : ClusterCryptoEntry} {mt_k : Int}

theorem receivePacket_keeps (params : app.m_params = some file)
    (found : file.getCluster app.m_cluster_id = some entry)
    (decrypts : ∀ recovered, BigInt.modPow mt_k app.m_state.d_i app.m_state.n_i = .ok recovered →
      UavApplication.matchesTek entry app.m_state.n_i recovered = .ok true)
    {cluster_id : UInt32} {wire : ByteBuffer} {packet : MtkPacket}
    (carries : CarriesToken cluster_id mt_k wire packet) (short : wire.length ≤ maxDatagram) :
    SameKeys app (app.receivePacket crypto wire).1 := by
  obtain ⟨parsed,kind⟩ := carries.parsed short
  rw [UavApplication.receivePacket]
  split
  · exact .refl app
  split
  · exact .refl app
  rw [UavApplication.processMtkPacket,parsed]
  simp only [Result.caught,carries.mtk]
  split
  · exact .refl app
  split
  · exact .refl app
  split
  · exact ⟨rfl,rfl,rfl,rfl,rfl,rfl⟩
  · exact ⟨rfl,rfl,rfl,rfl,rfl,rfl⟩
  · exact ⟨rfl,rfl,rfl,rfl,rfl,rfl⟩
  · rename_i verified outcome
    have returned := Result.caught_some.mp outcome
    obtain ⟨cluster,params,d_i,n_i,tek,hmac⟩ := decryptMtk_keeps returned params found decrypts
    exact ⟨cluster,params,d_i,n_i,tek,hmac⟩

theorem sendData_keeps (draws : DataDraws) (payload : ByteBuffer) :
    SameKeys app (app.sendData crypto draws payload).1 := by
  rw [UavApplication.sendData]
  split
  · exact .refl app
  split
  · exact .refl app
  simp only
  split
  · exact ⟨rfl,rfl,rfl,rfl,rfl,rfl⟩
  · exact ⟨rfl,rfl,rfl,rfl,rfl,rfl⟩

end Uav

def keysAfter (crypto : Primitives) (tek : AesGcmKey) : Option LastChange → AesGcmKey × HmacKey
  | none => (tek,Hmac.keyFromAesKey tek)
  | some last =>
    let state := last.before.withKeys crypto (some last.change)
    (state.current_tek,state.hmac_key)

/-- The UAV holds the loaded keys, and only the loaded token is ever in flight. -/
structure Invariant (crypto : Primitives) (file : CryptoParamsFile) (cluster_id : UInt32)
    (entry : ClusterCryptoEntry) (sk : SlaveKeyEntry) (world : World) : Prop where
  uav_cluster : world.uav.m_cluster_id = cluster_id
  uav_params : world.uav.m_params = some file
  d_i : world.uav.m_state.d_i = sk.d_i
  n_i : world.uav.m_state.n_i = sk.n_i
  uav_tek : world.uav.m_state.current_tek = entry.tek
  uav_hmac : world.uav.m_state.hmac_key = Hmac.keyFromAesKey entry.tek
  skdc_cluster : world.skdc.m_cluster_id = cluster_id
  mt_k : world.skdc.m_state.mt_k = entry.MT_K
  skdc_keys : (world.skdc.m_state.current_tek,world.skdc.m_state.hmac_key) =
    keysAfter crypto entry.tek world.last
  air : ∀ wire ∈ world.air, ∃ packet, CarriesToken cluster_id entry.MT_K wire packet

section Runs

variable {crypto : Primitives} {file : CryptoParamsFile} {cluster_id index : UInt32}
  {entry : ClusterCryptoEntry} {sk : SlaveKeyEntry} {world : World}

theorem Invariant.start (provisioned : Provisioned file cluster_id index entry sk)
    (started : Started file cluster_id index world) :
    Invariant crypto file cluster_id entry sk world := by
  obtain ⟨⟨skdc,random_key,skdc_params,skdc_cluster,skdc_started⟩,
    ⟨uav,uav_params,uav_cluster,uav_index,uav_started⟩,air,last⟩ := started
  rw [← skdc_cluster] at provisioned
  rw [SkdcApplication.initializeState_loaded random_key skdc_params provisioned.position] at skdc_started
  have skdc_loaded := (Except.ok.inj skdc_started).symm
  have found : file.getCluster uav.m_cluster_id = some entry := by
    rw [uav_cluster,← skdc_cluster]
    exact provisioned.found
  have slave : entry.getSlaveKey uav.m_uav_index = some sk := by
    rw [uav_index]
    exact provisioned.slave
  rw [UavApplication.initializeSlaveKey_loaded uav_params found slave] at uav_started
  refine ⟨?_,?_,?_,?_,?_,?_,?_,?_,?_,?_⟩
  all_goals simp [uav_started,skdc_loaded,uav_cluster,uav_params,skdc_cluster,last,air,keysAfter]

theorem Invariant.skdc_step (holds : Invariant crypto file cluster_id entry sk world)
    (call : SkdcCall) :
    Invariant crypto file cluster_id entry sk (step crypto world (.skdc call)).1 := by
  obtain ⟨state,cluster,announces⟩ := perform_effect crypto world.skdc call
  refine { holds with
    skdc_cluster := cluster.trans holds.skdc_cluster
    mt_k := ?_, skdc_keys := ?_, air := ?_ }
  · simp only [step,state,SkdcState.withKeys_mt_k,SkdcState.withMembers_mt_k,holds.mt_k]
  · simp only [step,state,SkdcState.withKeys_withMembers_current_tek,
      SkdcState.withKeys_withMembers_hmac_key]
    cases changed : call.keyChange crypto world.skdc with
    | none => exact holds.skdc_keys
    | some change => rfl
  · intro wire sent
    rcases List.mem_append.mp sent with before | now
    · exact holds.air wire before
    · cases broadcast : (call.perform crypto world.skdc).2 with
      | none => simp [broadcast] at now
      | some made =>
        obtain rfl : wire = made.wire := by simpa [broadcast] using now
        obtain ⟨reported,_,mtk,_,magic,kind,written⟩ := announces made broadcast
        rw [cluster,holds.skdc_cluster] at reported
        rw [state,SkdcState.withKeys_mt_k,SkdcState.withMembers_mt_k,holds.mt_k] at mtk
        exact ⟨made.packet,reported,mtk,magic,kind,written⟩

theorem Invariant.uav_step (holds : Invariant crypto file cluster_id entry sk world)
    {uav : UavApplication} (same : SameKeys world.uav uav) :
    Invariant crypto file cluster_id entry sk { world with uav } where
  uav_cluster := same.cluster.trans holds.uav_cluster
  uav_params := same.params.trans holds.uav_params
  d_i := same.d_i.trans holds.d_i
  n_i := same.n_i.trans holds.n_i
  uav_tek := same.tek.trans holds.uav_tek
  uav_hmac := same.hmac.trans holds.uav_hmac
  skdc_cluster := holds.skdc_cluster
  mt_k := holds.mt_k
  skdc_keys := holds.skdc_keys
  air := holds.air

theorem Invariant.deliver_step (provisioned : Provisioned file cluster_id index entry sk)
    (holds : Invariant crypto file cluster_id entry sk world) (position sim_now : Nat) :
    Invariant crypto file cluster_id entry sk (step crypto world (.deliver position sim_now)).1 := by
  rw [step]
  split
  · exact holds
  · rename_i wire present
    obtain ⟨packet,carries⟩ := holds.air wire (List.mem_of_getElem? present)
    split
    · exact holds
    · rename_i short
      have found : file.getCluster world.uav.m_cluster_id = some entry := by
        rw [holds.uav_cluster]
        exact provisioned.found
      have decrypts := provisioned.decrypts
      rw [← holds.d_i,← holds.n_i] at decrypts
      have received := holds.uav_step
        (receivePacket_keeps crypto holds.uav_params found decrypts carries (by omega))
      simp only
      split
      · exact received
      · rename_i reception _
        split
        · exact received
        -- The acknowledgement goes back to the SKDC, whose state it does not touch.
        · rename_i version _
          obtain ⟨state,cluster,-⟩ := perform_effect crypto world.skdc
            (.onUavRekeyAck sim_now (world.uav.receivePacket crypto wire).1.m_uav_id version)
          refine { received with skdc_cluster := ?_, mt_k := ?_, skdc_keys := ?_ }
          · exact cluster.trans holds.skdc_cluster
          · exact (congrArg SkdcState.mt_k state).trans holds.mt_k
          · have tek := congrArg SkdcState.current_tek state
            have hmac := congrArg SkdcState.hmac_key state
            exact (Prod.ext tek hmac).trans holds.skdc_keys

theorem Invariant.step (provisioned : Provisioned file cluster_id index entry sk) (world : World)
    (event : Event) (holds : Invariant crypto file cluster_id entry sk world) :
    Invariant crypto file cluster_id entry sk (step crypto world event).1 := by
  cases event with
  | skdc call => exact holds.skdc_step call
  | deliver position sim_now => exact holds.deliver_step provisioned position sim_now
  | sendData draws payload => exact holds.uav_step (sendData_keeps crypto draws payload)

theorem Invariant.agreed_iff (holds : Invariant crypto file cluster_id entry sk world) :
    Agreed world ↔ Restored crypto entry.tek world.last := by
  have keys := holds.skdc_keys
  rw [Agreed,holds.uav_tek,holds.uav_hmac]
  cases last : world.last with
  | none =>
    rw [last] at keys
    obtain ⟨tek,hmac⟩ := Prod.mk.inj keys
    rw [tek,hmac]
    exact iff_of_true ⟨rfl,rfl⟩ trivial
  | some change =>
    obtain ⟨before,change,sent⟩ := change
    rw [last] at keys
    obtain ⟨tek,hmac⟩ := Prod.mk.inj keys
    rw [tek,hmac]
    cases change with
    | rotate epoch_us =>
      simp only [SkdcState.withKeys,SkdcApplication.rotatedTek,Restored]
      constructor
      · rintro ⟨same,kept⟩
        exact ⟨kept.symm,same.symm⟩
      · rintro ⟨kept,same⟩
        exact ⟨same.symm,kept.symm⟩
    | install installed =>
      simp only [SkdcState.withKeys,Restored,Hmac.keyFromAesKey,and_self]
      exact eq_comm

end Runs

/-- After every run of the two, whatever was delivered and decrypted of it, their keys agree
exactly where the last change of the SKDC's keys put the loaded key back. -/
theorem keys_agree_iff_restored (crypto : Primitives) {file : CryptoParamsFile}
    {cluster_id index : UInt32} {entry : ClusterCryptoEntry} {sk : SlaveKeyEntry}
    (provisioned : Provisioned file cluster_id index entry sk) {start : World}
    (started : Started file cluster_id index start) (events : List Event) :
    Agreed (run crypto start events) ↔
      Restored crypto entry.tek (run crypto start events).last := by
  have initial : Invariant crypto file cluster_id entry sk start := .start provisioned started
  have holds : Invariant crypto file cluster_id entry sk (run crypto start events) :=
    Run.final_invariant (step crypto) (Invariant.step provisioned) initial events
  exact holds.agreed_iff

def idleUav : UavApplication := { m_uav_id := 1, m_uav_index := 1, m_params := some sampleFile }

def sampleWorld : World where
  skdc := startedSkdc
  uav := idleUav.initializeSlaveKey

theorem sample_provisioned :
    Provisioned sampleFile 0 1 sampleEntry (sampleEntry.slave_keys.get ⟨1,by decide⟩) where
  position := rfl
  found := rfl
  slave := rfl
  decrypts recovered power := by
    have two : BigInt.modPow sampleEntry.MT_K 405 1081 = .ok 2 := by decide +kernel
    obtain rfl : (2 : Int) = recovered := Except.ok.inj (two.symm.trans power)
    rfl

theorem sample_started : Started sampleFile 0 1 sampleWorld where
  skdc := ⟨idleSkdc,.ok zeroKey,rfl,rfl,rfl⟩
  uav := ⟨idleUav,rfl,rfl,rfl,rfl⟩
  air := rfl
  last := rfl

def otherTek : AesGcmKey := Vector.replicate 32 3

/-- Another key and then the loaded one installed again: the keys agree once more. -/
theorem reinstalled_tek_agrees :
    Agreed (run rotationCrypto sampleWorld [.skdc (.updateTek samplePacketDraws otherTek),
      .skdc (.updateTek samplePacketDraws loadedTek),.deliver 1 0]) := by
  have changed : (run rotationCrypto sampleWorld [.skdc (.updateTek samplePacketDraws otherTek),
      .skdc (.updateTek samplePacketDraws loadedTek),.deliver 1 0]).last.map (·.change) =
        some (.install loadedTek) := by decide +kernel
  obtain ⟨last,found,installed⟩ := Option.map_eq_some_iff.mp changed
  apply (keys_agree_iff_restored rotationCrypto sample_provisioned sample_started _).mpr
  rw [found]
  obtain ⟨before,change,sent⟩ := last
  obtain rfl : change = .install loadedTek := installed
  rfl

/-- One rekey: its own broadcast reaches the UAV and is decrypted, and the UAV still holds the
key it loaded while the SKDC holds the rotated one. -/
theorem rekey_never_arrives :
    Provisioned sampleFile 0 1 sampleEntry (sampleEntry.slave_keys.get ⟨1,by decide⟩) ∧
    Started sampleFile 0 1 sampleWorld ∧
    (run rotationCrypto sampleWorld [.skdc (.triggerRekey sampleRekeyDraws)]).last.map (·.sent) = some 0 ∧
    (step rotationCrypto (run rotationCrypto sampleWorld [.skdc (.triggerRekey sampleRekeyDraws)])
      (.deliver 0 0)).2 = some { decrypted := some true } ∧
    ¬ Agreed (run rotationCrypto sampleWorld [.skdc (.triggerRekey sampleRekeyDraws),.deliver 0 0]) := by
  refine ⟨sample_provisioned,sample_started,rfl,by decide +kernel,?_⟩
  have apart : (run rotationCrypto sampleWorld
      [.skdc (.triggerRekey sampleRekeyDraws),.deliver 0 0]).uav.m_state.current_tek ≠
      (run rotationCrypto sampleWorld
        [.skdc (.triggerRekey sampleRekeyDraws),.deliver 0 0]).skdc.m_state.current_tek := by
    decide +kernel
  exact fun agreed => apart agreed.1

end UavFanet.KeyAgreement
