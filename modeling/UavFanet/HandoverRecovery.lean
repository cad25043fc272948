import UavFanet.KeyAgreement
import UavFanet.UavKeys

/-! A UAV that has got the slave key of a new cluster, and the broadcasts of that cluster's SKDC:
which of them give it the TEK they carry. -/
namespace UavFanet.HandoverRecovery
open Library UavFanet.ByteUtils UavFanet.Packet UavFanet.Apps UavFanet.KeyAgreement
open UavFanet.Handover

/-- The SKDC and the slave key belong to one entry, whose token carries its TEK to the holder of the
slave key. The integer of every TEK of the file is that of its bytes. -/
structure Issued (file : CryptoParamsFile) (cluster_id index : UInt32) (entry : ClusterCryptoEntry)
    (sk : SlaveKeyEntry) : Prop where
  position : file.clusters[cluster_id.toNat]? = some entry
  found : file.getCluster cluster_id = some entry
  slave : entry.getSlaveKey index = some sk
  exponent : 0 < sk.d_i
  modulus : 0 < sk.n_i
  carries : ∃ recovered, BigInt.modPow entry.MT_K sk.d_i sk.n_i = .ok recovered ∧
    BigInt.mod entry.tek_int sk.n_i = .ok recovered
  integers : ∀ cl ∈ file.clusters, cl.tek_int = BigEndian.decode cl.tek.toList

/-- The SKDC of a cluster that has just started on the file. -/
def Starts (file : CryptoParamsFile) (cluster_id : UInt32) (start : SkdcApplication) : Prop :=
  ∃ app random_key, app.m_params = some file ∧ app.m_cluster_id = cluster_id ∧
    SkdcApplication.initializeState random_key app = .ok start

structure Holds (blob : SlaveKeyBlob) (sk : SlaveKeyEntry) : Prop where
  d_i : BigInt.fromBytes blob.d_i_bytes = sk.d_i
  n_i : BigInt.fromBytes blob.n_i_bytes = sk.n_i
  e_i : BigInt.fromBytes blob.e_i_bytes = sk.e_i

def Recovered (tek : AesGcmKey) (app : UavApplication) : Prop :=
  app.m_state.tek_valid = true ∧ app.m_state.current_tek = tek

section Broadcasts

variable {crypto : Primitives} {file : CryptoParamsFile} {cluster_id index : UInt32}
  {entry : ClusterCryptoEntry} {sk : SlaveKeyEntry} {start : SkdcApplication}

structure KeepsToken (cluster_id : UInt32) (entry : ClusterCryptoEntry) (skdc : SkdcApplication) :
    Prop where
  cluster : skdc.m_cluster_id = cluster_id
  mt_k : skdc.m_state.mt_k = entry.MT_K

theorem Starts.keepsToken (starts : Starts file cluster_id start)
    (position : file.clusters[cluster_id.toNat]? = some entry) : KeepsToken cluster_id entry start := by
  obtain ⟨app,random_key,params,cluster,started⟩ := starts
  rw [← cluster] at position
  rw [SkdcApplication.initializeState_loaded random_key params position] at started
  have reached := Except.ok.inj started
  exact ⟨by rw [← reached]; exact cluster,by rw [← reached]⟩

section Steps

variable (crypto : Primitives) (skdc : SkdcApplication) (call : SkdcCall)

theorem KeepsToken.step (keeps : KeepsToken cluster_id entry skdc) :
    KeepsToken cluster_id entry (call.perform crypto skdc).1 := by
  obtain ⟨state,cluster,-⟩ := SkdcCall.perform_effect crypto skdc call
  constructor
  · exact cluster.trans keeps.cluster
  · rw [state,SkdcState.withKeys_mt_k,SkdcState.withMembers_mt_k,keeps.mt_k]

theorem KeepsToken.sends (broadcast : MtkBroadcast) (keeps : KeepsToken cluster_id entry skdc)
    (sent : (call.perform crypto skdc).2 = some broadcast) :
    CarriesToken cluster_id entry.MT_K broadcast.wire broadcast.packet := by
  obtain ⟨cluster,mt_k⟩ := keeps.step crypto skdc call
  obtain ⟨reached,-,mtk,-,magic,kind,written⟩ :=
    (SkdcCall.perform_effect crypto skdc call).announces broadcast sent
  exact ⟨reached.trans cluster,mtk.trans mt_k,magic,kind,written⟩

end Steps

/-- Whatever the SKDC has done before, what it broadcasts is the token of the entry. -/
theorem broadcast_carries (crypto : Primitives) (starts : Starts file cluster_id start)
    (position : file.clusters[cluster_id.toNat]? = some entry) (calls : List SkdcCall)
    {sent : SkdcApplication × MtkBroadcast}
    (made : sent ∈ Run.outputs (SkdcCall.perform crypto) start calls) :
    CarriesToken cluster_id entry.MT_K sent.2.wire sent.2.packet :=
  @Run.outputs_safe _ _ _ (SkdcCall.perform crypto) (KeepsToken cluster_id entry)
    (fun _ broadcast => CarriesToken cluster_id entry.MT_K broadcast.wire broadcast.packet)
    (KeepsToken.step crypto) (KeepsToken.sends crypto) start (starts.keepsToken position) calls
    sent.1 sent.2 made

end Broadcasts

section Tokens

variable {file : CryptoParamsFile} {cluster_id index : UInt32} {entry : ClusterCryptoEntry}
  {sk : SlaveKeyEntry} {app : UavApplication}

/-- A UAV of the entry's cluster that has the slave key. -/
structure Keyed (file : CryptoParamsFile) (cluster_id : UInt32) (sk : SlaveKeyEntry)
    (app : UavApplication) : Prop where
  params : app.m_params = some file
  cluster : app.m_cluster_id = cluster_id
  d_i : app.m_state.d_i = sk.d_i
  n_i : app.m_state.n_i = sk.n_i

/-- Its own cluster's token, unless the TEK is zero, makes the TEK it has valid. -/
theorem Keyed.decrypts (keyed : Keyed file cluster_id sk app)
    (issued : Issued file cluster_id index entry sk) (positive : 0 < entry.tek_int) (n_group : Int) :
    app.decryptMtk entry.MT_K n_group = .ok (some { app with
      m_state := { app.m_state with tek_valid := true }
      m_mtk_received := app.m_mtk_received+1 }) := by
  obtain ⟨recovered,power,reduced⟩ := issued.carries
  have loaded : ¬ (app.m_state.d_i ≤ 0 ∨ app.m_state.n_i ≤ 0) := by
    rw [keyed.d_i,keyed.n_i]
    have exponent := issued.exponent
    have modulus := issued.modulus
    omega
  have matched : UavApplication.matchesTek entry sk.n_i recovered = .ok true := by
    rw [UavApplication.matchesTek,if_pos positive,reduced,Result.ok_bind,beq_self_eq_true]
    rfl
  have own : app.verifyMtk entry.MT_K recovered = .ok (some app) := by
    rw [UavApplication.verifyMtk,keyed.params,keyed.cluster,keyed.n_i]
    simp only [issued.found,matched,Result.ok_bind,if_true]
    rfl
  rw [UavApplication.decryptMtk,if_neg loaded,keyed.d_i,keyed.n_i,power,Result.ok_bind,own]
  rfl

/-- The zero TEK is never recovered: at best another cluster's is. -/
theorem Keyed.zero_tek (keyed : Keyed file cluster_id sk app)
    (issued : Issued file cluster_id index entry sk) (zero : ¬ 0 < entry.tek_int) {n_group : Int}
    {verified : UavApplication} (returned : app.decryptMtk entry.MT_K n_group = .ok (some verified)) :
    verified.m_state.current_tek ≠ entry.tek := by
  intro same
  obtain ⟨-,params_file,taken,params,rfl,outcome⟩ := UavApplication.decryptMtk_some returned
  obtain rfl : file = params_file := Option.some.inj (keyed.params.symm.trans params)
  rcases outcome with ⟨rfl,cluster,found,-,-,positive,-⟩ | ⟨c,cl,other,-,found,-,⟨-,-,positive,-⟩,rfl⟩
  · rw [keyed.cluster] at found
    obtain rfl : entry = cluster := Option.some.inj (issued.found.symm.trans found)
    exact zero positive
  · have tek : cl.tek = entry.tek := same
    have integer := issued.integers cl (List.mem_of_find?_eq_some found)
    rw [tek,← issued.integers entry (List.mem_of_getElem? issued.position)] at integer
    exact zero (integer ▸ positive)

end Tokens

/-- The broadcast must be newer than what the UAV has processed before, of whatever cluster that
was, and the UAV must hold the TEK already, which may not be zero. -/
theorem recovered_iff (crypto : Primitives) {file : CryptoParamsFile} {cluster_id index : UInt32}
    {entry : ClusterCryptoEntry} {sk : SlaveKeyEntry}
    (issued : Issued file cluster_id index entry sk) {start : SkdcApplication}
    (starts : Starts file cluster_id start) (calls : List SkdcCall)
    {sent : SkdcApplication × MtkBroadcast}
    (made : sent ∈ Run.outputs (SkdcCall.perform crypto) start calls)
    (short : sent.2.wire.length ≤ maxDatagram) {app : UavApplication}
    (params : app.m_params = some file) {blob : SlaveKeyBlob} (holds : Holds blob sk) :
    Recovered entry.tek ((app.updateSlaveKey blob cluster_id index).processMtkPacket sent.2.wire).1 ↔
      app.m_state.rekey_version < sent.2.packet.body.version ∧
        app.m_state.current_tek = entry.tek ∧ 0 < entry.tek_int := by
  have carries := broadcast_carries crypto starts issued.position calls made
  obtain ⟨parsed,-⟩ := carries.parsed short
  have keyed : Keyed file cluster_id sk ((app.updateSlaveKey blob cluster_id index).withVersion
      sent.2.packet.body.version) := ⟨params,rfl,holds.d_i,holds.n_i⟩
  rw [UavApplication.processMtkPacket_parsed parsed,carries.cluster,carries.mtk]
  by_cases newer : app.m_state.rekey_version < sent.2.packet.body.version
  · rw [if_pos ⟨rfl,newer⟩]
    by_cases positive : 0 < entry.tek_int
    · rw [keyed.decrypts issued positive]
      constructor
      · rintro ⟨-,held⟩
        exact ⟨newer,held,positive⟩
      · rintro ⟨-,held,-⟩
        exact ⟨rfl,held⟩
    · constructor
      · rintro ⟨valid,recovered⟩
        cases outcome : ((app.updateSlaveKey blob cluster_id index).withVersion
            sent.2.packet.body.version).decryptMtk entry.MT_K sent.2.packet.body.n_group with
        | error failure =>
          rw [outcome] at valid
          cases valid
        | ok decrypted =>
          rw [outcome] at valid recovered
          cases decrypted with
          | none => cases valid
          | some verified => exact absurd recovered (keyed.zero_tek issued positive outcome)
      · rintro ⟨-,-,impossible⟩
        exact absurd impossible positive
  · rw [if_neg (fun both => newer both.2)]
    constructor
    · rintro ⟨impossible,-⟩
      cases impossible
    · rintro ⟨impossible,-⟩
      exact absurd impossible newer

def idleSecond : SkdcApplication :=
  { m_cluster_id := 1, node_id := 2, m_params := some fleetFile, m_wifi_socket := true }

def startedSecond : SkdcApplication := { idleSecond with m_state := {
  cluster_id := 1, current_tek := secondEntry.tek, hmac_key := secondEntry.tek
  mt_k := secondEntry.MT_K, n_group := secondEntry.N_group, e_mk := secondEntry.e_MK
  tek_received := true, members := ∅ ∪ SkdcApplication.initialMembers 1 } }

def secondCalls : List SkdcCall := [.periodicBroadcast samplePacketDraws]

theorem second_starts : Starts fleetFile 1 startedSecond := ⟨idleSecond,.ok zeroKey,rfl,rfl,rfl⟩

theorem second_issued :
    Issued fleetFile 1 0 secondEntry (secondEntry.slave_keys.get ⟨0,by decide⟩) where
  position := rfl
  found := rfl
  slave := rfl
  exponent := by decide
  modulus := by decide
  carries := ⟨3,by decide +kernel,by decide +kernel⟩
  integers := by decide +kernel

def secondBlob : SlaveKeyBlob := keyBlob 1 0 109405 137497 5

theorem secondBlob_holds : Holds secondBlob (secondEntry.slave_keys.get ⟨0,by decide⟩) :=
  ⟨by decide +kernel,by decide +kernel,by decide +kernel⟩

/-- A UAV that has the TEK of the second cluster already, and one that started in the first. -/
def returningUav : UavApplication :=
  { m_params := some fleetFile, m_state := { current_tek := secondEntry.tek } }

def arrivingUav : UavApplication := fleetUav.app.initializeSlaveKey

theorem second_outputs : (Run.outputs (SkdcCall.perform rotationCrypto) startedSecond secondCalls).map
    (fun sent => (sent.2.packet.body.version,decide (sent.2.wire.length ≤ maxDatagram))) =
      [(1,true)] := by
  decide +kernel

theorem returning_recovered :
    ∃ sent ∈ Run.outputs (SkdcCall.perform rotationCrypto) startedSecond secondCalls,
      Recovered secondEntry.tek
        ((returningUav.updateSlaveKey secondBlob 1 0).processMtkPacket sent.2.wire).1 := by
  obtain ⟨sent,made,facts⟩ := List.mem_map.mp (second_outputs ▸ List.mem_singleton_self _)
  obtain ⟨version,short⟩ := Prod.mk.inj facts
  refine ⟨sent,made,?_⟩
  apply (recovered_iff rotationCrypto second_issued second_starts secondCalls made
    (of_decide_eq_true short) rfl secondBlob_holds).mpr
  rw [version]
  decide

/-- The UAV from the first cluster takes the TEK it has for that of the second; had it processed one
packet of the first cluster, it would not look at the broadcast. -/
theorem arriving_not_recovered :
    Issued fleetFile 1 0 secondEntry (secondEntry.slave_keys.get ⟨0,by decide⟩) ∧
    Starts fleetFile 1 startedSecond ∧
    Holds secondBlob (secondEntry.slave_keys.get ⟨0,by decide⟩) ∧
    ∃ sent ∈ Run.outputs (SkdcCall.perform rotationCrypto) startedSecond secondCalls,
      let processed := ((arrivingUav.updateSlaveKey secondBlob 1 0).processMtkPacket sent.2.wire).1
      let skipped := (((arrivingUav.withVersion 1).updateSlaveKey secondBlob 1 0).processMtkPacket
        sent.2.wire).1
      ¬ Recovered secondEntry.tek processed ∧ processed.m_state.tek_valid = true ∧
      ¬ Recovered secondEntry.tek skipped ∧ skipped.m_state.tek_valid = false := by
  refine ⟨second_issued,second_starts,secondBlob_holds,?_⟩
  have seen : (Run.outputs (SkdcCall.perform rotationCrypto) startedSecond secondCalls).map
      (fun sent =>
        let processed := ((arrivingUav.updateSlaveKey secondBlob 1 0).processMtkPacket sent.2.wire).1
        let skipped := (((arrivingUav.withVersion 1).updateSlaveKey secondBlob 1 0).processMtkPacket
          sent.2.wire).1
        (processed.m_state.tek_valid,decide (processed.m_state.current_tek = secondEntry.tek),
          skipped.m_state.tek_valid)) = [(true,false,false)] := by decide +kernel
  obtain ⟨sent,made,facts⟩ := List.mem_map.mp (seen ▸ List.mem_singleton_self _)
  obtain ⟨valid,rest⟩ := Prod.mk.inj facts
  obtain ⟨other,invalid⟩ := Prod.mk.inj rest
  refine ⟨sent,made,?_,valid,?_,invalid⟩
  · intro recovered
    exact of_decide_eq_false other recovered.2
  · intro recovered
    exact absurd (invalid.symm.trans recovered.1) (by decide)

end UavFanet.HandoverRecovery
