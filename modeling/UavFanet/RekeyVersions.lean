import UavFanet.Library.Versions
import UavFanet.SkdcRuns
import UavFanet.UavApp

/-! The version an SKDC broadcasts against the TEK it has at that time. -/
namespace UavFanet.Apps
open Library Library.Versions UavFanet.Packet SkdcCall

namespace SkdcCall

def rekeys (crypto : Primitives) (app : SkdcApplication) (call : SkdcCall) : Bool :=
  match call.keyChange crypto app with
  | some (.rotate _) => true
  | _ => false

theorem perform_rekey_version (crypto : Primitives) (app : SkdcApplication) (call : SkdcCall) :
    (call.perform crypto app).1.m_state.rekey_version =
      if call.rekeys crypto app then app.m_state.rekey_version+1 else app.m_state.rekey_version := by
  rw [(perform_effect crypto app call).state,rekeys]
  rcases call.keyChange crypto app with _ | ⟨_ | _⟩
  · exact SkdcState.withMembers_rekey_version _ _
  · simp only [SkdcState.withKeys,SkdcState.withMembers_rekey_version]
    rfl
  · exact SkdcState.withMembers_rekey_version _ _

theorem keyChange_install {crypto : Primitives} {app : SkdcApplication} {call : SkdcCall}
    {tek : AesGcmKey} (installs : call.keyChange crypto app = some (.install tek)) :
    ∃ draws, call = .updateTek draws tek := by
  cases call with
  | updateTek draws installed =>
    cases installs
    exact ⟨draws,rfl⟩
  | receiveKeyAck draws buf =>
    obtain ⟨ack,-,rotates⟩ := Option.map_eq_some_iff.mp installs
    cases rotates
  | triggerRekey draws => cases installs
  | processJoin draws uav_id uav_index => cases installs
  | processLeave draws uav_id => cases installs
  | receiveFromKdc draws buf => cases installs
  | periodicBroadcast draws => cases installs
  | receiveSlaveKeyFwd iv now_us buf => cases installs
  | receiveDataFromUav iv buf => cases installs
  | onUavRekeyAck sim_now uav_id tek_version => cases installs
  | rekeyTimeout sim_now ver exp => cases installs

theorem perform_current_tek (crypto : Primitives) (app : SkdcApplication) (call : SkdcCall) :
    (call.perform crypto app).1.m_state.current_tek =
      (app.m_state.withKeys crypto (call.keyChange crypto app)).current_tek := by
  rw [(perform_effect crypto app call).state,SkdcState.withKeys_withMembers_current_tek]

end SkdcCall

/-- A UAV keeps its version as a receiver of such announcements does. -/
theorem UavApplication.processMtkPacket_hears {app : UavApplication} {wire : ByteBuffer}
    {pkt : MtkPacket} (parsed : MtkPacket.deserializeNoHmac wire = .ok pkt)
    (mine : pkt.body.cluster_id = app.m_cluster_id) (held : Option AesGcmKey) (tek : AesGcmKey) :
    (app.processMtkPacket wire).1.m_state.rekey_version.toNat =
      (Receiver.hear { version := app.m_state.rekey_version.toNat, content := held }
        (pkt.body.version.toNat,tek)).version := by
  rw [processMtkPacket,parsed]
  simp only [Result.caught,mine,ne_eq,not_true_eq_false,if_false]
  by_cases stale : pkt.body.version ≤ app.m_state.rekey_version
  · have dropped : Receiver.hear { version := app.m_state.rekey_version.toNat, content := held }
        (pkt.body.version.toNat,tek) = { version := app.m_state.rekey_version.toNat, content := held } :=
      Receiver.hear_stale (UInt32.le_iff_toNat_le.mp stale)
    rw [if_pos stale,dropped]
  · have larger : app.m_state.rekey_version.toNat < pkt.body.version.toNat :=
      Nat.lt_of_not_le fun small => stale (UInt32.le_iff_toNat_le.mpr small)
    have taken : Receiver.hear { version := app.m_state.rekey_version.toNat, content := held }
        (pkt.body.version.toNat,tek) = { version := pkt.body.version.toNat, content := some tek } :=
      Receiver.hear_fresh larger
    rw [if_neg stale,taken]
    simp only
    split
    · rfl
    · rfl
    · rfl
    · rename_i verified outcome
      exact congrArg UInt32.toNat
        (UavApplication.decryptMtk_rekey_version (Result.caught_some.mp outcome))

namespace SkdcApplication

/-- The SKDC as it announces TEKs under versions. -/
def announcer (crypto : Primitives) :
    Announcer SkdcApplication SkdcCall MtkBroadcast Nat AesGcmKey where
  step app call := call.perform crypto app
  version app := app.m_state.rekey_version.toNat
  content app := app.m_state.current_tek
  stamp broadcast := broadcast.packet.body.version.toNat
  stamped app call broadcast made :=
    congrArg UInt32.toNat ((perform_effect crypto app call).announces broadcast made).version

/-- How many calls of a run rekey. -/
def rekeys (crypto : Primitives) : SkdcApplication → List SkdcCall → Nat
  | _, [] => 0
  | app, call :: rest =>
    (if call.rekeys crypto app then 1 else 0)+rekeys crypto (call.perform crypto app).1 rest

/-- `UpdateTek` with a TEK other than the current one comes before every broadcast of the
current version. -/
def UpdatesUnannounced (crypto : Primitives) (start : SkdcApplication) (calls : List SkdcCall) : Prop :=
  ∀ front draws tek rest, calls = front ++ .updateTek draws tek :: rest →
    tek ≠ ((announcer crypto).final start front).m_state.current_tek →
      ∀ earlier ∈ (announcer crypto).sent start front,
        earlier.1 < ((announcer crypto).final start front).m_state.rekey_version.toNat

/-- Every `UpdateTek` of the run gets its broadcast out. -/
def UpdatesSent (crypto : Primitives) (start : SkdcApplication) (calls : List SkdcCall) : Prop :=
  ∀ front draws tek rest, calls = front ++ .updateTek draws tek :: rest →
    (((announcer crypto).final start front).updateTek draws tek).2.toOption.join.isSome = true

theorem initializeState_rekey_version {random_key : Result HmacKey} {app start : SkdcApplication}
    (initialized : initializeState random_key app = .ok start) : start.m_state.rekey_version = 1 := by
  rw [initializeState] at initialized
  simp only at initialized
  split at initialized
  · cases initialized
    rfl
  · obtain ⟨hmac_key,-,initialized⟩ := Result.bind_ok.mp initialized
    cases initialized
    rfl

section Runs

variable {crypto : Primitives} {start : SkdcApplication} {calls : List SkdcCall}

theorem rekeys_append (crypto : Primitives) (front rest : List SkdcCall) (start : SkdcApplication) :
    rekeys crypto start (front ++ rest) =
      rekeys crypto start front+rekeys crypto ((announcer crypto).final start front) rest := by
  induction front generalizing start with
  | nil => simp [rekeys]
  | cons call front ih =>
    have later := ih (call.perform crypto start).1
    rw [List.cons_append,rekeys,rekeys,later,Nat.add_assoc]
    rfl

theorem final_rekey_version (crypto : Primitives) (front : List SkdcCall) (start : SkdcApplication)
    (room : start.m_state.rekey_version.toNat+rekeys crypto start front < 2^32) :
    ((announcer crypto).final start front).m_state.rekey_version.toNat =
      start.m_state.rekey_version.toNat+rekeys crypto start front := by
  induction front generalizing start with
  | nil => simp [rekeys]
  | cons call front ih =>
    have version := perform_rekey_version crypto start call
    rw [rekeys] at room ⊢
    have moved : (call.perform crypto start).1.m_state.rekey_version.toNat =
        start.m_state.rekey_version.toNat+(if call.rekeys crypto start then 1 else 0) := by
      rw [version]
      by_cases counts : call.rekeys crypto start
      · rw [if_pos counts] at room ⊢
        have one : (1 : UInt32).toNat = 1 := rfl
        rw [UInt32.toNat_add,one,if_pos counts]
        exact Nat.mod_eq_of_lt (by omega)
      · rw [if_neg counts,if_neg counts,Nat.add_zero]
    have later := ih (call.perform crypto start).1 (by omega)
    rw [moved,Nat.add_assoc] at later
    exact later

theorem updatesUnannounced_careful
    (room : start.m_state.rekey_version.toNat+rekeys crypto start calls < 2^32)
    (unannounced : UpdatesUnannounced crypto start calls) :
    (announcer crypto).Careful start calls := by
  intro front call rest split_calls
  have counted := rekeys_append crypto front (call :: rest) start
  rw [← split_calls,rekeys] at counted
  have before := final_rekey_version crypto front start (by omega)
  set app := (announcer crypto).final start front
  have version := perform_rekey_version crypto app call
  have tek := perform_current_tek crypto app call
  have grows : call.rekeys crypto app = true →
      app.m_state.rekey_version.toNat < (call.perform crypto app).1.m_state.rekey_version.toNat := by
    intro counts
    rw [if_pos counts] at counted version
    have one : (1 : UInt32).toNat = 1 := rfl
    rw [version,UInt32.toNat_add,one,Nat.mod_eq_of_lt (by omega)]
    exact Nat.lt_succ_self _
  cases keys : call.keyChange crypto app with
  | none =>
    have silent : call.rekeys crypto app = false := by rw [SkdcCall.rekeys,keys]
    rw [silent] at version
    rw [keys] at tek
    exact ⟨Nat.le_of_eq (congrArg UInt32.toNat version.symm),fun changed => absurd tek changed⟩
  | some change =>
    cases change with
    | rotate epoch_us =>
      have counts : call.rekeys crypto app = true := by rw [SkdcCall.rekeys,keys]
      exact ⟨Nat.le_of_lt (grows counts),fun _ => .inl (grows counts)⟩
    | install installed =>
      have silent : call.rekeys crypto app = false := by rw [SkdcCall.rekeys,keys]
      rw [silent] at version
      rw [keys] at tek
      refine ⟨Nat.le_of_eq (congrArg UInt32.toNat version.symm),fun changed => .inr ?_⟩
      obtain ⟨draws,rfl⟩ := SkdcCall.keyChange_install keys
      apply unannounced front draws installed rest split_calls
      intro same
      exact changed (tek.trans same)

theorem raises_updatesUnannounced (goes_out : UpdatesSent crypto start calls)
    (raises : (announcer crypto).Raises start calls) : UpdatesUnannounced crypto start calls := by
  intro front draws tek rest split_calls other earlier member
  set app := (announcer crypto).final start front
  have changed : (((announcer crypto).step app (.updateTek draws tek)).1).m_state.current_tek ≠
      app.m_state.current_tek := by
    have installed := perform_current_tek crypto app (.updateTek draws tek)
    intro same
    exact other (installed.symm.trans same)
  have version := perform_rekey_version crypto app (.updateTek draws tek)
  obtain ⟨broadcast,made⟩ := Option.isSome_iff_exists.mp (goes_out front draws tek rest split_calls)
  have first : ((announcer crypto).sent app (.updateTek draws tek :: rest)).head? =
      some ((announcer crypto).version ((announcer crypto).step app (.updateTek draws tek)).1,
        (announcer crypto).content ((announcer crypto).step app (.updateTek draws tek)).1) := by
    have out : ((announcer crypto).step app (.updateTek draws tek)).2 = some broadcast := made
    rw [Announcer.sent_cons,Announcer.announced,out]
    rfl
  have larger := raises front (.updateTek draws tek) rest split_calls changed _ first earlier member
  exact Nat.lt_of_lt_of_eq larger (congrArg UInt32.toNat version)

end Runs

/-- From a start on, versions identify TEKs for all receivers while the version does not wrap and
`UpdateTek` is kept from a version already in use; where its broadcasts go out, only then. -/
theorem versions_identify_teks (crypto : Primitives) {start : SkdcApplication}
    (started : ∃ app random_key, initializeState random_key app = .ok start)
    (calls : List SkdcCall) :
    (rekeys crypto start calls+1 < 2^32 ∧ UpdatesUnannounced crypto start calls →
      (announcer crypto).Identifies 0 start calls) ∧
    (UpdatesSent crypto start calls → (announcer crypto).Identifies 0 start calls →
      UpdatesUnannounced crypto start calls) := by
  constructor
  · rintro ⟨room,unannounced⟩
    obtain ⟨app,random_key,initialized⟩ := started
    have first := initializeState_rekey_version initialized
    have one : start.m_state.rekey_version.toNat = 1 := by rw [first]; rfl
    have careful := updatesUnannounced_careful (by omega) unannounced
    apply careful.identifies
    exact Nat.lt_of_lt_of_eq Nat.zero_lt_one one.symm
  · intro goes_out identifies
    exact raises_updatesUnannounced goes_out identifies.raises

def earlyUpdate : List SkdcCall :=
  [.updateTek samplePacketDraws rotatedOnce,.triggerRekey sampleRekeyDraws,
    .periodicBroadcast samplePacketDraws]

theorem earlyUpdate_unannounced : UpdatesUnannounced rotationCrypto startedSkdc earlyUpdate := by
  intro front draws tek rest split_calls _ earlier member
  rcases front with _ | ⟨first,_ | ⟨second,_ | ⟨third,tail⟩⟩⟩
  · cases member
  · cases split_calls
  · cases split_calls
  · simp [earlyUpdate] at split_calls

theorem earlyUpdate_identifies :
    (announcer rotationCrypto).Identifies 0 startedSkdc earlyUpdate :=
  (versions_identify_teks rotationCrypto ⟨idleSkdc,.ok zeroKey,rfl⟩ earlyUpdate).1
    ⟨by decide +kernel,earlyUpdate_unannounced⟩

/-- The loaded key is announced, and then another one under the same version. -/
theorem lateUpdate_confuses :
    (∃ app random_key, initializeState random_key app = .ok startedSkdc) ∧
    rekeys rotationCrypto startedSkdc
      [.periodicBroadcast samplePacketDraws,.updateTek samplePacketDraws rotatedOnce] = 0 ∧
    ¬ (announcer rotationCrypto).Identifies 0 startedSkdc
      [.periodicBroadcast samplePacketDraws,.updateTek samplePacketDraws rotatedOnce] := by
  refine ⟨⟨idleSkdc,.ok zeroKey,rfl⟩,rfl,?_⟩
  intro identifies
  have sent : (announcer rotationCrypto).sent startedSkdc
      [.periodicBroadcast samplePacketDraws,.updateTek samplePacketDraws rotatedOnce] =
        [(1,loadedTek),(1,rotatedOnce)] := by decide +kernel
  have names := identifies.names
  rw [sent] at names
  have same : loadedTek = rotatedOnce := names (1,loadedTek) (by simp) (1,rotatedOnce) (by simp) rfl
  exact absurd same (by decide)

end SkdcApplication
end UavFanet.Apps
