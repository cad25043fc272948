import UavFanet.Membership

/-! Departures through `ProcessLeave` and `ForceRevoke`: how often the TEK changes, and which
version is recorded. -/
namespace UavFanet.Apps
open Library UavFanet.Packet

/-- A leave or a revocation with an SKDC that is handed along. -/
structure Departure where
  draws : LeaveDraws
  uav_id : UInt32
  uav_index : UInt32
  cluster_id : UInt32
  skdc : Fin 3
  forced : Bool

namespace Departure

variable {crypto : Primitives} {state : Managers} {call : Departure}

def perform (crypto : Primitives) (state : Managers) (call : Departure) : Managers × Result Bool :=
  if call.forced then
    state.forceRevoke crypto call.draws call.uav_id call.uav_index call.cluster_id (some call.skdc)
  else
    state.processLeave crypto call.draws call.uav_id call.uav_index call.cluster_id (some call.skdc)

/-- `RotateOnLeave` of `DoLeave`, and the one of `OnMemberLeft` after it. -/
def rotatedOnce (crypto : Primitives) (state : Managers) (call : Departure) : TekManager :=
  state.tek.rotateOnLeave crypto call.draws.rotation call.cluster_id

def rotatedTwice (crypto : Primitives) (state : Managers) (call : Departure) : TekManager :=
  (call.rotatedOnce crypto state).rotateOnLeave crypto call.draws.second call.cluster_id

/-- The TEK has been rotated once, to the version that the new record names. -/
structure OneKeyChange (cluster_id : UInt32) (before after : Managers) : Prop where
  version : after.tek.getVersion cluster_id = before.tek.getVersion cluster_id+1
  rotations : after.tek.m_rotations = before.tek.m_rotations+1
  record : ∃ record, after.leave.m_history = before.leave.m_history ++ [record] ∧
    record.new_version = after.tek.getVersion cluster_id

end Departure

theorem TekManager.doRotate_version (crypto : Primitives) (mgr : TekManager) (draws : RotationDraws)
    {k : UInt32} {c : Fin 3} (slot : clusterSlot k = some c) :
    (mgr.doRotate crypto draws k).getVersion k = mgr.getVersion k+1 ∧
      (mgr.doRotate crypto draws k).m_rotations = mgr.m_rotations+1 := by
  simp [getVersion,doRotate,slot]

theorem MulticastManager.isMember_slot {mgr : MulticastManager} {k i : UInt32}
    (member : mgr.isMember k i = true) : ∃ c, clusterSlot k = some c := by
  unfold isMember at member
  split at member
  · cases member
  · rename_i c slot
    exact ⟨c,slot⟩

namespace Managers

variable {crypto : Primitives} {state after : Managers} {draws : LeaveDraws} {u i k : UInt32}
  {skdc : Option (Fin 3)} {forced : Bool}

/-- A leave that returns `true` has taken the version for its record after one rotation, and
another one where there is whom to hand the broadcast to. -/
theorem doLeave_rotations
    (returned : state.doLeave crypto draws u i k skdc forced = (after,.ok true))
    (linked : state.linked skdc = true) :
    after.tek = (state.tek.doRotate crypto draws.rotation k).doRotate crypto draws.second k ∧
      ∃ record, after.leave.m_history = state.leave.m_history ++ [record] ∧
        record.new_version = (state.tek.doRotate crypto draws.rotation k).getVersion k := by
  unfold doLeave at returned
  split at returned
  · cases returned
  · rename_i mc removed removal
    dsimp only at returned
    split at returned
    · cases returned
    · obtain ⟨dist,skdcs,frame⟩ := onMemberLeft_frame crypto draws.second draws.broadcast k skdc
        { state with mc, tek := state.tek.rotateOnLeave crypto draws.rotation k }
      rw [linked_same,linked,if_pos rfl] at frame
      split at returned
      · cases returned
      · rename_i reached value left
        have same : reached = _ := (congrArg (·.1) left).symm.trans frame
        rw [same] at returned
        cases returned
        exact ⟨rfl,_,rfl,rfl⟩

end Managers

namespace Departure

variable {crypto : Primitives} {state : Managers} {call : Departure}

theorem perform_rotations (linked : state.linked (some call.skdc) = true)
    (returned : (call.perform crypto state).2 = .ok true) :
    (call.perform crypto state).1.tek = call.rotatedTwice crypto state ∧
      ∃ record, (call.perform crypto state).1.leave.m_history = state.leave.m_history ++ [record] ∧
        record.new_version = (call.rotatedOnce crypto state).getVersion call.cluster_id := by
  unfold perform Managers.forceRevoke Managers.processLeave at returned ⊢
  split at returned
  · rename_i forced
    rw [if_pos forced]
    have rotated := Managers.doLeave_rotations (Prod.ext rfl returned) linked
    exact rotated
  · rename_i voluntary
    rw [if_neg voluntary]
    have rotated := Managers.doLeave_rotations (Prod.ext rfl returned) linked
    exact rotated

theorem rotatedTwice_version (crypto : Primitives)
    (member : state.mc.isMember call.cluster_id call.uav_index = true) :
    (call.rotatedOnce crypto state).getVersion call.cluster_id =
        state.tek.getVersion call.cluster_id+1 ∧
      (call.rotatedTwice crypto state).getVersion call.cluster_id =
        state.tek.getVersion call.cluster_id+1+1 ∧
      (call.rotatedTwice crypto state).m_rotations = state.tek.m_rotations+1+1 := by
  obtain ⟨c,slot⟩ := MulticastManager.isMember_slot member
  obtain ⟨version,rotations⟩ :=
    TekManager.doRotate_version crypto state.tek call.draws.rotation slot
  obtain ⟨next,more⟩ :=
    TekManager.doRotate_version crypto (call.rotatedOnce crypto state) call.draws.second slot
  refine ⟨version,?_,?_⟩
  · exact next.trans (congrArg (·+1) version)
  · exact more.trans (congrArg (·+1) rotations)

/-- Whenever a member's departure returns `true`, the TEK has been rotated twice, and the record
names the version in between. -/
theorem departures_rotate_twice (crypto : Primitives) (state : Managers) (call : Departure)
    (member : state.mc.isMember call.cluster_id call.uav_index = true)
    (linked : state.linked (some call.skdc) = true)
    (returned : (call.perform crypto state).2 = .ok true) :
    ¬ OneKeyChange call.cluster_id state (call.perform crypto state).1 ∧
      (call.perform crypto state).1.tek = call.rotatedTwice crypto state ∧
      (call.perform crypto state).1.tek.getVersion call.cluster_id =
        state.tek.getVersion call.cluster_id+2 ∧
      ∃ record, (call.perform crypto state).1.leave.m_history = state.leave.m_history ++ [record] ∧
        record.new_version = state.tek.getVersion call.cluster_id+1 := by
  obtain ⟨tek,record,history,named⟩ := perform_rotations linked returned
  obtain ⟨once,twice,-⟩ := rotatedTwice_version crypto member
  have version : (call.perform crypto state).1.tek.getVersion call.cluster_id =
      state.tek.getVersion call.cluster_id+2 := by
    rw [tek,twice,UInt32.add_assoc]
    rfl
  refine ⟨?_,tek,version,record,history,named.trans once⟩
  intro change
  have apart : state.tek.getVersion call.cluster_id+2 ≠ state.tek.getVersion call.cluster_id+1 := by
    intro same
    exact absurd ((UInt32.add_right_inj _).mp same) (by decide)
  exact apart (version.symm.trans change.version)

/-- UAV 3 leaves cluster zero. -/
def sampleDeparture (skdc : Fin 3) : Departure :=
  { draws := sampleLeaveDraws, uav_id := 3, uav_index := 3, cluster_id := 0, skdc, forced := false }

theorem sampleDeparture_member :
    fleetManagers.mc.isMember (sampleDeparture 0).cluster_id (sampleDeparture 0).uav_index =
      true := by decide +kernel

theorem sampleDeparture_returned :
    ((sampleDeparture 0).perform rotationCrypto fleetManagers).2 = .ok true := by decide +kernel

theorem sampleDeparture_rotates_twice :
    ((sampleDeparture 0).perform rotationCrypto fleetManagers).1.tek.getVersion 0 =
      fleetManagers.tek.getVersion 0+2 :=
  (departures_rotate_twice rotationCrypto fleetManagers (sampleDeparture 0) sampleDeparture_member
    rfl sampleDeparture_returned).2.2.1

/-- The first TEK has version 1. The record of the departure names 2, and the SKDC has 3. -/
theorem sampleDeparture_record_behind :
    fleetManagers.mc.isMember (sampleDeparture 0).cluster_id (sampleDeparture 0).uav_index = true ∧
    fleetManagers.linked (some (sampleDeparture 0).skdc) = true ∧
    ((sampleDeparture 0).perform rotationCrypto fleetManagers).2 = .ok true ∧
    (((sampleDeparture 0).perform rotationCrypto fleetManagers).1.leave.m_history.map
      (·.new_version)) = [2] ∧
    ((sampleDeparture 0).perform rotationCrypto fleetManagers).1.tek.getVersion 0 = 3 ∧
    ¬ OneKeyChange 0 fleetManagers ((sampleDeparture 0).perform rotationCrypto fleetManagers).1 := by
  refine ⟨sampleDeparture_member,rfl,sampleDeparture_returned,by decide +kernel,by decide +kernel,?_⟩
  intro change
  exact absurd change.version (by decide +kernel)

end Departure
end UavFanet.Apps
