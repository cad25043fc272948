import UavFanet.Membership

/-! Revocation over runs of the managers: which calls let a revoked UAV be a member. -/
namespace UavFanet.Apps
open Library Library.Seats

namespace MulticastManager

/-- No UAV of these is a member of any group. -/
def Absent (Banned : UInt32 → Prop) (mgr : MulticastManager) : Prop :=
  ∀ uav, Banned uav → ∀ c, ¬ Within mgr.seating uav c

variable {Banned : UInt32 → Prop} {mgr : MulticastManager}

theorem Absent.removed (absent : Absent Banned mgr) (k i u : UInt32) :
    Absent Banned (mgr.removeMember k i u).1 := by
  rcases removeMember_seating mgr k i u with ⟨_,refused⟩ | ⟨_,failed⟩ | ⟨c,after,_,_,left,seats⟩
  · rwa [refused]
  · rwa [failed]
  · rw [left]
    intro uav banned d within
    rw [seats] at within
    exact absent uav banned d within.of_cleared

theorem Absent.added (absent : Absent Banned mgr) {k i u : UInt32}
    (allowed : mgr.Vacant k i → ¬ Banned u) : Absent Banned (mgr.addMember k i u).1 := by
  rcases addMember_seating mgr k i u with
    ⟨_,refused⟩ | ⟨_,failed⟩ | ⟨c,after,slot,outside,joined,seats⟩
  · rwa [refused]
  · rwa [failed]
  · rw [joined]
    intro uav banned d within
    rw [seats,within_given (seating_none.mpr outside)] at within
    rcases within with before | ⟨rfl,_⟩
    · exact absent uav banned d before
    · exact allowed ⟨c,slot,outside⟩ banned

/-- Where the addition returns, the condition is also needed. -/
theorem Absent.allowed {k i u : UInt32} (absent : Absent Banned (mgr.addMember k i u).1)
    (returned : ∃ added, (mgr.addMember k i u).2 = .ok added) (vacant : mgr.Vacant k i) :
    ¬ Banned u := by
  rcases addMember_seating mgr k i u with
    ⟨full,_⟩ | ⟨failure,failed⟩ | ⟨c,after,slot,outside,joined,seats⟩
  · exact absurd vacant full
  · obtain ⟨added,returned⟩ := returned
    rw [failed] at returned
    cases returned
  · intro banned
    apply absent u banned c
    rw [joined,seats,within_given (seating_none.mpr outside)]
    exact .inr ⟨rfl,rfl⟩

end MulticastManager

namespace Managers

variable {crypto : Primitives} {state : Managers}

/-- No revoked UAV is a member of a group. -/
def Expelled (state : Managers) : Prop :=
  state.mc.Absent (fun uav => state.detector.isRevoked uav = true)

end Managers

namespace ManagerCall
open Managers

/-- A call that a UAV's revocation survives: no revoked UAV joins a free slot, also not by a
handover, and a UAV that is reported and revoked has no slot but the reported one. -/
def Careful (state : Managers) : ManagerCall → Prop
  | processJoin _ u i k _ => state.mc.Vacant k i → ¬ state.detector.isRevoked u = true
  | processHandover _ _ u _ a b =>
    (handoverSlots a b).isSome → state.mc.Vacant b (newIndex state.mc b) →
      ¬ state.detector.isRevoked u = true
  | handleCompromise _ u k i _ skdc =>
    state.revokes u skdc = true →
      ∀ c j, state.mc.seating c j = some u → clusterSlot k = some c ∧ j = i
  | _ => True

def Returns (crypto : Primitives) (state : Managers) (call : ManagerCall) : Prop :=
  ∃ answer, (call.perform crypto state).2 = .ok answer

/-- Once a UAV is revoked it is no member of any group, then and at all later times. -/
def RevokedForGood (crypto : Primitives) (start : Managers) (calls : List ManagerCall) : Prop :=
  ∀ front later rest, calls = front ++ later ++ rest →
    ∀ u, (Run.final (step crypto) start front).detector.isRevoked u = true →
      ∀ c, ¬ Within (Run.final (step crypto) start (front ++ later)).mc.seating u c

end ManagerCall

namespace Managers
open ManagerCall

theorem isRevoked_iff {detector : CompromiseDetector} {uav : UInt32} :
    detector.isRevoked uav = true ↔ uav ∈ detector.m_revoked := by
  simp [CompromiseDetector.isRevoked]

section Steps

variable {reached : Managers}

theorem Expelled.same (expelled : Expelled state) (mc : reached.mc = state.mc)
    (revoked : reached.detector.m_revoked = state.detector.m_revoked) : Expelled reached := by
  unfold Expelled CompromiseDetector.isRevoked
  rw [mc,revoked]
  exact expelled

theorem Expelled.left (expelled : Expelled state) {k i u : UInt32}
    (mc : reached.mc = (state.mc.removeMember k i u).1)
    (revoked : reached.detector.m_revoked = state.detector.m_revoked) : Expelled reached := by
  unfold Expelled CompromiseDetector.isRevoked
  rw [mc,revoked]
  exact expelled.removed k i u

theorem Expelled.joined (expelled : Expelled state) (draws : JoinDraws) {k i u : UInt32}
    (skdc : Option (Fin 3)) (careful : Careful state (.processJoin draws u i k skdc)) :
    Expelled (state.processJoin crypto draws u i k skdc).1 := by
  have detector := processJoin_detector crypto state draws u i k skdc
  rcases processJoin_mc crypto state draws u i k skdc with ⟨_,mc⟩ | ⟨mc,_⟩
  · exact expelled.same mc (congrArg CompromiseDetector.m_revoked detector)
  · unfold Expelled
    rw [mc,detector]
    exact MulticastManager.Absent.added expelled careful

theorem Expelled.handed (expelled : Expelled state) (leaving : LeaveDraws) (joining : JoinDraws)
    {u i a b : UInt32} (careful : Careful state (.processHandover leaving joining u i a b)) :
    Expelled (state.processHandover crypto leaving joining u i a b).1 := by
  have detector := processHandover_detector crypto state leaving joining u i a b
  cases passed : handoverSlots a b with
  | none =>
    rw [processHandover_refused passed]
    exact expelled
  | some slots =>
    obtain ⟨old,new⟩ := slots
    generalize handed : state.processHandover crypto leaving joining u i a b = result at detector
    obtain ⟨reached,outcome⟩ := result
    rcases processHandover_mc passed handed with ⟨_,mc⟩ | ⟨_,mc,_⟩
    · exact expelled.left mc (congrArg CompromiseDetector.m_revoked detector)
    · unfold Expelled
      rw [mc,detector]
      apply MulticastManager.Absent.added (MulticastManager.Absent.removed expelled a i u)
      intro vacant
      exact careful (by rw [passed]; rfl) ((MulticastManager.vacant_removed passed).mp vacant)

/-- Once the removal has returned, a UAV is out exactly if it had no slot but the removed one. -/
theorem absent_removed_iff {mgr : MulticastManager} {k i u : UInt32}
    (returned : ∃ removed, (mgr.removeMember k i u).2 = .ok removed) :
    (∀ c, ¬ Within (mgr.removeMember k i u).1.seating u c) ↔
      ∀ c j, mgr.seating c j = some u → clusterSlot k = some c ∧ j = i := by
  rcases mgr.removeMember_seating k i u with
    ⟨absent,refused⟩ | ⟨failure,failed⟩ | ⟨c,after,slot,inside,left,seats⟩
  · rw [refused]
    constructor
    · intro out c j held
      exact absurd ⟨j,held⟩ (out c)
    · intro only c ⟨j,held⟩
      obtain ⟨slot,rfl⟩ := only c j held
      have outside : j ∉ (mgr.m_groups c).members := by
        simpa [MulticastManager.isMember,slot] using absent
      rw [MulticastManager.seating_none.mpr outside] at held
      cases held
  · obtain ⟨removed,returned⟩ := returned
    rw [failed] at returned
    cases returned
  · rw [left,seats,absent_cleared_iff]
    constructor
    · intro only d j held
      obtain ⟨rfl,rfl⟩ := only d j held
      exact ⟨slot,rfl⟩
    · intro only d j held
      obtain ⟨slot',same⟩ := only d j held
      exact ⟨Option.some.inj (slot'.symm.trans slot),same⟩

theorem Expelled.reported (expelled : Expelled state) (draws : LeaveDraws) {u k i : UInt32}
    (reason : CompromiseReason) (skdc : Option (Fin 3))
    (careful : Careful state (.handleCompromise draws u k i reason skdc)) :
    Expelled (state.handleCompromise crypto draws u k i reason skdc).1 := by
  obtain ⟨removing,quiet⟩ := handleCompromise_mc crypto state draws u k i reason skdc
  rcases handleCompromise_revoked crypto state draws u k i reason skdc with
    ⟨same,_⟩ | ⟨marked,revokes,returned⟩
  · by_cases revokes : state.revokes u skdc = true
    · exact expelled.left (removing revokes).1 same
    · exact expelled.same (quiet revokes) same
  · obtain ⟨mc,settled⟩ := removing revokes
    intro uav banned c within
    rw [isRevoked_iff,marked,List.mem_append,List.mem_singleton] at banned
    rw [mc] at within
    rcases banned with before | rfl
    · exact MulticastManager.Absent.removed expelled k i u uav (isRevoked_iff.mpr before) c within
    · exact (absent_removed_iff (settled returned)).mpr (careful revokes) c within

end Steps
end Managers

namespace ManagerCall
open Managers

variable {crypto : Primitives} {state : Managers} {call : ManagerCall}

theorem careful_expelled (expelled : Expelled state) (careful : Careful state call) :
    Expelled (call.perform crypto state).1 := by
  cases call with
  | processJoin draws u i k skdc => exact expelled.joined draws skdc careful
  | processLeave draws u i k skdc =>
    exact expelled.left (doLeave_mc ..) (congrArg CompromiseDetector.m_revoked (doLeave_detector ..))
  | forceRevoke draws u i k skdc =>
    exact expelled.left (doLeave_mc ..) (congrArg CompromiseDetector.m_revoked (doLeave_detector ..))
  | triggerRekey draws k reason skdc =>
    exact expelled.same (triggerRekey_mc ..)
      (congrArg CompromiseDetector.m_revoked (triggerRekey_detector ..))
  | rotateOnLeave draws k => exact expelled
  | rotateOnTimer draws k => exact expelled
  | processHandover leaving joining u i a b => exact expelled.handed leaving joining careful
  | handleCompromise draws u k i reason skdc => exact expelled.reported draws reason skdc careful

theorem compromise_returned {draws : LeaveDraws} {u k i : UInt32} {reason : CompromiseReason}
    {skdc : Option (Fin 3)}
    (returned : Returns crypto state (.handleCompromise draws u k i reason skdc)) :
    ∃ value, (state.handleCompromise crypto draws u k i reason skdc).2 = .ok value := by
  obtain ⟨answer,returned⟩ := returned
  unfold perform at returned
  cases outcome : (state.handleCompromise crypto draws u k i reason skdc).2 with
  | error failure =>
    simp only [outcome,Except.map] at returned
    cases returned
  | ok value => exact ⟨value,rfl⟩

/-- Where the call returns, the condition is also needed. -/
theorem expelled_careful (returned : Returns crypto state call)
    (expelled : Expelled (call.perform crypto state).1) : Careful state call := by
  cases call with
  | processJoin draws u i k skdc =>
    intro vacant
    obtain ⟨answer,returned⟩ := returned
    unfold perform at returned expelled
    unfold Expelled at expelled
    rw [processJoin_detector] at expelled
    rcases processJoin_mc crypto state draws u i k skdc with ⟨⟨failure,thrown⟩,_⟩ | ⟨mc,settled⟩
    · rw [thrown] at returned
      cases returned
    · rw [mc] at expelled
      exact MulticastManager.Absent.allowed expelled (settled ⟨answer,returned⟩) vacant
  | processLeave draws u i k skdc => trivial
  | forceRevoke draws u i k skdc => trivial
  | triggerRekey draws k reason skdc => trivial
  | rotateOnLeave draws k => trivial
  | rotateOnTimer draws k => trivial
  | processHandover leaving joining u i a b =>
    intro passed vacant
    obtain ⟨⟨old,new⟩,passed⟩ := Option.isSome_iff_exists.mp passed
    obtain ⟨answer,returned⟩ := returned
    have detector := processHandover_detector crypto state leaving joining u i a b
    change (state.processHandover crypto leaving joining u i a b).2 = .ok answer at returned
    change Expelled (state.processHandover crypto leaving joining u i a b).1 at expelled
    generalize handed : state.processHandover crypto leaving joining u i a b = result
      at detector returned expelled
    obtain ⟨reached,outcome⟩ := result
    unfold Expelled at expelled
    rw [detector] at expelled
    rcases processHandover_mc passed handed with ⟨⟨failure,thrown⟩,_⟩ | ⟨_,mc,settled⟩
    · cases thrown.symm.trans returned
    · rw [mc] at expelled
      exact MulticastManager.Absent.allowed expelled (settled answer returned).1
        ((MulticastManager.vacant_removed passed).mpr vacant)
  | handleCompromise draws u k i reason skdc =>
    intro revokes
    obtain ⟨mc,settled⟩ := (handleCompromise_mc crypto state draws u k i reason skdc).1 revokes
    rcases handleCompromise_revoked crypto state draws u k i reason skdc with
      ⟨_,thrown⟩ | ⟨marked,_,value⟩
    · exact absurd (compromise_returned returned) (thrown revokes)
    · apply (absent_removed_iff (settled value)).mp
      rw [← mc]
      apply expelled u
      rw [isRevoked_iff]
      exact marked ▸ List.mem_append_right _ (List.mem_singleton_self u)

theorem revoked_mono {u : UInt32} (revoked : state.detector.isRevoked u = true) :
    (call.perform crypto state).1.detector.isRevoked u = true := by
  rw [isRevoked_iff] at revoked ⊢
  cases call with
  | processJoin draws u i k skdc => rwa [perform,processJoin_detector]
  | processLeave draws u i k skdc => rwa [perform,Managers.processLeave,doLeave_detector]
  | forceRevoke draws u i k skdc => rwa [perform,Managers.forceRevoke,doLeave_detector]
  | triggerRekey draws k reason skdc => rwa [perform,triggerRekey_detector]
  | rotateOnLeave draws k => exact revoked
  | rotateOnTimer draws k => exact revoked
  | processHandover leaving joining u i a b => rwa [perform,processHandover_detector]
  | handleCompromise draws v k i reason skdc =>
    rcases handleCompromise_revoked crypto state draws v k i reason skdc with
      ⟨same,_⟩ | ⟨marked,_⟩
    · exact same ▸ revoked
    · exact marked ▸ List.mem_append_left _ revoked

/-- Revocation lasts over every run of careful calls, and over the runs whose calls all return
it lasts over no others. -/
theorem revoked_for_good (crypto : Primitives) (start : Managers) (expelled : Expelled start)
    (calls : List ManagerCall) :
    (Run.Along (step crypto) Careful start calls → RevokedForGood crypto start calls) ∧
    (Run.Along (step crypto) (Returns crypto) start calls → RevokedForGood crypto start calls →
      Run.Along (step crypto) Careful start calls) := by
  constructor
  · intro careful front later rest split u revoked c
    rw [split] at careful
    have reached : Expelled (Run.final (step crypto) start (front ++ later)) :=
      careful.front.invariant (fun state call allowed kept => careful_expelled kept allowed) expelled
    apply reached u
    rw [Run.final_append]
    have kept : ∀ (state : Managers) (call : ManagerCall), state.detector.isRevoked u = true →
        (step crypto state call).1.detector.isRevoked u = true :=
      fun state call revoked => revoked_mono revoked
    exact Run.final_invariant (step crypto) kept revoked later
  · intro returns lasts
    have after : Run.Along (step crypto) (fun state call => Expelled (step crypto state call).1)
        start calls := by
      intro front call rest split u revoked c
      have later := lasts (front ++ [call]) [] rest (by simp [split]) u
      rw [List.append_nil,Run.final_append] at later
      exact later revoked c
    intro front call rest split
    exact expelled_careful (returns front call rest split) (after front call rest split)

theorem fleetManagers_expelled : Expelled fleetManagers := by
  intro u impossible
  cases impossible

/-- UAV 3 is reported under its index in cluster zero, and UAV 4 leaves later. -/
theorem reported_in_its_slot : RevokedForGood rotationCrypto fleetManagers
    [.handleCompromise sampleLeaveDraws 3 0 3 .hmacFailure (some 0),
      .processLeave sampleLeaveDraws 4 4 0 (some 0)] := by
  apply (revoked_for_good rotationCrypto fleetManagers fleetManagers_expelled _).1
  apply Run.Along.cons
  · intro revokes c j held
    obtain ⟨rfl,inside⟩ := fleetManagers_seating held
    have own : (3 : UInt32) ∈ SkdcApplication.initialMembers (UInt32.ofNat (0 : Fin 3)) := by
      decide +kernel
    obtain rfl : c = 0 := SkdcApplication.initialMembers_apart inside own
    exact ⟨rfl,rfl⟩
  · exact Run.Along.cons trivial Run.Along.nil

/-- UAV 7 is reported under its index in cluster one, where it is a member under its own number. -/
theorem revoked_member_stays :
    Expelled fleetManagers ∧ ¬ RevokedForGood rotationCrypto fleetManagers
      [.handleCompromise sampleLeaveDraws 7 1 1 .externalReport (some 1)] := by
  refine ⟨fleetManagers_expelled,?_⟩
  intro lasts
  have revoked : (Run.final (step rotationCrypto) fleetManagers
      [.handleCompromise sampleLeaveDraws 7 1 1 .externalReport (some 1)]).detector.isRevoked 7 =
        true := by decide +kernel
  have held : (Run.final (step rotationCrypto) fleetManagers
      [.handleCompromise sampleLeaveDraws 7 1 1 .externalReport (some 1)]).mc.seating 1 7 =
        some 7 := by decide +kernel
  exact lasts _ [] [] rfl 7 revoked 1 ⟨7,held⟩

end ManagerCall
end UavFanet.Apps
