import UavFanet.Library.Plan
import UavFanet.SecurityManagers

/-! Every manager call as a plan of moves of the group and TEK managers, planned in the state
that the call meets; a call that throws carries out a first part of it. -/
namespace UavFanet.Apps
open Library UavFanet.Packet

structure GroupKeys where
  mc : MulticastManager
  tek : TekManager

inductive Move where
  | member (call : GroupCall)
  | rotate (draws : RotationDraws) (cluster_id : UInt32)
  | update (now : UInt64) (cluster_id : UInt32) (tek : AesGcmKey) (version : UInt32)

namespace Move

def perform (crypto : Primitives) (keys : GroupKeys) : Move → GroupKeys
  | member call => { keys with mc := (call.perform keys.mc).1 }
  | rotate draws cluster_id => { keys with tek := keys.tek.doRotate crypto draws cluster_id }
  | update now cluster_id tek version =>
    { keys with tek := keys.tek.updateTek now cluster_id tek version }

/-- A machine without outputs. -/
def step (crypto : Primitives) (keys : GroupKeys) (move : Move) : GroupKeys × Option Unit :=
  (move.perform crypto keys,none)

end Move

inductive ManagerCall where
  | processJoin (draws : JoinDraws) (uav_id uav_index cluster_id : UInt32) (skdc : Option (Fin 3))
  | processLeave (draws : LeaveDraws) (uav_id uav_index cluster_id : UInt32) (skdc : Option (Fin 3))
  | forceRevoke (draws : LeaveDraws) (uav_id uav_index cluster_id : UInt32) (skdc : Option (Fin 3))
  | triggerRekey (draws : TekDraws) (cluster_id : UInt32) (reason : RekeyCause)
      (skdc : Option (Fin 3))
  | rotateOnLeave (draws : RotationDraws) (cluster_id : UInt32)
  | rotateOnTimer (draws : RotationDraws) (cluster_id : UInt32)
  | processHandover (leaving : LeaveDraws) (joining : JoinDraws)
      (uav_id old_uav_index old_cluster new_cluster : UInt32)
  | handleCompromise (draws : LeaveDraws) (uav_id cluster_id uav_index : UInt32)
      (reason : CompromiseReason) (skdc : Option (Fin 3))

namespace Managers

def keys (state : Managers) : GroupKeys := { mc := state.mc, tek := state.tek }

def joinPlan (uav_id uav_index cluster_id : UInt32) : List Move :=
  [.member (.add cluster_id uav_index uav_id)]

def rotations (draws : LeaveDraws) (cluster_id : UInt32) (linked : Bool) : List Move :=
  .rotate draws.rotation cluster_id ::
    (if linked then [.rotate draws.second cluster_id] else [])

def leavePlan (draws : LeaveDraws) (uav_id uav_index cluster_id : UInt32) (skdc : Option (Fin 3))
    (forced : Bool) (state : Managers) : List Move :=
  .member (.remove cluster_id uav_index uav_id) ::
    (match (state.mc.removeMember cluster_id uav_index uav_id).2 with
    | .error _ => []
    | .ok removed =>
      if removed || forced then rotations draws cluster_id (state.linked skdc) else [])

def rekeyPlan (crypto : Primitives) (draws : TekDraws) (cluster_id : UInt32)
    (skdc : Option (Fin 3)) (state : Managers) : List Move :=
  match clusterSlot cluster_id with
  | none => []
  | some _ =>
    let tek := deriveTek crypto (state.tek.getTek cluster_id) draws.ts draws.nonce
    let version := state.tek.getVersion cluster_id+1
    .update draws.update_us cluster_id tek version ::
      (if state.linked skdc then [.update draws.second_us cluster_id tek version] else [])

/-- The clusters of a handover that the guards let through. -/
def handoverSlots (old_cluster new_cluster : UInt32) : Option (Fin 3 × Fin 3) :=
  match clusterSlot old_cluster,clusterSlot new_cluster with
  | some old,some new => if old = new then none else some (old,new)
  | _,_ => none

def handoverPlan (leaving : LeaveDraws) (uav_id old_uav_index old_cluster new_cluster : UInt32)
    (state : Managers) : List Move :=
  match handoverSlots old_cluster new_cluster with
  | none => []
  | some (old,_) =>
    state.leavePlan leaving uav_id old_uav_index old_cluster (some old) false ++
      joinPlan uav_id (newIndex state.mc new_cluster) new_cluster

/-- A report that goes on to revoke the UAV. -/
def revokes (uav_id : UInt32) (skdc : Option (Fin 3)) (state : Managers) : Bool :=
  !state.detector.isRevoked uav_id && state.detector.m_leave_mgr && (skdc.bind state.skdcs).isSome

end Managers

namespace ManagerCall
open Managers

def plan (crypto : Primitives) (state : Managers) : ManagerCall → List Move
  | processJoin _ uav_id uav_index cluster_id _ => joinPlan uav_id uav_index cluster_id
  | processLeave draws uav_id uav_index cluster_id skdc =>
    state.leavePlan draws uav_id uav_index cluster_id skdc false
  | forceRevoke draws uav_id uav_index cluster_id skdc =>
    state.leavePlan draws uav_id uav_index cluster_id skdc true
  | triggerRekey draws cluster_id _ skdc => state.rekeyPlan crypto draws cluster_id skdc
  | rotateOnLeave draws cluster_id => [.rotate draws cluster_id]
  | rotateOnTimer draws cluster_id => [.rotate draws cluster_id]
  | processHandover leaving _ uav_id old_uav_index old_cluster new_cluster =>
    state.handoverPlan leaving uav_id old_uav_index old_cluster new_cluster
  | handleCompromise draws uav_id cluster_id uav_index _ skdc =>
    if state.revokes uav_id skdc then state.leavePlan draws uav_id uav_index cluster_id skdc true
    else []

/-- A call without a value returns `true`. -/
def perform (crypto : Primitives) (state : Managers) : ManagerCall → Managers × Result Bool
  | processJoin draws uav_id uav_index cluster_id skdc =>
    state.processJoin crypto draws uav_id uav_index cluster_id skdc
  | processLeave draws uav_id uav_index cluster_id skdc =>
    state.processLeave crypto draws uav_id uav_index cluster_id skdc
  | forceRevoke draws uav_id uav_index cluster_id skdc =>
    state.forceRevoke crypto draws uav_id uav_index cluster_id skdc
  | triggerRekey draws cluster_id reason skdc =>
    state.triggerRekey crypto draws cluster_id reason skdc
  | rotateOnLeave draws cluster_id =>
    ({ state with tek := state.tek.rotateOnLeave crypto draws cluster_id },.ok true)
  | rotateOnTimer draws cluster_id =>
    ({ state with tek := state.tek.rotateOnTimer crypto draws cluster_id },.ok true)
  | processHandover leaving joining uav_id old_uav_index old_cluster new_cluster =>
    state.processHandover crypto leaving joining uav_id old_uav_index old_cluster new_cluster
  | handleCompromise draws uav_id cluster_id uav_index reason skdc =>
    let (state,result) :=
      state.handleCompromise crypto draws uav_id cluster_id uav_index reason skdc
    (state,result.map fun _ => true)

def step (crypto : Primitives) (state : Managers) (call : ManagerCall) :
    Managers × Option (Result Bool) :=
  ((call.perform crypto state).1,some (call.perform crypto state).2)

end ManagerCall

namespace GroupCall

variable {mgr after : MulticastManager} {k i u : UInt32}

theorem remove_answer {removed : Bool} (returned : mgr.removeMember k i u = (after,.ok removed)) :
    removed = mgr.isMember k i := by
  have outcome := (remove k i u).perform_outcome mgr
  rw [show (remove k i u).perform mgr = (after,.ok removed) from returned] at outcome
  unfold MulticastManager.isMember
  cases outcome with
  | removeRefused absent =>
    split
    · rfl
    · rename_i c slot
      simpa using absent c slot
  | removed slot inside updated => simpa [slot] using inside

end GroupCall

namespace Managers

variable {α : Type} {crypto : Primitives} {state : Managers}

/-- A call's outcome is the one of a plan that it carries out as far as it comes. -/
def Carries (crypto : Primitives) (state : Managers) (plan : List Move)
    (outcome : Managers × Result α) : Prop :=
  Plan.Executes (Move.step crypto) (∃ value, outcome.2 = .ok value) state.keys plan outcome.1.keys

@[simp] theorem linked_same (state : Managers) (mc : MulticastManager) (tek : TekManager)
    (join : JoinEventManager) (leave : LeaveEventManager) (rekey : RekeyManager)
    (handover : HandoverManager) (detector : CompromiseDetector) (skdc : Option (Fin 3)) :
    linked { state with mc, tek, join, leave, rekey, handover, detector } skdc =
      state.linked skdc := rfl

theorem broadcastMtk_frame (draws : BroadcastDraws) (cluster_id : UInt32) (skdc : Option (Fin 3))
    (state : Managers) :
    ∃ dist skdcs, (state.broadcastMtk draws cluster_id skdc).1 = { state with dist, skdcs } := by
  unfold broadcastMtk
  split
  · exact ⟨_,_,rfl⟩
  · exact ⟨_,_,rfl⟩

theorem onMemberJoined_frame (draws : BroadcastDraws) (cluster_id : UInt32) (skdc : Option (Fin 3))
    (state : Managers) :
    ∃ dist skdcs, (state.onMemberJoined draws cluster_id skdc).1 = { state with dist, skdcs } := by
  unfold onMemberJoined
  split
  · exact broadcastMtk_frame draws cluster_id skdc state
  · exact ⟨_,_,rfl⟩

theorem onMemberLeft_frame (crypto : Primitives) (rotation : RotationDraws) (draws : BroadcastDraws)
    (cluster_id : UInt32) (skdc : Option (Fin 3)) (state : Managers) :
    ∃ dist skdcs, (state.onMemberLeft crypto rotation draws cluster_id skdc).1 = { state with
      tek := if state.linked skdc then state.tek.doRotate crypto rotation cluster_id else state.tek
      dist, skdcs } := by
  unfold onMemberLeft
  split
  · exact broadcastMtk_frame draws cluster_id skdc _
  · exact ⟨_,_,rfl⟩

theorem onTekRotated_frame (now : UInt64) (draws : BroadcastDraws) (cluster_id : UInt32)
    (new_tek : AesGcmKey) (version : UInt32) (skdc : Option (Fin 3)) (state : Managers) :
    ∃ dist skdcs,
      (state.onTekRotated now draws cluster_id new_tek version skdc).1 = { state with
        tek := if state.linked skdc then state.tek.updateTek now cluster_id new_tek version
          else state.tek
        dist, skdcs } := by
  unfold onTekRotated
  split
  · exact broadcastMtk_frame draws cluster_id skdc _
  · exact ⟨_,_,rfl⟩

/-- A leave takes effect on the groups in its removal. It keeps the other managers. -/
theorem doLeave_frame (crypto : Primitives) (state : Managers) (draws : LeaveDraws) (u i k : UInt32)
    (skdc : Option (Fin 3)) (forced : Bool) :
    ∃ tek dist leave skdcs, (state.doLeave crypto draws u i k skdc forced).1 = { state with
      mc := (state.mc.removeMember k i u).1
      tek, dist, leave, skdcs } := by
  unfold doLeave
  split
  · rename_i mc failure removal
    rw [removal]
    exact ⟨_,_,_,_,rfl⟩
  · rename_i mc removed removal
    rw [removal]
    dsimp only
    split
    · exact ⟨_,_,_,_,rfl⟩
    · obtain ⟨dist,skdcs,frame⟩ := onMemberLeft_frame crypto draws.second draws.broadcast k skdc
        { state with mc, tek := state.tek.rotateOnLeave crypto draws.rotation k }
      split
      · rename_i reached failure left
        exact ⟨_,_,_,_,(congrArg (·.1) left).symm.trans frame⟩
      · rename_i reached value left
        have same : reached = _ := (congrArg (·.1) left).symm.trans frame
        rw [same]
        exact ⟨_,_,_,_,rfl⟩

theorem processJoin_frame (crypto : Primitives) (state : Managers) (draws : JoinDraws)
    (u i k : UInt32) (skdc : Option (Fin 3)) :
    ∃ mc dist join skdcs, (state.processJoin crypto draws u i k skdc).1 = { state with
      mc, dist, join, skdcs } := by
  unfold processJoin
  dsimp only
  split
  · exact ⟨_,_,_,_,rfl⟩
  · exact ⟨_,_,_,_,rfl⟩
  · split
    · exact ⟨_,_,_,_,rfl⟩
    · rename_i mc added addition
      obtain ⟨dist,skdcs,frame⟩ := onMemberJoined_frame draws.broadcast k skdc { state with
        mc, join := { state.join with m_total_joins := state.join.m_total_joins+1 } }
      split
      · rename_i reached failure joined
        exact ⟨_,_,_,_,(congrArg (·.1) joined).symm.trans frame⟩
      · rename_i reached value joined
        have same : reached = _ := (congrArg (·.1) joined).symm.trans frame
        rw [same]
        exact ⟨_,_,_,_,rfl⟩

theorem triggerRekey_frame (crypto : Primitives) (state : Managers) (draws : TekDraws) (k : UInt32)
    (reason : RekeyCause) (skdc : Option (Fin 3)) :
    ∃ tek dist rekey skdcs, (state.triggerRekey crypto draws k reason skdc).1 = { state with
      tek, dist, rekey, skdcs } := by
  unfold triggerRekey
  split
  · exact ⟨_,_,_,_,rfl⟩
  · dsimp only
    generalize deriveTek crypto (state.tek.getTek k) draws.ts draws.nonce = tek
    generalize state.tek.getVersion k+1 = version
    obtain ⟨dist,skdcs,frame⟩ := onTekRotated_frame draws.second_us draws.broadcast k tek version skdc
      { state with tek := state.tek.updateTek draws.update_us k tek version }
    split
    · rename_i reached failure rotated
      exact ⟨_,_,_,_,(congrArg (·.1) rotated).symm.trans frame⟩
    · rename_i reached value rotated
      have same : reached = _ := (congrArg (·.1) rotated).symm.trans frame
      rw [same]
      exact ⟨_,_,_,_,rfl⟩

theorem onMemberLeft_carries (crypto : Primitives) (state : Managers) (rotation : RotationDraws)
    (draws : BroadcastDraws) (cluster_id : UInt32) (skdc : Option (Fin 3)) :
    Carries crypto state (if state.linked skdc then [Move.rotate rotation cluster_id] else [])
      (state.onMemberLeft crypto rotation draws cluster_id skdc) := by
  obtain ⟨dist,skdcs,frame⟩ := onMemberLeft_frame crypto rotation draws cluster_id skdc state
  rw [Carries,frame]
  split
  · exact Plan.Executes.all state.keys [Move.rotate rotation cluster_id]
  · exact Plan.Executes.all state.keys []

theorem doLeave_carries (crypto : Primitives) (state : Managers) (draws : LeaveDraws)
    (u i k : UInt32) (skdc : Option (Fin 3)) (forced : Bool) :
    Carries crypto state (state.leavePlan draws u i k skdc forced)
      (state.doLeave crypto draws u i k skdc forced) := by
  unfold doLeave leavePlan
  generalize removal : state.mc.removeMember k i u = result
  obtain ⟨mc,answer⟩ := result
  have moved : Run.final (Move.step crypto) state.keys [.member (.remove k i u)] =
      { mc, tek := state.tek } := by
    rw [show mc = ((GroupCall.remove k i u).perform state.mc).1 from congrArg Prod.fst removal.symm]
    rfl
  cases answer with
  | error failure => exact ⟨[.member (.remove k i u)],[],rfl,moved.symm,fun _ => rfl⟩
  | ok removed =>
    dsimp only
    cases revoked : removed || forced with
    | false => exact ⟨[.member (.remove k i u)],[],rfl,moved.symm,fun _ => rfl⟩
    | true =>
      have carried := onMemberLeft_carries crypto { state with
        mc, tek := state.tek.rotateOnLeave crypto draws.rotation k } draws.second draws.broadcast k skdc
      simp only [Bool.not_true,Bool.false_eq_true,if_false,if_true]
      have front : Plan.Executes (Move.step crypto) True state.keys
          [.member (.remove k i u),.rotate draws.rotation k]
          { mc, tek := state.tek.doRotate crypto draws.rotation k } := by
        have reached := congrArg (fun keys => (Move.rotate draws.rotation k).perform crypto keys) moved
        exact ⟨[.member (.remove k i u),.rotate draws.rotation k],[],rfl,reached.symm,fun _ => rfl⟩
      have whole := front.append trivial carried
      generalize onMemberLeft crypto draws.second draws.broadcast k skdc { state with
        mc, tek := state.tek.rotateOnLeave crypto draws.rotation k } = outcome at whole
      obtain ⟨reached,answer⟩ := outcome
      cases answer with
      | error failure => exact whole.weaken (fun ⟨_,impossible⟩ => nomatch impossible)
      | ok value => exact whole.weaken (fun _ => ⟨value,rfl⟩)

/-- Authentication never fails: a join that returns was accepted. -/
theorem request_accepted {draws : JoinDraws} {u i k : UInt32} {accepted : Bool}
    (requested : (do
      let hmac_key ← draws.hmac_key
      let join_pkt ← JoinEventManager.buildJoinPacket draws.packet u i k
      return JoinEventManager.authenticateJoin crypto join_pkt hmac_key : Result Bool) =
        .ok accepted) : accepted = true := by
  obtain ⟨hmac_key,_,requested⟩ := Result.bind_ok.mp requested
  obtain ⟨join_pkt,_,requested⟩ := Result.bind_ok.mp requested
  have answer : JoinEventManager.authenticateJoin crypto join_pkt hmac_key = accepted :=
    Except.ok.inj requested
  rw [← answer]
  exact JoinEventManager.authenticateJoin_true crypto join_pkt hmac_key

theorem processJoin_carries (crypto : Primitives) (state : Managers) (draws : JoinDraws)
    (u i k : UInt32) (skdc : Option (Fin 3)) :
    Carries crypto state (joinPlan u i k) (state.processJoin crypto draws u i k skdc) := by
  unfold processJoin
  dsimp only
  split
  · exact Plan.Executes.stopped _ _ (fun ⟨_,impossible⟩ => nomatch impossible)
  · rename_i requested
    cases request_accepted requested
  · generalize addition : state.mc.addMember k i u = result
    obtain ⟨mc,answer⟩ := result
    have moved : Run.final (Move.step crypto) state.keys (joinPlan u i k) =
        { mc, tek := state.tek } := by
      rw [show mc = ((GroupCall.add k i u).perform state.mc).1 from congrArg Prod.fst addition.symm]
      rfl
    cases answer with
    | error failure =>
      exact ⟨joinPlan u i k,[],(List.append_nil _).symm,moved.symm,fun _ => rfl⟩
    | ok added =>
      obtain ⟨dist,skdcs,frame⟩ :=
        onMemberJoined_frame draws.broadcast k skdc { state with mc, join := { state.join with
          m_total_joins := state.join.m_total_joins+1 } }
      have same : Plan.Executes (Move.step crypto) True state.keys (joinPlan u i k)
          { mc, tek := state.tek } := ⟨joinPlan u i k,[],(List.append_nil _).symm,moved.symm,fun _ => rfl⟩
      dsimp only
      generalize onMemberJoined draws.broadcast k skdc { state with mc, join := { state.join with
          m_total_joins := state.join.m_total_joins+1 } } = outcome at frame
      obtain ⟨reached,sent⟩ := outcome
      have keys : reached.keys = { mc, tek := state.tek } := congrArg Managers.keys frame
      rw [← keys] at same
      cases sent with
      | error failure => exact same.weaken (fun _ => trivial)
      | ok value => exact same.weaken (fun _ => trivial)

theorem processJoin_answer {draws : JoinDraws} {u i k : UInt32} {skdc : Option (Fin 3)}
    {accepted : Bool} (returned : (state.processJoin crypto draws u i k skdc).2 = .ok accepted) :
    accepted = true := by
  unfold processJoin at returned
  dsimp only at returned
  split at returned
  · cases returned
  · rename_i requested
    cases request_accepted requested
  · split at returned
    · cases returned
    · split at returned
      · cases returned
      · cases returned
        rfl

theorem doLeave_answer {draws : LeaveDraws} {u i k : UInt32} {skdc : Option (Fin 3)}
    {forced answer : Bool} (returned : (state.doLeave crypto draws u i k skdc forced).2 = .ok answer) :
    answer = (state.mc.isMember k i || forced) := by
  unfold doLeave at returned
  split at returned
  · cases returned
  · rename_i mc removed removal
    rw [← GroupCall.remove_answer removal]
    cases revoked : removed || forced with
    | false =>
      simp only [revoked,Bool.not_false,if_true] at returned
      cases returned
      rfl
    | true =>
      simp only [revoked,Bool.not_true,Bool.false_eq_true,if_false] at returned
      split at returned
      · cases returned
      · cases returned
        rfl

theorem triggerRekey_carries (crypto : Primitives) (state : Managers) (draws : TekDraws)
    (k : UInt32) (reason : RekeyCause) (skdc : Option (Fin 3)) :
    Carries crypto state (state.rekeyPlan crypto draws k skdc)
      (state.triggerRekey crypto draws k reason skdc) := by
  unfold triggerRekey rekeyPlan
  cases slot : clusterSlot k with
  | none => exact Plan.Executes.all state.keys []
  | some c =>
    dsimp only
    generalize deriveTek crypto (state.tek.getTek k) draws.ts draws.nonce = tek
    generalize state.tek.getVersion k+1 = version
    obtain ⟨dist,skdcs,frame⟩ := onTekRotated_frame draws.second_us draws.broadcast k tek version skdc
      { state with tek := state.tek.updateTek draws.update_us k tek version }
    generalize onTekRotated draws.second_us draws.broadcast k tek version skdc
      { state with tek := state.tek.updateTek draws.update_us k tek version } = outcome at frame
    obtain ⟨reached,sent⟩ := outcome
    have keys := congrArg Managers.keys frame
    have whole : Plan.Executes (Move.step crypto) True state.keys
        (.update draws.update_us k tek version ::
          (if state.linked skdc then [.update draws.second_us k tek version] else [])) reached.keys := by
      rw [keys]
      by_cases linked : state.linked skdc = true
      · simp only [linked_same,linked,if_true]
        exact Plan.Executes.all state.keys
          [Move.update draws.update_us k tek version,Move.update draws.second_us k tek version]
      · simp only [linked_same,linked]
        exact Plan.Executes.all state.keys [Move.update draws.update_us k tek version]
    cases sent with
    | error failure => exact whole.weaken (fun _ => trivial)
    | ok value => exact whole.weaken (fun _ => trivial)

theorem handoverSlots_some {old_cluster new_cluster : UInt32} {old new : Fin 3} :
    handoverSlots old_cluster new_cluster = some (old,new) ↔
      clusterSlot old_cluster = some old ∧ clusterSlot new_cluster = some new ∧ old ≠ new := by
  unfold handoverSlots
  constructor
  · intro passed
    split at passed
    · rename_i a b first second
      split at passed
      · cases passed
      · rename_i apart
        cases passed
        exact ⟨first,second,apart⟩
    · cases passed
  · intro ⟨first,second,apart⟩
    simp only [first,second,apart,if_false]

theorem rotations_mc (crypto : Primitives) (keys : GroupKeys) (draws : LeaveDraws) (k : UInt32)
    (linked : Bool) : (Run.final (Move.step crypto) keys (rotations draws k linked)).mc = keys.mc := by
  cases linked with
  | true => rfl
  | false => rfl

theorem leavePlan_mc (crypto : Primitives) (state : Managers) (draws : LeaveDraws) (u i k : UInt32)
    (skdc : Option (Fin 3)) (forced : Bool) :
    (Run.final (Move.step crypto) state.keys (state.leavePlan draws u i k skdc forced)).mc =
      ((GroupCall.remove k i u).perform state.mc).1 := by
  unfold leavePlan
  rw [Run.final_cons]
  split
  · rfl
  · split
    · exact rotations_mc crypto _ draws k _
    · rfl

theorem processHandover_refused {leaving : LeaveDraws} {joining : JoinDraws} {u i a b : UInt32}
    (refused : handoverSlots a b = none) :
    state.processHandover crypto leaving joining u i a b = (state,.ok false) := by
  unfold processHandover
  split
  · rfl
  · rename_i differ
    split
    · rename_i old new first second
      have apart : old ≠ new := by
        rintro rfl
        exact differ ((clusterSlot_some first).trans (clusterSlot_some second).symm)
      rw [handoverSlots_some.mpr ⟨first,second,apart⟩] at refused
      cases refused
    · rfl

theorem newIndex_after_leave {u i a b : UInt32} {old new : Fin 3}
    (passed : handoverSlots a b = some (old,new)) :
    newIndex ((GroupCall.remove a i u).perform state.mc).1 b = newIndex state.mc b := by
  obtain ⟨first,second,apart⟩ := handoverSlots_some.mp passed
  have group := (GroupCall.remove a i u).perform_other state.mc (d := new) (by
    intro same
    exact apart (Option.some.inj (first.symm.trans same)))
  simp only [newIndex,MulticastManager.getGroupSize,second,group]

theorem processHandover_carries (crypto : Primitives) (state : Managers) (leaving : LeaveDraws)
    (joining : JoinDraws) (u i a b : UInt32) :
    Carries crypto state (state.handoverPlan leaving u i a b)
      (state.processHandover crypto leaving joining u i a b) := by
  unfold handoverPlan
  split
  · rename_i refused
    rw [processHandover_refused refused]
    exact Plan.Executes.all state.keys []
  · rename_i old new passed
    obtain ⟨first,second,apart⟩ := handoverSlots_some.mp passed
    have differ : a ≠ b := by
      rintro rfl
      exact apart (Option.some.inj (first.symm.trans second))
    unfold processHandover processLeave
    simp only [if_neg differ,first,second]
    have leaves := doLeave_carries crypto { state with
      handover := { state.handover with m_total_handovers := state.handover.m_total_handovers+1 }
      leave := { state.leave with m_total_leaves := state.leave.m_total_leaves+1 } } leaving u i a
      (some old) false
    generalize doLeave crypto leaving u i a (some old) false { state with
      handover := { state.handover with m_total_handovers := state.handover.m_total_handovers+1 }
      leave := { state.leave with m_total_leaves := state.leave.m_total_leaves+1 } } = outcome at leaves
    obtain ⟨left,answer⟩ := outcome
    cases answer with
    | error failure => exact leaves.interrupted _ (fun ⟨_,impossible⟩ => nomatch impossible)
    | ok leave_ok =>
      have reached := congrArg GroupKeys.mc (leaves.returned ⟨leave_ok,rfl⟩)
      rw [leavePlan_mc] at reached
      have index : newIndex left.mc b = newIndex state.mc b :=
        (congrArg (fun mc => newIndex mc b) reached).trans (newIndex_after_leave passed)
      dsimp only
      rw [index]
      have joins := processJoin_carries crypto left joining u (newIndex state.mc b) b (some new)
      have whole := leaves.append ⟨leave_ok,rfl⟩ joins
      generalize processJoin crypto joining u (newIndex state.mc b) b (some new) left = outcome
        at whole
      obtain ⟨joined,answer⟩ := outcome
      cases answer with
      | error failure => exact whole.weaken (fun ⟨_,impossible⟩ => nomatch impossible)
      | ok join_ok => exact whole.weaken (fun _ => ⟨join_ok,rfl⟩)

theorem processHandover_answer {leaving : LeaveDraws} {joining : JoinDraws} {u i a b : UInt32}
    {answer : Bool}
    (returned : (state.processHandover crypto leaving joining u i a b).2 = .ok answer) :
    answer = ((handoverSlots a b).isSome && state.mc.isMember a i) := by
  cases passed : handoverSlots a b with
  | none =>
    rw [processHandover_refused passed] at returned
    cases returned
    rfl
  | some slots =>
    obtain ⟨old,new⟩ := slots
    obtain ⟨first,second,apart⟩ := handoverSlots_some.mp passed
    have differ : a ≠ b := by
      rintro rfl
      exact apart (Option.some.inj (first.symm.trans second))
    unfold processHandover at returned
    simp only [if_neg differ,first,second] at returned
    split at returned
    · cases returned
    · rename_i left leave_ok leaves
      have left_answer := doLeave_answer (congrArg Prod.snd leaves)
      split at returned
      · cases returned
      · rename_i joined join_ok joins
        have join_answer := processJoin_answer (congrArg Prod.snd joins)
        rw [← Except.ok.inj returned,left_answer,join_answer]
        simp

/-- A report that is not about a revoked UAV, and that has whom to hand the revocation to. -/
theorem revokes_iff {u : UInt32} {skdc : Option (Fin 3)} : state.revokes u skdc = true ↔
    state.detector.isRevoked u = false ∧
      (state.detector.m_leave_mgr && (skdc.bind state.skdcs).isSome) = true := by
  simp only [revokes,Bool.and_assoc,Bool.and_eq_true,Bool.not_eq_true']

theorem handleCompromise_carries (crypto : Primitives) (state : Managers) (draws : LeaveDraws)
    (u k i : UInt32) (reason : CompromiseReason) (skdc : Option (Fin 3)) :
    Carries crypto state (if state.revokes u skdc then state.leavePlan draws u i k skdc true else [])
      (state.handleCompromise crypto draws u k i reason skdc) := by
  by_cases revokes : state.revokes u skdc = true
  · obtain ⟨fresh,handed⟩ := revokes_iff.mp revokes
    unfold handleCompromise forceRevoke
    simp only [revokes,fresh,if_true,Bool.false_eq_true,if_false]
    rw [if_pos handed]
    generalize state.detector.m_total_detections+1 = detections
    generalize (if state.detector.isCompromised u = true then state.detector.m_compromised
      else state.detector.m_compromised ++ [u]) = compromised
    have leaves := doLeave_carries crypto { state with
      detector := { state.detector with
        m_total_detections := detections, m_compromised := compromised }
      leave := { state.leave with
        m_total_leaves := state.leave.m_total_leaves+1
        m_force_revokes := state.leave.m_force_revokes+1 } } draws u i k skdc true
    generalize doLeave crypto draws u i k skdc true { state with
      detector := { state.detector with
        m_total_detections := detections, m_compromised := compromised }
      leave := { state.leave with
        m_total_leaves := state.leave.m_total_leaves+1
        m_force_revokes := state.leave.m_force_revokes+1 } } = outcome at leaves
    obtain ⟨left,answer⟩ := outcome
    cases answer with
    | error failure => exact leaves.weaken (fun ⟨_,impossible⟩ => nomatch impossible)
    | ok revoked => exact leaves.weaken (fun _ => ⟨revoked,rfl⟩)
  · rw [if_neg revokes]
    unfold handleCompromise
    split
    · exact Plan.Executes.all state.keys []
    · rename_i fresh
      dsimp only
      split
      · rename_i handed
        exact absurd (revokes_iff.mpr ⟨by simpa using fresh,handed⟩) revokes
      · exact Plan.Executes.all state.keys []

theorem doLeave_detector (crypto : Primitives) (state : Managers) (draws : LeaveDraws)
    (u i k : UInt32) (skdc : Option (Fin 3)) (forced : Bool) :
    (state.doLeave crypto draws u i k skdc forced).1.detector = state.detector := by
  obtain ⟨tek,dist,leave,skdcs,frame⟩ := doLeave_frame crypto state draws u i k skdc forced
  rw [frame]

theorem processJoin_detector (crypto : Primitives) (state : Managers) (draws : JoinDraws)
    (u i k : UInt32) (skdc : Option (Fin 3)) :
    (state.processJoin crypto draws u i k skdc).1.detector = state.detector := by
  obtain ⟨mc,dist,join,skdcs,frame⟩ := processJoin_frame crypto state draws u i k skdc
  rw [frame]

theorem triggerRekey_detector (crypto : Primitives) (state : Managers) (draws : TekDraws)
    (k : UInt32) (reason : RekeyCause) (skdc : Option (Fin 3)) :
    (state.triggerRekey crypto draws k reason skdc).1.detector = state.detector := by
  obtain ⟨tek,dist,rekey,skdcs,frame⟩ := triggerRekey_frame crypto state draws k reason skdc
  rw [frame]

theorem processHandover_detector (crypto : Primitives) (state : Managers) (leaving : LeaveDraws)
    (joining : JoinDraws) (u i a b : UInt32) :
    (state.processHandover crypto leaving joining u i a b).1.detector = state.detector := by
  unfold processHandover processLeave
  split
  · rfl
  · split
    · dsimp only
      split
      · rename_i reached failure left
        exact (congrArg (·.1.detector) left).symm.trans (doLeave_detector ..)
      · rename_i reached leave_ok left
        have same := (congrArg (·.1.detector) left).symm.trans (doLeave_detector ..)
        split
        · rename_i last failure joined
          exact ((congrArg (·.1.detector) joined).symm.trans (processJoin_detector ..)).trans same
        · rename_i last join_ok joined
          exact ((congrArg (·.1.detector) joined).symm.trans (processJoin_detector ..)).trans same
    · rfl

theorem handleCompromise_revoked (crypto : Primitives) (state : Managers) (draws : LeaveDraws)
    (u k i : UInt32) (reason : CompromiseReason) (skdc : Option (Fin 3)) :
    (state.handleCompromise crypto draws u k i reason skdc).1.detector.m_revoked =
        state.detector.m_revoked ∧
      (state.revokes u skdc = true →
        ¬ ∃ value, (state.handleCompromise crypto draws u k i reason skdc).2 = .ok value) ∨
    (state.handleCompromise crypto draws u k i reason skdc).1.detector.m_revoked =
        state.detector.m_revoked ++ [u] ∧ state.revokes u skdc = true ∧
      ∃ value, (state.handleCompromise crypto draws u k i reason skdc).2 = .ok value := by
  by_cases revokes : state.revokes u skdc = true
  · obtain ⟨fresh,handed⟩ := revokes_iff.mp revokes
    unfold handleCompromise forceRevoke
    simp only [fresh,Bool.false_eq_true,if_false]
    rw [if_pos handed]
    split
    · rename_i reached failure left
      have same := (congrArg (·.1.detector.m_revoked) left).symm.trans
        (congrArg CompromiseDetector.m_revoked (doLeave_detector ..))
      exact .inl ⟨same,fun _ ⟨_,impossible⟩ => nomatch impossible⟩
    · rename_i reached revoked left
      have same := (congrArg (·.1.detector.m_revoked) left).symm.trans
        (congrArg CompromiseDetector.m_revoked (doLeave_detector ..))
      have answer := doLeave_answer (congrArg Prod.snd left)
      rw [Bool.or_true] at answer
      subst answer
      refine .inr ⟨?_,revokes,(),rfl⟩
      exact congrArg (· ++ [u]) same
  · refine .inl ⟨?_,fun impossible => absurd impossible revokes⟩
    unfold handleCompromise
    split
    · rfl
    · rename_i fresh
      dsimp only
      split
      · rename_i handed
        exact absurd (revokes_iff.mpr ⟨by simpa using fresh,handed⟩) revokes
      · exact List.append_nil _

end Managers

namespace ManagerCall
open Managers

theorem perform_carries (crypto : Primitives) (state : Managers) (call : ManagerCall) :
    Carries crypto state (call.plan crypto state) (call.perform crypto state) := by
  cases call with
  | processJoin draws u i k skdc => exact processJoin_carries crypto state draws u i k skdc
  | processLeave draws u i k skdc => exact doLeave_carries crypto _ draws u i k skdc false
  | forceRevoke draws u i k skdc => exact doLeave_carries crypto _ draws u i k skdc true
  | triggerRekey draws k reason skdc => exact triggerRekey_carries crypto state draws k reason skdc
  | rotateOnLeave draws k => exact Plan.Executes.all state.keys [Move.rotate draws k]
  | rotateOnTimer draws k => exact Plan.Executes.all state.keys [Move.rotate draws k]
  | processHandover leaving joining u i a b =>
    exact processHandover_carries crypto state leaving joining u i a b
  | handleCompromise draws u k i reason skdc =>
    have carried := handleCompromise_carries crypto state draws u k i reason skdc
    apply Plan.Executes.weaken carried
    intro ⟨value,returned⟩
    unfold perform at returned
    cases answer : (state.handleCompromise crypto draws u k i reason skdc).2 with
    | error failure =>
      simp only [answer,Except.map] at returned
      cases returned
    | ok value => exact ⟨value,rfl⟩

end ManagerCall
end UavFanet.Apps
