import UavFanet.Library.Seats
import UavFanet.ManagerRuns
import UavFanet.SkdcRuns

/-! Who the members are: the log of the joins names the UAV in every slot of a group. Joins
give slots and leaves clear them. -/
namespace UavFanet.Apps
open Library Library.Seats

namespace MulticastManager

/-- The UAV that joined last under this index. The first members have the numbers of their UAVs. -/
def holder (mgr : MulticastManager) (c : Fin 3) (i : UInt32) : UInt32 :=
  mgr.m_events.foldl
    (fun uav event =>
      if event.type = .join ∧ event.cluster_id = UInt32.ofNat c ∧ event.uav_index = i then event.uav_id
      else uav) i

def seating (mgr : MulticastManager) : Seating (Fin 3) UInt32 UInt32 :=
  fun c i => if i ∈ (mgr.m_groups c).members then some (mgr.holder c i) else none

/-- A join under this index would be accepted. -/
def Vacant (mgr : MulticastManager) (k i : UInt32) : Prop :=
  ∃ c, clusterSlot k = some c ∧ i ∉ (mgr.m_groups c).members

theorem seating_none {mgr : MulticastManager} {c : Fin 3} {i : UInt32} :
    mgr.seating c i = none ↔ i ∉ (mgr.m_groups c).members := by
  simp [seating]

theorem same_cluster {c d : Fin 3} : UInt32.ofNat c = UInt32.ofNat d ↔ c = d := by
  constructor
  · intro same
    have slots := congrArg clusterSlot same
    rw [clusterSlot_ofNat,clusterSlot_ofNat] at slots
    exact Option.some.inj slots
  · rintro rfl
    rfl

theorem joined_seating (mgr : MulticastManager) (c : Fin 3) (i u : UInt32) (result : CrtManager.MTokenResult) :
    (mgr.joined c i u result).seating = set mgr.seating c i (some u) := by
  funext d j
  have held : (mgr.joined c i u result).holder d j =
      if d = c ∧ j = i then u else mgr.holder d j := by
    simp only [holder,joined,recordEvent,updateGroup,List.foldl_append,List.foldl_cons,
      List.foldl_nil,same_cluster,true_and]
    simp only [eq_comm]
  by_cases same : d = c ∧ j = i
  · obtain ⟨rfl,rfl⟩ := same
    rw [set_same]
    simp [seating,held,joined_same]
  · rw [set_other _ same]
    unfold seating
    rw [held,if_neg same]
    by_cases here : d = c
    · subst here
      have other : ¬ i = j := fun equal => same ⟨rfl,equal.symm⟩
      simp [joined_same,other]
    · rw [joined_other mgr c i u result here]

theorem left_seating (mgr : MulticastManager) (c : Fin 3) (i u : UInt32) (result : CrtManager.MTokenResult) :
    (mgr.left c i u result).seating = set mgr.seating c i none := by
  funext d j
  have held : (mgr.left c i u result).holder d j = mgr.holder d j := by
    simp [holder,left,recordEvent,updateGroup]
  by_cases same : d = c ∧ j = i
  · obtain ⟨rfl,rfl⟩ := same
    rw [set_same]
    simp [seating,left_same]
  · rw [set_other _ same]
    unfold seating
    rw [held]
    by_cases here : d = c
    · subst here
      have other : ¬ i = j := fun equal => same ⟨rfl,equal.symm⟩
      simp [left_same,other]
    · rw [left_other mgr c i u result here]

theorem addMember_seating (mgr : MulticastManager) (k i u : UInt32) :
    (¬ mgr.Vacant k i ∧ mgr.addMember k i u = (mgr,.ok false)) ∨
    (∃ failure, mgr.addMember k i u = (mgr,.error failure)) ∨
    ∃ c after, clusterSlot k = some c ∧ i ∉ (mgr.m_groups c).members ∧
      mgr.addMember k i u = (after,.ok true) ∧ after.seating = set mgr.seating c i (some u) := by
  have outcome := (GroupCall.add k i u).perform_outcome mgr
  generalize performed : (GroupCall.add k i u).perform mgr = result at outcome
  change mgr.addMember k i u = result at performed
  rw [performed]
  cases outcome with
  | addRefused taken => exact .inl ⟨fun ⟨c,slot,outside⟩ => outside (taken c slot),rfl⟩
  | addFailed slot outside thrown => exact .inr (.inl ⟨_,rfl⟩)
  | @added _ _ _ c result slot outside updated =>
    exact .inr (.inr ⟨c,_,slot,outside,rfl,joined_seating mgr c i u result⟩)

theorem removeMember_seating (mgr : MulticastManager) (k i u : UInt32) :
    (mgr.isMember k i = false ∧ mgr.removeMember k i u = (mgr,.ok false)) ∨
    (∃ failure, mgr.removeMember k i u = (mgr,.error failure)) ∨
    ∃ c after, clusterSlot k = some c ∧ i ∈ (mgr.m_groups c).members ∧
      mgr.removeMember k i u = (after,.ok true) ∧ after.seating = set mgr.seating c i none := by
  have outcome := (GroupCall.remove k i u).perform_outcome mgr
  generalize performed : (GroupCall.remove k i u).perform mgr = result at outcome
  change mgr.removeMember k i u = result at performed
  rw [performed]
  cases outcome with
  | removeRefused absent => exact .inl ⟨(GroupCall.remove_answer performed).symm,rfl⟩
  | removeFailed slot inside thrown => exact .inr (.inl ⟨_,rfl⟩)
  | @removed _ _ _ c result slot inside updated =>
    exact .inr (.inr ⟨c,_,slot,inside,rfl,left_seating mgr c i u result⟩)

theorem addMember_returned {mgr : MulticastManager} {k i u : UInt32} {c : Fin 3}
    (slot : clusterSlot k = some c) (returned : ∃ added, (mgr.addMember k i u).2 = .ok added) :
    i ∈ (mgr.m_groups c).members ∧ (mgr.addMember k i u).1 = mgr ∨
    i ∉ (mgr.m_groups c).members ∧
      (mgr.addMember k i u).1.seating = set mgr.seating c i (some u) := by
  rcases addMember_seating mgr k i u with
    ⟨full,refused⟩ | ⟨failure,failed⟩ | ⟨d,after,slot',outside,joined,seats⟩
  · rw [refused]
    by_cases inside : i ∈ (mgr.m_groups c).members
    · exact .inl ⟨inside,rfl⟩
    · exact absurd ⟨c,slot,inside⟩ full
  · obtain ⟨added,returned⟩ := returned
    rw [failed] at returned
    cases returned
  · obtain rfl : c = d := Option.some.inj (slot.symm.trans slot')
    rw [joined]
    exact .inr ⟨outside,seats⟩

theorem removeMember_returned {mgr : MulticastManager} {k i u : UInt32} {c : Fin 3}
    (slot : clusterSlot k = some c) (returned : ∃ removed, (mgr.removeMember k i u).2 = .ok removed) :
    i ∉ (mgr.m_groups c).members ∧ (mgr.removeMember k i u).1 = mgr ∨
    i ∈ (mgr.m_groups c).members ∧
      (mgr.removeMember k i u).1.seating = set mgr.seating c i none := by
  rcases removeMember_seating mgr k i u with
    ⟨absent,refused⟩ | ⟨failure,failed⟩ | ⟨d,after,slot',inside,left,seats⟩
  · rw [refused]
    refine .inl ⟨?_,rfl⟩
    simpa [isMember,slot] using absent
  · obtain ⟨removed,returned⟩ := returned
    rw [failed] at returned
    cases returned
  · obtain rfl : c = d := Option.some.inj (slot.symm.trans slot')
    rw [left]
    exact .inr ⟨inside,seats⟩

theorem removed_new (mgr : MulticastManager) {a b : UInt32} (i u : UInt32) {old new : Fin 3}
    (passed : Managers.handoverSlots a b = some (old,new)) :
    (mgr.removeMember a i u).1.m_groups new = mgr.m_groups new := by
  obtain ⟨first,_,apart⟩ := Managers.handoverSlots_some.mp passed
  apply (GroupCall.remove a i u).perform_other mgr
  intro same
  exact apart (Option.some.inj (first.symm.trans same))

theorem vacant_removed {mgr : MulticastManager} {a b i j u : UInt32} {old new : Fin 3}
    (passed : Managers.handoverSlots a b = some (old,new)) :
    (mgr.removeMember a i u).1.Vacant b j ↔ mgr.Vacant b j := by
  obtain ⟨_,second,_⟩ := Managers.handoverSlots_some.mp passed
  have group := mgr.removed_new i u passed
  unfold Vacant
  constructor
  · intro ⟨c,slot,outside⟩
    obtain rfl : new = c := Option.some.inj (second.symm.trans slot)
    rw [group] at outside
    exact ⟨new,slot,outside⟩
  · intro ⟨c,slot,outside⟩
    obtain rfl : new = c := Option.some.inj (second.symm.trans slot)
    refine ⟨new,slot,?_⟩
    rwa [group]

end MulticastManager

namespace Managers

variable {crypto : Primitives} {state : Managers}

theorem doLeave_mc (crypto : Primitives) (state : Managers) (draws : LeaveDraws) (u i k : UInt32)
    (skdc : Option (Fin 3)) (forced : Bool) :
    (state.doLeave crypto draws u i k skdc forced).1.mc = (state.mc.removeMember k i u).1 := by
  obtain ⟨tek,dist,leave,skdcs,frame⟩ := doLeave_frame crypto state draws u i k skdc forced
  rw [frame]

theorem doLeave_returned {draws : LeaveDraws} {u i k : UInt32} {skdc : Option (Fin 3)}
    {forced answer : Bool} (returned : (state.doLeave crypto draws u i k skdc forced).2 = .ok answer) :
    (∃ removed, (state.mc.removeMember k i u).2 = .ok removed) ∧
      (answer = false → (state.doLeave crypto draws u i k skdc forced).1.tek = state.tek) := by
  unfold doLeave at returned ⊢
  split at returned
  · cases returned
  · rename_i mc removed removal
    rw [removal]
    refine ⟨⟨removed,rfl⟩,?_⟩
    dsimp only at returned ⊢
    split at returned
    · rename_i kept
      rw [if_pos kept]
      exact fun _ => rfl
    · split at returned
      · cases returned
      · cases returned
        intro impossible
        cases impossible

/-- Of the groups a join changes what its addition changes, unless it throws before. -/
theorem processJoin_mc (crypto : Primitives) (state : Managers) (draws : JoinDraws) (u i k : UInt32)
    (skdc : Option (Fin 3)) :
    (∃ failure, (state.processJoin crypto draws u i k skdc).2 = .error failure) ∧
      (state.processJoin crypto draws u i k skdc).1.mc = state.mc ∨
    (state.processJoin crypto draws u i k skdc).1.mc = (state.mc.addMember k i u).1 ∧
      ((∃ answer, (state.processJoin crypto draws u i k skdc).2 = .ok answer) →
        ∃ added, (state.mc.addMember k i u).2 = .ok added) := by
  unfold processJoin
  dsimp only
  split
  · exact .inl ⟨⟨_,rfl⟩,rfl⟩
  · rename_i requested
    cases request_accepted requested
  · split
    · rename_i mc failure addition
      rw [addition]
      exact .inr ⟨rfl,fun ⟨_,impossible⟩ => nomatch impossible⟩
    · rename_i mc added addition
      rw [addition]
      refine .inr ⟨?_,fun _ => ⟨added,rfl⟩⟩
      obtain ⟨dist,skdcs,frame⟩ := onMemberJoined_frame draws.broadcast k skdc { state with
        mc, join := { state.join with m_total_joins := state.join.m_total_joins+1 } }
      have same := congrArg Managers.mc frame
      split
      · rename_i reached failure joined
        exact (congrArg (·.1.mc) joined).symm.trans same
      · rename_i reached value joined
        exact (congrArg (·.1.mc) joined).symm.trans same

theorem processJoin_tek (crypto : Primitives) (state : Managers) (draws : JoinDraws) (u i k : UInt32)
    (skdc : Option (Fin 3)) : (state.processJoin crypto draws u i k skdc).1.tek = state.tek := by
  obtain ⟨mc,dist,join,skdcs,frame⟩ := processJoin_frame crypto state draws u i k skdc
  rw [frame]

/-- What a handover that its guards let through leaves of the groups: it stops after the removal,
or it goes on to the addition once the removal has returned. -/
theorem processHandover_mc {leaving : LeaveDraws} {joining : JoinDraws} {u i a b : UInt32}
    {old new : Fin 3} (passed : handoverSlots a b = some (old,new)) {reached : Managers}
    {outcome : Result Bool}
    (handed : state.processHandover crypto leaving joining u i a b = (reached,outcome)) :
    (∃ failure, outcome = .error failure) ∧ reached.mc = (state.mc.removeMember a i u).1 ∨
    (∃ removed, (state.mc.removeMember a i u).2 = .ok removed) ∧
      reached.mc = ((state.mc.removeMember a i u).1.addMember b (newIndex state.mc b) u).1 ∧
      ∀ answer, outcome = .ok answer →
        (∃ added, ((state.mc.removeMember a i u).1.addMember b (newIndex state.mc b) u).2 =
          .ok added) ∧ (answer = false → reached.tek = state.tek) := by
  obtain ⟨first,second,apart⟩ := handoverSlots_some.mp passed
  have differ : a ≠ b := by
    rintro rfl
    exact apart (Option.some.inj (first.symm.trans second))
  unfold processHandover processLeave at handed
  simp only [if_neg differ,first,second] at handed
  split at handed
  · rename_i left failure leaves
    have same : left.mc = (state.mc.removeMember a i u).1 :=
      (congrArg (·.1.mc) leaves).symm.trans (doLeave_mc ..)
    cases handed
    exact .inl ⟨⟨failure,rfl⟩,same⟩
  · rename_i left leave_ok leaves
    have same : left.mc = (state.mc.removeMember a i u).1 :=
      (congrArg (·.1.mc) leaves).symm.trans (doLeave_mc ..)
    obtain ⟨removed,tek⟩ := doLeave_returned (congrArg Prod.snd leaves)
    rw [leaves] at tek
    have index : newIndex left.mc b = newIndex state.mc b := by
      rw [same]
      exact newIndex_after_leave passed
    rw [index] at handed
    have joins := processJoin_mc crypto left joining u (newIndex state.mc b) b (some new)
    have tek' := processJoin_tek crypto left joining u (newIndex state.mc b) b (some new)
    rw [same] at joins
    split at handed
    · rename_i joined failure joining
      cases handed
      rw [joining] at joins
      rcases joins with ⟨_,kept⟩ | ⟨added,_⟩
      · exact .inl ⟨⟨failure,rfl⟩,kept⟩
      · exact .inr ⟨removed,added,fun _ impossible => nomatch impossible⟩
    · rename_i joined join_ok joining
      cases handed
      rw [joining] at joins tek'
      rcases joins with ⟨⟨failure,impossible⟩,_⟩ | ⟨added,settled⟩
      · cases impossible
      · refine .inr ⟨removed,added,?_⟩
        intro answer returned
        refine ⟨settled ⟨join_ok,rfl⟩,?_⟩
        intro refused
        have join_answer : join_ok = true := processJoin_answer (congrArg Prod.snd joining)
        have leave_answer : leave_ok = false := by
          have value := Except.ok.inj returned
          rw [refused,join_answer] at value
          simpa using value
        exact tek'.trans (tek leave_answer)

theorem triggerRekey_mc (crypto : Primitives) (state : Managers) (draws : TekDraws) (k : UInt32)
    (reason : RekeyCause) (skdc : Option (Fin 3)) :
    (state.triggerRekey crypto draws k reason skdc).1.mc = state.mc := by
  obtain ⟨tek,dist,rekey,skdcs,frame⟩ := triggerRekey_frame crypto state draws k reason skdc
  rw [frame]

theorem handleCompromise_mc (crypto : Primitives) (state : Managers) (draws : LeaveDraws)
    (u k i : UInt32) (reason : CompromiseReason) (skdc : Option (Fin 3)) :
    (state.revokes u skdc = true →
      (state.handleCompromise crypto draws u k i reason skdc).1.mc =
          (state.mc.removeMember k i u).1 ∧
        ((∃ value, (state.handleCompromise crypto draws u k i reason skdc).2 = .ok value) →
          ∃ removed, (state.mc.removeMember k i u).2 = .ok removed)) ∧
    (state.revokes u skdc ≠ true →
      (state.handleCompromise crypto draws u k i reason skdc).1.mc = state.mc) := by
  constructor
  · intro revokes
    obtain ⟨fresh,handed⟩ := revokes_iff.mp revokes
    unfold handleCompromise forceRevoke
    simp only [fresh,Bool.false_eq_true,if_false]
    rw [if_pos handed]
    split
    · rename_i reached failure left
      refine ⟨(congrArg (·.1.mc) left).symm.trans (doLeave_mc ..),?_⟩
      intro ⟨_,impossible⟩
      cases impossible
    · rename_i reached revoked left
      refine ⟨(congrArg (·.1.mc) left).symm.trans (doLeave_mc ..),?_⟩
      intro _
      exact (doLeave_returned (congrArg Prod.snd left)).1
  · intro quiet
    unfold handleCompromise
    split
    · rfl
    · rename_i fresh
      dsimp only
      split
      · rename_i handed
        exact absurd (revokes_iff.mpr ⟨by simpa using fresh,handed⟩) quiet
      · rfl

end Managers

/-- The managers of the sample fleet, each with an SKDC whose socket is not open yet. -/
def fleetManagers : Managers where
  mc := MulticastManager.start fleetFile
  tek := TekManager.initializeTeks 0 { m_params := some fleetFile, m_hmac_key := zeroKey }
  skdcs := fun _ => some {}

def sampleLeaveDraws : LeaveDraws where
  rotation := { ts := 1700000000000000, nonce := Vector.replicate 16 3, created_at := 1700000000000000 }
  second := { ts := 1700000000000001, nonce := Vector.replicate 16 4, created_at := 1700000000000001 }
  broadcast := { packet := samplePacketDraws, now := 1700000000000002 }

def sampleJoinDraws : JoinDraws where
  hmac_key := .ok zeroKey
  packet := samplePacketDraws
  broadcast := { packet := samplePacketDraws, now := 1700000000000003 }

/-- At first every UAV of the fleet is a member of its own cluster under its own number. -/
theorem fleetManagers_seating {c : Fin 3} {i u : UInt32}
    (held : fleetManagers.mc.seating c i = some u) :
    u = i ∧ i ∈ SkdcApplication.initialMembers (UInt32.ofNat c) := by
  unfold MulticastManager.seating at held
  split at held
  · rename_i inside
    cases held
    have entry : fleetFile.clusters[c]? = some (fleetFile.clusters.get c) :=
      List.getElem?_eq_getElem c.isLt
    exact ⟨rfl,(MulticastManager.mem_start entry).mp inside⟩
  · cases held

end UavFanet.Apps
