import UavFanet.HandoverRuns
import UavFanet.MemberHandovers
import Mathlib.Algebra.BigOperators.Fin

/-! The sizes of the groups under `ProcessHandover`: when a handover that reports success takes one
member from the old cluster and gives it to the new one. -/
namespace UavFanet.HandoverBalance
open Library Library.Seats UavFanet.Apps UavFanet.MemberHandovers
open scoped BigOperators

def total (mc : MulticastManager) : Nat := ∑ c : Fin 3, (mc.m_groups c).members.size

section Sizes

variable {before after : MulticastManager} {c old new : Fin 3} {i k : UInt32}

theorem size_same (same : ∀ j, j ∈ (after.m_groups c).members ↔ j ∈ (before.m_groups c).members) :
    (after.m_groups c).members.size = (before.m_groups c).members.size := by
  rw [Std.ExtTreeSet.ext_mem same]

theorem size_erased (inside : i ∈ (before.m_groups c).members)
    (gone : ∀ j, j ∈ (after.m_groups c).members ↔ j ∈ (before.m_groups c).members ∧ j ≠ i) :
    (after.m_groups c).members.size+1 = (before.m_groups c).members.size := by
  have erased : (after.m_groups c).members = (before.m_groups c).members.erase i := by
    apply Std.ExtTreeSet.ext_mem
    intro j
    rw [gone,Std.ExtTreeSet.mem_erase,ne_eq,ne_eq,Std.LawfulEqCmp.compare_eq_iff_eq,and_comm,eq_comm]
  have positive : 0 < (before.m_groups c).members.size := by
    rw [Nat.pos_iff_ne_zero]
    intro zero
    have empty := Std.ExtTreeSet.eq_empty_iff_size_eq_zero.mpr zero
    rw [empty] at inside
    exact Std.ExtTreeSet.not_mem_empty inside
  rw [erased,Std.ExtTreeSet.size_erase,
    if_pos (Std.ExtTreeSet.contains_iff_mem.mpr inside)]
  omega

theorem size_inserted (outside : k ∉ (before.m_groups c).members)
    (arrived : ∀ j, j ∈ (after.m_groups c).members ↔ j ∈ (before.m_groups c).members ∨ j = k) :
    (after.m_groups c).members.size = (before.m_groups c).members.size+1 := by
  have inserted : (after.m_groups c).members = (before.m_groups c).members.insert k := by
    apply Std.ExtTreeSet.ext_mem
    intro j
    rw [arrived,Std.ExtTreeSet.mem_insert,Std.LawfulEqCmp.compare_eq_iff_eq,or_comm,eq_comm]
  rw [inserted,Std.ExtTreeSet.size_insert,
    if_neg (fun held => outside (Std.ExtTreeSet.contains_iff_mem.mp held))]

theorem total_moved (apart : old ≠ new)
    (left : (after.m_groups old).members.size+1 = (before.m_groups old).members.size)
    (joined : (after.m_groups new).members.size = (before.m_groups new).members.size+1)
    (others : ∀ c, c ≠ old → c ≠ new →
      (after.m_groups c).members.size = (before.m_groups c).members.size) :
    total after = total before := by
  have each : ∀ c, (after.m_groups c).members.size+(if c = old then 1 else 0) =
      (before.m_groups c).members.size+(if c = new then 1 else 0) := by
    intro c
    by_cases first : c = old
    · rw [first,if_pos rfl,if_neg apart,left]
      rfl
    · by_cases second : c = new
      · rw [second,if_neg apart.symm,if_pos rfl,joined]
      · rw [if_neg first,if_neg second,others c first second]
  have sums : ∑ c : Fin 3, ((after.m_groups c).members.size+(if c = old then 1 else 0)) =
      ∑ c : Fin 3, ((before.m_groups c).members.size+(if c = new then 1 else 0)) :=
    Finset.sum_congr rfl (fun c _ => each c)
  rw [Finset.sum_add_distrib,Finset.sum_add_distrib,Finset.sum_ite_eq',Finset.sum_ite_eq',
    if_pos (Finset.mem_univ old),if_pos (Finset.mem_univ new)] at sums
  exact Nat.add_right_cancel sums

end Sizes

theorem mem_seating {mgr : MulticastManager} {c : Fin 3} {j : UInt32} :
    j ∈ (mgr.m_groups c).members ↔ (mgr.seating c j).isSome := by
  rw [← Option.ne_none_iff_isSome,ne_eq,MulticastManager.seating_none,not_not]

/-- The numbers that a handover between two clusters is to leave: one member less in the old group,
one more in the new group, as many in all, and no other member under the assigned index. -/
structure Balanced (before after : MulticastManager) (old new : Fin 3) (new_uav_index uav_id : UInt32) :
    Prop where
  left : (after.m_groups old).members.size+1 = (before.m_groups old).members.size
  joined : (after.m_groups new).members.size = (before.m_groups new).members.size+1
  total : total after = total before
  own : ∀ holder, before.seating new new_uav_index = some holder → holder = uav_id

section Moves

variable {before after : MulticastManager} {old new : Fin 3} {i k u : UInt32}

/-- A member that leaves its seat for a free one keeps the balance. -/
theorem moved_balanced (apart : old ≠ new) (inside : i ∈ (before.m_groups old).members)
    (outside : k ∉ (before.m_groups new).members)
    (seats : after.seating = set (set before.seating old i none) new k (some u)) :
    Balanced before after old new k u := by
  have gone : ∀ j, j ∈ (after.m_groups old).members ↔ j ∈ (before.m_groups old).members ∧ j ≠ i := by
    intro j
    rw [mem_seating,mem_seating,seats,set_elsewhere _ apart,isSome_cleared]
  have arrived : ∀ j, j ∈ (after.m_groups new).members ↔
      j ∈ (before.m_groups new).members ∨ j = k := by
    intro j
    rw [mem_seating,mem_seating,seats,isSome_given,set_elsewhere _ apart.symm]
  have others : ∀ c, c ≠ old → c ≠ new →
      (after.m_groups c).members.size = (before.m_groups c).members.size := by
    intro c first second
    apply size_same
    intro j
    rw [mem_seating,mem_seating,seats,set_elsewhere _ second,set_elsewhere _ first]
  have left := size_erased inside gone
  have joined := size_inserted outside arrived
  refine ⟨left,joined,total_moved apart left joined others,?_⟩
  intro holder held
  rw [MulticastManager.seating_none.mpr outside] at held
  cases held

/-- A member that leaves its seat and gets none is missing in the new cluster. -/
theorem left_unbalanced (apart : old ≠ new) (seats : after.seating = set before.seating old i none) :
    ¬ Balanced before after old new k u := by
  intro balanced
  have same : (after.m_groups new).members.size = (before.m_groups new).members.size := by
    apply size_same
    intro j
    rw [mem_seating,mem_seating,seats,set_elsewhere _ apart.symm]
  have joined := balanced.joined
  omega

end Moves

section Records

variable {crypto : Primitives} {state : Managers}

theorem doLeave_handover (crypto : Primitives) (state : Managers) (draws : LeaveDraws) (u i k : UInt32)
    (skdc : Option (Fin 3)) (forced : Bool) :
    (state.doLeave crypto draws u i k skdc forced).1.handover = state.handover := by
  obtain ⟨tek,dist,leave,skdcs,frame⟩ := Managers.doLeave_frame crypto state draws u i k skdc forced
  rw [frame]

theorem processJoin_handover (crypto : Primitives) (state : Managers) (draws : JoinDraws)
    (u i k : UInt32) (skdc : Option (Fin 3)) :
    (state.processJoin crypto draws u i k skdc).1.handover = state.handover := by
  obtain ⟨mc,dist,join,skdcs,frame⟩ := Managers.processJoin_frame crypto state draws u i k skdc
  rw [frame]

theorem processHandover_record {leaving : LeaveDraws} {joining : JoinDraws} {u i a b : UInt32}
    {old new : Fin 3} (passed : Managers.handoverSlots a b = some (old,new)) {reached : Managers}
    {answer : Bool}
    (handed : state.processHandover crypto leaving joining u i a b = (reached,.ok answer)) :
    ∃ record, reached.handover.m_history = state.handover.m_history ++ [record] ∧
      record.new_uav_index = Managers.newIndex state.mc b := by
  obtain ⟨first,second,apart⟩ := Managers.handoverSlots_some.mp passed
  have differ : a ≠ b := by
    rintro rfl
    exact apart (Option.some.inj (first.symm.trans second))
  unfold Managers.processHandover Managers.processLeave at handed
  simp only [if_neg differ,first,second] at handed
  split at handed
  · cases handed
  · rename_i left leave_ok leaves
    have group : left.mc = (state.mc.removeMember a i u).1 :=
      (congrArg (·.1.mc) leaves).symm.trans (Managers.doLeave_mc ..)
    have kept := (congrArg (·.1.handover.m_history) leaves).symm.trans
      (congrArg HandoverManager.m_history (doLeave_handover ..))
    have index : Managers.newIndex left.mc b = Managers.newIndex state.mc b := by
      rw [group]
      exact Managers.newIndex_after_leave passed
    split at handed
    · cases handed
    · rename_i joined join_ok joins
      have same := (congrArg (·.1.handover.m_history) joins).symm.trans
        (congrArg HandoverManager.m_history (processJoin_handover ..))
      cases handed
      exact ⟨_,congrArg (· ++ [_]) (same.trans kept),index⟩

end Records

/-- A handover that reports success has recorded the index that it assigned, and the groups are
balanced for it. -/
def Conserves (crypto : Primitives) (state : Managers) (call : HandoverCall) : Prop :=
  (call.perform crypto state).2 = .ok true → ∃ old new, call.slots = some (old,new) ∧
    ∃ record, (call.perform crypto state).1.handover.m_history =
        state.handover.m_history ++ [record] ∧
      Balanced state.mc (call.perform crypto state).1.mc old new record.new_uav_index call.uav_id

/-- Where the named slot of the old cluster is taken, the slot to come in the new one is free. -/
def SlotFree (state : Managers) (call : HandoverCall) : Prop :=
  ∀ old new, call.slots = some (old,new) → call.old_uav_index ∈ (state.mc.m_groups old).members →
    call.newSlot state ∉ (state.mc.m_groups new).members

section Calls

variable {crypto : Primitives} {state : Managers} {call : HandoverCall} {old new : Fin 3}

theorem accepted_slots (accepted : (call.perform crypto state).2 = .ok true) :
    ∃ old new, call.slots = some (old,new) := by
  cases passed : call.slots with
  | none =>
    rw [HandoverCall.perform_refused passed] at accepted
    cases accepted
  | some slots => exact ⟨slots.1,slots.2,rfl⟩

theorem recorded (passed : call.slots = some (old,new)) {answer : Bool}
    (returned : (call.perform crypto state).2 = .ok answer) :
    ∃ record, (call.perform crypto state).1.handover.m_history =
        state.handover.m_history ++ [record] ∧ record.new_uav_index = call.newSlot state := by
  generalize handed : call.perform crypto state = result at returned ⊢
  obtain ⟨reached,outcome⟩ := result
  rw [show outcome = .ok answer from returned] at handed
  exact processHandover_record passed handed

/-- Success is reported exactly where a member has left. The balance then is a matter of the free
slot. -/
theorem balanced_iff (passed : call.slots = some (old,new))
    (accepted : (call.perform crypto state).2 = .ok true) :
    call.old_uav_index ∈ (state.mc.m_groups old).members ∧
    (Balanced state.mc (call.perform crypto state).1.mc old new (call.newSlot state) call.uav_id ↔
      call.newSlot state ∉ (state.mc.m_groups new).members) := by
  obtain ⟨_,_,apart⟩ := Managers.handoverSlots_some.mp passed
  have outcome := HandoverCall.perform_outcome passed accepted
  generalize (call.perform crypto state).1 = reached at outcome ⊢
  cases outcome with
  | left present full seats =>
    exact ⟨present,iff_of_false (left_unbalanced apart seats) (not_not_intro full)⟩
  | moved present free seats =>
    exact ⟨present,iff_of_true (moved_balanced apart present free seats) free⟩

theorem conserves_iff (accepted : (call.perform crypto state).2 = .ok true) :
    Conserves crypto state call ↔ SlotFree state call := by
  obtain ⟨old,new,passed⟩ := accepted_slots accepted
  obtain ⟨record,kept,index⟩ := recorded passed accepted
  obtain ⟨present,balanced⟩ := balanced_iff passed accepted
  constructor
  · intro conserves first second same _
    cases passed.symm.trans same
    obtain ⟨first,second,same,other,kept',whole⟩ := conserves accepted
    cases passed.symm.trans same
    obtain rfl : record = other := by
      have histories := kept.symm.trans kept'
      rwa [List.append_cancel_left_eq,List.cons.injEq,and_iff_left rfl] at histories
    rw [index] at whole
    exact balanced.mp whole
  · intro free _
    refine ⟨old,new,passed,record,kept,?_⟩
    rw [index]
    exact balanced.mpr (free old new passed present)

theorem SlotFree.conserves (crypto : Primitives) (free : SlotFree state call) :
    Conserves crypto state call :=
  fun accepted => (conserves_iff accepted).mpr free accepted

end Calls

def handoverOf : ManagerCall → Option HandoverCall
  | .processHandover leaving joining uav_id old_uav_index old_cluster new_cluster =>
    some { leaving, joining, uav_id, old_uav_index, old_cluster, new_cluster }
  | _ => none

def EveryHandover (Shown : Managers → HandoverCall → Prop) (state : Managers) (call : ManagerCall) :
    Prop :=
  ∀ handover, handoverOf call = some handover → Shown state handover

def Accepted (crypto : Primitives) (state : Managers) (call : HandoverCall) : Prop :=
  (call.perform crypto state).2 = .ok true

section Runs

variable {crypto : Primitives} {start : Managers} {calls : List HandoverCall}

theorem total_kept (accepted : Run.Along (HandoverCall.step crypto) (Accepted crypto) start calls)
    (conserving : Run.Along (HandoverCall.step crypto) (Conserves crypto) start calls) :
    total (Run.final (HandoverCall.step crypto) start calls).mc = total start.mc := by
  have kept : ∀ state call, Accepted crypto state call ∧ Conserves crypto state call →
      total state.mc = total start.mc →
      total (HandoverCall.step crypto state call).1.mc = total start.mc := by
    intro state call allowed same
    obtain ⟨old,new,_,record,_,balanced⟩ := allowed.2 allowed.1
    exact balanced.total.trans same
  exact (accepted.and conserving).invariant kept rfl

theorem run_conserves_iff
    (accepted : Run.Along (HandoverCall.step crypto) (Accepted crypto) start calls) :
    Run.Along (HandoverCall.step crypto) (Conserves crypto) start calls ↔
      Run.Along (HandoverCall.step crypto) SlotFree start calls := by
  constructor
  · intro conserving front call rest split_calls
    exact (conserves_iff (accepted front call rest split_calls)).mp
      (conserving front call rest split_calls)
  · intro free front call rest split_calls
    exact (free front call rest split_calls).conserves crypto

end Runs

/-- Runs of any calls of the managers conserve the members in every handover in which the slot is
free that the size of the new group leads to. Of the runs of handovers that all report success no
others do, and they keep the total. -/
theorem handovers_conserve_iff (crypto : Primitives) (start : Managers) :
    (∀ calls : List ManagerCall,
      Run.Along (ManagerCall.step crypto) (EveryHandover SlotFree) start calls →
        Run.Along (ManagerCall.step crypto) (EveryHandover (Conserves crypto)) start calls) ∧
    ∀ calls : List HandoverCall,
      Run.Along (HandoverCall.step crypto) (Accepted crypto) start calls →
        (Run.Along (HandoverCall.step crypto) (Conserves crypto) start calls ↔
          Run.Along (HandoverCall.step crypto) SlotFree start calls) ∧
        (Run.Along (HandoverCall.step crypto) SlotFree start calls →
          total (Run.final (HandoverCall.step crypto) start calls).mc = total start.mc) := by
  constructor
  · intro calls along front call rest split_calls handover same
    exact (along front call rest split_calls handover same).conserves crypto
  · intro calls accepted
    refine ⟨run_conserves_iff accepted,?_⟩
    intro free
    exact total_kept accepted ((run_conserves_iff accepted).mpr free)

/-- UAV 3 changes to the free slot 0 of cluster one. -/
theorem sampleHandover_conserves :
    Run.Along (HandoverCall.step rotationCrypto) (Conserves rotationCrypto) fleetManagers
      [HandoverCall.sampleHandover] ∧
    total (Run.final (HandoverCall.step rotationCrypto) fleetManagers
      [HandoverCall.sampleHandover]).mc = total fleetManagers.mc := by
  have accepted : Run.Along (HandoverCall.step rotationCrypto) (Accepted rotationCrypto) fleetManagers
      [HandoverCall.sampleHandover] := by
    refine Run.Along.cons ?_ Run.Along.nil
    unfold Accepted
    decide +kernel
  have free : Run.Along (HandoverCall.step rotationCrypto) SlotFree fleetManagers
      [HandoverCall.sampleHandover] := by
    refine Run.Along.cons ?_ Run.Along.nil
    intro old new passed _
    cases passed
    decide +kernel
  obtain ⟨conserving,kept⟩ := (handovers_conserve_iff rotationCrypto fleetManagers).2 _ accepted
  exact ⟨conserving.mpr free,kept free⟩

/-- UAV 3 on its way back, from slot 0 of cluster one. -/
def returning : HandoverCall where
  leaving := sampleLeaveDraws
  joining := sampleJoinDraws
  uav_id := 3
  old_uav_index := 0
  old_cluster := 1
  new_cluster := 0

def awayManagers : Managers := (HandoverCall.sampleHandover.perform rotationCrypto fleetManagers).1

/-- Cluster zero has five members then, so that UAV 3 is assigned the slot of UAV 5. It leaves
cluster one and is a member of none, and the handover reports success. -/
theorem returning_uav_lost :
    (returning.perform rotationCrypto awayManagers).2 = .ok true ∧
    returning.newSlot awayManagers = 5 ∧ awayManagers.mc.seating 0 5 = some 5 ∧
    total awayManagers.mc = 18 ∧ total (returning.perform rotationCrypto awayManagers).1.mc = 17 ∧
    (∀ c, ¬ Within (returning.perform rotationCrypto awayManagers).1.mc.seating 3 c) ∧
    ¬ Conserves rotationCrypto awayManagers returning := by
  have accepted : (returning.perform rotationCrypto awayManagers).2 = .ok true := by decide +kernel
  have taken : awayManagers.mc.seating 0 5 = some 5 := by decide +kernel
  refine ⟨accepted,by decide +kernel,taken,by decide +kernel,by decide +kernel,?_,?_⟩
  · have others : ∀ c : Fin 3,
        ((returning.perform rotationCrypto awayManagers).1.mc.m_groups c).members.toList.all
          (fun i => (returning.perform rotationCrypto awayManagers).1.mc.holder c i != 3) := by
      decide +kernel
    rintro c ⟨i,held⟩
    unfold MulticastManager.seating at held
    split at held
    · rename_i inside
      have other := List.all_eq_true.mp (others c) i (Std.ExtTreeSet.mem_toList.mpr inside)
      exact bne_iff_ne.mp other (Option.some.inj held)
    · cases held
  · intro conserves
    have free := (conserves_iff accepted).mp conserves 1 0 (by decide) (by decide +kernel)
    exact free (by decide +kernel)

end UavFanet.HandoverBalance
