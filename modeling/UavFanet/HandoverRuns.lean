import UavFanet.Membership

/-! Runs of `ProcessHandover`: when a call does all or nothing, and when nobody becomes a member
of two clusters. -/
namespace UavFanet.Apps
open Library Library.Seats

structure HandoverCall where
  leaving : LeaveDraws
  joining : JoinDraws
  uav_id : UInt32
  old_uav_index : UInt32
  old_cluster : UInt32
  new_cluster : UInt32

namespace MulticastManager

theorem removed_exclusive {mgr : MulticastManager} (exclusive : Exclusive mgr.seating) (k i u : UInt32) :
    Exclusive (mgr.removeMember k i u).1.seating := by
  rcases removeMember_seating mgr k i u with ⟨_,refused⟩ | ⟨_,failed⟩ | ⟨c,after,_,_,left,seats⟩
  · rwa [refused]
  · rwa [failed]
  · rw [left,seats]
    exact exclusive.cleared c i

theorem added_exclusive {mgr : MulticastManager} (exclusive : Exclusive mgr.seating) {k i u : UInt32}
    (nowhere : ∀ c, clusterSlot k = some c → i ∉ (mgr.m_groups c).members →
      ∀ here, Within mgr.seating u here → here = c) :
    Exclusive (mgr.addMember k i u).1.seating := by
  rcases addMember_seating mgr k i u with
    ⟨_,refused⟩ | ⟨_,failed⟩ | ⟨c,after,slot,outside,joined,seats⟩
  · rwa [refused]
  · rwa [failed]
  · rw [joined,seats,exclusive.given_iff (seating_none.mpr outside)]
    exact nowhere c slot outside

end MulticastManager

namespace HandoverCall
open Managers

def perform (crypto : Primitives) (state : Managers) (call : HandoverCall) : Managers × Result Bool :=
  state.processHandover crypto call.leaving call.joining call.uav_id call.old_uav_index
    call.old_cluster call.new_cluster

def step (crypto : Primitives) (state : Managers) (call : HandoverCall) :
    Managers × Option (Result Bool) :=
  ((call.perform crypto state).1,some (call.perform crypto state).2)

def Returns (crypto : Primitives) (state : Managers) (call : HandoverCall) : Prop :=
  ∃ answer, (call.perform crypto state).2 = .ok answer

/-- The clusters that the call names, if its guards let it through. -/
def slots (call : HandoverCall) : Option (Fin 3 × Fin 3) :=
  handoverSlots call.old_cluster call.new_cluster

def newSlot (state : Managers) (call : HandoverCall) : UInt32 :=
  newIndex state.mc call.new_cluster

/-- If the call refuses, both clusters keep group and TEK version. If it accepts, the UAV is a
member of the new cluster and not of the old one. -/
structure AllOrNothing (crypto : Primitives) (state : Managers) (call : HandoverCall) : Prop where
  refused : (call.perform crypto state).2 = .ok false →
    ∀ c, clusterSlot call.old_cluster = some c ∨ clusterSlot call.new_cluster = some c →
      (call.perform crypto state).1.mc.m_groups c = state.mc.m_groups c ∧
        ((call.perform crypto state).1.tek.m_teks c).version = (state.tek.m_teks c).version
  accepted : (call.perform crypto state).2 = .ok true →
    ∀ old new, clusterSlot call.old_cluster = some old → clusterSlot call.new_cluster = some new →
      Within (call.perform crypto state).1.mc.seating call.uav_id new ∧
        ¬ Within (call.perform crypto state).1.mc.seating call.uav_id old

def Lawful (crypto : Primitives) (state : Managers) (call : HandoverCall) : Prop :=
  AllOrNothing crypto state call ∧ Exclusive (call.perform crypto state).1.mc.seating

/-- Either the named slot is taken, the slot to come is free (or the UAV is in the new cluster
already) and the UAV holds no other slot of the old cluster, or neither slot changes hands. -/
def Feasible (state : Managers) (call : HandoverCall) : Prop :=
  ∀ old new, call.slots = some (old,new) →
    if call.old_uav_index ∈ (state.mc.m_groups old).members then
      (call.newSlot state ∉ (state.mc.m_groups new).members ∨
        Within state.mc.seating call.uav_id new) ∧
      ∀ j, state.mc.seating old j = some call.uav_id → j = call.old_uav_index
    else call.newSlot state ∈ (state.mc.m_groups new).members

/-- A UAV that is given a slot is a member of no third cluster. -/
def Local (state : Managers) (call : HandoverCall) : Prop :=
  ∀ old new, call.slots = some (old,new) →
    call.newSlot state ∉ (state.mc.m_groups new).members →
      ∀ c, Within state.mc.seating call.uav_id c → c = old ∨ c = new

def Proper (state : Managers) (call : HandoverCall) : Prop := call.Feasible state ∧ call.Local state

/-- How a handover can come out that its guards let through and that returns. -/
inductive Outcome (state : Managers) (call : HandoverCall) (old new : Fin 3) (reached : Managers) :
    Bool → Prop where
  | stayed (absent : call.old_uav_index ∉ (state.mc.m_groups old).members)
      (full : call.newSlot state ∈ (state.mc.m_groups new).members)
      (mc : reached.mc = state.mc) (tek : reached.tek = state.tek) :
      Outcome state call old new reached false
  | joined (absent : call.old_uav_index ∉ (state.mc.m_groups old).members)
      (free : call.newSlot state ∉ (state.mc.m_groups new).members)
      (seats : reached.mc.seating =
        set state.mc.seating new (call.newSlot state) (some call.uav_id)) :
      Outcome state call old new reached false
  | left (present : call.old_uav_index ∈ (state.mc.m_groups old).members)
      (full : call.newSlot state ∈ (state.mc.m_groups new).members)
      (seats : reached.mc.seating = set state.mc.seating old call.old_uav_index none) :
      Outcome state call old new reached true
  | moved (present : call.old_uav_index ∈ (state.mc.m_groups old).members)
      (free : call.newSlot state ∉ (state.mc.m_groups new).members)
      (seats : reached.mc.seating = set (set state.mc.seating old call.old_uav_index none) new
        (call.newSlot state) (some call.uav_id)) :
      Outcome state call old new reached true

section Calls

variable {crypto : Primitives} {state : Managers} {call : HandoverCall} {old new : Fin 3}

theorem perform_outcome (passed : call.slots = some (old,new)) {answer : Bool}
    (returned : (call.perform crypto state).2 = .ok answer) :
    Outcome state call old new (call.perform crypto state).1 answer := by
  obtain ⟨first,second,apart⟩ := handoverSlots_some.mp passed
  have answered : answer = decide (call.old_uav_index ∈ (state.mc.m_groups old).members) := by
    have value := processHandover_answer returned
    rw [show handoverSlots call.old_cluster call.new_cluster = some (old,new) from passed] at value
    simpa [MulticastManager.isMember,first] using value
  generalize handed : call.perform crypto state = result at returned
  obtain ⟨reached,outcome⟩ := result
  rcases processHandover_mc passed handed with ⟨⟨failure,thrown⟩,_⟩ | ⟨removal,mc,settled⟩
  · cases thrown.symm.trans returned
  obtain ⟨addition,tek⟩ := settled answer returned
  have group := state.mc.removed_new call.old_uav_index call.uav_id passed
  rcases MulticastManager.removeMember_returned first removal with
    ⟨absent,removed⟩ | ⟨present,removed⟩
  · obtain rfl : answer = false := answered.trans (decide_eq_false absent)
    rcases MulticastManager.addMember_returned second addition with ⟨full,added⟩ | ⟨free,added⟩
    · rw [group] at full
      exact .stayed absent full (mc.trans (added.trans removed)) (tek rfl)
    · rw [group] at free
      rw [← mc,removed] at added
      exact .joined absent free added
  · obtain rfl : answer = true := answered.trans (decide_eq_true present)
    rcases MulticastManager.addMember_returned second addition with ⟨full,added⟩ | ⟨free,added⟩
    · rw [group] at full
      rw [← mc] at added
      exact .left present full (added ▸ removed)
    · rw [group] at free
      rw [← mc,removed] at added
      exact .moved present free added

theorem perform_refused (refused : call.slots = none) : call.perform crypto state = (state,.ok false) :=
  processHandover_refused refused

theorem feasible_iff (passed : call.slots = some (old,new)) : Feasible state call ↔
    if call.old_uav_index ∈ (state.mc.m_groups old).members then
      (call.newSlot state ∉ (state.mc.m_groups new).members ∨
        Within state.mc.seating call.uav_id new) ∧
      ∀ j, state.mc.seating old j = some call.uav_id → j = call.old_uav_index
    else call.newSlot state ∈ (state.mc.m_groups new).members := by
  constructor
  · intro feasible
    exact feasible old new passed
  · intro now first second same
    cases passed.symm.trans same
    exact now

theorem AllOrNothing.of_refused (returned : (call.perform crypto state).2 = .ok false)
    (kept : ∀ c, clusterSlot call.old_cluster = some c ∨ clusterSlot call.new_cluster = some c →
      (call.perform crypto state).1.mc.m_groups c = state.mc.m_groups c ∧
        ((call.perform crypto state).1.tek.m_teks c).version = (state.tek.m_teks c).version) :
    AllOrNothing crypto state call where
  refused _ := kept
  accepted impossible := by cases returned.symm.trans impossible

theorem allOrNothing_accepted (passed : call.slots = some (old,new))
    (returned : (call.perform crypto state).2 = .ok true) :
    AllOrNothing crypto state call ↔
      Within (call.perform crypto state).1.mc.seating call.uav_id new ∧
        ¬ Within (call.perform crypto state).1.mc.seating call.uav_id old := by
  obtain ⟨first,second,apart⟩ := handoverSlots_some.mp passed
  constructor
  · intro whole
    exact whole.accepted returned old new first second
  · intro moved
    constructor
    · intro impossible
      cases returned.symm.trans impossible
    · intro _ a b first' second'
      cases first.symm.trans first'
      cases second.symm.trans second'
      exact moved

theorem allOrNothing_iff (returned : Returns crypto state call) :
    AllOrNothing crypto state call ↔ Feasible state call := by
  cases passed : call.slots with
  | none =>
    constructor
    · intro _ old new impossible
      cases passed.symm.trans impossible
    · intro _
      have refused : call.perform crypto state = (state,.ok false) := perform_refused passed
      apply AllOrNothing.of_refused
      · rw [refused]
      · intro c _
        rw [refused]
        exact ⟨rfl,rfl⟩
  | some slots =>
    obtain ⟨old,new⟩ := slots
    obtain ⟨first,second,apart⟩ := handoverSlots_some.mp passed
    obtain ⟨answer,returned⟩ := returned
    rw [feasible_iff passed]
    cases perform_outcome passed returned with
    | stayed absent full mc tek =>
      rw [if_neg absent]
      refine iff_of_true ?_ full
      apply AllOrNothing.of_refused returned
      intro c _
      rw [mc,tek]
      exact ⟨rfl,rfl⟩
    | joined absent free seats =>
      rw [if_neg absent]
      refine iff_of_false ?_ free
      intro whole
      have same := (whole.refused returned new (.inr second)).1
      have given : (call.perform crypto state).1.mc.seating new (call.newSlot state) =
          some call.uav_id := by rw [seats,set_same]
      have empty := MulticastManager.seating_none.mpr (same.symm ▸ free)
      cases empty.symm.trans given
    | left present full seats =>
      rw [if_pos present,allOrNothing_accepted passed returned,seats,
        within_cleared_other apart.symm,not_within_cleared]
      constructor
      · intro ⟨inside,only⟩
        exact ⟨.inr inside,only⟩
      · intro ⟨ready,only⟩
        exact ⟨ready.resolve_left (not_not_intro full),only⟩
    | moved present free seats =>
      have empty : set state.mc.seating old call.old_uav_index none new (call.newSlot state) = none := by
        rw [set_other _ (fun same => apart.symm same.1)]
        exact MulticastManager.seating_none.mpr free
      rw [if_pos present,allOrNothing_accepted passed returned,seats,within_given empty,
        within_given empty]
      constructor
      · intro ⟨_,out⟩
        exact ⟨.inl free,not_within_cleared.mp (fun held => out (.inl held))⟩
      · intro ⟨_,only⟩
        refine ⟨.inr ⟨rfl,rfl⟩,?_⟩
        rintro (held | ⟨_,same⟩)
        · exact not_within_cleared.mpr only held
        · exact apart same

/-- The UAV that a proper call moves is nowhere but in the new cluster once it has left. -/
theorem Proper.nowhere (proper : Proper state call) (passed : call.slots = some (old,new))
    (free : call.newSlot state ∉ (state.mc.m_groups new).members)
    {removed : Bool}
    (removal : (state.mc.removeMember call.old_cluster call.old_uav_index call.uav_id).2 =
      .ok removed) (here : Fin 3)
    (within : Within (state.mc.removeMember call.old_cluster call.old_uav_index
      call.uav_id).1.seating call.uav_id here) : here = new := by
  obtain ⟨feasible,apart⟩ := proper
  obtain ⟨first,_,_⟩ := handoverSlots_some.mp passed
  have ready := (feasible_iff passed).mp feasible
  rcases MulticastManager.removeMember_returned first ⟨removed,removal⟩ with
    ⟨absent,_⟩ | ⟨present,seats⟩
  · rw [if_neg absent] at ready
    exact absurd ready free
  · rw [if_pos present] at ready
    rw [seats] at within
    rcases apart old new passed free here within.of_cleared with rfl | same
    · exact absurd within (not_within_cleared.mpr ready.2)
    · exact same

/-- A proper call makes nobody a member of two clusters, also where it throws. -/
theorem Proper.exclusive (proper : Proper state call) (exclusive : Exclusive state.mc.seating) :
    Exclusive (call.perform crypto state).1.mc.seating := by
  cases passed : call.slots with
  | none => rwa [perform_refused passed]
  | some slots =>
    obtain ⟨old,new⟩ := slots
    obtain ⟨_,second,_⟩ := handoverSlots_some.mp passed
    have left := MulticastManager.removed_exclusive exclusive call.old_cluster call.old_uav_index call.uav_id
    generalize handed : call.perform crypto state = result
    obtain ⟨reached,outcome⟩ := result
    rcases processHandover_mc passed handed with ⟨_,mc⟩ | ⟨⟨removed,removal⟩,mc,_⟩
    · rwa [mc]
    · rw [mc]
      apply MulticastManager.added_exclusive left
      intro c slot free
      obtain rfl : new = c := Option.some.inj (second.symm.trans slot)
      rw [state.mc.removed_new _ _ passed] at free
      exact proper.nowhere passed free removal

theorem lawful_iff (exclusive : Exclusive state.mc.seating) (returned : Returns crypto state call) :
    Lawful crypto state call ↔ Proper state call := by
  constructor
  · intro ⟨whole,apart⟩
    have feasible := (allOrNothing_iff returned).mp whole
    refine ⟨feasible,?_⟩
    intro old new passed free c within
    have ready := (feasible_iff passed).mp feasible
    obtain ⟨answer,returned⟩ := returned
    cases perform_outcome passed returned with
    | stayed absent full mc tek => exact absurd full free
    | joined absent free seats =>
      rw [if_neg absent] at ready
      exact absurd ready free
    | left present full seats => exact absurd full free
    | moved present free seats =>
      have cleared := exclusive.cleared old call.old_uav_index
      have empty : set state.mc.seating old call.old_uav_index none new (call.newSlot state) = none := by
        rw [set_other _ (fun same => (handoverSlots_some.mp passed).2.2.symm same.1)]
        exact MulticastManager.seating_none.mpr free
      rw [seats] at apart
      have nowhere := (cleared.given_iff empty).mp apart
      by_cases here : c = old
      · exact .inl here
      · exact .inr (nowhere c ((within_cleared_other here).mpr within))
  · intro proper
    exact ⟨(allOrNothing_iff returned).mpr proper.1,proper.exclusive exclusive⟩

theorem Proper.lawful (proper : Proper state call) (exclusive : Exclusive state.mc.seating) :
    Lawful crypto state call := by
  refine ⟨?_,proper.exclusive exclusive⟩
  by_cases returned : Returns crypto state call
  · exact (allOrNothing_iff returned).mpr proper.1
  · exact {
      refused := fun answered => absurd ⟨false,answered⟩ returned
      accepted := fun answered => absurd ⟨true,answered⟩ returned }

end Calls

/-- From exclusive groups on, a run of proper handovers does all or nothing and leaves nobody in
two clusters; of the runs whose calls all return, no others do. -/
theorem handovers_lawful (crypto : Primitives) (start : Managers)
    (exclusive : Exclusive start.mc.seating) (calls : List HandoverCall) :
    (∀ state call, Returns crypto state call →
      (AllOrNothing crypto state call ↔ Feasible state call)) ∧
    (Run.Along (step crypto) Proper start calls → Run.Along (step crypto) (Lawful crypto) start calls) ∧
    (Run.Along (step crypto) (Returns crypto) start calls →
      Run.Along (step crypto) (Lawful crypto) start calls →
        Run.Along (step crypto) Proper start calls) := by
  refine ⟨fun state call returned => allOrNothing_iff returned,?_,?_⟩
  · intro proper
    have safe : ∀ state call, Exclusive state.mc.seating → Proper state call →
        Lawful crypto state call ∧ Exclusive (step crypto state call).1.mc.seating :=
      fun state call apart allowed => ⟨allowed.lawful apart,allowed.exclusive apart⟩
    exact proper.imp safe exclusive
  · intro returns lawful
    have safe : ∀ state call, Exclusive state.mc.seating →
        Returns crypto state call ∧ Lawful crypto state call →
          Proper state call ∧ Exclusive (step crypto state call).1.mc.seating :=
      fun state call apart allowed => ⟨(lawful_iff apart allowed.1).mp allowed.2,allowed.2.2⟩
    exact (returns.and lawful).imp safe exclusive

theorem fleetManagers_exclusive : Exclusive fleetManagers.mc.seating := by
  intro u here there ⟨i,first⟩ ⟨j,second⟩
  obtain ⟨rfl,inside⟩ := fleetManagers_seating first
  obtain ⟨rfl,inside'⟩ := fleetManagers_seating second
  exact SkdcApplication.initialMembers_apart inside inside'

/-- UAV 3 changes from its slot in cluster zero to the free slot 0 of cluster one. -/
def sampleHandover : HandoverCall where
  leaving := sampleLeaveDraws
  joining := sampleJoinDraws
  uav_id := 3
  old_uav_index := 3
  old_cluster := 0
  new_cluster := 1

theorem sampleHandover_lawful :
    Run.Along (step rotationCrypto) (Lawful rotationCrypto) fleetManagers [sampleHandover] := by
  apply (handovers_lawful rotationCrypto fleetManagers fleetManagers_exclusive _).2.1
  refine Run.Along.cons ⟨?_,?_⟩ Run.Along.nil
  · have passed : sampleHandover.slots = some (0,1) := by decide
    have present : sampleHandover.old_uav_index ∈ (fleetManagers.mc.m_groups 0).members := by
      decide +kernel
    have free : sampleHandover.newSlot fleetManagers ∉ (fleetManagers.mc.m_groups 1).members := by
      decide +kernel
    refine (feasible_iff passed).mpr ?_
    rw [if_pos present]
    exact ⟨.inl free,fun j held => (fleetManagers_seating held).1.symm⟩
  · intro old new passed _ c ⟨i,held⟩
    cases passed
    obtain ⟨rfl,inside⟩ := fleetManagers_seating held
    exact .inl (SkdcApplication.initialMembers_apart inside (by decide +kernel))

/-- UAV 7 asks to change from cluster one, where it is a member under its own number, with its
index. -/
def strayHandover : HandoverCall where
  leaving := sampleLeaveDraws
  joining := sampleJoinDraws
  uav_id := 7
  old_uav_index := 1
  old_cluster := 1
  new_cluster := 2

/-- The handover fails, and UAV 7 is a member of both clusters. -/
theorem failed_handover_joins :
    Exclusive fleetManagers.mc.seating ∧
    (strayHandover.perform rotationCrypto fleetManagers).2 = .ok false ∧
    Within (strayHandover.perform rotationCrypto fleetManagers).1.mc.seating 7 1 ∧
    Within (strayHandover.perform rotationCrypto fleetManagers).1.mc.seating 7 2 ∧
    ¬ AllOrNothing rotationCrypto fleetManagers strayHandover ∧
    ¬ Exclusive (strayHandover.perform rotationCrypto fleetManagers).1.mc.seating := by
  have failed : (strayHandover.perform rotationCrypto fleetManagers).2 = .ok false := by
    decide +kernel
  have here : Within (strayHandover.perform rotationCrypto fleetManagers).1.mc.seating 7 1 :=
    ⟨7,by decide +kernel⟩
  have there : Within (strayHandover.perform rotationCrypto fleetManagers).1.mc.seating 7 2 :=
    ⟨0,by decide +kernel⟩
  refine ⟨fleetManagers_exclusive,failed,here,there,?_,?_⟩
  · intro whole
    have feasible := (allOrNothing_iff ⟨false,failed⟩).mp whole
    have passed : strayHandover.slots = some (1,2) := by decide
    have absent : strayHandover.old_uav_index ∉ (fleetManagers.mc.m_groups 1).members := by
      decide +kernel
    have free : strayHandover.newSlot fleetManagers ∉ (fleetManagers.mc.m_groups 2).members := by
      decide +kernel
    rw [feasible_iff passed,if_neg absent] at feasible
    exact free feasible
  · intro exclusive
    exact absurd (exclusive 7 1 2 here there) (by decide)

end HandoverCall
end UavFanet.Apps
