import UavFanet.SkdcApp
import UavFanet.CrtManager
import Mathlib.Logic.Function.Basic

/-! `MulticastManager`: the member sets of the three clusters with their tokens, and the
log of who joined and left them. -/
namespace UavFanet.Apps
open UavFanet.CrtManager

/-- The entry of a `std::array` of three that a call names, after its check `cluster_id >= 3`. -/
def clusterSlot (cluster_id : UInt32) : Option (Fin 3) :=
  if known : cluster_id.toNat < 3 then some ⟨cluster_id.toNat,known⟩ else none

structure MulticastGroupInfo where
  cluster_id : UInt32 := 0
  members : Members := ∅
  version : UInt32 := 1
  mt_k : Int := 0
  n_group : Int := 0
  e_mk : Int := 0
  active : Bool := false

inductive MembershipType where
  | join
  | leave
  | handover
  deriving DecidableEq,Repr

structure MembershipEvent where
  type : MembershipType
  uav_id : UInt32
  uav_index : UInt32
  cluster_id : UInt32
  deriving DecidableEq,Repr

structure MulticastManager where
  m_params : Option CryptoParamsFile := none
  m_groups : Fin 3 → MulticastGroupInfo := fun _ => {}
  m_mkg : Fin 3 → MKeyGenResult := fun _ => { eM := 0, n_total := 0, slaves := [] }
  m_events : List MembershipEvent := []
  m_joins : UInt64 := 0
  m_leaves : UInt64 := 0
  m_rekeys : UInt64 := 0

namespace MulticastManager

/-- One turn of the loop of `Initialize`. -/
def initializeGroup (c : Fin 3) (cp : ClusterCryptoEntry) (g : MulticastGroupInfo) :
    MulticastGroupInfo :=
  { cluster_id := UInt32.ofNat c
    mt_k := cp.MT_K
    n_group := cp.N_group
    e_mk := cp.e_MK
    version := 1
    active := true
    members := g.members ∪ SkdcApplication.initialMembers (UInt32.ofNat c) }

/-- `Initialize`. The clusters of the file count by position. -/
def initializeGroups (mgr : MulticastManager) : MulticastManager :=
  match mgr.m_params with
  | none => mgr
  | some file => { mgr with
      m_groups := fun c => match file.clusters[c]? with
        | some cp => initializeGroup c cp (mgr.m_groups c)
        | none => mgr.m_groups c
      m_mkg := fun c => match file.clusters[c]? with
        | some cp => loadedKeys cp
        | none => mgr.m_mkg c }

/-- The token that both updates start from. -/
def groupToken (c : Fin 3) (T : Int) (g : MulticastGroupInfo) : MTokenResult where
  MT_K := g.mt_k
  e_MK := g.e_mk
  T := T
  N_group := g.n_group
  user_indices := g.members.toList
  cluster_id := UInt32.ofNat c
  version := g.version

/-- Its secret is the one of the file. -/
def currentToken (mgr : MulticastManager) (c : Fin 3) : Result MTokenResult :=
  match mgr.m_params.bind (fun file => file.clusters[c]?) with
  | none => .error .outOfRange
  | some cp => .ok (groupToken c cp.tek_int (mgr.m_groups c))

def updateGroup (c : Fin 3) (members : Members) (result : MTokenResult) (mgr : MulticastManager) :
    MulticastManager :=
  { mgr with
    m_groups := Function.update mgr.m_groups c { mgr.m_groups c with
      members
      version := result.version
      mt_k := result.MT_K
      n_group := result.N_group
      e_mk := result.e_MK }
    m_rekeys := mgr.m_rekeys+1 }

def recordEvent (type : MembershipType) (uav_id uav_index cluster_id : UInt32)
    (mgr : MulticastManager) : MulticastManager :=
  { mgr with m_events := mgr.m_events ++ [{ type, uav_id, uav_index, cluster_id }] }

def joined (c : Fin 3) (uav_index uav_id : UInt32) (result : MTokenResult) (mgr : MulticastManager) :
    MulticastManager :=
  let mgr := mgr.updateGroup c ((mgr.m_groups c).members.insert uav_index) result
  { mgr with m_joins := mgr.m_joins+1 }.recordEvent .join uav_id uav_index (UInt32.ofNat c)

def addMember (cluster_id uav_index uav_id : UInt32) (mgr : MulticastManager) :
    MulticastManager × Result Bool :=
  match clusterSlot cluster_id with
  | none => (mgr,.ok false)
  | some c =>
    if uav_index ∈ (mgr.m_groups c).members then (mgr,.ok false)
    else
      match mgr.currentToken c >>= fun current => joKeyUpdate (mgr.m_mkg c) current uav_index with
      | .error failure => (mgr,.error failure)
      | .ok result => (mgr.joined c uav_index uav_id result,.ok true)

def left (c : Fin 3) (uav_index uav_id : UInt32) (result : MTokenResult) (mgr : MulticastManager) :
    MulticastManager :=
  let mgr := mgr.updateGroup c ((mgr.m_groups c).members.erase uav_index) result
  { mgr with m_leaves := mgr.m_leaves+1 }.recordEvent .leave uav_id uav_index (UInt32.ofNat c)

def removeMember (cluster_id uav_index uav_id : UInt32) (mgr : MulticastManager) :
    MulticastManager × Result Bool :=
  match clusterSlot cluster_id with
  | none => (mgr,.ok false)
  | some c =>
    if uav_index ∉ (mgr.m_groups c).members then (mgr,.ok false)
    else
      match mgr.currentToken c >>= fun current => leKeyUpdate (mgr.m_mkg c) current uav_index with
      | .error failure => (mgr,.error failure)
      | .ok result => (mgr.left c uav_index uav_id result,.ok true)

/-- `HandoverMember`. What the removal changed stays changed when the addition throws. -/
def handoverMember (old_cluster new_cluster uav_index uav_id : UInt32) (mgr : MulticastManager) :
    MulticastManager × Result Bool :=
  match clusterSlot new_cluster with
  | none => (mgr,.ok false)
  | some c =>
    if clusterSlot old_cluster = none ∨ old_cluster = new_cluster then (mgr,.ok false)
    else
      match mgr.removeMember old_cluster uav_index uav_id with
      | (mgr,.error failure) => (mgr,.error failure)
      | (mgr,.ok left) =>
        let new_index := new_cluster*6+UInt32.ofNat (mgr.m_groups c).members.size
        match mgr.addMember new_cluster new_index uav_id with
        | (mgr,.error failure) => (mgr,.error failure)
        | (mgr,.ok joined) =>
          (mgr.recordEvent .handover uav_id uav_index old_cluster,.ok (left && joined))

def isMember (mgr : MulticastManager) (cluster_id uav_index : UInt32) : Bool :=
  match clusterSlot cluster_id with
  | none => false
  | some c => uav_index ∈ (mgr.m_groups c).members

def getGroupSize (mgr : MulticastManager) (cluster_id : UInt32) : UInt32 :=
  match clusterSlot cluster_id with
  | none => 0
  | some c => UInt32.ofNat (mgr.m_groups c).members.size

end MulticastManager

inductive GroupCall where
  | add (cluster_id uav_index uav_id : UInt32)
  | remove (cluster_id uav_index uav_id : UInt32)
  deriving DecidableEq,Repr

namespace GroupCall
open MulticastManager

def cluster_id : GroupCall → UInt32
  | add cluster_id _ _ => cluster_id
  | remove cluster_id _ _ => cluster_id

def perform (mgr : MulticastManager) : GroupCall → MulticastManager × Result Bool
  | add cluster_id uav_index uav_id => mgr.addMember cluster_id uav_index uav_id
  | remove cluster_id uav_index uav_id => mgr.removeMember cluster_id uav_index uav_id

/-- What one call does: it refuses, it throws before it changes anything, or it changes one
member set together with the token that the update computes for it. -/
inductive Outcome (mgr : MulticastManager) : GroupCall → MulticastManager × Result Bool → Prop
  | addRefused {k i u : UInt32}
      (taken : ∀ c, clusterSlot k = some c → i ∈ (mgr.m_groups c).members) :
      Outcome mgr (.add k i u) (mgr,.ok false)
  | addFailed {k i u : UInt32} {c : Fin 3} {failure : Failure} (slot : clusterSlot k = some c)
      (outside : i ∉ (mgr.m_groups c).members)
      (thrown : (mgr.currentToken c >>= fun current => joKeyUpdate (mgr.m_mkg c) current i) =
        .error failure) :
      Outcome mgr (.add k i u) (mgr,.error failure)
  | added {k i u : UInt32} {c : Fin 3} {result : MTokenResult} (slot : clusterSlot k = some c)
      (outside : i ∉ (mgr.m_groups c).members)
      (updated : (mgr.currentToken c >>= fun current => joKeyUpdate (mgr.m_mkg c) current i) =
        .ok result) :
      Outcome mgr (.add k i u) (mgr.joined c i u result,.ok true)
  | removeRefused {k i u : UInt32}
      (absent : ∀ c, clusterSlot k = some c → i ∉ (mgr.m_groups c).members) :
      Outcome mgr (.remove k i u) (mgr,.ok false)
  | removeFailed {k i u : UInt32} {c : Fin 3} {failure : Failure} (slot : clusterSlot k = some c)
      (inside : i ∈ (mgr.m_groups c).members)
      (thrown : (mgr.currentToken c >>= fun current => leKeyUpdate (mgr.m_mkg c) current i) =
        .error failure) :
      Outcome mgr (.remove k i u) (mgr,.error failure)
  | removed {k i u : UInt32} {c : Fin 3} {result : MTokenResult} (slot : clusterSlot k = some c)
      (inside : i ∈ (mgr.m_groups c).members)
      (updated : (mgr.currentToken c >>= fun current => leKeyUpdate (mgr.m_mkg c) current i) =
        .ok result) :
      Outcome mgr (.remove k i u) (mgr.left c i u result,.ok true)

theorem perform_outcome (mgr : MulticastManager) (call : GroupCall) :
    Outcome mgr call (call.perform mgr) := by
  cases call with
  | add k i u =>
    cases slot : clusterSlot k with
    | none =>
      simp only [perform,addMember,slot]
      apply Outcome.addRefused
      intro c found
      cases slot.symm.trans found
    | some c =>
      by_cases inside : i ∈ (mgr.m_groups c).members
      · simp only [perform,addMember,slot,inside,if_true]
        apply Outcome.addRefused
        intro d found
        obtain rfl : c = d := Option.some.inj (slot.symm.trans found)
        exact inside
      · simp only [perform,addMember,slot,inside,if_false]
        split
        · rename_i failure thrown
          exact .addFailed slot inside thrown
        · rename_i result updated
          exact .added slot inside updated
  | remove k i u =>
    cases slot : clusterSlot k with
    | none =>
      simp only [perform,removeMember,slot]
      apply Outcome.removeRefused
      intro c found
      cases slot.symm.trans found
    | some c =>
      by_cases inside : i ∈ (mgr.m_groups c).members
      · simp only [perform,removeMember,slot,inside,not_true_eq_false,if_false]
        split
        · rename_i failure thrown
          exact .removeFailed slot inside thrown
        · rename_i result updated
          exact .removed slot inside updated
      · simp only [perform,removeMember,slot,inside,not_false_eq_true,if_true]
        apply Outcome.removeRefused
        intro d found
        obtain rfl : c = d := Option.some.inj (slot.symm.trans found)
        exact inside

end GroupCall

@[simp] theorem clusterSlot_ofNat (c : Fin 3) : clusterSlot (UInt32.ofNat c) = some c := by
  have bound := c.isLt
  have value : (UInt32.ofNat c).toNat = c := by
    rw [UInt32.toNat_ofNat']
    omega
  simp [clusterSlot,value]

theorem clusterSlot_some {cluster_id : UInt32} {c : Fin 3} (slot : clusterSlot cluster_id = some c) :
    cluster_id = UInt32.ofNat c := by
  unfold clusterSlot at slot
  split at slot
  · cases slot
    exact UInt32.ofNat_toNat.symm
  · cases slot

namespace MulticastManager

section Frames

variable (mgr : MulticastManager) (c : Fin 3) (i u : UInt32) (result : MTokenResult)

@[simp] theorem joined_m_params : (mgr.joined c i u result).m_params = mgr.m_params := rfl

@[simp] theorem joined_m_mkg : (mgr.joined c i u result).m_mkg = mgr.m_mkg := rfl

@[simp] theorem left_m_params : (mgr.left c i u result).m_params = mgr.m_params := rfl

@[simp] theorem left_m_mkg : (mgr.left c i u result).m_mkg = mgr.m_mkg := rfl

theorem joined_other {d : Fin 3} (apart : d ≠ c) :
    (mgr.joined c i u result).m_groups d = mgr.m_groups d :=
  Function.update_of_ne apart _ _

theorem left_other {d : Fin 3} (apart : d ≠ c) :
    (mgr.left c i u result).m_groups d = mgr.m_groups d :=
  Function.update_of_ne apart _ _

theorem joined_same : (mgr.joined c i u result).m_groups c = { mgr.m_groups c with
    members := (mgr.m_groups c).members.insert i
    version := result.version
    mt_k := result.MT_K
    n_group := result.N_group
    e_mk := result.e_MK } :=
  Function.update_self _ _ _

theorem left_same : (mgr.left c i u result).m_groups c = { mgr.m_groups c with
    members := (mgr.m_groups c).members.erase i
    version := result.version
    mt_k := result.MT_K
    n_group := result.N_group
    e_mk := result.e_MK } :=
  Function.update_self _ _ _

end Frames

theorem currentToken_some {mgr : MulticastManager} {c : Fin 3} {cp : ClusterCryptoEntry}
    (entry : mgr.m_params.bind (fun file => file.clusters[c]?) = some cp) :
    mgr.currentToken c = .ok (groupToken c cp.tek_int (mgr.m_groups c)) := by
  rw [currentToken,entry]

/-- The manager of a file right after `Initialize`. -/
def start (file : CryptoParamsFile) : MulticastManager :=
  { m_params := some file : MulticastManager }.initializeGroups

section Start

variable {file : CryptoParamsFile} {c : Fin 3} {cp : ClusterCryptoEntry}
  (entry : file.clusters[c]? = some cp)
include entry

theorem start_group : (start file).m_groups c = initializeGroup c cp {} := by
  simp only [start,initializeGroups,entry]

theorem start_keys : (start file).m_mkg c = loadedKeys cp := by
  simp only [start,initializeGroups,entry]

theorem mem_start {i : UInt32} : i ∈ ((start file).m_groups c).members ↔
    i ∈ SkdcApplication.initialMembers (UInt32.ofNat c) := by
  rw [start_group entry,initializeGroup,Std.ExtTreeSet.mem_union_iff]
  simp

end Start

end MulticastManager

theorem GroupCall.perform_keys (mgr : MulticastManager) (call : GroupCall) :
    (call.perform mgr).1.m_mkg = mgr.m_mkg := by
  have outcome := call.perform_outcome mgr
  generalize call.perform mgr = reached at outcome
  cases outcome with
  | addRefused taken => rfl
  | addFailed slot outside thrown => rfl
  | added slot outside updated => rfl
  | removeRefused absent => rfl
  | removeFailed slot inside thrown => rfl
  | removed slot inside updated => rfl

theorem GroupCall.perform_other (mgr : MulticastManager) (call : GroupCall) {d : Fin 3}
    (apart : clusterSlot call.cluster_id ≠ some d) :
    (call.perform mgr).1.m_groups d = mgr.m_groups d := by
  have outcome := call.perform_outcome mgr
  generalize call.perform mgr = reached at outcome
  cases outcome with
  | addRefused taken => rfl
  | addFailed slot outside thrown => rfl
  | @added k i u c result slot outside updated =>
    apply mgr.joined_other
    rintro rfl
    exact apart slot
  | removeRefused absent => rfl
  | removeFailed slot inside thrown => rfl
  | @removed k i u c result slot inside updated =>
    apply mgr.left_other
    rintro rfl
    exact apart slot

/-- What a call keeps of one cluster: only an update of that cluster can end it. -/
theorem GroupCall.perform_cluster {Invariant : MulticastManager → Prop} {mgr : MulticastManager}
    {c : Fin 3} (call : GroupCall)
    (other : ∀ next : MulticastManager, next.m_params = mgr.m_params → next.m_mkg = mgr.m_mkg →
      next.m_groups c = mgr.m_groups c → Invariant next)
    (added : ∀ i u result, i ∉ (mgr.m_groups c).members →
      (mgr.currentToken c >>= fun current => joKeyUpdate (mgr.m_mkg c) current i) = .ok result →
        Invariant (mgr.joined c i u result))
    (removed : ∀ i u result, i ∈ (mgr.m_groups c).members →
      (mgr.currentToken c >>= fun current => leKeyUpdate (mgr.m_mkg c) current i) = .ok result →
        Invariant (mgr.left c i u result)) : Invariant (call.perform mgr).1 := by
  have outcome := call.perform_outcome mgr
  generalize call.perform mgr = reached at outcome
  cases outcome with
  | addRefused taken => exact other mgr rfl rfl rfl
  | addFailed slot outside thrown => exact other mgr rfl rfl rfl
  | @added k i u d result slot outside updated =>
    by_cases here : c = d
    · subst here
      exact added i u result outside updated
    · exact other _ rfl rfl (mgr.joined_other d i u result here)
  | removeRefused absent => exact other mgr rfl rfl rfl
  | removeFailed slot inside thrown => exact other mgr rfl rfl rfl
  | @removed k i u d result slot inside updated =>
    by_cases here : c = d
    · subst here
      exact removed i u result inside updated
    · exact other _ rfl rfl (mgr.left_other d i u result here)

end UavFanet.Apps
