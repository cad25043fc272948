import UavFanet.Library.Loop
import UavFanet.OlsrMessages
import Std.Data.ExtTreeMap
import Std.Data.ExtTreeSet

/-! The state of an OLSR router: what it knows of the links, the neighbors and the topology. -/
namespace UavFanet.Olsr
open Library.Loop

namespace Willingness

def NEVER : UInt8 := 0

def ALWAYS : UInt8 := 7

end Willingness

structure LinkTuple where
  localIfaceAddr : UInt32
  neighborIfaceAddr : UInt32
  symTime : Int
  time : Int
deriving DecidableEq

inductive Status where
  | not_sym
  | sym
deriving DecidableEq

structure NeighborTuple where
  neighborMainAddr : UInt32
  status : Status
  willingness : UInt8
deriving DecidableEq

structure TwoHopNeighborTuple where
  neighborMainAddr : UInt32
  twoHopNeighborAddr : UInt32
deriving DecidableEq

structure MprSelectorTuple where
  mainAddr : UInt32
deriving DecidableEq

structure DuplicateTuple where
  address : UInt32
  sequenceNumber : UInt16
  retransmitted : Bool
  ifaceList : List UInt32
  expirationTime : Int
deriving DecidableEq

structure TopologyTuple where
  destAddr : UInt32
  lastAddr : UInt32
  sequenceNumber : UInt16
  expirationTime : Int
deriving DecidableEq

structure IfaceAssocTuple where
  ifaceAddr : UInt32
  mainAddr : UInt32
deriving DecidableEq

structure RoutingTableEntry where
  destAddr : UInt32
  nextAddr : UInt32
  interface : Nat
  distance : Nat
deriving DecidableEq

abbrev MprSet := Std.ExtTreeSet UInt32 compare

abbrev RoutingTable := Std.ExtTreeMap UInt32 RoutingTableEntry compare

structure OlsrState where
  linkSet : List LinkTuple := []
  neighborSet : List NeighborTuple := []
  twoHopNeighborSet : List TwoHopNeighborTuple := []
  topologySet : List TopologyTuple := []
  ifaceAssocSet : List IfaceAssocTuple := []
  mprSet : MprSet := ∅
  mprSelectorSet : List MprSelectorTuple := []
  duplicateSet : List DuplicateTuple := []

/-- `m_ipv4` lists the local addresses of each interface. -/
structure RoutingProtocol where
  m_mainAddress : UInt32
  m_ipv4 : List (List UInt32) := []
  m_state : OlsrState := {}
  m_table : RoutingTable := ∅

namespace OlsrState

def findNeighborTuple (state : OlsrState) (mainAddr : UInt32) : Option NeighborTuple :=
  state.neighborSet.find? (·.neighborMainAddr == mainAddr)

def findSymNeighborTuple (state : OlsrState) (mainAddr : UInt32) : Option NeighborTuple :=
  state.neighborSet.find? fun neighbor =>
    neighbor.neighborMainAddr == mainAddr && neighbor.status == .sym

def findIfaceAssocTuple (state : OlsrState) (ifaceAddr : UInt32) : Option IfaceAssocTuple :=
  state.ifaceAssocSet.find? (·.ifaceAddr == ifaceAddr)

def getMainAddress (state : OlsrState) (iface_addr : UInt32) : UInt32 :=
  match state.findIfaceAssocTuple iface_addr with
  | some tuple => tuple.mainAddr
  | none => iface_addr

def degree (state : OlsrState) (tuple : NeighborTuple) : Nat :=
  state.twoHopNeighborSet.countP fun nb2hop_tuple =>
    nb2hop_tuple.neighborMainAddr == tuple.neighborMainAddr &&
      (state.findNeighborTuple nb2hop_tuple.neighborMainAddr).isNone

/-- The 2-hop neighbors of a neighbor are looked up under the neighbor itself. -/
theorem degree_neighbor {state : OlsrState} {tuple : NeighborTuple}
    (known : tuple ∈ state.neighborSet) : state.degree tuple = 0 := by
  rw [degree,List.countP_eq_zero]
  intro nb2hop_tuple _ counted
  rw [Bool.and_eq_true,beq_iff_eq] at counted
  obtain ⟨same,unknown⟩ := counted
  rw [Option.isNone_iff_eq_none,findNeighborTuple,List.find?_eq_none] at unknown
  exact unknown tuple known (beq_iff_eq.mpr same.symm)

end OlsrState

/-- The addresses of the tuples that pass the test join the set. -/
def gather {T : Type} (test : T → Bool) (addr : T → UInt32) (tuples : List T) (set : MprSet) : MprSet :=
  tuples.foldl (fun set tuple => if test tuple then set.insert (addr tuple) else set) set

theorem mem_gather {T : Type} {test : T → Bool} {addr : T → UInt32} {tuples : List T} {set : MprSet}
    {a : UInt32} :
    a ∈ gather test addr tuples set ↔ (∃ tuple ∈ tuples, test tuple = true ∧ addr tuple = a) ∨ a ∈ set := by
  induction tuples generalizing set with
  | nil => simp [gather]
  | cons tuple tuples ih =>
    change a ∈ gather test addr tuples (if test tuple then set.insert (addr tuple) else set) ↔ _
    rw [ih]
    by_cases passes : test tuple = true
    · rw [if_pos passes,Std.ExtTreeSet.mem_insert,Std.LawfulEqCmp.compare_eq_iff_eq]
      simp only [List.mem_cons,exists_eq_or_imp,passes,true_and]
      rw [or_left_comm,or_assoc]
    · rw [if_neg passes]
      simp [passes]

def coverTwoHopNeighbors (neighborMainAddr : UInt32) (n2 : List TwoHopNeighborTuple) :
    List TwoHopNeighborTuple :=
  let toRemove := gather (·.neighborMainAddr == neighborMainAddr) (·.twoHopNeighborAddr) n2 ∅
  n2.filter fun twoHopNeigh => !toRemove.contains twoHopNeigh.twoHopNeighborAddr

theorem mem_coverTwoHopNeighbors {addr : UInt32} {n2 : List TwoHopNeighborTuple}
    {tuple : TwoHopNeighborTuple} :
    tuple ∈ coverTwoHopNeighbors addr n2 ↔ tuple ∈ n2 ∧
      ∀ reached ∈ n2, reached.neighborMainAddr = addr →
        reached.twoHopNeighborAddr ≠ tuple.twoHopNeighborAddr := by
  simp only [coverTwoHopNeighbors,List.mem_filter,Bool.not_eq_true',← Bool.not_eq_true,
    Std.ExtTreeSet.contains_iff_mem,mem_gather,beq_iff_eq,Std.ExtTreeSet.not_mem_empty,or_false,
    not_exists,not_and,ne_eq]

namespace OlsrState

/-- The neighbors over a symmetric link: `N` of the computation. -/
def symNeighbors (state : OlsrState) : List NeighborTuple :=
  state.neighborSet.filter (·.status == .sym)

/-- `N2` of the computation: the first neighbor of that address decides on the willingness. -/
def twoHopNeighbors (state : OlsrState) (mainAddress : UInt32) : List TwoHopNeighborTuple :=
  state.twoHopNeighborSet.filter fun twoHopNeigh =>
    twoHopNeigh.twoHopNeighborAddr != mainAddress &&
    (match state.symNeighbors.find? (·.neighborMainAddr == twoHopNeigh.neighborMainAddr) with
      | some neigh => neigh.willingness != Willingness.NEVER
      | none => false) &&
    !state.symNeighbors.any (·.neighborMainAddr == twoHopNeigh.twoHopNeighborAddr)

end OlsrState

/-- The relays elected so far and the 2-hop neighbors that none of them covers. -/
structure Election where
  mprSet : MprSet
  n2 : List TwoHopNeighborTuple

namespace Election

def elect (s : Election) (neighborMainAddr : UInt32) : Election :=
  ⟨s.mprSet.insert neighborMainAddr,coverTwoHopNeighbors neighborMainAddr s.n2⟩

def always (n : List NeighborTuple) (s : Election) : Election :=
  n.foldl (fun s neighbor =>
    if neighbor.willingness == Willingness.ALWAYS then s.elect neighbor.neighborMainAddr else s) s

def onlyOne (n2 : List TwoHopNeighborTuple) (twoHopNeigh : TwoHopNeighborTuple) : Bool :=
  !n2.any fun otherTwoHopNeigh =>
    otherTwoHopNeigh.twoHopNeighborAddr == twoHopNeigh.twoHopNeighborAddr &&
      otherTwoHopNeigh.neighborMainAddr != twoHopNeigh.neighborMainAddr

/-- The 2-hop neighbors stay in `n2` until all the only relays are known. -/
def sole (s : Election) : Election :=
  let coveredTwoHopNeighbors := s.n2.foldl (fun covered twoHopNeigh =>
    if onlyOne s.n2 twoHopNeigh then
      gather (·.neighborMainAddr == twoHopNeigh.neighborMainAddr) (·.twoHopNeighborAddr) s.n2 covered
    else covered) (∅ : MprSet)
  ⟨gather (onlyOne s.n2) (·.neighborMainAddr) s.n2 s.mprSet,
    s.n2.filter fun twoHopNeigh => !coveredTwoHopNeighbors.contains twoHopNeigh.twoHopNeighborAddr⟩

def reachability (n2 : List TwoHopNeighborTuple) (nb_tuple : NeighborTuple) : Nat :=
  n2.countP (·.neighborMainAddr == nb_tuple.neighborMainAddr)

/-- One comparison of the selection: `max` with its reachability `max_r`. -/
def better (degree : NeighborTuple → Nat) (r : Nat) (max : Option (NeighborTuple × Nat))
    (nb_tuple : NeighborTuple) : Option (NeighborTuple × Nat) :=
  match max with
  | none => some (nb_tuple,r)
  | some (top,max_r) =>
    if nb_tuple.willingness > top.willingness then some (nb_tuple,r)
    else if nb_tuple.willingness = top.willingness then
      if r > max_r then some (nb_tuple,r)
      else if r = max_r then
        if degree nb_tuple > degree top then some (nb_tuple,r) else max
      else max
    else max

/-- The reachabilities in ascending order, and below each the neighbors in theirs. -/
def select (degree : NeighborTuple → Nat) (n : List NeighborTuple) (n2 : List TwoHopNeighborTuple) :
    Option (NeighborTuple × Nat) :=
  let rs : Std.ExtTreeSet Nat compare := Std.ExtTreeSet.ofList (n.map (reachability n2))
  rs.toList.foldl (fun max r =>
    if r = 0 then max
    else (n.filter (reachability n2 · == r)).foldl (better degree r) max) none

def greedy (degree : NeighborTuple → Nat) (n : List NeighborTuple) (s : Election) : Election :=
  match select degree n s.n2 with
  | some (max,_) => s.elect max.neighborMainAddr
  | none => s

end Election

open Election in
/-- `none` is a loop still running after `fuel` elections. -/
def RoutingProtocol.mprComputation (fuel : Nat) (router : RoutingProtocol) : Option RoutingProtocol :=
  let n := router.m_state.symNeighbors
  let start := sole (always n ⟨∅,router.m_state.twoHopNeighbors router.m_mainAddress⟩)
  (whileDo (fun s => !s.n2.isEmpty) (greedy router.m_state.degree n) fuel start).map fun s =>
    { router with m_state := { router.m_state with mprSet := s.mprSet } }

end UavFanet.Olsr
