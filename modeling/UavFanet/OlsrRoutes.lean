import UavFanet.Olsr
import UavFanet.Library.Layers
import Mathlib.Data.List.Induction
import Mathlib.Tactic.Tauto

/-! The routing table of an OLSR router: shortest routes over the topology it was told of, each
by a neighbor that it hears. -/
namespace UavFanet.Olsr
open Library Library.Loop Library.Layers

def addEntry (m_table : RoutingTable) (dest next : UInt32) (interface distance : Nat) : RoutingTable :=
  m_table.insert dest ⟨dest,next,interface,distance⟩

namespace RoutingProtocol

/-- The interface with this address; the first one where none has it. -/
def interfaceFor (router : RoutingProtocol) (interfaceAddress : UInt32) : Nat :=
  (router.m_ipv4.findIdx? (·.contains interfaceAddress)).getD 0

/-- The links to a neighbor that have not expired. -/
def liveLinks (router : RoutingProtocol) (now : Int) (nb_tuple : NeighborTuple) : List LinkTuple :=
  router.m_state.linkSet.filter fun link_tuple =>
    router.m_state.getMainAddress link_tuple.neighborIfaceAddr == nb_tuple.neighborMainAddr &&
      decide (link_tuple.time ≥ now)

def linkRoute (router : RoutingProtocol) (m_table : RoutingTable) (link_tuple : LinkTuple) :
    RoutingTable :=
  addEntry m_table link_tuple.neighborIfaceAddr link_tuple.neighborIfaceAddr
    (router.interfaceFor link_tuple.localIfaceAddr) 1

def neighborRoutes (router : RoutingProtocol) (now : Int) (m_table : RoutingTable)
    (nb_tuple : NeighborTuple) : RoutingTable :=
  if nb_tuple.status = .sym then
    let links := router.liveLinks now nb_tuple
    let m_table := links.foldl router.linkRoute m_table
    let nb_main_addr := links.any (·.neighborIfaceAddr == nb_tuple.neighborMainAddr)
    match links.getLast? with
    | some lt =>
      if nb_main_addr then m_table
      else addEntry m_table nb_tuple.neighborMainAddr lt.neighborIfaceAddr
        (router.interfaceFor lt.localIfaceAddr) 1
    | none => m_table
  else m_table

def twoHopRoute (router : RoutingProtocol) (m_table : RoutingTable)
    (nb2hop_tuple : TwoHopNeighborTuple) : RoutingTable :=
  if (router.m_state.findSymNeighborTuple nb2hop_tuple.twoHopNeighborAddr).isSome then m_table
  else if nb2hop_tuple.twoHopNeighborAddr = router.m_mainAddress then m_table
  else if router.m_state.neighborSet.any fun neighbor =>
      neighbor.neighborMainAddr == nb2hop_tuple.neighborMainAddr &&
        neighbor.willingness != Willingness.NEVER then
    match m_table[nb2hop_tuple.neighborMainAddr]? with
    | some entry => addEntry m_table nb2hop_tuple.twoHopNeighborAddr entry.nextAddr entry.interface 2
    | none => m_table
  else m_table

def linkRoutes (router : RoutingProtocol) (now : Int) : RoutingTable :=
  router.m_state.neighborSet.foldl (router.neighborRoutes now) ∅

/-- The routes to the neighbors and to the 2-hop neighbors. -/
def nearRoutes (router : RoutingProtocol) (now : Int) : RoutingTable :=
  router.m_state.twoHopNeighborSet.foldl router.twoHopRoute (router.linkRoutes now)

end RoutingProtocol

/-- The routes on which the loop over `h` works, and whether the last pass added one. -/
structure Layer where
  h : Nat
  m_table : RoutingTable
  added : Bool

def topologyRoute (h : Nat) (s : RoutingTable × Bool) (topology_tuple : TopologyTuple) :
    RoutingTable × Bool :=
  match s.1[topology_tuple.destAddr]?,s.1[topology_tuple.lastAddr]? with
  | none,some lastAddrEntry =>
    if lastAddrEntry.distance = h then
      (addEntry s.1 topology_tuple.destAddr lastAddrEntry.nextAddr lastAddrEntry.interface (h+1),true)
    else s
  | _,_ => s

def Layer.expand (topology : List TopologyTuple) (s : Layer) : Layer :=
  let pass := topology.foldl (topologyRoute s.h) (s.m_table,false)
  ⟨s.h+1,pass.1,pass.2⟩

def aliasRoute (m_table : RoutingTable) (tuple : IfaceAssocTuple) : RoutingTable :=
  match m_table[tuple.mainAddr]?,m_table[tuple.ifaceAddr]? with
  | some entry1,none => addEntry m_table tuple.ifaceAddr entry1.nextAddr entry1.interface entry1.distance
  | _,_ => m_table

namespace RoutingProtocol

/-- `none` is a loop still running after `fuel` passes. -/
def routingTableComputation (fuel : Nat) (router : RoutingProtocol) (now : Int) :
    Option RoutingProtocol :=
  (whileDo Layer.added (Layer.expand router.m_state.topologySet) fuel
    ⟨2,router.nearRoutes now,true⟩).map fun s =>
      { router with m_table := router.m_state.ifaceAssocSet.foldl aliasRoute s.m_table }

end RoutingProtocol

section Tables

variable {m_table : RoutingTable} {dest next a : UInt32} {interface distance : Nat}

@[simp] theorem getElem?_addEntry : (addEntry m_table dest next interface distance)[a]? =
    if dest = a then some ⟨dest,next,interface,distance⟩ else m_table[a]? := by
  rw [addEntry,Std.ExtTreeMap.getElem?_insert]
  simp only [Std.LawfulEqCmp.compare_eq_iff_eq]

/-- Every entry is below its destination and has the property. -/
def Every (good : RoutingTableEntry → Prop) (m_table : RoutingTable) : Prop :=
  ∀ a e, m_table[a]? = some e → e.destAddr = a ∧ good e

theorem Every.addEntry {good : RoutingTableEntry → Prop} (every : Every good m_table)
    (fits : good ⟨dest,next,interface,distance⟩) :
    Every good (addEntry m_table dest next interface distance) := by
  intro a e found
  rw [getElem?_addEntry] at found
  split at found
  · rename_i same
    obtain rfl := Option.some.inj found
    exact ⟨same,fits⟩
  · exact every a e found

theorem addEntry_isSome (known : (m_table[a]?).isSome) :
    ((addEntry m_table dest next interface distance)[a]?).isSome := by
  rw [getElem?_addEntry]
  split
  · rfl
  · exact known

end Tables

section Routes

variable {router : RoutingProtocol} {now : Int}

/-- An unexpired link to a neighbor that is heard. -/
def Heard (router : RoutingProtocol) (now : Int) (link : LinkTuple) : Prop :=
  ∃ nb ∈ router.m_state.symNeighbors, link ∈ router.liveLinks now nb

/-- The next hop is the far end of a link that is heard, and the interface its near end. -/
def Linked (router : RoutingProtocol) (now : Int) (e : RoutingTableEntry) : Prop :=
  ∃ link, Heard router now link ∧ e.nextAddr = link.neighborIfaceAddr ∧
    e.interface = router.interfaceFor link.localIfaceAddr

def Within (router : RoutingProtocol) (now : Int) (least most : Nat) (e : RoutingTableEntry) : Prop :=
  Linked router now e ∧ least ≤ e.distance ∧ e.distance ≤ most

theorem Heard.of_neighbor {nb : NeighborTuple} (known : nb ∈ router.m_state.neighborSet)
    (sym : nb.status = .sym) {link : LinkTuple} (live : link ∈ router.liveLinks now nb) :
    Heard router now link :=
  ⟨nb,List.mem_filter.mpr ⟨known,beq_iff_eq.mpr sym⟩,live⟩

theorem Every.linkRoute {table : RoutingTable} {link : LinkTuple}
    (every : Every (Within router now 1 1) table) (heard : Heard router now link) :
    Every (Within router now 1 1) (router.linkRoute table link) :=
  every.addEntry ⟨⟨link,heard,rfl,rfl⟩,Nat.le_refl 1,Nat.le_refl 1⟩

theorem Every.neighborRoutes {table : RoutingTable} {nb : NeighborTuple}
    (known : nb ∈ router.m_state.neighborSet) (every : Every (Within router now 1 1) table) :
    Every (Within router now 1 1) (router.neighborRoutes now table nb) := by
  rw [RoutingProtocol.neighborRoutes]
  split
  · rename_i sym
    have links : Every (Within router now 1 1)
        ((router.liveLinks now nb).foldl router.linkRoute table) :=
      List.foldlRecOn _ _ every fun _ so_far link live =>
        so_far.linkRoute (.of_neighbor known sym live)
    dsimp only
    split
    · rename_i lt last
      split
      · exact links
      · exact links.addEntry
          ⟨⟨lt,.of_neighbor known sym (List.mem_of_getLast? last),rfl,rfl⟩,Nat.le_refl 1,Nat.le_refl 1⟩
    · exact links
  · exact every

theorem every_linkRoutes : Every (Within router now 1 1) (router.linkRoutes now) :=
  List.foldlRecOn _ _ (fun a e found => by simp at found) fun _ so_far _ known =>
    so_far.neighborRoutes known

theorem foldl_linkRoute_isSome {table : RoutingTable} {links : List LinkTuple} {a : UInt32} :
    ((links.foldl router.linkRoute table)[a]?).isSome ↔
      (∃ link ∈ links, link.neighborIfaceAddr = a) ∨ (table[a]?).isSome := by
  induction links generalizing table with
  | nil => simp
  | cons link links ih =>
    rw [List.foldl_cons,ih,RoutingProtocol.linkRoute,getElem?_addEntry]
    by_cases same : link.neighborIfaceAddr = a
    · simp [same]
    · simp [same]

theorem neighborRoutes_keeps {table : RoutingTable} {nb : NeighborTuple} {a : UInt32}
    (known : (table[a]?).isSome) : ((router.neighborRoutes now table nb)[a]?).isSome := by
  have links : (((router.liveLinks now nb).foldl router.linkRoute table)[a]?).isSome :=
    foldl_linkRoute_isSome.mpr (.inr known)
  rw [RoutingProtocol.neighborRoutes]
  split
  · dsimp only
    split
    · split
      · exact links
      · exact addEntry_isSome links
    · exact links
  · exact known

theorem neighborRoutes_link {table : RoutingTable} {nb : NeighborTuple} {link : LinkTuple}
    (sym : nb.status = .sym) (live : link ∈ router.liveLinks now nb) :
    ((router.neighborRoutes now table nb)[link.neighborIfaceAddr]?).isSome := by
  have links : (((router.liveLinks now nb).foldl router.linkRoute table)[link.neighborIfaceAddr]?).isSome :=
    foldl_linkRoute_isSome.mpr (.inl ⟨link,live,rfl⟩)
  rw [RoutingProtocol.neighborRoutes,if_pos sym]
  dsimp only
  split
  · split
    · exact links
    · exact addEntry_isSome links
  · exact links

theorem neighborRoutes_main (table : RoutingTable) {nb : NeighborTuple} {link : LinkTuple}
    (sym : nb.status = .sym) (live : link ∈ router.liveLinks now nb) :
    ((router.neighborRoutes now table nb)[nb.neighborMainAddr]?).isSome := by
  rw [RoutingProtocol.neighborRoutes,if_pos sym]
  dsimp only
  split
  · split
    · rename_i named
      obtain ⟨direct,inside,same⟩ := List.any_eq_true.mp named
      exact foldl_linkRoute_isSome.mpr (.inl ⟨direct,inside,beq_iff_eq.mp same⟩)
    · rw [getElem?_addEntry,if_pos rfl]
      rfl
  · rename_i none_left
    rw [List.getLast?_eq_none_iff] at none_left
    rw [none_left] at live
    cases live

/-- What one element of the list brings about, later ones do not undo. -/
theorem foldl_brings {S T : Type} {step : S → T → S} (inv wanted : S → Prop) {items : List T}
    {item : T} (member : item ∈ items) {start : S} (begun : inv start)
    (holds : ∀ s, inv s → ∀ other ∈ items, inv (step s other))
    (brings : ∀ s, inv s → wanted (step s item))
    (keeps : ∀ s, wanted s → ∀ other ∈ items, wanted (step s other)) :
    wanted (items.foldl step start) := by
  induction items generalizing start with
  | nil => cases member
  | cons first rest ih =>
    rw [List.foldl_cons]
    rcases List.mem_cons.mp member with rfl | later
    · exact List.foldlRecOn _ _ (brings start begun) fun s so_far other inside =>
        keeps s so_far other (List.mem_cons_of_mem _ inside)
    · exact ih later (holds start begun first List.mem_cons_self)
        (fun s so_far other inside => holds s so_far other (List.mem_cons_of_mem _ inside))
        fun s so_far other inside => keeps s so_far other (List.mem_cons_of_mem _ inside)

theorem linkRoutes_brings {nb : NeighborTuple} (known : nb ∈ router.m_state.symNeighbors) {a : UInt32}
    (brings : ∀ table, ((router.neighborRoutes now table nb)[a]?).isSome) :
    ((router.linkRoutes now)[a]?).isSome :=
  foldl_brings (fun _ => True) (fun table => (table[a]?).isSome) (List.mem_filter.mp known).1 trivial
    (fun _ _ _ _ => trivial) (fun table _ => brings table) fun _ so_far _ _ => neighborRoutes_keeps so_far

/-- A tuple that the third step of the computation does not pass over. -/
structure Strict (router : RoutingProtocol) (nb2hop_tuple : TwoHopNeighborTuple) : Prop where
  apart : router.m_state.findSymNeighborTuple nb2hop_tuple.twoHopNeighborAddr = none
  other : nb2hop_tuple.twoHopNeighborAddr ≠ router.m_mainAddress
  willing : ∃ neighbor ∈ router.m_state.neighborSet,
    neighbor.neighborMainAddr = nb2hop_tuple.neighborMainAddr ∧
      neighbor.willingness ≠ Willingness.NEVER

theorem twoHopRoute_cases (router : RoutingProtocol) (table : RoutingTable) (t : TwoHopNeighborTuple) :
    (Strict router t ∧ ∃ entry, table[t.neighborMainAddr]? = some entry ∧
      router.twoHopRoute table t =
        addEntry table t.twoHopNeighborAddr entry.nextAddr entry.interface 2) ∨
    (¬ (Strict router t ∧ (table[t.neighborMainAddr]?).isSome) ∧ router.twoHopRoute table t = table) := by
  rw [RoutingProtocol.twoHopRoute]
  split
  · rename_i neighbor
    refine .inr ⟨?_,rfl⟩
    rintro ⟨strict,-⟩
    rw [strict.apart] at neighbor
    cases neighbor
  · rename_i apart
    rw [Bool.not_eq_true,Option.isSome_eq_false_iff,Option.isNone_iff_eq_none] at apart
    split
    · rename_i self
      exact .inr ⟨fun strict => strict.1.other self,rfl⟩
    · rename_i other
      split
      · rename_i willing
        simp only [List.any_eq_true,Bool.and_eq_true,beq_iff_eq,bne_iff_ne] at willing
        split
        · rename_i entry found
          exact .inl ⟨⟨apart,other,willing⟩,entry,found,rfl⟩
        · rename_i missing
          refine .inr ⟨?_,rfl⟩
          rintro ⟨-,present⟩
          rw [missing] at present
          cases present
      · rename_i unwilling
        simp only [List.any_eq_true,Bool.and_eq_true,beq_iff_eq,bne_iff_ne] at unwilling
        exact .inr ⟨fun strict => unwilling strict.1.willing,rfl⟩

theorem Every.weaken {good fine : RoutingTableEntry → Prop} {table : RoutingTable}
    (every : Every good table) (weaker : ∀ e, good e → fine e) : Every fine table :=
  fun a e found => ⟨(every a e found).1,weaker e (every a e found).2⟩

theorem Every.twoHopRoute {table : RoutingTable} {t : TwoHopNeighborTuple}
    (every : Every (Within router now 1 2) table) :
    Every (Within router now 1 2) (router.twoHopRoute table t) := by
  obtain ⟨-,entry,found,same⟩ | ⟨-,same⟩ := twoHopRoute_cases router table t <;> rw [same]
  · obtain ⟨link,heard,next,interface⟩ := (every _ entry found).2.1
    exact every.addEntry ⟨⟨link,heard,next,interface⟩,Nat.le_succ 1,Nat.le_refl 2⟩
  · exact every

theorem every_nearRoutes : Every (Within router now 1 2) (router.nearRoutes now) :=
  List.foldlRecOn _ _
    (every_linkRoutes.weaken fun _ within => ⟨within.1,within.2.1,Nat.le_succ_of_le within.2.2⟩)
    fun _ so_far _ _ => so_far.twoHopRoute

theorem twoHopRoute_keeps {table : RoutingTable} {t : TwoHopNeighborTuple} {a : UInt32}
    (known : (table[a]?).isSome) : ((router.twoHopRoute table t)[a]?).isSome := by
  obtain ⟨-,entry,-,same⟩ | ⟨-,same⟩ := twoHopRoute_cases router table t <;> rw [same]
  · exact addEntry_isSome known
  · exact known

theorem findSym_isSome {nb : NeighborTuple} (known : nb ∈ router.m_state.symNeighbors) :
    router.m_state.findSymNeighborTuple nb.neighborMainAddr ≠ none := by
  obtain ⟨inside,sym⟩ := List.mem_filter.mp known
  rw [OlsrState.findSymNeighborTuple,ne_eq,List.find?_eq_none]
  intro missing
  exact missing nb inside (Bool.and_eq_true _ _ ▸ ⟨beq_iff_eq.mpr rfl,sym⟩)

/-- The main address of a neighbor that is heard is one hop away. -/
theorem near_neighbor {nb : NeighborTuple} (known : nb ∈ router.m_state.symNeighbors) {link : LinkTuple}
    (live : link ∈ router.liveLinks now nb) :
    ∃ e, (router.nearRoutes now)[nb.neighborMainAddr]? = some e ∧ e.distance = 1 := by
  have sym := beq_iff_eq.mp (List.mem_filter.mp known).2
  obtain ⟨e,found⟩ := Option.isSome_iff_exists.mp
    (linkRoutes_brings known fun table => neighborRoutes_main table sym live)
  have one := (every_linkRoutes _ e found).2.2
  refine ⟨e,?_,by omega⟩
  refine List.foldlRecOn (motive := fun table => table[nb.neighborMainAddr]? = some e) _ _ found ?_
  intro table so_far t _
  obtain ⟨strict,entry,-,same⟩ | ⟨-,same⟩ := twoHopRoute_cases router table t <;> rw [same]
  · rw [getElem?_addEntry,if_neg]
    · exact so_far
    · intro named
      exact findSym_isSome known (named ▸ strict.apart)
  · exact so_far

/-- A strict 2-hop neighbor behind one that is heard is two hops away. -/
theorem near_strict {t : TwoHopNeighborTuple} (member : t ∈ router.m_state.twoHopNeighborSet)
    (strict : Strict router t) {nb : NeighborTuple} (known : nb ∈ router.m_state.symNeighbors)
    (via : nb.neighborMainAddr = t.neighborMainAddr) {link : LinkTuple}
    (live : link ∈ router.liveLinks now nb) :
    ∃ e, (router.nearRoutes now)[t.twoHopNeighborAddr]? = some e ∧ e.distance = 2 := by
  have sym := beq_iff_eq.mp (List.mem_filter.mp known).2
  have main := linkRoutes_brings known fun table => neighborRoutes_main table sym live
  refine foldl_brings (fun table => (table[nb.neighborMainAddr]?).isSome = true)
    (fun table => ∃ e : RoutingTableEntry, table[t.twoHopNeighborAddr]? = some e ∧ e.distance = 2)
    member main (fun _ so_far _ _ => twoHopRoute_keeps so_far) ?_ ?_
  · intro table so_far
    rw [via] at so_far
    obtain ⟨-,entry,-,same⟩ | ⟨passed,-⟩ := twoHopRoute_cases router table t
    · rw [same,getElem?_addEntry,if_pos rfl]
      exact ⟨_,rfl,rfl⟩
    · exact absurd ⟨strict,so_far⟩ passed
  · rintro table ⟨e,found,two⟩ other -
    obtain ⟨-,entry,-,same⟩ | ⟨-,same⟩ := twoHopRoute_cases router table other <;> rw [same]
    · rw [getElem?_addEntry]
      split
      · exact ⟨_,rfl,rfl⟩
      · exact ⟨e,found,two⟩
    · exact ⟨e,found,two⟩

end Routes

section Layering

/-- The distance of an entry, and the way there. -/
def hops (table : RoutingTable) : UInt32 → Option (Nat × UInt32 × Nat) :=
  fun a => (table[a]?).map fun e => (e.distance,e.nextAddr,e.interface)

theorem hops_eq_some {table : RoutingTable} {a : UInt32} {n : Nat} {way : UInt32 × Nat} :
    hops table a = some (n,way) ↔
      ∃ e, table[a]? = some e ∧ e.distance = n ∧ (e.nextAddr,e.interface) = way := by
  rw [hops,Option.map_eq_some_iff]
  simp only [Prod.mk.injEq]

theorem hops_eq_none {table : RoutingTable} {a : UInt32} : hops table a = none ↔ table[a]? = none := by
  rw [hops,Option.map_eq_none_iff]

/-- The topology as edges. -/
def leads (topology : List TopologyTuple) (u v : UInt32) : Prop :=
  ∃ t ∈ topology, t.lastAddr = u ∧ t.destAddr = v

variable {topology : List TopologyTuple} {h : Nat} {table : RoutingTable}

/-- What a pass over `done` has made of the table. -/
structure Pass (h : Nat) (table : RoutingTable) (done : List TopologyTuple)
    (s : RoutingTable × Bool) : Prop where
  keeps : ∀ (a : UInt32) e, table[a]? = some e → s.1[a]? = some e
  fresh : ∀ (a : UInt32) e, table[a]? = none → s.1[a]? = some e → e.destAddr = a ∧ e.distance = h+1 ∧
    ∃ t ∈ done, t.destAddr = a ∧ ∃ last, table[t.lastAddr]? = some last ∧ last.distance = h ∧
      last.nextAddr = e.nextAddr ∧ last.interface = e.interface
  full : ∀ t ∈ done, ∀ last, table[t.lastAddr]? = some last → last.distance = h →
    (s.1[t.destAddr]?).isSome
  idle : s.2 = false → s.1 = table
  busy : s.2 = true → ∃ t ∈ done, table[t.destAddr]? = none ∧ (s.1[t.destAddr]?).isSome

theorem topologyRoute_cases (h : Nat) (s : RoutingTable × Bool) (t : TopologyTuple) :
    (s.1[t.destAddr]? = none ∧ ∃ last, s.1[t.lastAddr]? = some last ∧ last.distance = h ∧
      topologyRoute h s t = (addEntry s.1 t.destAddr last.nextAddr last.interface (h+1),true)) ∨
    ((∀ last, s.1[t.lastAddr]? = some last → last.distance = h → (s.1[t.destAddr]?).isSome) ∧
      topologyRoute h s t = s) := by
  rw [topologyRoute]
  split
  · rename_i last absent found
    split
    · rename_i layer
      exact .inl ⟨absent,last,found,layer,rfl⟩
    · rename_i elsewhere
      refine .inr ⟨?_,rfl⟩
      intro other same layer
      obtain rfl := Option.some.inj (found.symm.trans same)
      exact absurd layer elsewhere
  · rename_i passed
    refine .inr ⟨?_,rfl⟩
    intro last found _
    cases dest : s.1[t.destAddr]? with
    | none => exact absurd found (passed last dest)
    | some e => rfl

theorem Pass.next {done : List TopologyTuple} {s : RoutingTable × Bool} (pass : Pass h table done s)
    (t : TopologyTuple) : Pass h table (done ++ [t]) (topologyRoute h s t) := by
  have earlier : ∀ {other}, other ∈ done → other ∈ done ++ [t] := List.mem_append_left _
  have this : t ∈ done ++ [t] := List.mem_append_right _ List.mem_cons_self
  obtain ⟨absent,last,found,layer,same⟩ | ⟨passed,same⟩ := topologyRoute_cases h s t <;> rw [same]
  · have dest : table[t.destAddr]? = none := by
      cases before : table[t.destAddr]? with
      | none => rfl
      | some e => exact nomatch absent.symm.trans (pass.keeps _ e before)
    have origin : table[t.lastAddr]? = some last := by
      cases before : table[t.lastAddr]? with
      | none =>
        have next_layer := (pass.fresh _ last before found).2.1
        omega
      | some e => exact (pass.keeps _ e before).symm.trans found
    constructor
    · intro a e before
      rw [getElem?_addEntry,if_neg]
      · exact pass.keeps a e before
      · rintro rfl
        exact nomatch dest.symm.trans before
    · intro a e before after
      rw [getElem?_addEntry] at after
      split at after
      · rename_i here
        obtain rfl := Option.some.inj after
        exact ⟨here,rfl,t,this,here,last,origin,layer,rfl,rfl⟩
      · obtain ⟨named,next_layer,other,member,rest⟩ := pass.fresh a e before after
        exact ⟨named,next_layer,other,earlier member,rest⟩
    · intro other member from_here there layer_too
      rcases List.mem_append.mp member with old | new
      · exact addEntry_isSome (pass.full other old from_here there layer_too)
      · obtain rfl := List.mem_singleton.mp new
        rw [getElem?_addEntry,if_pos rfl]
        rfl
    · intro added
      cases added
    · intro _
      refine ⟨t,this,dest,?_⟩
      rw [getElem?_addEntry,if_pos rfl]
      rfl
  · refine ⟨pass.keeps,?_,?_,pass.idle,?_⟩
    · intro a e before after
      obtain ⟨named,next_layer,other,member,rest⟩ := pass.fresh a e before after
      exact ⟨named,next_layer,other,earlier member,rest⟩
    · intro other member from_here there layer
      rcases List.mem_append.mp member with old | new
      · exact pass.full other old from_here there layer
      · obtain rfl := List.mem_singleton.mp new
        exact passed from_here (pass.keeps _ _ there) layer
    · intro added
      obtain ⟨other,member,rest⟩ := pass.busy added
      exact ⟨other,earlier member,rest⟩

theorem pass (h : Nat) (table : RoutingTable) (topology : List TopologyTuple) :
    Pass h table topology (topology.foldl (topologyRoute h) (table,false)) := by
  induction topology using List.reverseRecOn with
  | nil =>
    refine ⟨fun _ _ found => found,?_,?_,fun _ => rfl,fun added => by cases added⟩
    · intro a e absent found
      exact nomatch absent.symm.trans found
    · intro t inside
      cases inside
  | append_singleton done t ih =>
    rw [List.foldl_append,List.foldl_cons,List.foldl_nil]
    exact ih.next t

variable {near : RoutingTable}

theorem Pass.layered {s : RoutingTable × Bool} (pass : Pass h table topology s)
    (low : ∀ (a : UInt32) (e : RoutingTableEntry), near[a]? = some e → e.distance ≤ 2) (late : 2 ≤ h)
    (layered : Layered (leads topology) (hops near) 2 h (hops table)) :
    Layered (leads topology) (hops near) 2 (h+1) (hops s.1) := by
  refine layered.next ?_ late ?_ ?_ ?_
  · intro a n way given
    obtain ⟨e,found,rfl,-⟩ := hops_eq_some.mp given
    exact low a e found
  · rintro a ⟨n,way⟩ held
    obtain ⟨e,found,same⟩ := hops_eq_some.mp held
    exact hops_eq_some.mpr ⟨e,pass.keeps a e found,same⟩
  · intro a n way absent held
    obtain ⟨e,found,rfl,rfl⟩ := hops_eq_some.mp held
    obtain ⟨-,next_layer,t,member,rfl,last,origin,layer,next,interface⟩ :=
      pass.fresh a e (hops_eq_none.mp absent) found
    refine ⟨next_layer,t.lastAddr,hops_eq_some.mpr ⟨last,origin,layer,?_⟩,t,member,rfl,rfl⟩
    rw [next,interface]
  · rintro u a way held ⟨t,member,rfl,rfl⟩
    obtain ⟨last,origin,layer,-⟩ := hops_eq_some.mp held
    obtain ⟨e,found⟩ := Option.isSome_iff_exists.mp (pass.full t member last origin layer)
    exact ⟨_,hops_eq_some.mpr ⟨e,found,rfl,rfl⟩⟩

/-- The destinations that no route leads to yet. -/
def missing (topology : List TopologyTuple) (table : RoutingTable) : Nat :=
  topology.countP fun t => (table[t.destAddr]?).isNone

theorem Pass.missing_lt {s : RoutingTable × Bool} (pass : Pass h table topology s) (added : s.2 = true) :
    missing topology s.1 < missing topology table := by
  obtain ⟨t,member,absent,present⟩ := pass.busy added
  have fewer : ∀ part : List TopologyTuple, missing part s.1 ≤ missing part table := by
    intro part
    refine List.countP_mono_left fun other _ still => ?_
    cases before : table[other.destAddr]? with
    | none => rfl
    | some e => rw [pass.keeps _ e before] at still; cases still
  obtain ⟨front,back,rfl⟩ := List.append_of_mem member
  have first := fewer front
  have last := fewer back
  simp only [missing,List.countP_append] at first last ⊢
  rw [List.countP_cons_of_neg (by simp [Option.isSome_iff_ne_none.mp present]),
    List.countP_cons_of_pos (by simp [absent])]
  omega

theorem Pass.every {good : RoutingTableEntry → Prop} {s : RoutingTable × Bool}
    (pass : Pass h table topology s) (every : Every good table)
    (passes_on : ∀ last e, good last → last.nextAddr = e.nextAddr → last.interface = e.interface →
      last.distance + 1 = e.distance → good e) : Every good s.1 := by
  intro a e found
  cases before : table[a]? with
  | some old =>
    obtain rfl := Option.some.inj ((pass.keeps a old before).symm.trans found)
    exact every a old before
  | none =>
    obtain ⟨named,next_layer,t,-,-,last,origin,layer,next,interface⟩ := pass.fresh a e before found
    exact ⟨named,passes_on last e (every _ last origin).2 next interface (by omega)⟩

/-- The loop is through: every layer was left by all its edges. -/
structure Settled (near : RoutingTable) (topology : List TopologyTuple) (good : RoutingTableEntry → Prop)
    (table : RoutingTable) : Prop where
  every : Every good table
  closed : ∃ h, 2 ≤ h ∧ Layered (leads topology) (hops near) 2 (h+1) (hops table) ∧
    ∀ (a : UInt32) (e : RoutingTableEntry), table[a]? = some e → e.distance ≤ h

theorem Layered.within (low : ∀ (a : UInt32) (e : RoutingTableEntry), near[a]? = some e → e.distance ≤ 2)
    (late : 2 ≤ h) (layered : Layered (leads topology) (hops near) 2 h (hops table)) (a : UInt32)
    (e : RoutingTableEntry) (found : table[a]? = some e) : e.distance ≤ h := by
  have held : hops table a = some (e.distance,e.nextAddr,e.interface) :=
    hops_eq_some.mpr ⟨e,found,rfl,rfl⟩
  cases root : near[a]? with
  | none => exact (layered.sound (hops_eq_none.mpr root) held).2
  | some first =>
    have same := (layered.roots (hops_eq_some.mpr ⟨first,root,rfl,rfl⟩)).symm.trans held
    obtain ⟨level,-⟩ := Prod.mk.inj (Option.some.inj same)
    exact level ▸ Nat.le_trans (low a first root) late

theorem whileDo_stopped (topology : List TopologyTuple) (fuel h : Nat) (table : RoutingTable) :
    whileDo Layer.added (Layer.expand topology) fuel ⟨h,table,false⟩ = some ⟨h,table,false⟩ := by
  cases fuel <;> rfl

/-- A pass either finds another destination or is the last one. -/
theorem layers_end (topology : List TopologyTuple) {good : RoutingTableEntry → Prop}
    (low : ∀ (a : UInt32) (e : RoutingTableEntry), near[a]? = some e → e.distance ≤ 2)
    (passes_on : ∀ last e, good last → last.nextAddr = e.nextAddr → last.interface = e.interface →
      last.distance + 1 = e.distance → good e)
    (late : 2 ≤ h) (every : Every good table)
    (layered : Layered (leads topology) (hops near) 2 h (hops table)) :
    ∃ s, Settled near topology good s.m_table ∧ ∀ fuel, missing topology table < fuel →
      whileDo Layer.added (Layer.expand topology) fuel ⟨h,table,true⟩ = some s := by
  induction count : missing topology table using Nat.strong_induction_on generalizing h table with
  | _ count_now ih =>
    subst count
    have done := pass h table topology
    have after := done.layered low late layered
    have linked := done.every every passes_on
    have step : Layer.expand topology ⟨h,table,true⟩ =
        ⟨h+1,(topology.foldl (topologyRoute h) (table,false)).1,
          (topology.foldl (topologyRoute h) (table,false)).2⟩ := rfl
    cases added : (topology.foldl (topologyRoute h) (table,false)).2 with
    | true =>
      obtain ⟨s,settled,ended⟩ := ih _ (done.missing_lt added) (by omega) linked after rfl
      refine ⟨s,settled,?_⟩
      rintro (_ | fuel) enough
      · cases enough
      · rw [whileDo,if_pos rfl,step,added]
        exact ended fuel (by have := done.missing_lt added; omega)
    | false =>
      rw [done.idle added] at after step
      refine ⟨⟨h+1,table,false⟩,⟨every,h,late,after,Layered.within low late layered⟩,?_⟩
      rintro (_ | fuel) enough
      · cases enough
      · rw [whileDo,if_pos rfl,step,added]
        exact whileDo_stopped topology fuel (h+1) table

/-- What one pass over the interface associations reaches: the addresses with a route, and the address
of a tuple whose main address the tuples before it have reached. -/
inductive Reached (routed : UInt32 → Prop) : List IfaceAssocTuple → UInt32 → Prop where
  | routed {a : UInt32} (known : routed a) (tuples : List IfaceAssocTuple) : Reached routed tuples a
  | behind {front : List IfaceAssocTuple} {tuple : IfaceAssocTuple}
      (main : Reached routed front tuple.mainAddr) (back : List IfaceAssocTuple) :
      Reached routed (front ++ tuple :: back) tuple.ifaceAddr

theorem Reached.append {routed : UInt32 → Prop} {tuples : List IfaceAssocTuple} {a : UInt32}
    (reached : Reached routed tuples a) (more : List IfaceAssocTuple) :
    Reached routed (tuples ++ more) a := by
  cases reached with
  | routed known => exact .routed known _
  | behind main back =>
    rw [List.append_assoc,List.cons_append]
    exact .behind main _

theorem reached_nil {routed : UInt32 → Prop} {a : UInt32} : Reached routed [] a ↔ routed a := by
  constructor
  · intro reached
    generalize whole : ([] : List IfaceAssocTuple) = all at reached
    cases reached with
    | routed known => exact known
    | behind main back => simp at whole
  · exact fun known => .routed known []

theorem reached_snoc {routed : UInt32 → Prop} {tuples : List IfaceAssocTuple}
    {tuple : IfaceAssocTuple} {a : UInt32} : Reached routed (tuples ++ [tuple]) a ↔
      Reached routed tuples a ∨ (Reached routed tuples tuple.mainAddr ∧ tuple.ifaceAddr = a) := by
  constructor
  · intro reached
    generalize whole : tuples ++ [tuple] = all at reached
    cases reached with
    | routed known => exact .inl (.routed known _)
    | @behind front other main back =>
      -- The tuple that brings the address is the last one, or one before.
      rcases List.eq_nil_or_concat back with rfl | ⟨inner,last,rfl⟩
      · obtain ⟨rfl,same⟩ := List.append_inj' whole rfl
        cases same
        exact .inr ⟨main,rfl⟩
      · rw [List.concat_eq_append,← List.cons_append,← List.append_assoc] at whole
        obtain ⟨rfl,-⟩ := List.append_inj' whole rfl
        exact .inl (.behind main _)
  · rintro (before | ⟨main,rfl⟩)
    · exact before.append _
    · exact .behind main []

theorem aliasRoute_isSome {table : RoutingTable} {tuple : IfaceAssocTuple} {a : UInt32} :
    ((aliasRoute table tuple)[a]?).isSome ↔ (table[a]?).isSome ∨
      ((table[tuple.mainAddr]?).isSome ∧ tuple.ifaceAddr = a) := by
  rw [aliasRoute]
  split
  · rename_i main found absent
    rw [getElem?_addEntry,found]
    by_cases same : tuple.ifaceAddr = a
    · simp [same]
    · simp [same]
  · rename_i unfit
    refine (or_iff_left_of_imp ?_).symm
    rintro ⟨known,rfl⟩
    obtain ⟨main,found⟩ := Option.isSome_iff_exists.mp known
    cases there : table[tuple.ifaceAddr]? with
    | none => exact absurd there (unfit main found)
    | some e => rfl

/-- The pass adds an entry for each address it reaches, and no other. -/
theorem aliases_isSome (table : RoutingTable) (tuples : List IfaceAssocTuple) (a : UInt32) :
    ((tuples.foldl aliasRoute table)[a]?).isSome ↔
      Reached (fun b => (table[b]?).isSome) tuples a := by
  induction tuples using List.reverseRecOn generalizing a with
  | nil => exact (@reached_nil (fun b => (table[b]?).isSome) a).symm
  | append_singleton tuples tuple ih =>
    rw [List.foldl_concat,aliasRoute_isSome,ih,ih,reached_snoc]

/-- What the addresses of further interfaces have added to the table. -/
structure Aliased (before : RoutingTable) (tuples : List IfaceAssocTuple) (after : RoutingTable) : Prop where
  keeps : ∀ (a : UInt32) e, before[a]? = some e → after[a]? = some e
  fresh : ∀ (a : UInt32) e, before[a]? = none → after[a]? = some e → e.destAddr = a ∧
    ∃ tuple ∈ tuples, tuple.ifaceAddr = a ∧ ∃ main, after[tuple.mainAddr]? = some main ∧
      main.nextAddr = e.nextAddr ∧ main.interface = e.interface ∧ main.distance = e.distance

theorem Aliased.next {before after : RoutingTable} {tuples : List IfaceAssocTuple}
    {tuple : IfaceAssocTuple} (aliased : Aliased before tuples after) (member : tuple ∈ tuples) :
    Aliased before tuples (aliasRoute after tuple) := by
  rw [aliasRoute]
  split
  · rename_i main found absent
    have kept : ∀ (a : UInt32) e, after[a]? = some e →
        (addEntry after tuple.ifaceAddr main.nextAddr main.interface main.distance)[a]? = some e := by
      intro a e there
      rw [getElem?_addEntry,if_neg]
      · exact there
      · rintro rfl
        exact nomatch absent.symm.trans there
    refine ⟨fun a e there => kept a e (aliased.keeps a e there),?_⟩
    intro a e new there
    rw [getElem?_addEntry] at there
    split at there
    · rename_i here
      obtain rfl := Option.some.inj there
      exact ⟨here,tuple,member,here,main,kept _ main found,rfl,rfl,rfl⟩
    · obtain ⟨named,other,inside,same,origin,old,rest⟩ := aliased.fresh a e new there
      exact ⟨named,other,inside,same,origin,kept _ origin old,rest⟩
  · exact aliased

theorem aliases (before : RoutingTable) (tuples : List IfaceAssocTuple) :
    Aliased before tuples (tuples.foldl aliasRoute before) :=
  List.foldlRecOn tuples aliasRoute
    ⟨fun _ _ there => there,fun _ _ absent there => nomatch absent.symm.trans there⟩
    fun _ so_far _ member => so_far.next member

end Layering

theorem Every.aliasRoute {router : RoutingProtocol} {now : Int} {least : Nat} {table : RoutingTable}
    {tuple : IfaceAssocTuple}
    (every : Every (fun e => Linked router now e ∧ least ≤ e.distance) table) :
    Every (fun e => Linked router now e ∧ least ≤ e.distance) (aliasRoute table tuple) := by
  rw [Olsr.aliasRoute]
  split
  · rename_i main found _
    obtain ⟨⟨link,heard,next,interface⟩,enough⟩ := (every _ main found).2
    exact every.addEntry ⟨⟨link,heard,next,interface⟩,enough⟩
  · exact every

/-- The loop over the topology comes to an end. -/
theorem settles (router : RoutingProtocol) (now : Int) :
    ∃ s : Layer, Settled (router.nearRoutes now) router.m_state.topologySet
        (fun e => Linked router now e ∧ 1 ≤ e.distance) s.m_table ∧
      ∀ fuel, router.m_state.topologySet.length < fuel → router.routingTableComputation fuel now =
        some { router with m_table := router.m_state.ifaceAssocSet.foldl aliasRoute s.m_table } := by
  have start : Every (fun e => Linked router now e ∧ 1 ≤ e.distance) (router.nearRoutes now) :=
    every_nearRoutes.weaken fun e within => ⟨within.1,within.2.1⟩
  have passes_on : ∀ last e : RoutingTableEntry, Linked router now last ∧ 1 ≤ last.distance →
      last.nextAddr = e.nextAddr → last.interface = e.interface → last.distance + 1 = e.distance →
      Linked router now e ∧ 1 ≤ e.distance := by
    rintro last e ⟨⟨link,heard,first,second⟩,-⟩ next interface further
    exact ⟨⟨link,heard,next ▸ first,interface ▸ second⟩,by omega⟩
  obtain ⟨s,settled,ended⟩ := layers_end router.m_state.topologySet
    (fun a e found => (@every_nearRoutes router now a e found).2.2.2) passes_on (Nat.le_refl 2) start
    Layered.start
  refine ⟨s,settled,?_⟩
  intro fuel enough
  have few : missing router.m_state.topologySet (router.nearRoutes now) ≤
      router.m_state.topologySet.length := List.countP_le_length
  rw [RoutingProtocol.routingTableComputation,ended fuel (by omega)]
  rfl

/-- The later steps add entries and change none. -/
theorem Settled.kept {near table : RoutingTable} {topology : List TopologyTuple}
    {good : RoutingTableEntry → Prop} (settled : Settled near topology good table)
    (named : ∀ (a : UInt32) (e : RoutingTableEntry), near[a]? = some e → e.destAddr = a)
    (tuples : List IfaceAssocTuple) (a : UInt32) (e : RoutingTableEntry) (found : near[a]? = some e) :
    (tuples.foldl aliasRoute table)[a]? = some e := by
  obtain ⟨h,-,layered,-⟩ := settled.closed
  obtain ⟨same,there,distance,way⟩ := hops_eq_some.mp
    (layered.roots (hops_eq_some.mpr ⟨e,found,rfl,rfl⟩))
  obtain ⟨next,interface⟩ := Prod.mk.inj way
  have dest := (settled.every a same there).1.trans (named a e found).symm
  obtain rfl : same = e := by
    cases same
    cases e
    simp only at dest next interface distance
    rw [dest,next,interface,distance]
  exact (aliases table tuples).keeps a same there

theorem Settled.linked {router : RoutingProtocol} {now : Int} {table : RoutingTable}
    (settled : Settled (router.nearRoutes now) router.m_state.topologySet
      (fun e => Linked router now e ∧ 1 ≤ e.distance) table) :
    Every (fun e => Linked router now e ∧ 1 ≤ e.distance)
      (router.m_state.ifaceAssocSet.foldl aliasRoute table) :=
  List.foldlRecOn (motive := Every fun e => Linked router now e ∧ 1 ≤ e.distance) _ _ settled.every
    fun _ so_far _ _ => so_far.aliasRoute

/-- The computation ends. Every entry goes by a link that is heard, neighbors are one hop away
and strict 2-hop neighbors two. What lies behind them is reached by a shortest walk over the
topology, and the rest of the table repeats the entries of main addresses, for the addresses that one
pass over the interface associations reaches from there. -/
theorem RoutingProtocol.routes_shortest (router : RoutingProtocol) (now : Int) :
    let near := router.nearRoutes now
    let walk := Walk (leads router.m_state.topologySet) (hops near) 2
    ∃ m_table : RoutingTable,
      (∀ fuel, router.m_state.topologySet.length < fuel →
        router.routingTableComputation fuel now = some { router with m_table := m_table }) ∧
      (∀ (a : UInt32) e, m_table[a]? = some e →
        e.destAddr = a ∧ Linked router now e ∧ 1 ≤ e.distance) ∧
      (∀ nb ∈ router.m_state.symNeighbors, router.liveLinks now nb ≠ [] →
        (∃ e, m_table[nb.neighborMainAddr]? = some e ∧ e.distance = 1) ∧
        ∀ t ∈ router.m_state.twoHopNeighborSet, Strict router t →
          t.neighborMainAddr = nb.neighborMainAddr →
          ∃ e, m_table[t.twoHopNeighborAddr]? = some e ∧ e.distance = 2) ∧
      (∀ (a : UInt32) n way, near[a]? = none → walk n way a →
        ∃ e, m_table[a]? = some e ∧ e.distance ≤ n ∧ walk e.distance (e.nextAddr,e.interface) a) ∧
      (∀ (a : UInt32) e, near[a]? = none → m_table[a]? = some e → (∀ n way, ¬ walk n way a) →
        ∃ tuple ∈ router.m_state.ifaceAssocSet, tuple.ifaceAddr = a ∧
          ∃ main, m_table[tuple.mainAddr]? = some main ∧ main.nextAddr = e.nextAddr ∧
            main.interface = e.interface ∧ main.distance = e.distance) ∧
      ∀ a : UInt32, (m_table[a]?).isSome ↔
        Reached (fun b => (near[b]?).isSome ∨ ∃ n way, walk n way b) router.m_state.ifaceAssocSet a := by
  intro near walk
  obtain ⟨s,settled,ended⟩ := settles router now
  obtain ⟨h,late,layered,last⟩ := settled.closed
  have aliased := aliases s.m_table router.m_state.ifaceAssocSet
  have kept := settled.kept (fun a e found => (every_nearRoutes a e found).1) router.m_state.ifaceAssocSet
  have routed : ∀ b, (s.m_table[b]?).isSome ↔ (near[b]?).isSome ∨ ∃ n way, walk n way b := by
    intro b
    constructor
    · intro known
      obtain ⟨e,found⟩ := Option.isSome_iff_exists.mp known
      cases first : near[b]? with
      | some root => exact .inl rfl
      | none =>
        have held : hops s.m_table b = some (e.distance,e.nextAddr,e.interface) :=
          hops_eq_some.mpr ⟨e,found,rfl,rfl⟩
        exact .inr ⟨_,_,(layered.sound (hops_eq_none.mpr first) held).1⟩
    · rintro (root | ⟨n,way,reached⟩)
      · obtain ⟨e,found⟩ := Option.isSome_iff_exists.mp root
        obtain ⟨same,there,-⟩ := hops_eq_some.mp (layered.roots (hops_eq_some.mpr ⟨e,found,rfl,rfl⟩))
        exact Option.isSome_iff_exists.mpr ⟨same,there⟩
      · obtain ⟨m,q,held,-⟩ := layered.shortest
          (fun there => by
            obtain ⟨e,found,rfl,-⟩ := hops_eq_some.mp there
            exact last _ e found) reached
        obtain ⟨e,found,-⟩ := hops_eq_some.mp held
        exact Option.isSome_iff_exists.mpr ⟨e,found⟩
  refine ⟨router.m_state.ifaceAssocSet.foldl aliasRoute s.m_table,ended,settled.linked,?_,?_,?_,?_⟩
  · intro nb known heard
    obtain ⟨link,live⟩ := List.exists_mem_of_ne_nil _ heard
    obtain ⟨e,found,one⟩ := near_neighbor known live
    refine ⟨⟨e,kept _ e found,one⟩,?_⟩
    intro t member strict via
    obtain ⟨far,there,two⟩ := near_strict member strict known via.symm live
    exact ⟨far,kept _ far there,two⟩
  · intro a n way absent reached
    obtain ⟨m,q,held,-,near_by⟩ := layered.shortest
      (fun there => by
        obtain ⟨e,found,rfl,-⟩ := hops_eq_some.mp there
        exact last _ e found) reached
    obtain ⟨e,found,rfl,rfl⟩ := hops_eq_some.mp held
    exact ⟨e,aliased.keeps a e found,near_by,(layered.sound (hops_eq_none.mpr absent) held).1⟩
  · intro a e absent found unreached
    cases before : s.m_table[a]? with
    | some old =>
      have held : hops s.m_table a = some (old.distance,old.nextAddr,old.interface) :=
        hops_eq_some.mpr ⟨old,before,rfl,rfl⟩
      exact absurd (layered.sound (hops_eq_none.mpr absent) held).1 (unreached _ _)
    | none => exact (aliased.fresh a e before found).2
  · intro a
    simp only [aliases_isSome,routed]

end UavFanet.Olsr
