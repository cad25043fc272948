import UavFanet.OlsrRoutes

/-! Looking up where to send: the entries are followed to one whose next hop is its destination. -/
namespace UavFanet.Olsr
open Library.Loop

/-- `some none` is a next hop that is not in the table, `none` a chain of entries still going
on after `fuel` of them. -/
def findSendEntry (m_table : RoutingTable) : Nat → RoutingTableEntry → Option (Option RoutingTableEntry)
  | 0,outEntry => if outEntry.destAddr = outEntry.nextAddr then some (some outEntry) else none
  | fuel+1,outEntry =>
    if outEntry.destAddr = outEntry.nextAddr then some (some outEntry)
    else
      match m_table[outEntry.nextAddr]? with
      | some next => findSendEntry m_table fuel next
      | none => some none

/-- The entries lead from the address to a neighbor in so many steps. -/
inductive Ends (table : RoutingTable) : Nat → UInt32 → Prop where
  | here {a : UInt32} {e : RoutingTableEntry} (found : table[a]? = some e) (dest : e.destAddr = a)
      (next : e.nextAddr = a) : Ends table 0 a
  | on {a : UInt32} {e : RoutingTableEntry} {k : Nat} (found : table[a]? = some e)
      (rest : Ends table k e.nextAddr) : Ends table (k+1) a

section Chains

variable {table : RoutingTable} {a d : UInt32} {k j : Nat}

theorem Ends.isSome (ends : Ends table k a) : (table[a]?).isSome := by
  cases ends with
  | here found => rw [found]; rfl
  | on found => rw [found]; rfl

theorem Ends.finds (ends : Ends table k a) {e : RoutingTableEntry} (found : table[a]? = some e) :
    ∃ out, out.destAddr = out.nextAddr ∧ (out = e ∨ ∃ b : UInt32, table[b]? = some out) ∧
      ∀ fuel, k ≤ fuel → findSendEntry table fuel e = some (some out) := by
  induction ends generalizing e with
  | here there dest next =>
    obtain rfl := Option.some.inj (there.symm.trans found)
    refine ⟨_,dest.trans next.symm,.inl rfl,?_⟩
    rintro (_ | fuel) _ <;> rw [findSendEntry,if_pos (dest.trans next.symm)]
  | @on a last k there rest ih =>
    obtain rfl := Option.some.inj (there.symm.trans found)
    by_cases direct : last.destAddr = last.nextAddr
    · refine ⟨_,direct,.inl rfl,?_⟩
      rintro (_ | fuel) _ <;> rw [findSendEntry,if_pos direct]
    · obtain ⟨next,onward⟩ := Option.isSome_iff_exists.mp rest.isSome
      obtain ⟨out,level,source,finds⟩ := ih onward
      refine ⟨out,level,.inr ?_,?_⟩
      · rcases source with rfl | kept
        · exact ⟨_,onward⟩
        · exact kept
      · rintro (_ | fuel) enough
        · cases enough
        · rw [findSendEntry,if_neg direct,onward]
          exact finds fuel (Nat.le_of_succ_le_succ enough)

/-- A chain that comes to the changed entry goes on as that one does. -/
theorem Ends.insert {next : UInt32} {interface distance : Nat} (ends : Ends table k a)
    (changed : Ends (addEntry table d next interface distance) j d) :
    ∃ l, l ≤ k+j ∧ Ends (addEntry table d next interface distance) l a := by
  induction ends with
  | @here a e found dest last =>
    by_cases same : d = a
    · exact ⟨j,by omega,same ▸ changed⟩
    · exact ⟨0,by omega,.here (by rw [getElem?_addEntry,if_neg same,found]) dest last⟩
  | @on a e k found _ ih =>
    by_cases same : d = a
    · exact ⟨j,by omega,same ▸ changed⟩
    · obtain ⟨l,few,rest⟩ := ih
      exact ⟨l+1,by omega,.on (by rw [getElem?_addEntry,if_neg same,found]) rest⟩

end Chains

/-- The chains of a table are no longer than `n`. -/
def Short (n : Nat) (table : RoutingTable) : Prop :=
  ∀ a : UInt32, (table[a]?).isSome → ∃ k, k ≤ n ∧ Ends table k a

section Neighbors

variable {router : RoutingProtocol} {now : Int} {table : RoutingTable} {n : Nat}

theorem Short.addEntry {d next : UInt32} {interface distance j m : Nat} (short : Short n table)
    (changed : Ends (addEntry table d next interface distance) j d) (enough : n+j ≤ m) :
    Short m (addEntry table d next interface distance) := by
  intro a present
  by_cases same : d = a
  · exact ⟨j,by omega,same ▸ changed⟩
  · rw [getElem?_addEntry,if_neg same] at present
    obtain ⟨k,few,ends⟩ := short a present
    obtain ⟨l,fewer,rest⟩ := ends.insert changed
    exact ⟨l,by omega,rest⟩

theorem linkRoute_ends (table : RoutingTable) (link : LinkTuple) :
    Ends (router.linkRoute table link) 0 link.neighborIfaceAddr :=
  .here (by rw [RoutingProtocol.linkRoute,getElem?_addEntry,if_pos rfl]) rfl rfl

theorem Short.linkRoute (short : Short n table) (link : LinkTuple) :
    Short n (router.linkRoute table link) :=
  short.addEntry (linkRoute_ends table link) (Nat.le_refl n)

/-- Each neighbor may put its main address before an address of one of its links. -/
theorem Short.neighborRoutes (short : Short n table) (nb : NeighborTuple) :
    Short (n+1) (router.neighborRoutes now table nb) := by
  have wider : ∀ {t}, Short n t → Short (n+1) t := fun shorter a present =>
    (shorter a present).imp fun _ found => ⟨Nat.le_succ_of_le found.1,found.2⟩
  have links : Short n ((router.liveLinks now nb).foldl router.linkRoute table) :=
    List.foldlRecOn _ _ short fun _ so_far link _ => so_far.linkRoute link
  rw [RoutingProtocol.neighborRoutes]
  split
  · dsimp only
    split
    · rename_i lt last
      split
      · exact wider links
      · rename_i unnamed
        have member := List.mem_of_getLast? last
        have apart : nb.neighborMainAddr ≠ lt.neighborIfaceAddr := by
          intro same
          exact unnamed (List.any_eq_true.mpr ⟨lt,member,beq_iff_eq.mpr same.symm⟩)
        have direct : Ends ((router.liveLinks now nb).foldl router.linkRoute table) 0
            lt.neighborIfaceAddr := by
          refine foldl_brings (fun _ => True) (fun t => Ends t 0 lt.neighborIfaceAddr) member trivial
            (fun _ _ _ _ => trivial) (fun t _ => linkRoute_ends t lt) ?_
          intro t ends other _
          obtain ⟨l,none_more,rest⟩ := ends.insert (linkRoute_ends t other)
          obtain rfl := Nat.le_zero.mp none_more
          exact rest
        refine links.addEntry (j := 1) (.on (by rw [getElem?_addEntry,if_pos rfl]) ?_) (Nat.le_refl _)
        cases direct with
        | here found dest next =>
          exact .here (by rw [getElem?_addEntry,if_neg apart,found]) dest next
    · exact wider links
  · exact wider short

theorem short_linkRoutes : Short router.m_state.neighborSet.length (router.linkRoutes now) := by
  have grows : ∀ (nbs : List NeighborTuple) (n : Nat) (table : RoutingTable), Short n table →
      Short (n+nbs.length) (nbs.foldl (router.neighborRoutes now) table) := by
    intro nbs
    induction nbs with
    | nil => exact fun _ _ short => short
    | cons nb nbs ih =>
      intro n table short
      rw [List.foldl_cons,List.length_cons,Nat.add_comm nbs.length 1,← Nat.add_assoc]
      exact ih (n+1) _ (short.neighborRoutes nb)
  have start : Short 0 (∅ : RoutingTable) := by
    intro a present
    simp at present
  have all := grows router.m_state.neighborSet 0 ∅ start
  rwa [Nat.zero_add] at all

/-- No 2-hop neighbor that gets a route has the address of a link that is heard. -/
def Clear (router : RoutingProtocol) (now : Int) : Prop :=
  ∀ link, Heard router now link → ∀ t ∈ router.m_state.twoHopNeighborSet, Strict router t →
    t.twoHopNeighborAddr ≠ link.neighborIfaceAddr

theorem Clear.near (clear : Clear router now) {link : LinkTuple} (heard : Heard router now link) :
    (router.nearRoutes now)[link.neighborIfaceAddr]? =
      (router.linkRoutes now)[link.neighborIfaceAddr]? := by
  refine List.foldlRecOn (motive := fun table : RoutingTable => table[link.neighborIfaceAddr]? =
    (router.linkRoutes now)[link.neighborIfaceAddr]?) _ _ rfl ?_
  intro table so_far t member
  obtain ⟨strict,entry,-,same⟩ | ⟨-,same⟩ := twoHopRoute_cases router table t <;> rw [same]
  · rw [getElem?_addEntry,if_neg (clear link heard t member strict),so_far]
  · exact so_far

theorem Heard.known {link : LinkTuple} (heard : Heard router now link) :
    ((router.linkRoutes now)[link.neighborIfaceAddr]?).isSome := by
  obtain ⟨nb,known,live⟩ := heard
  exact linkRoutes_brings known fun table =>
    neighborRoutes_link (beq_iff_eq.mp (List.mem_filter.mp known).2) live

theorem nearRoutes_keeps {a : UInt32} (known : ((router.linkRoutes now)[a]?).isSome) :
    ((router.nearRoutes now)[a]?).isSome :=
  List.foldlRecOn (motive := fun table : RoutingTable => (table[a]?).isSome = true) _ _ known
    fun _ so_far _ _ => twoHopRoute_keeps so_far

/-- Chains of link routes are the same in a table that keeps the entries of the links. -/
theorem Ends.carried {k : Nat} {a : UInt32} (ends : Ends (router.linkRoutes now) k a)
    (kept : ∀ link, Heard router now link →
      table[link.neighborIfaceAddr]? = (router.linkRoutes now)[link.neighborIfaceAddr]?)
    {link : LinkTuple} (heard : Heard router now link) (at_link : link.neighborIfaceAddr = a) :
    Ends table k a := by
  induction ends generalizing link with
  | here found dest next =>
    subst at_link
    exact .here ((kept link heard).trans found) dest next
  | on found rest ih =>
    subst at_link
    obtain ⟨further,hears,next,-⟩ := (every_linkRoutes _ _ found).2.1
    exact .on ((kept link heard).trans found) (ih hears next.symm)

theorem findSendEntry_ne_none {good : RoutingTableEntry → Prop} (every : Every good table)
    (next : ∀ e, good e → (table[e.nextAddr]?).isSome) (fuel : Nat) {e : RoutingTableEntry}
    (this : good e) : findSendEntry table fuel e ≠ some none := by
  induction fuel generalizing e with
  | zero =>
    rw [findSendEntry]
    split <;> simp
  | succ fuel ih =>
    rw [findSendEntry]
    split
    · simp
    · obtain ⟨onward,found⟩ := Option.isSome_iff_exists.mp (next e this)
      rw [found]
      exact ih (every _ onward found).2

end Neighbors

/-- On a computed table the search for the entry to send by never fails. It ends at a link that
is heard, unless a 2-hop neighbor has the address of such a link: then it may go round. -/
theorem RoutingProtocol.sends_end (router : RoutingProtocol) (now : Int) :
    ∃ m_table : RoutingTable,
      (∀ fuel, router.m_state.topologySet.length < fuel →
        router.routingTableComputation fuel now = some { router with m_table := m_table }) ∧
      ∀ (a : UInt32) e, m_table[a]? = some e →
        (∀ fuel, findSendEntry m_table fuel e ≠ some none) ∧
        (Clear router now → ∃ link, Heard router now link ∧
          ∃ out, out.destAddr = link.neighborIfaceAddr ∧ out.nextAddr = link.neighborIfaceAddr ∧
            out.interface = router.interfaceFor link.localIfaceAddr ∧
            ∀ fuel, router.m_state.neighborSet.length < fuel →
              findSendEntry m_table fuel e = some (some out)) := by
  obtain ⟨s,settled,ended⟩ := settles router now
  have every := settled.linked
  have kept := settled.kept (fun a e found => (every_nearRoutes a e found).1) router.m_state.ifaceAssocSet
  generalize router.m_state.ifaceAssocSet.foldl aliasRoute s.m_table = m_table at ended every kept
  refine ⟨m_table,ended,?_⟩
  intro a e found
  refine ⟨fun fuel => findSendEntry_ne_none every ?_ fuel (every a e found).2,?_⟩
  · rintro other ⟨⟨link,heard,next,-⟩,-⟩
    obtain ⟨near,there⟩ := Option.isSome_iff_exists.mp (nearRoutes_keeps heard.known)
    rw [next,kept _ near there]
    rfl
  · intro clear
    have links : ∀ link, Heard router now link →
        m_table[link.neighborIfaceAddr]? = (router.linkRoutes now)[link.neighborIfaceAddr]? := by
      intro link heard
      obtain ⟨near,there⟩ := Option.isSome_iff_exists.mp (nearRoutes_keeps heard.known)
      rw [kept _ near there,← clear.near heard,there]
    obtain ⟨link,heard,next,-⟩ := (every a e found).2.1
    obtain ⟨k,few,ends⟩ := short_linkRoutes _ heard.known
    have chain : Ends m_table (k+1) a := .on found (next ▸ ends.carried links heard rfl)
    obtain ⟨out,direct,source,finds⟩ := chain.finds found
    have linked : Linked router now out := by
      rcases source with rfl | ⟨b,there⟩
      · exact (every a _ found).2.1
      · exact (every b out there).2.1
    obtain ⟨last,hears,at_last,interface⟩ := linked
    exact ⟨last,hears,out,direct.trans at_last,at_last,interface,
      fun fuel enough => finds fuel (by omega)⟩

/-- Two neighbors report each other's link address before they have told whose it is. -/
def crossed : RoutingProtocol where
  m_mainAddress := 1
  m_ipv4 := [[1]]
  m_state :=
    { linkSet := [⟨1,20,5,5⟩,⟨1,30,5,5⟩]
      neighborSet := [⟨2,.sym,3⟩,⟨3,.sym,3⟩]
      twoHopNeighborSet := [⟨2,30⟩,⟨3,20⟩]
      ifaceAssocSet := [⟨20,2⟩,⟨30,3⟩] }

theorem crossed_goes_round (fuel : Nat) :
    findSendEntry (crossed.nearRoutes 0) fuel ⟨20,30,0,2⟩ = none ∧
      findSendEntry (crossed.nearRoutes 0) fuel ⟨30,20,0,2⟩ = none := by
  have first : (crossed.nearRoutes 0)[(20 : UInt32)]? = some ⟨20,30,0,2⟩ := by decide
  have second : (crossed.nearRoutes 0)[(30 : UInt32)]? = some ⟨30,20,0,2⟩ := by decide
  induction fuel with
  | zero => exact ⟨rfl,rfl⟩
  | succ fuel ih =>
    rw [findSendEntry,findSendEntry,if_neg (by decide),if_neg (by decide),first,second]
    exact ⟨ih.2,ih.1⟩

end UavFanet.Olsr
