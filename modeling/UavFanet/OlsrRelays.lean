import UavFanet.Olsr
import Mathlib.Data.Prod.Lex

/-! The election of the multipoint relays: it ends, and every strict 2-hop neighbor is reached. -/
namespace UavFanet.Olsr
open Library.Loop

namespace Election

/-- What a neighbor has to offer: its willingness, then the number of those that it reaches. -/
def offer (n2 : List TwoHopNeighborTuple) (nb_tuple : NeighborTuple) : Nat ×ₗ Nat :=
  toLex (nb_tuple.willingness.toNat,reachability n2 nb_tuple)

structure Best (n : List NeighborTuple) (n2 : List TwoHopNeighborTuple) (max : NeighborTuple) : Prop where
  known : max ∈ n
  reaches : reachability n2 max ≠ 0
  most : ∀ other ∈ n, reachability n2 other ≠ 0 → offer n2 other ≤ offer n2 max

/-- Elections of a best neighbor each, for as long as a 2-hop neighbor is left. -/
inductive Greedy (n : List NeighborTuple) : Election → Election → Prop where
  | done {mprSet : MprSet} : Greedy n ⟨mprSet,[]⟩ ⟨mprSet,[]⟩
  | elect {s t : Election} {max : NeighborTuple} (best : Best n s.n2 max)
      (rest : Greedy n (s.elect max.neighborMainAddr) t) : Greedy n s t

def candidates (n : List NeighborTuple) (n2 : List TwoHopNeighborTuple) : List (NeighborTuple × Nat) :=
  (Std.ExtTreeSet.ofList (n.map (reachability n2)) compare).toList.flatMap fun r =>
    if r = 0 then [] else (n.filter (reachability n2 · == r)).map (·,r)

theorem select_eq (degree : NeighborTuple → Nat) (n : List NeighborTuple)
    (n2 : List TwoHopNeighborTuple) :
    select degree n n2 =
      (candidates n n2).foldl (fun max c => better degree c.2 max c.1) none := by
  rw [select,candidates,List.foldl_flatMap]
  congr
  funext max r
  split
  · rfl
  · rw [List.foldl_map]

theorem mem_candidates {n : List NeighborTuple} {n2 : List TwoHopNeighborTuple} {nb : NeighborTuple}
    {r : Nat} : (nb,r) ∈ candidates n n2 ↔ nb ∈ n ∧ reachability n2 nb = r ∧ r ≠ 0 := by
  simp only [candidates,List.mem_flatMap,Std.ExtTreeSet.mem_toList,Std.ExtTreeSet.mem_ofList,
    List.contains_iff_mem,List.mem_map]
  constructor
  · rintro ⟨k,-,inside⟩
    split at inside
    · cases inside
    · rename_i some_reached
      rw [List.mem_map] at inside
      obtain ⟨other,kept,same⟩ := inside
      obtain ⟨rfl,rfl⟩ := Prod.mk.inj same
      rw [List.mem_filter,beq_iff_eq] at kept
      exact ⟨kept.1,kept.2,some_reached⟩
  · rintro ⟨known,rfl,some_reached⟩
    refine ⟨reachability n2 nb,⟨nb,known,rfl⟩,?_⟩
    rw [if_neg some_reached,List.mem_map]
    exact ⟨nb,List.mem_filter.mpr ⟨known,beq_iff_eq.mpr rfl⟩,rfl⟩

def score (c : NeighborTuple × Nat) : Nat ×ₗ Nat := toLex (c.1.willingness.toNat,c.2)

/-- The degree breaks ties only, so the score never falls. -/
theorem better_some (degree : NeighborTuple → Nat) (c top : NeighborTuple × Nat) :
    ∃ pick, better degree c.2 (some top) c.1 = some pick ∧ (pick = c ∨ pick = top) ∧
      score c ≤ score pick ∧ score top ≤ score pick := by
  obtain ⟨nb,r⟩ := c
  obtain ⟨old,max_r⟩ := top
  simp only [better,score,Prod.Lex.toLex_le_toLex]
  split
  · rename_i wins
    exact ⟨_,rfl,.inl rfl,.inr ⟨rfl,le_rfl⟩,.inl (UInt8.lt_iff_toNat_lt.mp wins)⟩
  · rename_i loses
    rw [gt_iff_lt,UInt8.lt_iff_toNat_lt,not_lt] at loses
    split
    · rename_i level
      split
      · rename_i further
        exact ⟨_,rfl,.inl rfl,.inr ⟨rfl,le_rfl⟩,.inr ⟨congrArg UInt8.toNat level.symm,further.le⟩⟩
      · rename_i not_further
        split
        · rename_i same
          split
          · exact ⟨_,rfl,.inl rfl,.inr ⟨rfl,le_rfl⟩,.inr ⟨congrArg UInt8.toNat level.symm,same.ge⟩⟩
          · exact ⟨_,rfl,.inr rfl,.inr ⟨congrArg UInt8.toNat level,same.le⟩,.inr ⟨rfl,le_rfl⟩⟩
        · exact ⟨_,rfl,.inr rfl,.inr ⟨congrArg UInt8.toNat level,not_lt.mp not_further⟩,.inr ⟨rfl,le_rfl⟩⟩
    · rename_i differs
      exact ⟨_,rfl,.inr rfl,.inl (lt_of_le_of_ne loses fun same => differs (UInt8.toNat_inj.mp same)),.inr ⟨rfl,le_rfl⟩⟩

theorem foldl_better (degree : NeighborTuple → Nat) (cs : List (NeighborTuple × Nat))
    (top : NeighborTuple × Nat) :
    ∃ pick, cs.foldl (fun max c => better degree c.2 max c.1) (some top) = some pick ∧
      (pick ∈ cs ∨ pick = top) ∧ score top ≤ score pick ∧ ∀ c ∈ cs, score c ≤ score pick := by
  induction cs generalizing top with
  | nil => exact ⟨top,rfl,.inr rfl,le_rfl,by simp⟩
  | cons c cs ih =>
    obtain ⟨next,step,source,above,grows⟩ := better_some degree c top
    obtain ⟨pick,picked,from_list,least,most⟩ := ih next
    refine ⟨pick,by rw [List.foldl_cons,step,picked],?_,grows.trans least,?_⟩
    · rcases from_list with inside | rfl
      · exact .inl (List.mem_cons_of_mem c inside)
      · rcases source with rfl | same
        · exact .inl List.mem_cons_self
        · exact .inr same
    · intro other member
      rcases List.mem_cons.mp member with rfl | inside
      · exact above.trans least
      · exact most other inside

theorem select_best (degree : NeighborTuple → Nat) {n : List NeighborTuple}
    {n2 : List TwoHopNeighborTuple} {nb : NeighborTuple} (known : nb ∈ n)
    (reaches : reachability n2 nb ≠ 0) :
    ∃ max r, select degree n n2 = some (max,r) ∧ Best n n2 max := by
  have listed : (nb,reachability n2 nb) ∈ candidates n n2 := mem_candidates.mpr ⟨known,rfl,reaches⟩
  rw [select_eq]
  cases all : candidates n n2 with
  | nil => rw [all] at listed; cases listed
  | cons c cs =>
    obtain ⟨pick,picked,source,first,most⟩ := foldl_better degree cs c
    have inside : pick ∈ candidates n n2 := by
      rw [all]
      exact source.elim (List.mem_cons_of_mem c) fun same => same ▸ List.mem_cons_self
    obtain ⟨max,r⟩ := pick
    obtain ⟨there,rfl,some_reached⟩ := mem_candidates.mp inside
    refine ⟨max,_,picked,there,some_reached,?_⟩
    intro other member reached
    have rival : (other,reachability n2 other) ∈ candidates n n2 :=
      mem_candidates.mpr ⟨member,rfl,reached⟩
    rw [all] at rival
    rcases List.mem_cons.mp rival with rfl | later
    · exact first
    · exact most _ later

/-- Of the 2-hop neighbors `n2`, those not left over are reached by a relay, and every relay
is there for a reason. -/
structure Sound (n : List NeighborTuple) (n2 : List TwoHopNeighborTuple) (s : Election) : Prop where
  left : ∀ t ∈ s.n2, t ∈ n2
  covered : ∀ t ∈ n2, t ∈ s.n2 ∨
    ∃ u ∈ n2, u.twoHopNeighborAddr = t.twoHopNeighborAddr ∧ u.neighborMainAddr ∈ s.mprSet
  needed : ∀ a ∈ s.mprSet, (∃ nb ∈ n, nb.neighborMainAddr = a ∧ nb.willingness = Willingness.ALWAYS) ∨
    ∃ t ∈ n2, t.neighborMainAddr = a

variable {n : List NeighborTuple} {n2 : List TwoHopNeighborTuple} {s t : Election}

theorem mem_elect {a b : UInt32} : a ∈ (s.elect b).mprSet ↔ b = a ∨ a ∈ s.mprSet := by
  rw [elect,Std.ExtTreeSet.mem_insert,Std.LawfulEqCmp.compare_eq_iff_eq]

theorem Sound.start : Sound n n2 ⟨∅,n2⟩ :=
  ⟨fun _ inside => inside,fun _ inside => .inl inside,
    fun _ inside => absurd inside Std.ExtTreeSet.not_mem_empty⟩

theorem Sound.elect (sound : Sound n n2 s) {a : UInt32}
    (reason : (∃ nb ∈ n, nb.neighborMainAddr = a ∧ nb.willingness = Willingness.ALWAYS) ∨
      ∃ t ∈ n2, t.neighborMainAddr = a) : Sound n n2 (s.elect a) := by
  constructor
  · intro t inside
    exact sound.left t (mem_coverTwoHopNeighbors.mp inside).1
  · intro t strict
    rcases sound.covered t strict with waiting | ⟨u,inside,same,relay⟩
    · by_cases reached : ∃ u ∈ s.n2, u.neighborMainAddr = a ∧ u.twoHopNeighborAddr = t.twoHopNeighborAddr
      · obtain ⟨u,inside,via,same⟩ := reached
        exact .inr ⟨u,sound.left u inside,same,mem_elect.mpr (.inl via.symm)⟩
      · refine .inl (mem_coverTwoHopNeighbors.mpr ⟨waiting,?_⟩)
        intro u inside via same
        exact reached ⟨u,inside,via,same⟩
    · exact .inr ⟨u,inside,same,mem_elect.mpr (.inr relay)⟩
  · intro b relay
    rcases mem_elect.mp relay with rfl | before
    · exact reason
    · exact sound.needed b before

theorem Sound.always (sound : Sound n n2 s) {some_of_n : List NeighborTuple}
    (known : ∀ nb ∈ some_of_n, nb ∈ n) : Sound n n2 (always some_of_n s) := by
  induction some_of_n generalizing s with
  | nil => exact sound
  | cons nb rest ih =>
    have later : ∀ other ∈ rest, other ∈ n := fun other inside => known other (List.mem_cons_of_mem nb inside)
    rw [Election.always,List.foldl_cons]
    split
    · rename_i eager
      exact ih (sound.elect (.inl ⟨nb,known nb List.mem_cons_self,rfl,beq_iff_eq.mp eager⟩)) later
    · exact ih sound later

theorem always_keeps {a : UInt32} (relay : a ∈ s.mprSet) : a ∈ (always n s).mprSet := by
  induction n generalizing s with
  | nil => exact relay
  | cons nb rest ih =>
    rw [always,List.foldl_cons]
    split
    · exact ih (mem_elect.mpr (.inr relay))
    · exact ih relay

theorem mem_always {nb : NeighborTuple} (known : nb ∈ n) (eager : nb.willingness = Willingness.ALWAYS) :
    nb.neighborMainAddr ∈ (always n s).mprSet := by
  induction n generalizing s with
  | nil => cases known
  | cons first rest ih =>
    rw [always,List.foldl_cons]
    rcases List.mem_cons.mp known with rfl | later
    · rw [if_pos (beq_iff_eq.mpr eager)]
      exact always_keeps (mem_elect.mpr (.inl rfl))
    · exact ih later

theorem always_length : (always n s).n2.length ≤ s.n2.length := by
  induction n generalizing s with
  | nil => exact le_rfl
  | cons nb rest ih =>
    rw [always,List.foldl_cons]
    split
    · exact ih.trans (List.length_filter_le _ _)
    · exact ih

theorem mem_sole {a : UInt32} :
    a ∈ s.sole.mprSet ↔ (∃ t ∈ s.n2, onlyOne s.n2 t = true ∧ t.neighborMainAddr = a) ∨ a ∈ s.mprSet :=
  mem_gather

theorem mem_sole_covered {only others : List TwoHopNeighborTuple} {test : TwoHopNeighborTuple → Bool}
    {set : MprSet} {a : UInt32} :
    a ∈ only.foldl (fun covered twoHopNeigh =>
        if test twoHopNeigh then
          gather (·.neighborMainAddr == twoHopNeigh.neighborMainAddr) (·.twoHopNeighborAddr) others covered
        else covered) set ↔
      (∃ t ∈ only, test t = true ∧
        ∃ u ∈ others, u.neighborMainAddr = t.neighborMainAddr ∧ u.twoHopNeighborAddr = a) ∨ a ∈ set := by
  induction only generalizing set with
  | nil => simp
  | cons t only ih =>
    rw [List.foldl_cons,ih]
    by_cases passes : test t = true
    · rw [if_pos passes,mem_gather]
      simp only [List.mem_cons,exists_eq_or_imp,passes,true_and,beq_iff_eq]
      rw [or_left_comm,or_assoc]
    · rw [if_neg passes]
      simp [passes]

theorem Sound.sole (sound : Sound n n2 s) : Sound n n2 s.sole := by
  constructor
  · intro t inside
    exact sound.left t (List.mem_filter.mp inside).1
  · intro t strict
    rcases sound.covered t strict with waiting | ⟨u,inside,same,relay⟩
    · by_cases kept : t ∈ s.sole.n2
      · exact .inl kept
      · rw [Election.sole,List.mem_filter,not_and,Bool.not_eq_true,Bool.not_eq_false',
          Std.ExtTreeSet.contains_iff_mem,mem_sole_covered] at kept
        obtain ⟨only,inside,alone,u,there,via,same⟩ | none_yet := kept waiting
        · exact .inr ⟨u,sound.left u there,same,
            mem_sole.mpr (.inl ⟨only,inside,alone,via.symm⟩)⟩
        · exact absurd none_yet Std.ExtTreeSet.not_mem_empty
    · exact .inr ⟨u,inside,same,mem_sole.mpr (.inr relay)⟩
  · intro a relay
    rcases mem_sole.mp relay with ⟨t,inside,-,via⟩ | before
    · exact .inr ⟨t,sound.left t inside,via⟩
    · exact sound.needed a before

theorem reachability_pos {nb : NeighborTuple} :
    reachability n2 nb ≠ 0 ↔ ∃ t ∈ n2, t.neighborMainAddr = nb.neighborMainAddr := by
  rw [reachability,← Nat.pos_iff_ne_zero,List.countP_pos_iff]
  simp only [beq_iff_eq]

theorem Sound.greedy (sound : Sound n n2 s) (run : Greedy n s t) : Sound n n2 t := by
  induction run with
  | done => exact sound
  | elect best _ ih =>
    obtain ⟨reached,inside,via⟩ := reachability_pos.mp best.reaches
    exact ih (sound.elect (.inr ⟨reached,sound.left reached inside,via⟩))

theorem Greedy.keeps (run : Greedy n s t) {a : UInt32} (relay : a ∈ s.mprSet) : a ∈ t.mprSet := by
  induction run with
  | done => exact relay
  | elect _ _ ih => exact ih (mem_elect.mpr (.inr relay))

theorem Greedy.ends (run : Greedy n s t) : t.n2 = [] := by
  induction run with
  | done => rfl
  | elect _ _ ih => exact ih

theorem Best.fewer {max : NeighborTuple} (best : Best n s.n2 max) :
    (s.elect max.neighborMainAddr).n2.length < s.n2.length := by
  obtain ⟨reached,inside,via⟩ := reachability_pos.mp best.reaches
  refine List.length_filter_lt_length_iff_exists.mpr ⟨reached,inside,?_⟩
  rw [Bool.not_eq_true,Bool.not_eq_false',Std.ExtTreeSet.contains_iff_mem,mem_gather]
  exact .inl ⟨reached,inside,beq_iff_eq.mpr via,rfl⟩

/-- Every 2-hop neighbor left is behind a neighbor, so each turn of the loop elects one. -/
theorem greedy_run (degree : NeighborTuple → Nat)
    (known : ∀ t ∈ s.n2, ∃ nb ∈ n, nb.neighborMainAddr = t.neighborMainAddr) :
    ∃ t, Greedy n s t ∧ ∀ fuel, s.n2.length ≤ fuel →
      whileDo (fun s => !s.n2.isEmpty) (greedy degree n) fuel s = some t := by
  induction size : s.n2.length using Nat.strong_induction_on generalizing s with
  | _ size_now ih =>
    subst size
    obtain ⟨mprSet,left⟩ := s
    cases left with
    | nil =>
      refine ⟨_,.done,?_⟩
      intro fuel _
      cases fuel <;> rfl
    | cons first rest =>
      obtain ⟨nb,member,via⟩ := known first List.mem_cons_self
      obtain ⟨max,r,chosen,best⟩ := select_best degree member
        (reachability_pos.mpr ⟨first,List.mem_cons_self,via.symm⟩)
      obtain ⟨t,run,ended⟩ := ih _ (best.fewer (s := ⟨mprSet,first::rest⟩)) (fun u inside =>
        known u (mem_coverTwoHopNeighbors.mp inside).1) rfl
      refine ⟨t,.elect best run,?_⟩
      intro fuel enough
      cases fuel with
      | zero => cases enough
      | succ fuel =>
        have step : greedy degree n ⟨mprSet,first::rest⟩ =
            elect ⟨mprSet,first::rest⟩ max.neighborMainAddr := by
          rw [greedy,chosen]
        rw [whileDo,if_pos (by rfl),step]
        exact ended fuel (by have := best.fewer (s := ⟨mprSet,first::rest⟩); omega)

end Election

open Election

namespace OlsrState

variable {state : OlsrState} {mainAddress : UInt32}

theorem mem_twoHopNeighbors {t : TwoHopNeighborTuple} :
    t ∈ state.twoHopNeighbors mainAddress ↔
      t ∈ state.twoHopNeighborSet ∧ t.twoHopNeighborAddr ≠ mainAddress ∧
      (∃ nb, state.symNeighbors.find? (·.neighborMainAddr == t.neighborMainAddr) = some nb ∧
        nb.willingness ≠ Willingness.NEVER) ∧
      ∀ nb ∈ state.symNeighbors, nb.neighborMainAddr ≠ t.twoHopNeighborAddr := by
  rw [twoHopNeighbors,List.mem_filter]
  simp only [Bool.and_eq_true,bne_iff_ne,Bool.not_eq_true',List.any_eq_false,beq_iff_eq,and_assoc]
  cases state.symNeighbors.find? (·.neighborMainAddr == t.neighborMainAddr) with
  | none => simp
  | some nb => simp

theorem willing {t : TwoHopNeighborTuple} (strict : t ∈ state.twoHopNeighbors mainAddress) :
    ∃ nb ∈ state.symNeighbors, nb.neighborMainAddr = t.neighborMainAddr ∧
      nb.willingness ≠ Willingness.NEVER := by
  obtain ⟨-,-,⟨nb,found,wants⟩,-⟩ := mem_twoHopNeighbors.mp strict
  have same := List.find?_some found
  exact ⟨nb,List.mem_of_find?_eq_some found,beq_iff_eq.mp same,wants⟩

end OlsrState

/-- The computation ends. Its relays are neighbors over symmetric links that are willing to
relay, with all those among them that always are, and every strict 2-hop neighbor is behind
one of the relays. The loop at the end elects best neighbors only. -/
theorem RoutingProtocol.mprs_cover (router : RoutingProtocol) :
    let n := router.m_state.symNeighbors
    let n2 := router.m_state.twoHopNeighbors router.m_mainAddress
    ∃ mprs : MprSet,
      (∀ fuel, router.m_state.twoHopNeighborSet.length ≤ fuel → router.mprComputation fuel =
        some { router with m_state := { router.m_state with mprSet := mprs } }) ∧
      Greedy n (sole (always n ⟨∅,n2⟩)) ⟨mprs,[]⟩ ∧
      (∀ nb ∈ n, nb.willingness = Willingness.ALWAYS → nb.neighborMainAddr ∈ mprs) ∧
      (∀ t ∈ n2, ∃ u ∈ n2,
        u.twoHopNeighborAddr = t.twoHopNeighborAddr ∧ u.neighborMainAddr ∈ mprs) ∧
      ∀ a ∈ mprs,
        (∃ nb ∈ n, nb.neighborMainAddr = a ∧ nb.willingness ≠ Willingness.NEVER) ∧
        ((∃ nb ∈ n, nb.neighborMainAddr = a ∧ nb.willingness = Willingness.ALWAYS) ∨
          ∃ t ∈ n2, t.neighborMainAddr = a) := by
  intro n n2
  have begun := (@Sound.start n n2).always (fun _ inside => inside)
  have sound := begun.sole
  obtain ⟨⟨mprs,left⟩,run,ended⟩ := greedy_run router.m_state.degree (n := n) fun t inside =>
    (OlsrState.willing (sound.left t inside)).imp fun nb found => ⟨found.1,found.2.1⟩
  obtain rfl : left = [] := run.ends
  have result := sound.greedy run
  have fits : (sole (always n ⟨∅,n2⟩)).n2.length ≤ router.m_state.twoHopNeighborSet.length := calc
    _ ≤ (always n ⟨∅,n2⟩).n2.length := List.length_filter_le _ _
    _ ≤ n2.length := always_length
    _ ≤ _ := List.length_filter_le _ _
  refine ⟨mprs,?_,run,?_,?_,?_⟩
  · intro fuel enough
    rw [RoutingProtocol.mprComputation,ended fuel (fits.trans enough)]
    rfl
  · intro nb known eager
    exact run.keeps (mem_sole.mpr (.inr (mem_always known eager)))
  · intro t strict
    exact (result.covered t strict).resolve_left List.not_mem_nil
  · intro a relay
    have reason := result.needed a relay
    refine ⟨?_,reason⟩
    rcases reason with ⟨nb,known,same,eager⟩ | ⟨t,strict,via⟩
    · exact ⟨nb,known,same,by rw [eager]; decide⟩
    · subst via
      exact OlsrState.willing strict

end UavFanet.Olsr
