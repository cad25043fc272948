import UavFanet.EventSchedulers
import UavFanet.Library.BinaryHeap

/-! The event list of `HeapScheduler`: insertions and `RemoveNext` keep the heap in order, and what
`Remove` does to it. -/
namespace UavFanet.Ns3
namespace HeapScheduler
open Library Library.BinaryHeap

variable {I : Type} [Inhabited I] {m_heap : Array (Event I)} {index : Nat}

def parent (id : Nat) : Nat := id/2
def leftChild (id : Nat) : Nat := id*2
def rightChild (id : Nat) : Nat := id*2+1
def root : Nat := 1
theorem root_pos : 0 < root := Nat.one_pos
def last (m_heap : Array (Event I)) : Nat := m_heap.size-1
abbrev IsRoot (id : Nat) : Prop := id = root
abbrev IsBottom (m_heap : Array (Event I)) (id : Nat) : Prop := m_heap.size ≤ id

abbrev IsLessStrictly (m_heap : Array (Event I)) (a b : Nat) : Prop :=
  m_heap[a]!.key.Less m_heap[b]!.key

def smallest (m_heap : Array (Event I)) (a b : Nat) : Nat :=
  if IsLessStrictly m_heap a b then a else b

theorem isLessStrictly_iff {a b : Nat} :
    IsLessStrictly m_heap a b ↔ m_heap[a]!.rank < m_heap[b]!.rank := EventKey.less_iff

theorem smallest_cases (m_heap : Array (Event I)) (a b : Nat) : (smallest m_heap a b = a ∨ smallest m_heap a b = b) ∧
    m_heap[smallest m_heap a b]!.rank ≤ m_heap[a]!.rank ∧
    m_heap[smallest m_heap a b]!.rank ≤ m_heap[b]!.rank := by
  rw [smallest]
  split
  · rename_i less
    exact ⟨.inl rfl,le_refl _,le_of_lt (isLessStrictly_iff.mp less)⟩
  · rename_i not_less
    exact ⟨.inr rfl,EventKey.not_less.mp not_less,le_refl _⟩

/-- The loop of `BottomUp`, which starts at the last entry. -/
def bottomUp (m_heap : Array (Event I)) (index : Nat) : Array (Event I) :=
  if ¬ IsRoot index ∧ IsLessStrictly m_heap index (parent index) then
    bottomUp (exch m_heap index (parent index)) (parent index)
  else m_heap
termination_by index
decreasing_by
  rename_i goes_up
  rcases Nat.eq_zero_or_pos index with rfl | positive
  · exact absurd (isLessStrictly_iff.mp goes_up.2) (lt_irrefl _)
  · exact Nat.div_lt_self positive (by decide)

/-- `TopDown`. What comes after its loop is the branch without a right child. -/
def topDown (m_heap : Array (Event I)) (index : Nat) (positive : 0 < index) : Array (Event I) :=
  if ¬ IsBottom m_heap (rightChild index) then
    if IsLessStrictly m_heap index
        (smallest m_heap (leftChild index) (rightChild index)) then m_heap
    else
      topDown (exch m_heap index (smallest m_heap (leftChild index) (rightChild index)))
        (smallest m_heap (leftChild index) (rightChild index))
        (by rcases (smallest_cases m_heap (leftChild index) (rightChild index)).1 with same | same <;>
              rw [same] <;> unfold leftChild rightChild at * <;> omega)
  else if IsBottom m_heap index then m_heap
  else if IsBottom m_heap (leftChild index) then m_heap
  else if IsLessStrictly m_heap index (leftChild index) then m_heap
  else exch m_heap index (leftChild index)
termination_by m_heap.size - index
decreasing_by
  rcases (smallest_cases m_heap (leftChild index) (rightChild index)).1 with
    same | same <;>
  rw [size_exch,same] <;> unfold leftChild rightChild at * <;> omega

def insert (ev : Event I) (m_heap : Array (Event I)) : Array (Event I) :=
  bottomUp (m_heap.push ev) (last (m_heap.push ev))

/-- The last event takes the place of another, and goes down from there. -/
def cut (m_heap : Array (Event I)) (i : Nat) (positive : 0 < i) : Array (Event I) :=
  topDown (exch m_heap i (last m_heap)).pop i positive

def removeNext (m_heap : Array (Event I)) : Event I × Array (Event I) :=
  (m_heap[root]!,cut m_heap root root_pos)

/-- The entries from `i` on are looked through. That none has the uid is an assertion. -/
def removeFrom (ev : Event I) (m_heap : Array (Event I)) (i : Nat) (positive : 0 < i) :
    Array (Event I) :=
  if i < m_heap.size then
    if ev.key.m_uid = m_heap[i]!.key.m_uid then cut m_heap i positive
    else removeFrom ev m_heap (i+1) (Nat.succ_pos i)
  else m_heap
termination_by m_heap.size - i

def remove (ev : Event I) (m_heap : Array (Event I)) : Array (Event I) :=
  removeFrom ev m_heap 1 Nat.one_pos

def queue : EventQueue (Event I) where
  State := Array (Event I)
  empty := #[default]
  insert := insert
  isEmpty m_heap := m_heap.size == 1
  peekNext m_heap := m_heap[root]!
  removeNext := removeNext
  remove := remove

theorem perm_bottomUp (positive : 0 < index) (inside : index < m_heap.size) :
    (bottomUp m_heap index).toList.tail.Perm m_heap.toList.tail ∧
      (bottomUp m_heap index).size = m_heap.size := by
  fun_induction bottomUp m_heap index with
  | case1 m_heap index goes_up ih =>
    have inner : 1 < index := by
      have differs : index ≠ 1 := goes_up.1
      omega
    have above : 0 < parent index ∧ parent index < m_heap.size := by
      unfold parent
      omega
    obtain ⟨perm,size⟩ := ih above.1 (by rw [size_exch]; exact above.2)
    rw [size_exch] at size
    exact ⟨perm.trans (perm_tail_exch positive above.1 ⟨inside,above.2⟩),size⟩
  | case2 => exact ⟨List.Perm.refl _,rfl⟩

theorem ordered_bottomUp (positive : 0 < index) (inside : index < m_heap.size)
    (rising : Rising Event.rank m_heap index) : Ordered Event.rank (bottomUp m_heap index) := by
  fun_induction bottomUp m_heap index with
  | case1 m_heap index goes_up ih =>
    have inner : 1 < index := by
      have differs : index ≠ 1 := goes_up.1
      omega
    have above : 0 < parent index ∧ parent index < m_heap.size := by
      unfold parent
      omega
    exact ih above.1 (by rw [size_exch]; exact above.2)
      (rising.exch inner inside (isLessStrictly_iff.mp goes_up.2))
  | case2 m_heap index stops =>
    refine rising.ordered ?_
    rcases Classical.not_and_iff_not_or_not.mp stops with at_root | not_less
    · exact .inl (le_of_eq (not_not.mp at_root))
    · exact .inr (EventKey.not_less.mp not_less)

theorem smallest_child (m_heap : Array (Event I)) (index : Nat)
    (inside : ¬ IsBottom m_heap (rightChild index)) :
    smallest m_heap (leftChild index) (rightChild index)/2 = index ∧
      smallest m_heap (leftChild index) (rightChild index) < m_heap.size := by
  rcases (smallest_cases m_heap (leftChild index) (rightChild index)).1 with same | same <;>
  rw [same] <;> unfold IsBottom leftChild rightChild at * <;> omega

/-- With the children of an entry in the heap, the smallest is not above any of them. -/
theorem smallest_least (m_heap : Array (Event I)) (index k : Nat) (child : k/2 = index) :
    m_heap[smallest m_heap (leftChild index) (rightChild index)]!.rank ≤ m_heap[k]!.rank := by
  obtain ⟨-,left,right⟩ := smallest_cases m_heap (leftChild index) (rightChild index)
  unfold leftChild rightChild at *
  rcases (show k = index*2 ∨ k = index*2+1 by omega) with rfl | rfl
  · exact left
  · exact right

theorem perm_topDown (positive : 0 < index) :
    (topDown m_heap index positive).toList.tail.Perm m_heap.toList.tail ∧
      (topDown m_heap index positive).size = m_heap.size := by
  fun_induction topDown m_heap index positive with
  | case1 | case3 | case4 | case5 => exact ⟨List.Perm.refl _,rfl⟩
  | case2 m_heap index positive inside _ ih =>
    obtain ⟨child,within⟩ := smallest_child m_heap index inside
    obtain ⟨perm,size⟩ := ih
    rw [size_exch] at size
    refine ⟨perm.trans (perm_tail_exch positive (by omega) ⟨by omega,within⟩),size⟩
  | case6 m_heap index positive _ inside within =>
    rw [size_exch]
    unfold IsBottom leftChild at *
    exact ⟨perm_tail_exch positive (by omega) ⟨by omega,by omega⟩,rfl⟩

theorem ordered_topDown (positive : 0 < index) (sinking : Sinking Event.rank m_heap index) :
    Ordered Event.rank (topDown m_heap index positive) := by
  fun_induction topDown m_heap index positive with
  | case1 m_heap index positive inside less =>
    refine sinking.ordered fun k _ _ child => ?_
    exact (le_of_lt (isLessStrictly_iff.mp less)).trans (smallest_least m_heap index k child)
  | case2 m_heap index positive inside not_less ih =>
    obtain ⟨child,within⟩ := smallest_child m_heap index inside
    exact ih (sinking.exch positive within child
      (fun k _ => smallest_least m_heap index k) (EventKey.not_less.mp not_less))
  | case3 m_heap index positive _ outside =>
    refine sinking.ordered fun k _ within child => ?_
    unfold IsBottom at outside
    omega
  | case4 m_heap index positive _ _ outside =>
    refine sinking.ordered fun k _ within child => ?_
    unfold IsBottom leftChild at outside
    omega
  | case5 m_heap index positive right _ left less =>
    refine sinking.ordered fun k _ within child => ?_
    have only : k = leftChild index := by
      unfold IsBottom leftChild rightChild at *
      omega
    rw [only]
    exact le_of_lt (isLessStrictly_iff.mp less)
  | case6 m_heap index positive right _ left not_less =>
    unfold IsBottom leftChild rightChild at *
    have moved := sinking.exch positive (show index*2 < m_heap.size by omega) (by omega)
      (fun k _ _ => le_of_eq (by rw [show k = index*2 by omega])) (EventKey.not_less.mp not_less)
    refine moved.ordered fun k _ within child => ?_
    rw [size_exch] at within
    omega

/-- The entries from slot 1 on are the events, and they are in heap order. -/
def Holds (m_heap : Array (Event I)) (entries : Multiset (Event I)) : Prop :=
  0 < m_heap.size ∧ ↑m_heap.toList.tail = entries ∧ Ordered Event.rank m_heap

variable {entries : Multiset (Event I)} {i : Nat}

theorem Holds.insert (ev : Event I) (held : Holds m_heap entries) :
    Holds (insert ev m_heap) (ev ::ₘ entries) := by
  obtain ⟨filled,rfl,ordered⟩ := held
  have size : (m_heap.push ev).size = m_heap.size+1 := Array.size_push ev
  have bounds : 0 < last (m_heap.push ev) ∧ last (m_heap.push ev) < (m_heap.push ev).size := by
    unfold last
    omega
  have rising : Rising Event.rank (m_heap.push ev) (last (m_heap.push ev)) := by
    unfold last
    constructor
    · intro k inner inside differs
      rw [get_push ev (by omega),get_push ev (by omega)]
      exact ordered k inner (by omega)
    · intro k _ inside child
      omega
  obtain ⟨perm,same_size⟩ := perm_bottomUp bounds.1 bounds.2
  refine ⟨by rw [HeapScheduler.insert,same_size]; omega,?_,ordered_bottomUp bounds.1 bounds.2 rising⟩
  have pushed : (m_heap.push ev).toList.tail = m_heap.toList.tail ++ [ev] := by
    rw [Array.toList_push,toList_eq m_heap filled,List.cons_append,List.tail_cons,List.tail_cons]
  rw [pushed] at perm
  exact Multiset.coe_eq_coe.mpr (perm.trans (List.perm_append_singleton ev _))

theorem Holds.isEmpty (held : Holds m_heap entries) : (m_heap.size == 1) = true ↔ entries = 0 := by
  obtain ⟨filled,rfl,-⟩ := held
  rw [beq_iff_eq,Multiset.coe_eq_zero,← List.length_eq_zero_iff,List.length_tail,
    Array.length_toList]
  omega

theorem perm_cut (positive : 0 < i) (inside : i < m_heap.size) :
    (m_heap[i]! :: (cut m_heap i positive).toList.tail).Perm m_heap.toList.tail ∧
      (cut m_heap i positive).size = m_heap.size-1 := by
  obtain ⟨perm,size⟩ := @perm_topDown _ _ (exch m_heap i (last m_heap)).pop _ positive
  rw [Array.size_pop,size_exch] at size
  exact ⟨(perm.cons _).trans (perm_tail_cut positive inside).symm,size⟩

theorem get_cut {k : Nat} (inside : i < m_heap.size)
    (within : k < (exch m_heap i (last m_heap)).pop.size) :
    (exch m_heap i (last m_heap)).pop[k]! = if k = i then m_heap[last m_heap]! else m_heap[k]! := by
  rw [Array.size_pop,size_exch] at within
  have bound : last m_heap < m_heap.size := by
    unfold last
    omega
  rw [get_pop (by rw [size_exch]; exact within),get_exch inside bound]
  unfold last
  rw [if_neg (show k ≠ m_heap.size-1 by omega)]

/-- The moved event is not before its new parent. -/
def Fits (m_heap : Array (Event I)) (i : Nat) : Prop :=
  1 < i → i < last m_heap → ¬ IsLessStrictly m_heap (last m_heap) (parent i)

theorem ordered_cut (positive : 0 < i) (inside : i < m_heap.size)
    (ordered : Ordered Event.rank m_heap) (fits : Fits m_heap i) :
    Ordered Event.rank (cut m_heap i positive) := by
  refine ordered_topDown positive (ordered.sinking ?_ ?_ ?_)
  · rw [Array.size_pop,size_exch]
    omega
  · intro k within differs
    rw [get_cut inside within,if_neg differs]
  · intro inner within
    rw [get_cut inside within,if_pos rfl]
    rw [Array.size_pop,size_exch] at within
    exact EventKey.not_less.mp (fits inner within)

/-- An event that comes before the events under it stays where it is. -/
theorem topDown_settled (positive : 0 < index)
    (settled : ∀ k, k < m_heap.size → k/2 = index → m_heap[index]!.rank < m_heap[k]!.rank) :
    topDown m_heap index positive = m_heap := by
  rw [topDown]
  split
  · rename_i inside
    obtain ⟨child,within⟩ := smallest_child m_heap index inside
    rw [if_pos (isLessStrictly_iff.mpr (settled _ within child))]
  · split
    · rfl
    · split
      · rfl
      · rename_i inside
        rw [if_pos]
        unfold IsBottom leftChild at *
        exact isLessStrictly_iff.mpr (settled (index*2) (by omega) (by omega))

/-- An event that comes before its new parent is left under it. -/
theorem ordered_cut_iff (positive : 0 < i) (inside : i < m_heap.size)
    (ordered : Ordered Event.rank m_heap) :
    Ordered Event.rank (cut m_heap i positive) ↔ Fits m_heap i := by
  refine ⟨fun after inner before less => ?_,ordered_cut positive inside ordered⟩
  have size : (exch m_heap i (last m_heap)).pop.size = last m_heap := by
    rw [Array.size_pop,size_exch,last]
  have earlier := isLessStrictly_iff.mp less
  rw [cut,topDown_settled] at after
  · have above := after i inner (by rw [size]; exact before)
    rw [get_cut inside (by rw [size]; omega),get_cut inside (by rw [size]; omega),
      if_neg (by omega),if_pos rfl] at above
    exact absurd earlier (not_lt.mpr above)
  · intro k within child
    rw [get_cut inside (by omega),get_cut inside within,if_pos rfl,if_neg (by omega)]
    rw [size] at within
    have up := ordered i inner inside
    have down := ordered k (by omega) (by unfold last at within; omega)
    rw [child] at down
    exact earlier.trans_le (up.trans down)

theorem Holds.removeNext (held : Holds m_heap entries) (filled : entries ≠ 0) :
    ∃ rest, EventQueue.First Event.rank entries m_heap[root]! rest ∧
      Holds (cut m_heap root root_pos) rest := by
  obtain ⟨nonempty,rfl,ordered⟩ := held
  have inside : root < m_heap.size := by
    have length : m_heap.toList.tail.length ≠ 0 := fun none_left =>
      filled ((Multiset.coe_eq_zero _).mpr (List.length_eq_zero_iff.mp none_left))
    rw [List.length_tail,Array.length_toList] at length
    unfold root
    omega
  obtain ⟨perm,size⟩ := perm_cut root_pos inside
  refine ⟨↑(cut m_heap root root_pos).toList.tail,⟨?_,?_⟩,?_,rfl,?_⟩
  · exact Multiset.coe_eq_coe.mpr perm.symm
  · intro other member
    have there : other ∈ m_heap.toList.tail :=
      perm.mem_iff.mp (List.mem_cons_of_mem _ (Multiset.mem_coe.mp member))
    obtain ⟨k,within,rfl⟩ := List.getElem_of_mem there
    rw [List.length_tail,Array.length_toList] at within
    rw [List.getElem_tail,Array.getElem_toList,← getElem!_pos m_heap (k+1) (by omega)]
    exact ordered.root_least (Nat.succ_pos k) (by omega)
  · rw [size]
    unfold root at inside
    omega
  · exact ordered_cut root_pos inside ordered (fun inner => absurd inner (by decide))

theorem removeFrom_found {ev : Event I} (positive : 0 < i) {k : Nat} (later : i ≤ k)
    (inside : k < m_heap.size) (found : ev.uid = m_heap[k]!.uid)
    (distinct : ∀ j, 0 < j → j < k → ev.uid ≠ m_heap[j]!.uid) :
    removeFrom ev m_heap i positive = cut m_heap k (by omega) := by
  fun_induction removeFrom ev m_heap i positive with
  | case1 i positive within same =>
    have here : i = k := by
      by_contra differs
      exact distinct i positive (by omega) same
    subst here
    rfl
  | case2 i positive within differs ih =>
    refine ih ?_
    rcases Nat.eq_or_lt_of_le later with rfl | below
    · exact absurd found differs
    · exact below
  | case3 i positive outside => omega

theorem uid_inj (distinct : EventQueue.Distinct Event.uid (↑m_heap.toList.tail : Multiset (Event I)))
    (positive : 0 < i) (inside : i < m_heap.size) {j : Nat} (above : 0 < j)
    (within : j < m_heap.size) (same : m_heap[i]!.uid = m_heap[j]!.uid) : i = j := by
  have uids : (m_heap.toList.tail.map Event.uid).Nodup := Multiset.coe_nodup.mp distinct
  have length : (m_heap.toList.tail.map Event.uid).length = m_heap.size-1 := by simp
  have get : ∀ k, 0 < k → (bound : k < m_heap.size) →
      (m_heap.toList.tail.map Event.uid).get ⟨k-1,by omega⟩ = m_heap[k]!.uid := by
    intro k later bound
    rw [List.get_eq_getElem,List.getElem_map,List.getElem_tail,Array.getElem_toList,
      getElem!_pos m_heap k bound]
    simp only [Nat.sub_add_cancel later]
  have equal := List.nodup_iff_injective_get.mp uids <|
    (get i positive inside).trans (same.trans (get j above within).symm)
  rw [Fin.mk.injEq] at equal
  omega

/-- The removal of another event than the next is left out. -/
def schedules : Schedules (queue : EventQueue (Event I)) False where
  Holds := Holds
  empty := by
    refine ⟨Nat.one_pos,rfl,?_⟩
    intro k inner inside
    have short : k < 1 := inside
    omega
  insert ev held _ := held.insert ev
  isEmpty held := held.isEmpty
  next held _ filled := by
    obtain ⟨rest,first,after⟩ := held.removeNext filled
    exact ⟨rest,first,rfl,after⟩
  remove never := never.elim

end HeapScheduler

open Library Library.BinaryHeap HeapScheduler in
/-- `Remove` takes out the event alone. It leaves the heap in order if and only if the last event,
which takes the free place, is not before the event above it. -/
theorem heap_remove_ordered_iff [Inhabited I] {m_heap : Array (Event I)}
    {entries : Multiset (Event I)} (held : Holds m_heap entries)
    (distinct : EventQueue.Distinct Event.uid entries) {i : Nat} (positive : 0 < i)
    (inside : i < m_heap.size) :
    m_heap[i]! ::ₘ (↑(HeapScheduler.remove m_heap[i]! m_heap).toList.tail) = entries ∧
    (Ordered Event.rank (HeapScheduler.remove m_heap[i]! m_heap) ↔
      (1 < i → i < last m_heap → ¬ IsLessStrictly m_heap (last m_heap) (parent i))) := by
  obtain ⟨filled,rfl,ordered⟩ := held
  have found : HeapScheduler.remove m_heap[i]! m_heap = cut m_heap i positive := by
    refine removeFrom_found Nat.one_pos positive inside rfl fun j above below same => ?_
    have twice := uid_inj distinct positive inside above (by omega) same
    omega
  rw [found]
  exact ⟨Multiset.coe_eq_coe.mpr (perm_cut positive inside).1,ordered_cut_iff positive inside ordered⟩

open Library Library.BinaryHeap HeapScheduler in
/-- The event at 4 takes the place of the one at 11, under the one at 10. -/
theorem heap_remove_ordered_iff_broken :
    let ev (ts : UInt64) (uid : UInt32) : Event Nat := ⟨0,⟨ts,uid,0⟩⟩
    let m_heap := #[ev 0 0,ev 1 4,ev 10 5,ev 2 6,ev 11 7,ev 12 8,ev 30 9,ev 4 10]
    ¬ Ordered Event.rank (HeapScheduler.remove m_heap[4]! m_heap) := by
  intro ev m_heap
  have ordered : Ordered Event.rank m_heap := by
    have each : ∀ k < 8, 1 < k → ¬ m_heap[k]!.key.Less m_heap[k/2]!.key := by decide
    exact fun k inner inside => EventKey.not_less.mp (each k inside inner)
  intro after
  have distinct : EventQueue.Distinct Event.uid (↑m_heap.toList.tail : Multiset (Event Nat)) :=
    Multiset.coe_nodup.mpr (by decide)
  have fits := (heap_remove_ordered_iff ⟨by decide,rfl,ordered⟩ distinct (by decide)
    (by decide)).2.mp after
  exact fits (by decide) (by decide) (by decide)

end UavFanet.Ns3
