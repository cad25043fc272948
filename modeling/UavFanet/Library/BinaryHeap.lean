import Mathlib.Data.Multiset.Defs
import Mathlib.Order.Lattice

/-! Binary heaps in an array whose slot 0 is not used: the order between each entry and its
parent, and how it is restored by exchanges along one path, upwards or downwards. -/
namespace UavFanet.Library.BinaryHeap

variable {α K : Type}

def exch (heap : Array α) (a b : Nat) : Array α := heap.swapIfInBounds a b

@[simp] theorem size_exch (heap : Array α) (a b : Nat) : (exch heap a b).size = heap.size :=
  Array.size_swapIfInBounds

theorem perm_exch (heap : Array α) (a b : Nat) : (exch heap a b).toList.Perm heap.toList := by
  rw [exch,Array.swapIfInBounds_def]
  split
  · split
    · exact (Array.swap_perm _ _).toList
    · exact List.Perm.refl _
  · exact List.Perm.refl _

variable [Inhabited α]

theorem get_exch {heap : Array α} {a b : Nat} (first : a < heap.size) (second : b < heap.size)
    (k : Nat) :
    (exch heap a b)[k]! = if k = a then heap[b]! else if k = b then heap[a]! else heap[k]! := by
  rw [exch]
  by_cases inside : k < heap.size
  · rw [getElem!_pos (heap.swapIfInBounds a b) k (by simpa using inside),
      Array.getElem_swapIfInBounds]
    split
    · simp_all
    · split <;> simp_all
  · have above : ¬ k < (heap.swapIfInBounds a b).size := by simpa using inside
    rw [getElem!_neg (heap.swapIfInBounds a b) k above,if_neg (by omega),if_neg (by omega),
      getElem!_neg heap k inside]

theorem get_push {heap : Array α} {k : Nat} (e : α) (inside : k < heap.size) :
    (heap.push e)[k]! = heap[k]! := by
  rw [getElem!_pos (heap.push e) k (by rw [Array.size_push]; omega),getElem!_pos heap k inside,
    Array.getElem_push_lt inside]

theorem get_pop {heap : Array α} {k : Nat} (inside : k < heap.size - 1) :
    heap.pop[k]! = heap[k]! := by
  rw [getElem!_pos heap.pop k (by rw [Array.size_pop]; omega),getElem!_pos heap k (by omega),
    Array.getElem_pop]

theorem toList_eq (heap : Array α) (filled : 0 < heap.size) :
    heap.toList = heap[0]! :: heap.toList.tail := by
  obtain ⟨entries⟩ := heap
  cases entries with
  | nil => cases filled
  | cons first rest => rfl

/-- Exchanges leave the unused slot alone. -/
theorem perm_tail_exch {heap : Array α} {a b : Nat} (first : 0 < a) (second : 0 < b)
    (bounds : a < heap.size ∧ b < heap.size) :
    (exch heap a b).toList.tail.Perm heap.toList.tail := by
  have whole := perm_exch heap a b
  rw [toList_eq (exch heap a b) (by rw [size_exch]; omega),toList_eq heap (by omega),
    get_exch bounds.1 bounds.2,if_neg (by omega),if_neg (by omega)] at whole
  exact (List.perm_cons _).mp whole

/-- An entry leaves the heap when it is exchanged with the last one, which is then dropped. -/
theorem perm_tail_cut {heap : Array α} {i : Nat} (positive : 0 < i) (inside : i < heap.size) :
    heap.toList.tail.Perm (heap[i]! :: (exch heap i (heap.size-1)).pop.toList.tail) := by
  have last : heap.size - 1 < heap.size := by omega
  have moved : (exch heap i (heap.size-1))[heap.size-1]! = heap[i]! := by
    rw [get_exch inside last]
    split
    · rename_i same
      rw [same]
    · rw [if_pos rfl]
  refine (perm_tail_exch positive (by omega) ⟨inside,last⟩).symm.trans ?_
  generalize result : exch heap i (heap.size-1) = after at moved
  have size : after.size = heap.size := by rw [← result,size_exch]
  have back : after.back! = heap[i]! := by rw [← moved,← size,Array.back!]
  have others : after.pop.toList ≠ [] := by
    intro none_left
    have length := congrArg List.length none_left
    rw [Array.length_toList,Array.size_pop,List.length_nil] at length
    omega
  have pushed := @Array.eq_push_pop_back!_of_size_ne_zero α _ after (by omega)
  rw [pushed,Array.toList_push,
    List.tail_append_of_ne_nil others,back,Array.pop_push]
  exact List.perm_append_singleton _ _

variable [LinearOrder K] (key : α → K)

def Ordered (heap : Array α) : Prop :=
  ∀ k, 1 < k → k < heap.size → key heap[k/2]! ≤ key heap[k]!

/-- Only entry `i` may be smaller than its parent. -/
structure Rising (heap : Array α) (i : Nat) : Prop where
  elsewhere : ∀ k, 1 < k → k < heap.size → k ≠ i → key heap[k/2]! ≤ key heap[k]!
  around : ∀ k, 1 < i → k < heap.size → k/2 = i → key heap[i/2]! ≤ key heap[k]!

/-- Only entry `i` may be larger than its children. -/
structure Sinking (heap : Array α) (i : Nat) : Prop where
  elsewhere : ∀ k, 1 < k → k < heap.size → k/2 ≠ i → key heap[k/2]! ≤ key heap[k]!
  around : ∀ k, 1 < i → k < heap.size → k/2 = i → key heap[i/2]! ≤ key heap[k]!

variable {key} {heap : Array α} {i c : Nat}

theorem Ordered.root_least (ordered : Ordered key heap) {k : Nat} (positive : 0 < k)
    (inside : k < heap.size) : key heap[1]! ≤ key heap[k]! := by
  induction k using Nat.strong_induction_on with
  | _ k ih =>
    by_cases root : k = 1
    · rw [root]
    · exact (ih (k/2) (by omega) (by omega) (by omega)).trans (ordered k (by omega) inside)

theorem Rising.ordered (rising : Rising key heap i)
    (settled : i ≤ 1 ∨ key heap[i/2]! ≤ key heap[i]!) : Ordered key heap := by
  intro k inner inside
  by_cases here : k = i
  · subst here
    exact settled.resolve_left (by omega)
  · exact rising.elsewhere k inner inside here

/-- An entry that is smaller than its parent changes places with it. -/
theorem Rising.exch (rising : Rising key heap i) (inner : 1 < i) (inside : i < heap.size)
    (smaller : key heap[i]! < key heap[i/2]!) : Rising key (exch heap i (i/2)) (i/2) := by
  have parent : i/2 < heap.size := by omega
  constructor
  · intro k above within differs
    rw [size_exch] at within
    rw [get_exch inside parent,get_exch inside parent,if_neg differs]
    by_cases here : k = i
    · subst here
      rw [if_neg (by omega),if_pos rfl,if_pos rfl]
      exact le_of_lt smaller
    · rw [if_neg here]
      by_cases child : k/2 = i
      · rw [if_pos child]
        exact rising.around k inner within child
      · rw [if_neg child]
        by_cases sibling : k/2 = i/2
        · rw [if_pos sibling]
          have below := rising.elsewhere k above within here
          rw [sibling] at below
          exact (le_of_lt smaller).trans below
        · rw [if_neg sibling]
          exact rising.elsewhere k above within here
  · intro k above within child
    rw [size_exch] at within
    have grandparent := rising.elsewhere (i/2) above parent (by omega)
    rw [get_exch inside parent,get_exch inside parent,if_neg (by omega),if_neg (by omega)]
    by_cases here : k = i
    · rwa [if_pos here]
    · rw [if_neg here,if_neg (by omega)]
      have below := rising.elsewhere k (by omega) within here
      rw [child] at below
      exact grandparent.trans below

theorem Sinking.ordered (sinking : Sinking key heap i)
    (settled : ∀ k, 1 < k → k < heap.size → k/2 = i → key heap[i]! ≤ key heap[k]!) :
    Ordered key heap := by
  intro k inner inside
  by_cases child : k/2 = i
  · rw [child]
    exact settled k inner inside child
  · exact sinking.elsewhere k inner inside child

/-- An entry that is not smaller than the least of its children changes places with it. -/
theorem Sinking.exch (sinking : Sinking key heap i) (positive : 0 < i) (inside : c < heap.size)
    (child : c/2 = i) (least : ∀ k, k < heap.size → k/2 = i → key heap[c]! ≤ key heap[k]!)
    (larger : key heap[c]! ≤ key heap[i]!) : Sinking key (exch heap i c) c := by
  have parent : i < heap.size := by omega
  constructor
  · intro k above within differs
    rw [size_exch] at within
    rw [get_exch parent inside,get_exch parent inside,if_neg differs]
    by_cases here : k = c
    · subst here
      rw [if_pos child,if_neg (by omega),if_pos rfl]
      exact larger
    · rw [if_neg here]
      by_cases sibling : k/2 = i
      · rw [if_pos sibling,if_neg (by omega)]
        exact least k within sibling
      · rw [if_neg sibling]
        by_cases moved : k = i
        · subst moved
          rw [if_pos rfl]
          exact sinking.around c above inside child
        · rw [if_neg moved]
          exact sinking.elsewhere k above within sibling
  · intro k above within below
    rw [size_exch] at within
    rw [child,get_exch parent inside,get_exch parent inside,if_pos rfl,if_neg (by omega),
      if_neg (by omega),← below]
    exact sinking.elsewhere k (by omega) within (by omega)

/-- What was put in the place of an entry may sink from there if it is not smaller than the
parent. -/
theorem Ordered.sinking {after : Array α} (ordered : Ordered key heap)
    (shorter : after.size ≤ heap.size)
    (same : ∀ k, k < after.size → k ≠ i → after[k]! = heap[k]!)
    (fits : 1 < i → i < after.size → key heap[i/2]! ≤ key after[i]!) : Sinking key after i := by
  constructor
  · intro k inner inside differs
    rw [same (k/2) (by omega) differs]
    by_cases here : k = i
    · subst here
      exact fits inner inside
    · rw [same k inside here]
      exact ordered k inner (by omega)
  · intro k inner inside child
    rw [same (i/2) (by omega) (by omega),same k inside (by omega)]
    have up := ordered i inner (by omega)
    have down := ordered k (by omega) (by omega)
    rw [child] at down
    exact up.trans down

end UavFanet.Library.BinaryHeap
