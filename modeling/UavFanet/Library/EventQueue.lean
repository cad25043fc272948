import Mathlib.Data.Multiset.MapFold
import Mathlib.Data.Multiset.ZeroCons
import Mathlib.Data.Multiset.UnionInter
import Mathlib.Order.Basic

/-! Queues that give out the entry with the least rank: what they have to do, and that any two of
them give out the same entries. -/
namespace UavFanet.Library

structure EventQueue (E : Type) where
  State : Type
  empty : State
  insert : E → State → State
  isEmpty : State → Bool
  peekNext : State → E
  removeNext : State → E × State
  remove : E → State → State

namespace EventQueue

variable {E K U : Type}

/-- No two entries have the same name. -/
def Distinct (name : E → U) (entries : Multiset E) : Prop := (entries.map name).Nodup

section Distinct

variable {name : E → U} {e : E} {entries : Multiset E}

theorem distinct_zero : Distinct name 0 := Multiset.nodup_zero

theorem distinct_cons : Distinct name (e ::ₘ entries) ↔
    (∀ other ∈ entries, name other ≠ name e) ∧ Distinct name entries := by
  simp [Distinct,Multiset.nodup_cons]

end Distinct

variable [LinearOrder K]

/-- An entry with the least rank, and the others. -/
structure First (rank : E → K) (entries : Multiset E) (e : E) (rest : Multiset E) : Prop where
  split : entries = e ::ₘ rest
  least : ∀ other ∈ rest, rank e ≤ rank other

theorem First.le {rank : E → K} {entries rest : Multiset E} {e : E}
    (first : First rank entries e rest) : ∀ other ∈ entries, rank e ≤ rank other := by
  rw [first.split]
  exact Multiset.forall_mem_cons.mpr ⟨le_refl _,first.least⟩

theorem First.unique {name : E → U} {rank : E → K} {entries rest left : Multiset E} {e other : E}
    (names : ∀ a b, rank a = rank b → name a = name b) (distinct : Distinct name entries)
    (first : First rank entries e rest)
    (second : First rank entries other left) : e = other ∧ rest = left := by
  have same : e = other := by
    by_contra differs
    have there : other ∈ rest := by
      have member : other ∈ entries := second.split ▸ Multiset.mem_cons_self other left
      rw [first.split] at member
      exact (Multiset.mem_cons.mp member).resolve_left (Ne.symm differs)
    have here : e ∈ left := by
      have member : e ∈ entries := first.split ▸ Multiset.mem_cons_self e rest
      rw [second.split] at member
      exact (Multiset.mem_cons.mp member).resolve_left differs
    rw [first.split] at distinct
    exact (distinct_cons.mp distinct).1 other there
      (names other e (le_antisymm (second.least e here) (first.least other there)))
  subst same
  exact ⟨rfl,(Multiset.cons_inj_right e).mp (first.split.symm.trans second.split)⟩

/-- The queue holds the entries that were put in and not taken out. Taking an entry out of the
middle is part of it only where `removals` is. -/
structure Implements (q : EventQueue E) (name : E → U) (rank : E → K) (removals : Prop) where
  Holds : q.State → Multiset E → Prop
  empty : Holds q.empty 0
  insert : ∀ {s entries} (e), Holds s entries → Distinct name (e ::ₘ entries) →
    Holds (q.insert e s) (e ::ₘ entries)
  isEmpty : ∀ {s entries}, Holds s entries → (q.isEmpty s = true ↔ entries = 0)
  next : ∀ {s entries}, Holds s entries → Distinct name entries → entries ≠ 0 →
    ∃ rest, First rank entries (q.removeNext s).1 rest ∧ q.peekNext s = (q.removeNext s).1 ∧
      Holds (q.removeNext s).2 rest
  remove : removals → ∀ {s e rest}, Holds s (e ::ₘ rest) → Distinct name (e ::ₘ rest) →
    Holds (q.remove e s) rest

end EventQueue
end UavFanet.Library
