import UavFanet.Library.EventQueue
import Mathlib.Data.Prod.Lex

/-! The order of events in the ns-3 core, and two of its event lists: `ListScheduler` and
`MapScheduler`. -/
namespace UavFanet.Ns3
open Library

/-- Time stamps are in time steps. -/
structure EventKey where
  m_ts : UInt64
  m_uid : UInt32
  m_context : UInt32
  deriving DecidableEq,Repr,Inhabited

namespace EventKey

/-- `operator<`. The context has no part in it. -/
def Less (a b : EventKey) : Prop := a.m_ts < b.m_ts ∨ (a.m_ts = b.m_ts ∧ a.m_uid < b.m_uid)

instance (a b : EventKey) : Decidable (a.Less b) := inferInstanceAs (Decidable (_ ∨ _))

def rank (key : EventKey) : Nat ×ₗ Nat := toLex (key.m_ts.toNat,key.m_uid.toNat)

variable {a b : EventKey}

theorem less_iff : a.Less b ↔ a.rank < b.rank := by
  rw [rank,rank,Prod.Lex.toLex_lt_toLex,Less,UInt64.lt_iff_toNat_lt,UInt32.lt_iff_toNat_lt,
    UInt64.toNat_inj]

theorem rank_inj : a.rank = b.rank ↔ a.m_ts = b.m_ts ∧ a.m_uid = b.m_uid := by
  rw [rank,rank,toLex_inj,Prod.mk.injEq,UInt64.toNat_inj,UInt32.toNat_inj]

theorem ts_le (before : a.rank ≤ b.rank) : a.m_ts.toNat ≤ b.m_ts.toNat := by
  rcases Prod.Lex.toLex_le_toLex.mp before with earlier | ⟨same,-⟩
  · exact le_of_lt earlier
  · exact le_of_eq same

theorem not_less : ¬ a.Less b ↔ b.rank ≤ a.rank := by rw [less_iff,not_lt]

end EventKey

structure Event (I : Type) where
  impl : I
  key : EventKey
  deriving DecidableEq,Repr,Inhabited

variable {I : Type}

namespace Event

def uid (ev : Event I) : UInt32 := ev.key.m_uid

def rank (ev : Event I) : Nat ×ₗ Nat := ev.key.rank

theorem rank_names (a b : Event I) (same : a.rank = b.rank) : a.uid = b.uid :=
  (EventKey.rank_inj.mp same).2

end Event

/-- What a scheduler has to do, by the uid and the order of its events. -/
abbrev Schedules (q : EventQueue (Event I)) (removals : Prop) :=
  q.Implements Event.uid Event.rank removals

abbrev Sorted (events : List (Event I)) : Prop := events.Pairwise fun a b => a.rank ≤ b.rank

theorem first_of_sorted {ev : Event I} {rest : List (Event I)} (sorted : Sorted (ev::rest)) :
    EventQueue.First Event.rank ↑(ev::rest) ev ↑rest where
  split := rfl
  least _ member := List.rel_of_pairwise_cons sorted (Multiset.mem_coe.mp member)

/-- In a list of events the first that passes a test on names is the one of its name. -/
theorem perm_eraseP {U : Type} {name : Event I → U} {passes : Event I → Bool} {ev : Event I}
    {events : List (Event I)} {rest : Multiset (Event I)}
    (held : (↑events : Multiset (Event I)) = ev ::ₘ rest)
    (distinct : EventQueue.Distinct name (ev ::ₘ rest)) (own : passes ev = true)
    (others : ∀ other, passes other = true → name other = name ev) :
    (↑(events.eraseP passes) : Multiset (Event I)) = rest := by
  have here : ev ∈ events := Multiset.mem_coe.mp (held ▸ Multiset.mem_cons_self ev rest)
  obtain ⟨found,front,back,-,passed,split,erased⟩ := List.exists_of_eraseP here own
  have same : found = ev := by
    have member : found ∈ ev ::ₘ rest := by
      rw [← held,split]
      simp
    rcases Multiset.mem_cons.mp member with same | elsewhere
    · exact same
    · exact absurd (others found passed) ((EventQueue.distinct_cons.mp distinct).1 found elsewhere)
  subst same
  rw [erased,← Multiset.cons_inj_right found,← held,split,Multiset.cons_coe,Multiset.coe_eq_coe]
  exact List.perm_middle.symm

namespace ListScheduler

def insert (ev : Event I) : List (Event I) → List (Event I)
  | [] => [ev]
  | i :: rest => if ev.key.Less i.key then ev :: i :: rest else i :: insert ev rest

def remove (ev : Event I) (m_events : List (Event I)) : List (Event I) :=
  m_events.eraseP fun i => i.key.m_uid == ev.key.m_uid

def queue [Inhabited I] : EventQueue (Event I) where
  State := List (Event I)
  empty := []
  insert := insert
  isEmpty m_events := m_events.isEmpty
  peekNext m_events := m_events.head!
  removeNext m_events := (m_events.head!,m_events.tail)
  remove := remove

theorem perm_insert (ev : Event I) (m_events : List (Event I)) :
    (insert ev m_events).Perm (ev::m_events) := by
  induction m_events with
  | nil => exact List.Perm.refl _
  | cons i rest ih =>
    rw [insert]
    split
    · exact List.Perm.refl _
    · exact (ih.cons i).trans (List.Perm.swap ev i rest)

theorem sorted_insert (ev : Event I) {m_events : List (Event I)} (sorted : Sorted m_events) :
    Sorted (insert ev m_events) := by
  induction m_events with
  | nil => exact List.pairwise_singleton _ _
  | cons i rest ih =>
    obtain ⟨first,others⟩ := List.pairwise_cons.mp sorted
    rw [insert]
    split
    · rename_i earlier
      have below : ev.rank ≤ i.rank := le_of_lt (EventKey.less_iff.mp earlier)
      refine List.pairwise_cons.mpr ⟨fun other member => ?_,sorted⟩
      rcases List.mem_cons.mp member with rfl | later
      · exact below
      · exact below.trans (first other later)
    · rename_i not_earlier
      refine List.pairwise_cons.mpr ⟨fun other member => ?_,ih others⟩
      rcases List.mem_cons.mp ((perm_insert ev rest).mem_iff.mp member) with rfl | later
      · exact EventKey.not_less.mp not_earlier
      · exact first other later

/-- The list holds the events, in their order. -/
def Holds (m_events : List (Event I)) (entries : Multiset (Event I)) : Prop :=
  ↑m_events = entries ∧ Sorted m_events

variable {ev : Event I} {m_events : List (Event I)} {entries rest : Multiset (Event I)}

theorem Holds.insert (ev : Event I) (held : Holds m_events entries) :
    Holds (insert ev m_events) (ev ::ₘ entries) := by
  refine ⟨?_,sorted_insert ev held.2⟩
  rw [← held.1]
  exact Multiset.coe_eq_coe.mpr (perm_insert ev m_events)

theorem Holds.isEmpty (held : Holds m_events entries) :
    m_events.isEmpty = true ↔ entries = 0 := by
  rw [← held.1,Multiset.coe_eq_zero,List.isEmpty_iff]

theorem Holds.remove (held : Holds m_events (ev ::ₘ rest))
    (distinct : EventQueue.Distinct Event.uid (ev ::ₘ rest)) :
    Holds (remove ev m_events) rest := by
  refine ⟨perm_eraseP held.1 distinct ?_ ?_,held.2.sublist List.eraseP_sublist⟩
  · exact beq_self_eq_true _
  · exact fun other same => eq_of_beq same

def schedules [Inhabited I] (removals : Prop) :
    Schedules (queue : EventQueue (Event I)) removals where
  Holds := Holds
  empty := ⟨rfl,List.Pairwise.nil⟩
  insert ev held _ := held.insert ev
  isEmpty held := held.isEmpty
  next {m_events entries} held _ filled := by
    obtain ⟨rfl,sorted⟩ := held
    match m_events with
    | [] => exact absurd rfl filled
    | first :: rest => exact ⟨↑rest,first_of_sorted sorted,rfl,rfl,sorted.of_cons⟩
  remove _ _ _ _ held distinct := held.remove distinct

end ListScheduler

namespace MapScheduler

/-- `std::map::insert`, which leaves an entry of an equivalent key as it is. -/
def insert (ev : Event I) : List (Event I) → List (Event I)
  | [] => [ev]
  | i :: rest =>
    if ev.key.Less i.key then ev :: i :: rest
    else if i.key.Less ev.key then i :: insert ev rest
    else i :: rest

/-- `find` and `erase`: the entry whose key is neither before nor after. -/
def remove (ev : Event I) (m_list : List (Event I)) : List (Event I) :=
  m_list.eraseP fun i => ¬ i.key.Less ev.key ∧ ¬ ev.key.Less i.key

/-- The entries of the `std::map` in the order of their keys. -/
def queue [Inhabited I] : EventQueue (Event I) where
  State := List (Event I)
  empty := []
  insert := insert
  isEmpty m_list := m_list.isEmpty
  peekNext m_list := m_list.head!
  removeNext m_list := (m_list.head!,m_list.tail)
  remove := remove

/-- A map takes a new key to where a list does. -/
theorem insert_new {ev : Event I} {m_list : List (Event I)}
    (new : ∀ other ∈ m_list, other.uid ≠ ev.uid) :
    insert ev m_list = ListScheduler.insert ev m_list := by
  induction m_list with
  | nil => rfl
  | cons i rest ih =>
    obtain ⟨differs,others⟩ := List.forall_mem_cons.mp new
    rw [insert,ListScheduler.insert,ih others]
    split
    · rfl
    · rename_i not_earlier
      rw [if_pos]
      refine EventKey.less_iff.mpr (lt_of_le_of_ne (EventKey.not_less.mp not_earlier) ?_)
      exact fun same => differs (Event.rank_names i ev same)

theorem insert_holds {m_list : List (Event I)} {entries : Multiset (Event I)} (ev : Event I)
    (held : ListScheduler.Holds m_list entries)
    (distinct : EventQueue.Distinct Event.uid (ev ::ₘ entries)) :
    ListScheduler.Holds (insert ev m_list) (ev ::ₘ entries) := by
  rw [insert_new]
  · exact held.insert ev
  · intro other member
    exact (EventQueue.distinct_cons.mp distinct).1 other (held.1 ▸ Multiset.mem_coe.mpr member)

theorem remove_holds {m_list : List (Event I)} {ev : Event I} {rest : Multiset (Event I)}
    (held : ListScheduler.Holds m_list (ev ::ₘ rest))
    (distinct : EventQueue.Distinct Event.uid (ev ::ₘ rest)) :
    ListScheduler.Holds (remove ev m_list) rest := by
  refine ⟨perm_eraseP held.1 distinct ?_ ?_,held.2.sublist List.eraseP_sublist⟩
  · simp [EventKey.less_iff]
  · intro other passed
    obtain ⟨not_before,not_after⟩ := of_decide_eq_true passed
    exact Event.rank_names other ev
      (le_antisymm (EventKey.not_less.mp not_after) (EventKey.not_less.mp not_before))

def schedules [Inhabited I] (removals : Prop) :
    Schedules (queue : EventQueue (Event I)) removals where
  Holds := ListScheduler.Holds
  empty := ⟨rfl,List.Pairwise.nil⟩
  insert ev held distinct := insert_holds ev held distinct
  isEmpty held := held.isEmpty
  next held distinct filled := (ListScheduler.schedules removals).next held distinct filled
  remove _ _ _ _ held distinct := remove_holds held distinct

end MapScheduler
end UavFanet.Ns3
