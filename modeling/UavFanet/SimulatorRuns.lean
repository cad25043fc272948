import UavFanet.DefaultSimulator
import UavFanet.HeapScheduler
import Mathlib.Algebra.Order.Ring.Int
import Mathlib.Data.Multiset.AddSub

/-! Runs of the simulator: every event that was scheduled is handled in its turn, is still to come or
was removed, and any two schedulers handle the same events. -/
namespace UavFanet.Ns3
open Library

variable {I : Type}

/-- What became of the events, each list in the order of time. -/
structure EventHistory (I : Type) where
  scheduled : List (Event I) := []
  cancelled : List (Event I) := []
  removed : List (Event I) := []
  handled : List (Event I × Bool) := []

/-- How many events are still to come. -/
def EventHistory.pending (history : EventHistory I) : Nat :=
  history.scheduled.length-(history.handled.length+history.removed.length)

def EventHistory.add (history : EventHistory I) : SimulatorNote I → EventHistory I
  | .scheduled ev => { history with scheduled := history.scheduled ++ [ev] }
  | .cancelled ev => { history with cancelled := history.cancelled ++ [ev] }
  | .removed ev => { history with removed := history.removed ++ [ev] }
  | .handled ev invoked => { history with handled := history.handled ++ [(ev,invoked)] }
  | .expired _ => history
  | .delayLeft _ => history

structure SimulatorTrace (q : EventQueue (Event I)) where
  sim : DefaultSimulatorImpl q := {}
  history : EventHistory I := {}

namespace SimulatorTrace

variable {q : EventQueue (Event I)}

def step (trace : SimulatorTrace q) (call : SimulatorCall I) :
    SimulatorTrace q × Option (SimulatorNote I) :=
  let next := trace.sim.perform call
  (⟨next.1,next.2.elim trace.history trace.history.add⟩,next.2)

/-- Neither the uid nor the time stamp nor the count of one more event runs over. -/
structure Room (trace : SimulatorTrace q) (delay : UInt64) : Prop where
  uid : trace.history.scheduled.length+5 < 2^32
  ts : delay.toNat+trace.sim.m_currentTs.toNat < 2^63
  count : trace.history.pending+1 < 2^31

/-- Programs name the events that were scheduled, and `Run` goes on until it is finished. -/
def Allowed (removals : Prop) (trace : SimulatorTrace q) : SimulatorCall I → Prop
  | .schedule delay _ => trace.Room delay
  | .scheduleWithContext _ delay _ => trace.Room delay
  | .cancel id => ∀ ev ∈ id, ev ∈ trace.history.scheduled
  | .remove id => removals ∧ ∀ ev ∈ id, ev ∈ trace.history.scheduled
  | .isExpired id => ∀ ev ∈ id, ev ∈ trace.history.scheduled
  | .getDelayLeft id => ∀ ev ∈ id, ev ∈ trace.history.scheduled
  | .run => True
  | .stop => True
  | .processOneEvent => trace.sim.isFinished = false

end SimulatorTrace

/-- The time stamp and the uid of the last event. -/
def SimulatorState.position (state : SimulatorState) : Nat ×ₗ Nat :=
  toLex (state.m_currentTs.toNat,state.m_currentUid.toNat)

theorem SimulatorState.position_lt {state : SimulatorState} {ev : Event I} :
    state.position < ev.rank ↔ state.m_currentTs.toNat < ev.key.m_ts.toNat ∨
      (state.m_currentTs.toNat = ev.key.m_ts.toNat ∧
        state.m_currentUid.toNat < ev.uid.toNat) :=
  Prod.Lex.toLex_lt_toLex

/-- What a simulator has to show for the events that were scheduled, when `entries` are in its
event list. -/
structure SimulatorTrace.Accounts {q : EventQueue (Event I)} {removals : Prop}
    (this : Schedules q removals) (trace : SimulatorTrace q) (entries : Multiset (Event I)) :
    Prop where
  holds : this.Holds trace.sim.m_events entries
  balance : (↑trace.history.scheduled : Multiset (Event I)) =
    entries+↑(trace.history.handled.map Prod.fst)+↑trace.history.removed
  distinct : EventQueue.Distinct Event.uid (↑trace.history.scheduled : Multiset (Event I))
  uid : trace.sim.m_uid.toNat = trace.history.scheduled.length+4
  below : ∀ ev ∈ trace.history.scheduled, ev.uid.toNat < trace.history.scheduled.length+4
  current : trace.sim.m_currentUid.toNat < trace.history.scheduled.length+4
  coming : ∀ ev ∈ entries, trace.sim.position < ev.rank
  past : ∀ pair ∈ trace.history.handled, pair.1.rank ≤ trace.sim.position
  order : trace.history.handled.Pairwise fun a b => a.1.rank < b.1.rank
  unscheduled : trace.sim.m_unscheduledEvents = Int32.ofNat entries.card
  few : entries.card < 2^31
  count : trace.sim.m_eventCount = UInt64.ofNat trace.history.handled.length
  flags : ∀ ev ∈ trace.history.scheduled, ev.uid ∈ trace.sim.cancelled ↔
    ev ∈ trace.history.cancelled ∨ ev ∈ trace.history.removed
  effective : ∀ uid ∈ trace.sim.cancelled, ∃ ev ∈ trace.history.scheduled, ev.uid = uid
  known : ∀ ev, ev ∈ trace.history.cancelled ∨ ev ∈ trace.history.removed →
    ev ∈ trace.history.scheduled
  invoked : ∀ pair ∈ trace.history.handled, pair.2 = true ↔ pair.1.uid ∉ trace.sim.cancelled

namespace SimulatorTrace

variable {q : EventQueue (Event I)} {removals : Prop} {this : Schedules q removals}
  {trace : SimulatorTrace q} {entries : Multiset (Event I)} {ev : Event I}

theorem Accounts.start : Accounts this {} 0 where
  holds := this.empty
  balance := rfl
  distinct := EventQueue.distinct_zero
  uid := rfl
  below _ impossible := by cases impossible
  current := by
    change (0 : UInt32).toNat < 4
    decide
  coming _ impossible := absurd impossible (Multiset.notMem_zero _)
  past _ impossible := by cases impossible
  order := .nil
  unscheduled := rfl
  few := by rw [Multiset.card_zero]; omega
  count := rfl
  flags _ impossible := by cases impossible
  effective _ impossible := by cases impossible
  known _ impossible := by rcases impossible with impossible | impossible <;> cases impossible
  invoked _ impossible := by cases impossible

theorem Accounts.mem_of_entry (accounts : trace.Accounts this entries) (member : ev ∈ entries) :
    ev ∈ trace.history.scheduled := by
  rw [← Multiset.mem_coe,accounts.balance]
  simp [member]

theorem Accounts.mem_of_handled (accounts : trace.Accounts this entries) {invoked : Bool}
    (member : (ev,invoked) ∈ trace.history.handled) : ev ∈ trace.history.scheduled := by
  have done : ev ∈ trace.history.handled.map Prod.fst := List.mem_map.mpr ⟨_,member,rfl⟩
  rw [← Multiset.mem_coe,accounts.balance]
  simp only [Multiset.mem_add,Multiset.mem_coe]
  exact .inl (.inr done)

theorem Accounts.entry_names (accounts : trace.Accounts this entries) :
    EventQueue.Distinct Event.uid entries := by
  refine Multiset.nodup_of_le (Multiset.map_le_map ?_) accounts.distinct
  rw [accounts.balance,Multiset.add_assoc]
  exact Multiset.le_add_right _ _

theorem Accounts.same (accounts : trace.Accounts this entries) {a b : Event I}
    (first : a ∈ trace.history.scheduled) (second : b ∈ trace.history.scheduled)
    (names : a.uid = b.uid) : a = b :=
  Multiset.inj_on_of_nodup_map accounts.distinct a (Multiset.mem_coe.mpr first) b
    (Multiset.mem_coe.mpr second) names

theorem Accounts.card (accounts : trace.Accounts this entries) :
    entries.card = trace.history.pending := by
  have balance := congrArg Multiset.card accounts.balance
  simp only [Multiset.card_add,Multiset.coe_card,List.length_map] at balance
  rw [EventHistory.pending]
  omega

/-- An event that was scheduled is expired once its turn has come or it is cancelled. -/
theorem Accounts.isExpired_iff (accounts : trace.Accounts this entries)
    (known : ev ∈ trace.history.scheduled) : trace.sim.isExpired (some ev) = false ↔
      ev ∈ entries ∧ ev.uid ∉ trace.sim.cancelled := by
  have later : trace.sim.isExpired (some ev) = false ↔
      trace.sim.position < ev.rank ∧ ev.uid ∉ trace.sim.cancelled := by
    rw [SimulatorState.position_lt]
    simp only [SimulatorState.isExpired,Bool.or_eq_false_iff,Bool.and_eq_false_iff,
      decide_eq_false_iff_not,beq_eq_false_iff_ne,ne_eq,← UInt64.toNat_inj,
      UInt64.lt_iff_toNat_lt,UInt32.le_iff_toNat_le,Event.uid,List.contains_eq_mem]
    constructor
    · rintro ⟨⟨not_before,different⟩,not_cancelled⟩
      refine ⟨?_,not_cancelled⟩
      omega
    · rintro ⟨after,not_cancelled⟩
      refine ⟨⟨?_,?_⟩,not_cancelled⟩ <;> omega
  rw [later]
  refine and_congr_left fun not_cancelled => ⟨fun after => ?_,accounts.coming ev⟩
  have member : ev ∈ entries+↑(trace.history.handled.map Prod.fst)+
      (↑trace.history.removed : Multiset (Event I)) :=
    accounts.balance ▸ Multiset.mem_coe.mpr known
  simp only [Multiset.mem_add,Multiset.mem_coe,List.mem_map] at member
  rcases member with (here | ⟨pair,done,rfl⟩) | taken
  · exact here
  · exact absurd (accounts.past pair done) (not_le.mpr after)
  · exact absurd ((accounts.flags ev known).mpr (.inr taken)) not_cancelled

/-- An event that is still to come was not handled. -/
theorem Accounts.still_invoked (accounts : trace.Accounts this entries)
    (known : ev ∈ trace.history.scheduled) (here : ev ∈ entries) :
    ∀ pair ∈ trace.history.handled,
      pair.2 = true ↔ pair.1.uid ∉ ev.uid :: trace.sim.cancelled := by
  intro pair done
  rw [accounts.invoked pair done,List.mem_cons,not_or]
  refine (and_iff_right fun same => ?_).symm
  have itself := accounts.same (accounts.mem_of_handled done) known same
  exact absurd (accounts.past pair done) (not_le.mpr (itself ▸ accounts.coming ev here))

section Steps

/-- A new event takes a uid after all others, and a turn still to come. -/
theorem Accounts.insert (accounts : trace.Accounts this entries)
    {delay : UInt64} (room : trace.Room delay) (uid : ev.uid = trace.sim.m_uid)
    (time : ev.key.m_ts = delay+trace.sim.m_currentTs) :
    Accounts this ⟨trace.sim.insert ev,trace.history.add (.scheduled ev)⟩ (ev ::ₘ entries) := by
  have number : ev.uid.toNat = trace.history.scheduled.length+4 := by rw [uid,accounts.uid]
  have new : ∀ other ∈ trace.history.scheduled, other.uid ≠ ev.uid := by
    intro other known same
    have below := accounts.below other known
    rw [same,number] at below
    exact absurd below (lt_irrefl _)
  have size : (trace.history.scheduled ++ [ev]).length = trace.history.scheduled.length+1 :=
    List.length_append
  have all : (↑(trace.history.scheduled ++ [ev]) : Multiset (Event I)) =
      ev ::ₘ ↑trace.history.scheduled := Multiset.coe_eq_coe.mpr (List.perm_append_singleton _ _)
  have unflagged : ev.uid ∉ trace.sim.cancelled := by
    intro flagged
    obtain ⟨other,known,same⟩ := accounts.effective _ flagged
    exact new other known same
  have current := accounts.current
  obtain ⟨uids,stamps,events⟩ := room
  have not_past : trace.sim.m_currentTs.toNat ≤ ev.key.m_ts.toNat := by
    rw [time,UInt64.toNat_add,Nat.mod_eq_of_lt (by omega)]
    exact Nat.le_add_left _ _
  constructor
  · exact this.insert ev accounts.holds (EventQueue.distinct_cons.mpr
      ⟨fun other member => new other (accounts.mem_of_entry member),accounts.entry_names⟩)
  · simp only [EventHistory.add]
    rw [all,accounts.balance,Multiset.cons_add,Multiset.cons_add]
  · simp only [EventHistory.add]
    rw [all]
    exact EventQueue.distinct_cons.mpr
      ⟨fun other member => new other (Multiset.mem_coe.mp member),accounts.distinct⟩
  · simp only [EventHistory.add,DefaultSimulatorImpl.insert]
    rw [size,UInt32.toNat_add,accounts.uid,UInt32.toNat_one,Nat.mod_eq_of_lt (by omega)]
  · simp only [EventHistory.add]
    rw [size]
    simp only [List.forall_mem_append,List.forall_mem_singleton]
    exact ⟨fun other known => (accounts.below other known).trans (by omega),by omega⟩
  · simp only [EventHistory.add,DefaultSimulatorImpl.insert]
    rw [size]
    omega
  · refine Multiset.forall_mem_cons.mpr ⟨?_,accounts.coming⟩
    rw [SimulatorState.position_lt]
    simp only [DefaultSimulatorImpl.insert]
    omega
  · exact accounts.past
  · exact accounts.order
  · simp only [DefaultSimulatorImpl.insert]
    rw [accounts.unscheduled,Multiset.card_cons,Int32.ofNat_add]
    rfl
  · rw [Multiset.card_cons,accounts.card]
    exact events
  · exact accounts.count
  · simp only [EventHistory.add,List.forall_mem_append,List.forall_mem_singleton]
    refine ⟨accounts.flags,iff_of_false unflagged ?_⟩
    intro taken
    exact new ev (accounts.known ev taken) rfl
  · intro other flagged
    obtain ⟨found,known,same⟩ := accounts.effective other flagged
    exact ⟨found,List.mem_append_left _ known,same⟩
  · intro other taken
    exact List.mem_append_left _ (accounts.known other taken)
  · exact accounts.invoked

/-- Setting the flag of one more event. -/
theorem Accounts.flag (accounts : trace.Accounts this entries)
    (known : ev ∈ trace.history.scheduled) {history : EventHistory I}
    (marks : ∀ other, other ∈ history.cancelled ∨ other ∈ history.removed ↔
      other = ev ∨ other ∈ trace.history.cancelled ∨ other ∈ trace.history.removed) :
    (∀ other ∈ trace.history.scheduled, other.uid ∈ ev.uid :: trace.sim.cancelled ↔
      other ∈ history.cancelled ∨ other ∈ history.removed) ∧
    ∀ other, other ∈ history.cancelled ∨ other ∈ history.removed →
      other ∈ trace.history.scheduled := by
  constructor
  · intro other scheduled
    rw [marks,List.mem_cons,accounts.flags other scheduled]
    exact or_congr_left ⟨accounts.same scheduled known,congrArg Event.uid⟩
  · intro other marked
    rcases (marks other).mp marked with rfl | before
    · exact known
    · exact accounts.known other before

/-- Cancelling leaves an event in its place, with its flag set. -/
theorem Accounts.cancel (accounts : trace.Accounts this entries)
    (known : ev ∈ trace.history.scheduled) (pending : trace.sim.isExpired (some ev) = false) :
    Accounts this ⟨{ trace.sim with cancelled := ev.uid :: trace.sim.cancelled },
      trace.history.add (.cancelled ev)⟩ entries := by
  obtain ⟨here,-⟩ := (accounts.isExpired_iff known).mp pending
  obtain ⟨flags,marked⟩ := @Accounts.flag _ _ _ _ _ _ _ accounts known
    (trace.history.add (.cancelled ev)) (by
      intro other
      rw [EventHistory.add,List.mem_append,List.mem_singleton]
      tauto)
  exact { accounts with
    flags := flags
    effective := List.forall_mem_cons.mpr ⟨⟨ev,known,rfl⟩,accounts.effective⟩
    known := marked
    invoked := accounts.still_invoked known here }

/-- Removing an event takes it out of the event list. -/
theorem Accounts.remove (accounts : trace.Accounts this entries) (removes : removals)
    (known : ev ∈ trace.history.scheduled) (pending : trace.sim.isExpired (some ev) = false) :
    ∃ rest, entries = ev ::ₘ rest ∧ Accounts this ⟨{ trace.sim with
      m_events := q.remove ev trace.sim.m_events
      cancelled := ev.uid :: trace.sim.cancelled
      m_unscheduledEvents := trace.sim.m_unscheduledEvents-1 },
      trace.history.add (.removed ev)⟩ rest := by
  obtain ⟨here,-⟩ := (accounts.isExpired_iff known).mp pending
  obtain ⟨rest,rfl⟩ := Multiset.exists_cons_of_mem here
  obtain ⟨flags,marked⟩ := @Accounts.flag _ _ _ _ _ _ _ accounts known
    (trace.history.add (.removed ev)) (by
      intro other
      rw [EventHistory.add,List.mem_append,List.mem_singleton]
      tauto)
  refine ⟨rest,rfl,{ accounts with
    holds := this.remove removes accounts.holds accounts.entry_names
    balance := ?_
    coming := (Multiset.forall_mem_cons.mp accounts.coming).2
    unscheduled := ?_
    few := lt_of_le_of_lt (Multiset.card_le_card (Multiset.le_cons_self rest ev)) accounts.few
    flags := flags
    effective := List.forall_mem_cons.mpr ⟨⟨ev,known,rfl⟩,accounts.effective⟩
    known := marked
    invoked := accounts.still_invoked known here }⟩
  · simp only [EventHistory.add]
    rw [accounts.balance,← Multiset.coe_add,Multiset.coe_singleton,Multiset.add_comm _ {ev},
      Multiset.singleton_add,Multiset.add_cons,Multiset.cons_add,Multiset.cons_add]
  · simp only
    rw [accounts.unscheduled,Multiset.card_cons,Int32.ofNat_add]
    exact Int32.add_sub_cancel _ _

/-- The event that is handled is the first of those to come. -/
theorem Accounts.process (accounts : trace.Accounts this entries)
    (filled : q.isEmpty trace.sim.m_events = false) :
    ∃ rest, EventQueue.First Event.rank entries trace.sim.processOneEvent.2.1 rest ∧
      Accounts this ⟨trace.sim.processOneEvent.1,trace.history.add
        (.handled trace.sim.processOneEvent.2.1 trace.sim.processOneEvent.2.2)⟩ rest := by
  have some_left : entries ≠ 0 := by
    intro none_left
    rw [(this.isEmpty accounts.holds).mpr none_left] at filled
    cases filled
  obtain ⟨rest,first,-,after⟩ := this.next accounts.holds accounts.entry_names some_left
  refine ⟨rest,first,?_⟩
  generalize taken : q.removeNext trace.sim.m_events = next at first after
  obtain ⟨ev,m_events⟩ := next
  have here : ev ∈ entries := first.split ▸ Multiset.mem_cons_self ev rest
  have known := accounts.mem_of_entry here
  have handled : trace.sim.processOneEvent.2 = (ev,!trace.sim.cancelled.contains ev.uid) := by
    rw [DefaultSimulatorImpl.processOneEvent,taken]
  have state : trace.sim.processOneEvent.1 = { trace.sim with
      m_events := m_events
      m_unscheduledEvents := trace.sim.m_unscheduledEvents-1
      m_eventCount := trace.sim.m_eventCount+1
      m_currentTs := ev.key.m_ts
      m_currentContext := ev.key.m_context
      m_currentUid := ev.key.m_uid } := by
    rw [DefaultSimulatorImpl.processOneEvent,taken]
  rw [handled,state]
  refine { accounts with
    holds := after
    balance := ?_
    current := accounts.below ev known
    coming := ?_
    past := ?_
    order := ?_
    unscheduled := ?_
    few := lt_of_le_of_lt (Multiset.card_le_card (first.split ▸ Multiset.le_cons_self rest ev))
      accounts.few
    count := ?_
    invoked := ?_ }
  · simp only [EventHistory.add,List.map_append,List.map_singleton]
    rw [accounts.balance,first.split,← Multiset.coe_add,Multiset.coe_singleton,
      Multiset.add_comm _ {ev},Multiset.singleton_add,Multiset.cons_add,Multiset.cons_add,
      Multiset.add_cons,Multiset.cons_add]
  · intro other later
    have above := accounts.entry_names
    rw [first.split] at above
    refine lt_of_le_of_ne (first.least other later) fun same => ?_
    exact (EventQueue.distinct_cons.mp above).1 other later (Event.rank_names other ev same.symm)
  · simp only [EventHistory.add,List.forall_mem_append,List.forall_mem_singleton]
    exact ⟨fun pair done => (accounts.past pair done).trans (le_of_lt (accounts.coming ev here)),
      le_refl _⟩
  · simp only [EventHistory.add]
    refine List.pairwise_append.mpr ⟨accounts.order,List.pairwise_singleton _ _,?_⟩
    intro pair done other last
    rw [List.mem_singleton.mp last]
    exact (accounts.past pair done).trans_lt (accounts.coming ev here)
  · simp only
    rw [accounts.unscheduled,first.split,Multiset.card_cons,Int32.ofNat_add]
    exact Int32.add_sub_cancel _ _
  · simp only [EventHistory.add]
    rw [accounts.count,List.length_append,List.length_singleton,UInt64.ofNat_add]
    rfl
  · simp only [EventHistory.add,List.forall_mem_append,List.forall_mem_singleton]
    refine ⟨accounts.invoked,?_⟩
    simp

/-- Each allowed call keeps the accounts. -/
theorem Accounts.step (accounts : trace.Accounts this entries) {call : SimulatorCall I}
    (allowed : trace.Allowed removals call) : ∃ rest, (trace.step call).1.Accounts this rest := by
  cases call with
  | schedule delay event => exact ⟨_,accounts.insert allowed rfl rfl⟩
  | scheduleWithContext context delay event => exact ⟨_,accounts.insert allowed rfl rfl⟩
  | cancel id =>
    simp only [SimulatorTrace.step,DefaultSimulatorImpl.perform]
    cases id with
    | none => exact ⟨entries,accounts⟩
    | some ev =>
      cases expired : trace.sim.isExpired (some ev) with
      | true =>
        simp only [DefaultSimulatorImpl.cancel,expired]
        exact ⟨entries,accounts⟩
      | false =>
        simp only [DefaultSimulatorImpl.cancel,expired]
        exact ⟨entries,accounts.cancel (allowed ev rfl) expired⟩
  | remove id =>
    simp only [SimulatorTrace.step,DefaultSimulatorImpl.perform]
    cases id with
    | none => exact ⟨entries,accounts⟩
    | some ev =>
      cases expired : trace.sim.isExpired (some ev) with
      | true =>
        simp only [DefaultSimulatorImpl.remove,expired]
        exact ⟨entries,accounts⟩
      | false =>
        obtain ⟨rest,-,after⟩ := accounts.remove allowed.1 (allowed.2 ev rfl) expired
        simp only [DefaultSimulatorImpl.remove,expired]
        exact ⟨rest,after⟩
  | isExpired id => exact ⟨entries,accounts⟩
  | getDelayLeft id => exact ⟨entries,accounts⟩
  | run => exact ⟨entries,{ accounts with }⟩
  | stop => exact ⟨entries,{ accounts with }⟩
  | processOneEvent =>
    obtain ⟨rest,-,after⟩ := accounts.process (Bool.or_eq_false_iff.mp allowed).1
    exact ⟨rest,after⟩

end Steps

theorem accounts_run (this : Schedules q removals) {calls : List (SimulatorCall I)}
    (allowed : Run.Along step (Allowed removals) ({} : SimulatorTrace q) calls) :
    ∃ entries, (Run.final step {} calls).Accounts this entries :=
  @Run.Along.invariant _ _ _ _ _ _ (fun trace => ∃ entries, trace.Accounts this entries) _ allowed
    (fun _ _ allowed ⟨_,accounts⟩ => accounts.step allowed) ⟨0,.start⟩

/-- Two simulators that differ in their event lists only. -/
structure Mirrors {q p : EventQueue (Event I)} (this : Schedules q removals)
    (other : Schedules p removals) (trace : SimulatorTrace q) (twin : SimulatorTrace p) : Prop where
  state : trace.sim.toSimulatorState = twin.sim.toSimulatorState
  history : trace.history = twin.history
  accounts : ∃ entries, trace.Accounts this entries ∧ twin.Accounts other entries

section Mirrors

variable {p : EventQueue (Event I)} {other : Schedules p removals} {twin : SimulatorTrace p}

/-- What is still to come follows from the history. -/
theorem Accounts.same_entries {left : Multiset (Event I)} (accounts : trace.Accounts this entries)
    (accounts_twin : twin.Accounts other left) (same : trace.history = twin.history) :
    entries = left := by
  have balance := accounts.balance
  rw [same,accounts_twin.balance,Multiset.add_assoc,Multiset.add_assoc] at balance
  exact (Multiset.add_left_inj.mp balance).symm

theorem Mirrors.isFinished (mirrors : Mirrors this other trace twin) :
    trace.sim.isFinished = twin.sim.isFinished := by
  obtain ⟨entries,accounts,accounts_twin⟩ := mirrors.accounts
  have empty : q.isEmpty trace.sim.m_events = p.isEmpty twin.sim.m_events := by
    rw [Bool.eq_iff_iff,this.isEmpty accounts.holds,other.isEmpty accounts_twin.holds]
  rw [DefaultSimulatorImpl.isFinished,DefaultSimulatorImpl.isFinished,empty,mirrors.state]

theorem Mirrors.allowed (mirrors : Mirrors this other trace twin) {call : SimulatorCall I}
    (allowed : trace.Allowed removals call) : twin.Allowed removals call := by
  have history := mirrors.history
  have finished := mirrors.isFinished
  have state := mirrors.state
  have room : ∀ delay, trace.Room delay → twin.Room delay := fun delay enough =>
    ⟨history ▸ enough.uid,state ▸ enough.ts,history ▸ enough.count⟩
  cases call with
  | schedule delay event => exact room delay allowed
  | scheduleWithContext context delay event => exact room delay allowed
  | run | stop => trivial
  | cancel | remove | isExpired | getDelayLeft | processOneEvent =>
    simp only [Allowed,history,finished] at allowed ⊢
    exact allowed

/-- Both take the same event next. -/
theorem Mirrors.next (mirrors : Mirrors this other trace twin)
    (unfinished : trace.sim.isFinished = false) :
    (q.removeNext trace.sim.m_events).1 = (p.removeNext twin.sim.m_events).1 := by
  have unfinished_twin := mirrors.isFinished ▸ unfinished
  obtain ⟨entries,accounts,accounts_twin⟩ := mirrors.accounts
  obtain ⟨rest,first,-⟩ := accounts.process (Bool.or_eq_false_iff.mp unfinished).1
  obtain ⟨left,second,-⟩ := accounts_twin.process (Bool.or_eq_false_iff.mp unfinished_twin).1
  exact (first.unique Event.rank_names accounts.entry_names second).1

theorem Mirrors.perform (mirrors : Mirrors this other trace twin) {call : SimulatorCall I}
    (allowed : trace.Allowed removals call) :
    (trace.sim.perform call).2 = (twin.sim.perform call).2 ∧
      (trace.sim.perform call).1.toSimulatorState =
        (twin.sim.perform call).1.toSimulatorState := by
  have next := mirrors.next
  have state := mirrors.state
  obtain ⟨⟨here,m_events⟩,history⟩ := trace
  obtain ⟨⟨there,m_list⟩,history_twin⟩ := twin
  simp only at state next
  subst state
  cases call with
  | schedule | scheduleWithContext | isExpired | getDelayLeft | run | stop => exact ⟨rfl,rfl⟩
  | cancel id =>
    cases id with
    | none => exact ⟨rfl,rfl⟩
    | some ev =>
      simp only [DefaultSimulatorImpl.perform,DefaultSimulatorImpl.cancel]
      split <;> exact ⟨rfl,rfl⟩
  | remove id =>
    cases id with
    | none => exact ⟨rfl,rfl⟩
    | some ev =>
      simp only [DefaultSimulatorImpl.perform,DefaultSimulatorImpl.remove]
      split <;> exact ⟨rfl,rfl⟩
  | processOneEvent =>
    have same := next allowed
    simp only [DefaultSimulatorImpl.perform,DefaultSimulatorImpl.processOneEvent]
    rw [same]
    exact ⟨rfl,rfl⟩

/-- An allowed call has the same answer from both, and leaves them alike. -/
theorem Mirrors.step (mirrors : Mirrors this other trace twin) {call : SimulatorCall I}
    (allowed : trace.Allowed removals call) :
    (trace.step call).2 = (twin.step call).2 ∧
      Mirrors this other (trace.step call).1 (twin.step call).1 := by
  obtain ⟨answer,state⟩ := mirrors.perform allowed
  have history : (trace.step call).1.history = (twin.step call).1.history := by
    simp only [SimulatorTrace.step]
    rw [answer,mirrors.history]
  obtain ⟨entries,accounts,accounts_twin⟩ := mirrors.accounts
  obtain ⟨rest,after⟩ := accounts.step allowed
  obtain ⟨left,after_twin⟩ := accounts_twin.step (mirrors.allowed allowed)
  obtain rfl := after.same_entries after_twin history
  exact ⟨answer,state,history,rest,after,after_twin⟩

theorem Mirrors.outputs {calls : List (SimulatorCall I)}
    (mirrors : Mirrors this other trace twin)
    (allowed : Run.Along SimulatorTrace.step (Allowed removals) trace calls) :
    (Run.outputs SimulatorTrace.step trace calls).map Prod.snd =
      (Run.outputs SimulatorTrace.step twin calls).map Prod.snd := by
  induction calls generalizing trace twin with
  | nil => rfl
  | cons call rest ih =>
    obtain ⟨answer,after⟩ := mirrors.step allowed.head
    rw [Run.outputs,Run.outputs,List.map_append,List.map_append,ih after allowed.tail,answer]
    cases (twin.step call).2 <;> rfl

end Mirrors

/-- What a program sees of the simulator: which events are handled, and the answers to its calls. -/
def answers (q : EventQueue (Event I)) (calls : List (SimulatorCall I)) : List (SimulatorNote I) :=
  (Run.outputs step ({} : SimulatorTrace q) calls).map Prod.snd

theorem answers_eq {p : EventQueue (Event I)} (this : Schedules q removals)
    (other : Schedules p removals) {calls : List (SimulatorCall I)}
    (allowed : Run.Along step (Allowed removals) ({} : SimulatorTrace q) calls) :
    answers q calls = answers p calls := by
  have start : Mirrors this other {} {} := ⟨rfl,rfl,0,.start,.start⟩
  exact start.outputs allowed

/-- Each event that was scheduled is still to come, was handled or was removed. They are handled in
the order of their time stamps and uids, and invoked unless they were cancelled before their turn. -/
theorem events_accounted (this : Schedules q removals) {calls : List (SimulatorCall I)}
    (allowed : Run.Along step (Allowed removals) ({} : SimulatorTrace q) calls) :
    let trace := Run.final step ({} : SimulatorTrace q) calls
    ∃ entries, this.Holds trace.sim.m_events entries ∧
      (↑trace.history.scheduled : Multiset (Event I)) =
        entries+↑(trace.history.handled.map Prod.fst)+↑trace.history.removed ∧
      trace.sim.m_unscheduledEvents.toInt = entries.card ∧
      (∀ ev ∈ trace.history.scheduled, trace.sim.isExpired (some ev) = false ↔
        ev ∈ entries ∧ ev ∉ trace.history.cancelled) ∧
      (∀ pair ∈ trace.history.handled, ∀ ev ∈ entries, pair.1.rank < ev.rank) ∧
      trace.history.handled.Pairwise (fun a b => a.1.rank < b.1.rank) ∧
      ∀ pair ∈ trace.history.handled, pair.2 = true ↔ pair.1 ∉ trace.history.cancelled := by
  obtain ⟨entries,accounts⟩ := accounts_run this allowed
  intro trace
  have apart : ∀ ev, (ev ∈ entries ∨ ev ∈ trace.history.handled.map Prod.fst) →
      ev ∉ trace.history.removed := by
    have single : (entries+↑(trace.history.handled.map Prod.fst)+
        (↑trace.history.removed : Multiset (Event I))).Nodup :=
      accounts.balance ▸ Multiset.Nodup.of_map _ accounts.distinct
    intro ev there taken
    refine Multiset.disjoint_left.mp (Multiset.nodup_add.mp single).2.2 ?_
      (Multiset.mem_coe.mpr taken)
    simpa using there
  have unscheduled : trace.sim.m_unscheduledEvents.toInt = entries.card := by
    rw [accounts.unscheduled,Int32.toInt_ofNat_of_lt accounts.few]
  refine ⟨entries,accounts.holds,accounts.balance,unscheduled,?_,?_,accounts.order,?_⟩
  · intro ev known
    rw [accounts.isExpired_iff known,accounts.flags ev known]
    refine and_congr_right fun here => ?_
    rw [or_iff_left (apart ev (.inl here))]
  · intro pair done ev here
    exact (accounts.past pair done).trans_lt (accounts.coming ev here)
  · intro pair done
    rw [accounts.invoked pair done,accounts.flags _ (accounts.mem_of_handled done),
      or_iff_left (apart _ (.inr (List.mem_map_of_mem done)))]

/-- An event that is cancelled takes its turn and is not invoked. -/
theorem events_accounted_cancelled :
    let calls : List (SimulatorCall Nat) := [.schedule 5 10,.scheduleWithContext 3 2 20,
      .cancel (some ⟨10,⟨5,4,0xffffffff⟩⟩),.run,.processOneEvent,.processOneEvent]
    let trace := Run.final step ({} : SimulatorTrace MapScheduler.queue) calls
    Run.Along step (Allowed True) ({} : SimulatorTrace MapScheduler.queue) calls ∧
    trace.history.handled = [(⟨20,⟨2,5,3⟩⟩,true),(⟨10,⟨5,4,0xffffffff⟩⟩,false)] ∧
    ∃ entries, (MapScheduler.schedules True).Holds trace.sim.m_events entries ∧
      trace.sim.m_unscheduledEvents.toInt = entries.card := by
  intro calls trace
  have allowed : Run.Along step (Allowed True) ({} : SimulatorTrace MapScheduler.queue) calls := by
    refine .cons ?_ (.cons ?_ (.cons ?_ (.cons ?_ (.cons ?_ (.cons ?_ .nil)))))
    · exact ⟨by decide,by decide,by decide⟩
    · exact ⟨by decide,by decide,by decide⟩
    · intro ev named
      cases named
      decide
    · trivial
    · rfl
    · rfl
  refine ⟨allowed,by decide,?_⟩
  obtain ⟨entries,holds,-,unscheduled,-⟩ := events_accounted (MapScheduler.schedules True) allowed
  exact ⟨entries,holds,unscheduled⟩

end SimulatorTrace

open SimulatorTrace in
/-- A program sees the same from a list, from a map and, unless it removes events, from a heap. -/
theorem schedulers_agree [Inhabited I] (calls : List (SimulatorCall I)) :
    (Run.Along step (Allowed True) ({} : SimulatorTrace MapScheduler.queue) calls →
      answers MapScheduler.queue calls = answers ListScheduler.queue calls) ∧
    (Run.Along step (Allowed False) ({} : SimulatorTrace MapScheduler.queue) calls →
      answers MapScheduler.queue calls = answers HeapScheduler.queue calls) :=
  ⟨answers_eq (MapScheduler.schedules True) (ListScheduler.schedules True),
    answers_eq (MapScheduler.schedules False) HeapScheduler.schedules⟩

open SimulatorTrace in
theorem schedulers_agree_two :
    let calls : List (SimulatorCall Nat) := [.schedule 5 10,.schedule 2 20,.run,.processOneEvent]
    answers MapScheduler.queue calls = answers ListScheduler.queue calls ∧
      answers MapScheduler.queue calls = answers HeapScheduler.queue calls := by
  intro calls
  have allowed : ∀ removals : Prop,
      Run.Along step (Allowed removals) ({} : SimulatorTrace MapScheduler.queue) calls := by
    intro removals
    refine .cons ?_ (.cons ?_ (.cons trivial (.cons rfl .nil)))
    · exact ⟨by decide,by decide,by decide⟩
    · exact ⟨by decide,by decide,by decide⟩
  obtain ⟨list,heap⟩ := schedulers_agree calls
  exact ⟨list (allowed True),heap (allowed False)⟩

end UavFanet.Ns3
