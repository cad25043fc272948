import Mathlib.Data.List.Induction
import Mathlib.Order.Lattice
import UavFanet.Library.Run

/-! Contents announced under versions: when a version names one content, and when a receiver
that drops what does not raise its own version still follows every change. -/
namespace UavFanet.Library.Versions

/-- What is put out carries the version of the state it leaves. -/
structure Announcer (State Event Output V K : Type) where
  step : State → Event → State × Option Output
  version : State → V
  content : State → K
  stamp : Output → V
  stamped : ∀ state event output, (step state event).2 = some output →
    stamp output = version (step state event).1

structure Receiver (V K : Type) where
  version : V
  content : Option K

variable {State Event Output V K : Type}

/-- No version names two contents. -/
def Names (sent : List (V × K)) : Prop :=
  ∀ first ∈ sent, ∀ later ∈ sent, first.1 = later.1 → first.2 = later.2

namespace Announcer

variable (m : Announcer State Event Output V K)

abbrev final (start : State) (events : List Event) : State := Run.final m.step start events

/-- The announcements of a run: each version with the content of the state it was made in. -/
def sent (start : State) (events : List Event) : List (V × K) :=
  (Run.outputs m.step start events).map fun made => (m.stamp made.2,m.content made.1)

def announced (state : State) (event : Event) : List (V × K) :=
  ((m.step state event).2.map fun _ =>
    (m.version (m.step state event).1,m.content (m.step state event).1)).toList

@[simp] theorem sent_nil (start : State) : m.sent start [] = [] := rfl

theorem sent_cons (start : State) (event : Event) (rest : List Event) :
    m.sent start (event :: rest) = m.announced start event ++ m.sent (m.step start event).1 rest := by
  unfold sent
  rw [Run.outputs,List.map_append,announced]
  congr 1
  cases made : (m.step start event).2 with
  | none => rfl
  | some output =>
    have stamp := m.stamped start event output made
    simp [stamp]

theorem sent_append (front rest : List Event) (start : State) :
    m.sent start (front ++ rest) = m.sent start front ++ m.sent (m.final start front) rest := by
  induction front generalizing start with
  | nil => rfl
  | cons event front ih =>
    have later : m.final start (event :: front) = m.final (m.step start event).1 front := Run.final_cons ..
    rw [List.cons_append,sent_cons,sent_cons,ih,List.append_assoc,later]

theorem sent_concat (front : List Event) (event : Event) (start : State) :
    m.sent start (front ++ [event]) =
      m.sent start front ++ m.announced (m.final start front) event := by
  rw [sent_append,sent_cons,sent_nil,List.append_nil]

theorem final_concat (front : List Event) (event : Event) (start : State) :
    m.final start (front ++ [event]) = (m.step (m.final start front) event).1 := by
  unfold final Run.final
  rw [List.foldl_append]
  rfl

end Announcer

variable [LinearOrder V]

/-- Versions not larger than the own one are dropped. -/
def Receiver.hear (receiver : Receiver V K) (sent : V × K) : Receiver V K :=
  if sent.1 ≤ receiver.version then receiver else { version := sent.1, content := some sent.2 }

theorem Receiver.hear_stale {receiver : Receiver V K} {sent : V × K}
    (stale : sent.1 ≤ receiver.version) : receiver.hear sent = receiver := if_pos stale

theorem Receiver.hear_fresh {receiver : Receiver V K} {sent : V × K}
    (fresh : receiver.version < sent.1) :
    receiver.hear sent = { version := sent.1, content := some sent.2 } := if_neg (not_le.mpr fresh)

/-- The receiver that has taken over the last announcement, if there is one. -/
def Receiver.holding (low : V) : Option (V × K) → Receiver V K
  | none => { version := low, content := none }
  | some last => { version := last.1, content := some last.2 }

namespace Announcer

variable (m : Announcer State Event Output V K)

/-- After every change of the content the next announcement has a larger version than all before. -/
def Raises (start : State) (events : List Event) : Prop :=
  ∀ front event rest, events = front ++ event :: rest →
    m.content (m.step (m.final start front) event).1 ≠ m.content (m.final start front) →
      ∀ next, (m.sent (m.final start front) (event :: rest)).head? = some next →
        ∀ earlier ∈ m.sent start front, earlier.1 < next.1

/-- A receiver that hears all announcements in order always has the content of the last one. -/
def NeverMisses (low : V) (start : State) (events : List Event) : Prop :=
  ∀ front rest, events = front ++ rest →
    ((m.sent start front).foldl Receiver.hear (.holding low none)).content =
      (m.sent start front).getLast?.map Prod.snd

structure Identifies (low : V) (start : State) (events : List Event) : Prop where
  names : Names (m.sent start events)
  raises : m.Raises start events
  misses : m.NeverMisses low start events

/-- No step lowers the version, and one that changes the content raises it or stays above all
that was sent. -/
def Careful (start : State) (events : List Event) : Prop :=
  ∀ front event rest, events = front ++ event :: rest →
    let state := m.final start front
    let next := (m.step state event).1
    m.version state ≤ m.version next ∧
      (m.content next ≠ m.content state → m.version state < m.version next ∨
        ∀ earlier ∈ m.sent start front, earlier.1 < m.version state)

/-- What has been sent, against the state that sent it. -/
structure Current (low : V) (state : State) (sent : List (V × K)) : Prop where
  above : low < m.version state
  bound : ∀ earlier ∈ sent, earlier.1 ≤ m.version state
  same : ∀ earlier ∈ sent, earlier.1 = m.version state → earlier.2 = m.content state
  names : Names sent
  heard : sent.foldl Receiver.hear (.holding low none) = .holding low sent.getLast?

variable {m} {low : V} {state next start : State} {sent : List (V × K)} {events : List Event}

theorem Current.moved (current : m.Current low state sent) (grows : m.version state ≤ m.version next)
    (rises : m.content next ≠ m.content state → ∀ earlier ∈ sent, earlier.1 < m.version next) :
    m.Current low next sent where
  above := lt_of_lt_of_le current.above grows
  bound earlier member := le_trans (current.bound earlier member) grows
  same earlier member equal := by
    by_cases kept : m.content next = m.content state
    · rw [kept]
      apply current.same earlier member
      apply le_antisymm (current.bound earlier member)
      rw [equal]
      exact grows
    · exact absurd equal (ne_of_lt (rises kept earlier member))
  names := current.names
  heard := current.heard

theorem Current.announce (current : m.Current low state sent) :
    m.Current low state (sent ++ [(m.version state,m.content state)]) where
  above := current.above
  bound := by
    intro earlier member
    rcases List.mem_append.mp member with before | now
    · exact current.bound earlier before
    · rw [List.mem_singleton.mp now]
  same := by
    intro earlier member equal
    rcases List.mem_append.mp member with before | now
    · exact current.same earlier before equal
    · rw [List.mem_singleton.mp now]
  names := by
    intro first first_sent later later_sent equal
    rcases List.mem_append.mp first_sent with before | now
    · rcases List.mem_append.mp later_sent with later_before | later_now
      · exact current.names first before later later_before equal
      · rw [List.mem_singleton.mp later_now] at equal ⊢
        exact current.same first before equal
    · rcases List.mem_append.mp later_sent with later_before | later_now
      · rw [List.mem_singleton.mp now] at equal ⊢
        exact (current.same later later_before equal.symm).symm
      · rw [List.mem_singleton.mp now,List.mem_singleton.mp later_now]
  heard := by
    rw [List.foldl_append,current.heard,List.getLast?_concat,List.foldl_cons,List.foldl_nil]
    cases last : sent.getLast? with
    | none => exact Receiver.hear_fresh current.above
    | some earlier =>
      have member : earlier ∈ sent := List.mem_of_getLast? last
      by_cases stale : m.version state ≤ earlier.1
      · have equal := le_antisymm (current.bound earlier member) stale
        have content := current.same earlier member equal
        rw [Receiver.hear_stale stale]
        exact congrArg (fun last => Receiver.holding low (some last)) (Prod.ext equal content)
      · exact Receiver.hear_fresh (not_le.mp stale)

theorem Current.step (current : m.Current low state sent) (event : Event)
    (grows : m.version state ≤ m.version (m.step state event).1)
    (rises : m.content (m.step state event).1 ≠ m.content state →
      ∀ earlier ∈ sent, earlier.1 < m.version (m.step state event).1) :
    m.Current low (m.step state event).1 (sent ++ m.announced state event) := by
  have moved := current.moved grows rises
  unfold announced
  cases (m.step state event).2 with
  | none => simpa using moved
  | some output => exact moved.announce

theorem Current.rises (current : m.Current low state sent)
    (grows : m.version state ≤ m.version next)
    (raised : m.version state < m.version next ∨ ∀ earlier ∈ sent, earlier.1 < m.version state) :
    ∀ earlier ∈ sent, earlier.1 < m.version next := by
  intro earlier member
  rcases raised with larger | unannounced
  · exact lt_of_le_of_lt (current.bound earlier member) larger
  · exact lt_of_lt_of_le (unannounced earlier member) grows

theorem Careful.current (careful : m.Careful start events) (above : low < m.version start)
    (front : List Event) :
    ∀ rest, events = front ++ rest → m.Current low (m.final start front) (m.sent start front) := by
  induction front using List.reverseRecOn with
  | nil =>
    intro rest _
    exact ⟨above,by simp,by simp,by simp [Names],rfl⟩
  | append_singleton front event ih =>
    intro rest split_events
    rw [List.append_assoc] at split_events
    obtain ⟨grows,raised⟩ := careful front event rest split_events
    have current := ih _ split_events
    rw [sent_concat,final_concat]
    exact current.step event grows fun changed => current.rises grows (raised changed)

theorem Careful.grows (careful : m.Careful start events) (front middle : List Event) :
    ∀ rest, events = front ++ (middle ++ rest) →
      m.version (m.final start front) ≤ m.version (m.final start (front ++ middle)) ∧
      ∀ later ∈ m.sent (m.final start front) middle, m.version (m.final start front) ≤ later.1 := by
  induction middle using List.reverseRecOn with
  | nil =>
    intro rest _
    rw [List.append_nil]
    exact ⟨le_rfl,by simp⟩
  | append_singleton middle event ih =>
    intro rest split_events
    rw [List.append_assoc] at split_events
    obtain ⟨before,sent_before⟩ := ih _ split_events
    obtain ⟨grows,-⟩ := careful (front ++ middle) event rest (by rw [split_events,List.append_assoc]; rfl)
    have after : m.version (m.final start front) ≤
        m.version (m.step (m.final start (front ++ middle)) event).1 := le_trans before grows
    rw [← List.append_assoc,final_concat]
    refine ⟨after,?_⟩
    intro later member
    rw [sent_concat] at member
    rcases List.mem_append.mp member with earlier | now
    · exact sent_before later earlier
    · have joined : m.final (m.final start front) middle = m.final start (front ++ middle) := by
        unfold final Run.final
        rw [List.foldl_append]
      rw [joined,announced,Option.mem_toList] at now
      obtain ⟨output,-,rfl⟩ := Option.map_eq_some_iff.mp now
      exact after

theorem Careful.raises (careful : m.Careful start events) (above : low < m.version start) :
    m.Raises start events := by
  intro front event rest split_events changed next first earlier member
  obtain ⟨grows,raised⟩ := careful front event rest split_events
  have current := careful.current above front (event :: rest) split_events
  apply lt_of_lt_of_le (current.rises grows (raised changed) earlier member)
  have announced_next := List.mem_of_mem_head? (Option.mem_def.mpr first)
  rw [sent_cons] at announced_next
  rcases List.mem_append.mp announced_next with now | later
  · rw [announced,Option.mem_toList] at now
    obtain ⟨output,-,rfl⟩ := Option.map_eq_some_iff.mp now
    exact le_rfl
  · rw [← final_concat] at later ⊢
    obtain ⟨-,bound⟩ := careful.grows (front ++ [event]) rest [] (by rw [split_events]; simp)
    exact bound next later

/-- A careful run identifies contents by versions, for every receiver that starts below. -/
theorem Careful.identifies (careful : m.Careful start events) (above : low < m.version start) :
    m.Identifies low start events where
  names := (careful.current above events [] (by simp)).names
  raises := careful.raises above
  misses := by
    intro front rest split_events
    rw [(careful.current above front rest split_events).heard]
    cases (m.sent start front).getLast? with
    | none => rfl
    | some last => rfl

end Announcer
end UavFanet.Library.Versions
