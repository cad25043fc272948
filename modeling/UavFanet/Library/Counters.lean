import UavFanet.Library.Run
import Mathlib.Algebra.Order.Ring.Nat

/-! Machines that number their outputs from several counters, one event from one of them:
while no counter comes to the end of its range, its numbers grow along every run. -/
namespace UavFanet.Library.Run

variable {State Event Output Counter : Type} [DecidableEq Counter]
  (step : State → Event → State × Option Output) (counter : Event → Option Counter)
  (value : State → Counter → Nat) (number : Output → Nat) (bound : Nat)

/-- An output takes its number from the event's counter, which then moves on by one. An event
without an output may move the counter too. -/
structure Counts : Prop where
  kept : ∀ state event c, counter event ≠ some c → value (step state event).1 c = value state c
  drawn : ∀ state event c, counter event = some c → value state c+1 < bound →
    value (step state event).1 c = value state c ∨ value (step state event).1 c = value state c+1
  numbered : ∀ state event c output, counter event = some c → value state c+1 < bound →
    (step state event).2 = some output →
      number output = value state c ∧ value (step state event).1 c = value state c+1

/-- How often a run of these events draws from a counter. -/
def draws (c : Counter) (events : List Event) : Nat :=
  events.countP fun event => decide (counter event = some c)

variable {step counter value number bound}

theorem draws_cons (c : Counter) (event : Event) (rest : List Event) :
    draws counter c (event :: rest) =
      draws counter c rest+if counter event = some c then 1 else 0 := by
  rw [draws,List.countP_cons,draws]
  simp

theorem Counts.room (counts : Counts step counter value number bound) {state : State}
    {event : Event} {rest : List Event} {c : Counter}
    (fits : value state c+draws counter c (event :: rest) < bound) :
    value (step state event).1 c+draws counter c rest < bound := by
  rw [draws_cons] at fits
  by_cases mine : counter event = some c
  · rw [if_pos mine] at fits
    rcases counts.drawn state event c mine (by omega) with same | moved
    · omega
    · omega
  · rw [counts.kept state event c mine]
    omega

theorem Counts.number_range (counts : Counts step counter value number bound) {c : Counter}
    (events : List Event) {start : State} (fits : value start c+draws counter c events < bound) :
    ∀ made ∈ emitted step start events, counter made.1 = some c →
      value start c ≤ number made.2 ∧ number made.2 < value start c+draws counter c events := by
  induction events generalizing start with
  | nil =>
    intro made member
    cases member
  | cons event rest ih =>
    intro made member mine
    have later := ih (counts.room fits) made
    rw [draws_cons] at fits ⊢
    rcases List.mem_append.mp member with now | rest_member
    · obtain ⟨output,emitted_now,rfl⟩ : ∃ output, (step start event).2 = some output ∧
          (event,output) = made := by simpa using now
      rw [if_pos mine] at fits ⊢
      have first := (counts.numbered start event c output mine (by omega) emitted_now).1
      show value start c ≤ number output ∧ number output < _
      omega
    · obtain ⟨least,most⟩ := later rest_member mine
      by_cases drawn : counter event = some c
      · rw [if_pos drawn] at fits ⊢
        rcases counts.drawn start event c drawn (by omega) with same | moved
        · omega
        · omega
      · rw [counts.kept start event c drawn] at least most
        omega

/-- An event without an output takes no number. -/
def LosesNone (step : State → Event → State × Option Output) (counter : Event → Option Counter)
    (value : State → Counter → Nat) (state : State) (event : Event) : Prop :=
  ∀ c, counter event = some c → (step state event).2 = none →
    value (step state event).1 c = value state c

/-- Where no number is lost, a counter's first output has its first number. -/
theorem Counts.origin (counts : Counts step counter value number bound) {c : Counter}
    (events : List Event) {start : State} (fits : value start c+draws counter c events < bound)
    (along : Along step (LosesNone step counter value) start events)
    {made : Event × Output} (member : made ∈ emitted step start events)
    (mine : counter made.1 = some c) :
    ∃ first ∈ emitted step start events, counter first.1 = some c ∧ number first.2 = value start c := by
  induction events generalizing start with
  | nil => cases member
  | cons event rest ih =>
    have fits_now := fits
    rw [draws_cons] at fits_now
    have later (same : value (step start event).1 c = value start c)
        (inside : made ∈ emitted step (step start event).1 rest) :
        ∃ first ∈ emitted step start (event :: rest), counter first.1 = some c ∧
          number first.2 = value start c := by
      obtain ⟨first,first_member,first_mine,first_number⟩ :=
        ih (counts.room fits) along.tail inside
      rw [same] at first_number
      exact ⟨first,List.mem_append_right _ first_member,first_mine,first_number⟩
    by_cases drawn : counter event = some c
    · rw [if_pos drawn] at fits_now
      cases emitted_now : (step start event).2 with
      | none =>
        apply later (along.head c drawn emitted_now)
        rw [emitted,emitted_now] at member
        exact member
      | some output =>
        refine ⟨(event,output),?_,drawn,
          (counts.numbered start event c output drawn (by omega) emitted_now).1⟩
        rw [emitted,emitted_now]
        exact List.mem_cons_self
    · apply later (counts.kept start event c drawn)
      rcases List.mem_append.mp member with now | inside
      · obtain ⟨output,-,rfl⟩ : ∃ output, (step start event).2 = some output ∧
            (event,output) = made := by simpa using now
        exact absurd mine drawn
      · exact inside

theorem Counts.increasing (counts : Counts step counter value number bound) (events : List Event)
    {start : State} (fits : ∀ c, value start c+draws counter c events < bound) :
    (emitted step start events).Pairwise fun first later =>
      ∀ c, counter first.1 = some c → counter later.1 = some c →
        number first.2 < number later.2 := by
  induction events generalizing start with
  | nil => exact List.Pairwise.nil
  | cons event rest ih =>
    have later := ih (fun c => counts.room (fits c))
    rw [emitted]
    cases emitted_now : (step start event).2 with
    | none => exact later
    | some output =>
      apply List.Pairwise.cons ?_ later
      intro made member c mine theirs
      have fits_now := fits c
      rw [draws_cons,if_pos mine] at fits_now
      obtain ⟨first,moved⟩ := counts.numbered start event c output mine (by omega) emitted_now
      have least := (counts.number_range rest (counts.room (fits c)) made member theirs).1
      rw [moved] at least
      exact lt_of_eq_of_lt first least

end UavFanet.Library.Run
