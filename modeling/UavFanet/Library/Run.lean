import Mathlib.Data.List.Basic

/-! Runs of a machine whose steps may put something out: final states, the outputs with
the states they leave behind, and the rules that lift one step to a run. -/
namespace UavFanet.Library.Run

variable {State Event Output : Type} (step : State → Event → State × Option Output)

def final (start : State) (events : List Event) : State :=
  events.foldl (fun state event => (step state event).1) start

/-- Every output of a run, with the state right after the step that made it. -/
def outputs : State → List Event → List (State × Output)
  | _, [] => []
  | state, event :: rest =>
    let next := step state event
    (next.2.map fun output => (next.1,output)).toList ++ outputs next.1 rest

@[simp] theorem final_nil (start : State) : final step start [] = start := rfl

@[simp] theorem final_cons (start : State) (event : Event) (rest : List Event) :
    final step start (event :: rest) = final step (step start event).1 rest := rfl

theorem final_append (front rest : List Event) (start : State) :
    final step start (front ++ rest) = final step (final step start front) rest :=
  List.foldl_append ..

/-- Every output of a run, with the event that made it. -/
def emitted : State → List Event → List (Event × Output)
  | _, [] => []
  | state, event :: rest =>
    let next := step state event
    (next.2.map fun output => (event,output)).toList ++ emitted next.1 rest

/-- What every step keeps holds at the end of every run. -/
theorem final_invariant {Invariant : State → Prop}
    (kept : ∀ state event, Invariant state → Invariant (step state event).1)
    {start : State} (initial : Invariant start) (events : List Event) :
    Invariant (final step start events) := by
  induction events generalizing start with
  | nil => exact initial
  | cons event rest ih => exact ih (kept start event initial)

/-- Every event of a run is allowed in the state it meets. -/
def Along (Allowed : State → Event → Prop) (start : State) (events : List Event) : Prop :=
  ∀ front event rest, events = front ++ event :: rest → Allowed (final step start front) event

section Allowed

variable {step} {Allowed : State → Event → Prop} {start : State}

theorem Along.nil : Along step Allowed start [] := by
  intro front event rest impossible
  cases front <;> cases impossible

theorem Along.head {event : Event} {rest : List Event}
    (along : Along step Allowed start (event :: rest)) : Allowed start event :=
  along [] event rest rfl

theorem Along.tail {event : Event} {rest : List Event}
    (along : Along step Allowed start (event :: rest)) :
    Along step Allowed (step start event).1 rest := by
  intro front later tail split_rest
  exact along (event :: front) later tail (by rw [split_rest]; rfl)

theorem Along.cons {event : Event} {rest : List Event} (first : Allowed start event)
    (later : Along step Allowed (step start event).1 rest) :
    Along step Allowed start (event :: rest) := by
  intro front other tail split_events
  cases front with
  | nil =>
    cases split_events
    exact first
  | cons head front =>
    cases split_events
    exact later front other tail rfl

theorem Along.front {front rest : List Event} (along : Along step Allowed start (front ++ rest)) :
    Along step Allowed start front := by
  intro before event tail split_front
  exact along before event (tail ++ rest) (by rw [split_front,List.append_assoc]; rfl)

theorem Along.and {Other : State → Event → Prop} {events : List Event}
    (first : Along step Allowed start events) (second : Along step Other start events) :
    Along step (fun state event => Allowed state event ∧ Other state event) start events :=
  fun front event rest split => ⟨first front event rest split,second front event rest split⟩

/-- What every allowed step from an invariant state shows, every step of the run shows. -/
theorem Along.imp {Shown : State → Event → Prop} {Invariant : State → Prop} {events : List Event}
    (along : Along step Allowed start events)
    (safe : ∀ state event, Invariant state → Allowed state event →
      Shown state event ∧ Invariant (step state event).1)
    (initial : Invariant start) : Along step Shown start events := by
  induction events generalizing start with
  | nil => exact Along.nil
  | cons event rest ih =>
    obtain ⟨shown,next⟩ := safe start event initial along.head
    exact Along.cons shown (ih along.tail next)

/-- What every allowed step keeps holds at the end of every run of allowed steps. -/
theorem Along.invariant {Invariant : State → Prop} {events : List Event}
    (along : Along step Allowed start events)
    (kept : ∀ state event, Allowed state event → Invariant state → Invariant (step state event).1)
    (initial : Invariant start) : Invariant (final step start events) := by
  induction events generalizing start with
  | nil => exact initial
  | cons event rest ih => exact ih along.tail (kept start event along.head initial)

end Allowed

/-- A run stays good throughout if and only if it takes the allowed steps only, where these are the
ones that lead from an invariant state to a good one, and the invariant lasts as long. -/
theorem always_along {step : State → Event → State × Option Output} {Invariant Good : State → Prop}
    {Allowed : State → Event → Prop}
    (good_iff : ∀ state event, Invariant state → (Good (step state event).1 ↔ Allowed state event))
    (kept : ∀ state event, Invariant state → Good (step state event).1 → Invariant (step state event).1)
    {start : State} (initial : Invariant start) (good : Good start) (events : List Event) :
    (∀ front rest, events = front ++ rest → Good (final step start front)) ↔
      Along step Allowed start events := by
  induction events generalizing start with
  | nil =>
    constructor
    · exact fun _ => Along.nil
    · intro _ front rest split_nil
      obtain ⟨rfl,-⟩ := List.nil_eq_append_iff.mp split_nil
      exact good
  | cons event events ih =>
    constructor
    · intro always
      have first : Good (step start event).1 := always [event] events rfl
      apply Along.cons ((good_iff start event initial).mp first)
      apply (ih (kept start event initial first) first).mp
      intro front rest split_events
      exact always (event :: front) rest (by rw [split_events]; rfl)
    · intro along front rest split_events
      have first := (good_iff start event initial).mpr along.head
      cases front with
      | nil => exact good
      | cons head front =>
        cases split_events
        exact (ih (kept start event initial first) first).mpr along.tail front rest rfl

/-- A run stays good throughout if and only if it starts good and every step is one that keeps a
good state good. -/
theorem always_iff {step : State → Event → State × Option Output} {Good : State → Prop}
    {Allowed : State → Event → Prop}
    (kept_iff : ∀ state event, Good state → (Good (step state event).1 ↔ Allowed state event))
    (start : State) (events : List Event) :
    (∀ front rest, events = front ++ rest → Good (final step start front)) ↔
      Good start ∧ Along step Allowed start events := by
  have along (initial : Good start) :=
    always_along kept_iff (fun _ _ _ next => next) initial initial events
  constructor
  · intro always
    have initial := always [] events rfl
    exact ⟨initial,(along initial).mp always⟩
  · rintro ⟨initial,allowed⟩
    exact (along initial).mpr allowed

/-- What every step makes of an invariant state and its output holds of all outputs. -/
theorem outputs_safe {Invariant : State → Prop} {Safe : State → Output → Prop}
    (kept : ∀ state event, Invariant state → Invariant (step state event).1)
    (safe : ∀ state event output, Invariant state → (step state event).2 = some output →
      Safe (step state event).1 output)
    {start : State} (initial : Invariant start) (events : List Event) {state : State}
    {output : Output} (made : (state,output) ∈ outputs step start events) :
    Safe state output := by
  induction events generalizing start with
  | nil => cases made
  | cons event rest ih =>
    rcases List.mem_append.mp made with now | later
    · cases emitted : (step start event).2 with
      | none => simp [emitted] at now
      | some first =>
        obtain ⟨rfl,rfl⟩ : state = (step start event).1 ∧ output = first := by
          simpa [emitted] using now
        exact safe start event output initial emitted
    · exact ih (kept start event initial) later

end UavFanet.Library.Run
