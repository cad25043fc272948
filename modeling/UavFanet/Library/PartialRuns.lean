import Mathlib.Data.List.Basic

/-! Runs of a machine that may refuse a step: a run with a refused step has no last state. -/
namespace UavFanet.Library.PartialRuns

variable {State Event : Type} {step : State → Event → Option State} {start last : State}

theorem run_cons {event : Event} {events : List Event} :
    (event :: events).foldlM step start = some last ↔
      ∃ next, step start event = some next ∧ events.foldlM step next = some last := by
  rw [List.foldlM_cons,Option.bind_eq_bind,Option.bind_eq_some_iff]

theorem run_concat {event : Event} {events : List Event} :
    (events ++ [event]).foldlM step start = some last ↔
      ∃ before, events.foldlM step start = some before ∧ step before event = some last := by
  rw [List.foldlM_append,Option.bind_eq_bind,Option.bind_eq_some_iff]
  simp only [List.foldlM_cons,List.foldlM_nil,bind_pure]

/-- What every step keeps holds at the end of every run. -/
theorem run_invariant {Invariant : State → Prop}
    (kept : ∀ state event next, Invariant state → step state event = some next → Invariant next)
    (initial : Invariant start) {events : List Event} (ran : events.foldlM step start = some last) :
    Invariant last := by
  induction events generalizing start with
  | nil =>
    cases ran
    exact initial
  | cons event events ih =>
    obtain ⟨next,stepped,ran⟩ := run_cons.mp ran
    exact ih (kept start event next initial stepped) ran

end UavFanet.Library.PartialRuns
