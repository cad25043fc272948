import UavFanet.Library.Run

/-! Calls that carry out a plan of steps and may stop half-way: what they keep, and the whole
plan where they return. -/
namespace UavFanet.Library.Plan

variable {State Event Output : Type} {step : State → Event → State × Option Output}
  {Returned : Prop} {before middle after : State} {plan first second : List Event}

/-- The state after the call is the one after a first part of the plan, and after the whole
plan if the call returned. -/
def Executes (step : State → Event → State × Option Output) (Returned : Prop) (before : State)
    (plan : List Event) (after : State) : Prop :=
  ∃ done rest, plan = done ++ rest ∧ after = Run.final step before done ∧ (Returned → rest = [])

theorem Executes.all (before : State) (plan : List Event) :
    Executes step Returned before plan (Run.final step before plan) :=
  ⟨plan,[],(List.append_nil plan).symm,rfl,fun _ => rfl⟩

theorem Executes.stopped (before : State) (plan : List Event) (thrown : ¬ Returned) :
    Executes step Returned before plan before :=
  ⟨[],plan,rfl,rfl,fun returned => absurd returned thrown⟩

theorem Executes.returned (executes : Executes step Returned before plan after)
    (returned : Returned) : after = Run.final step before plan := by
  obtain ⟨done,rest,split,reached,finished⟩ := executes
  rw [finished returned,List.append_nil] at split
  rw [split,reached]

theorem Executes.weaken {Finished : Prop} (executes : Executes step Finished before plan after)
    (implies : Returned → Finished) : Executes step Returned before plan after := by
  obtain ⟨done,rest,split,reached,finished⟩ := executes
  exact ⟨done,rest,split,reached,fun returned => finished (implies returned)⟩

/-- A call that stops in the first part of a plan stops in the plan. -/
theorem Executes.interrupted {Finished : Prop} (executes : Executes step Finished before first after)
    (second : List Event) (thrown : ¬ Returned) :
    Executes step Returned before (first ++ second) after := by
  obtain ⟨done,rest,split,reached,_⟩ := executes
  refine ⟨done,rest ++ second,?_,reached,fun returned => absurd returned thrown⟩
  rw [split,List.append_assoc]

theorem Executes.append {Finished : Prop} (executes : Executes step Finished before first middle)
    (finished : Finished) (later : Executes step Returned middle second after) :
    Executes step Returned before (first ++ second) after := by
  have whole := executes.returned finished
  obtain ⟨done,rest,split,reached,complete⟩ := later
  refine ⟨first ++ done,rest,?_,?_,complete⟩
  · rw [split,List.append_assoc]
  · rw [Run.final_append,← whole]
    exact reached

/-- What the allowed steps of a plan keep, a call keeps that carries it out, also in part. -/
theorem Executes.invariant {Allowed : State → Event → Prop} {Invariant : State → Prop}
    (executes : Executes step Returned before plan after) (along : Run.Along step Allowed before plan)
    (kept : ∀ state event, Allowed state event → Invariant state → Invariant (step state event).1)
    (initial : Invariant before) : Invariant after := by
  obtain ⟨done,rest,split,reached,_⟩ := executes
  rw [split] at along
  rw [reached]
  exact along.front.invariant kept initial

end UavFanet.Library.Plan
