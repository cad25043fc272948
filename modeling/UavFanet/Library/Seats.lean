import Mathlib.Logic.Function.Basic

/-! Seats in several places, each empty or held by one person: who is where when seats are
given and given up, and when nobody is in two places. Then seats as those have them who hold one,
of whom two may have the same. -/
namespace UavFanet.Library.Seats

variable {Place Seat Person : Type}

abbrev Seating (Place Seat Person : Type) := Place → Seat → Option Person

variable {seating : Seating Place Seat Person}

def Within (seating : Seating Place Seat Person) (person : Person) (place : Place) : Prop :=
  ∃ seat, seating place seat = some person

/-- Nobody is in two places. -/
def Exclusive (seating : Seating Place Seat Person) : Prop :=
  ∀ person here there, Within seating person here → Within seating person there → here = there

/-- A person has no seat but, possibly, this one. -/
def OnlyAt (seating : Seating Place Seat Person) (person : Person) (place : Place) (seat : Seat) :
    Prop :=
  ∀ other taken, seating other taken = some person → other = place ∧ taken = seat

variable [DecidableEq Place] [DecidableEq Seat]

def set (seating : Seating Place Seat Person) (place : Place) (seat : Seat)
    (occupant : Option Person) : Seating Place Seat Person :=
  Function.update seating place (Function.update (seating place) seat occupant)

theorem set_same (place : Place) (seat : Seat) (occupant : Option Person) :
    set seating place seat occupant place seat = occupant := by
  simp [set]

theorem set_other {place here : Place} {seat taken : Seat} (occupant : Option Person)
    (apart : ¬ (here = place ∧ taken = seat)) :
    set seating place seat occupant here taken = seating here taken := by
  unfold set
  by_cases same : here = place
  · subst same
    rw [Function.update_self,Function.update_of_ne (fun equal => apart ⟨rfl,equal⟩)]
  · rw [Function.update_of_ne same]

theorem set_elsewhere {place here : Place} {seat : Seat} (occupant : Option Person)
    (apart : here ≠ place) : set seating place seat occupant here = seating here := by
  funext taken
  exact set_other occupant (fun same => apart same.1)

theorem isSome_cleared {place : Place} {seat taken : Seat} :
    (set seating place seat none place taken).isSome ↔ (seating place taken).isSome ∧ taken ≠ seat := by
  by_cases same : taken = seat
  · subst same
    simp [set_same]
  · rw [set_other _ (fun equal => same equal.2)]
    simp [same]

theorem isSome_given {place : Place} {seat taken : Seat} {person : Person} :
    (set seating place seat (some person) place taken).isSome ↔
      (seating place taken).isSome ∨ taken = seat := by
  by_cases same : taken = seat
  · subst same
    simp [set_same]
  · rw [set_other _ (fun equal => same equal.2)]
    simp [same]

theorem within_given {place here : Place} {seat : Seat} {person other : Person}
    (empty : seating place seat = none) :
    Within (set seating place seat (some person)) other here ↔
      Within seating other here ∨ other = person ∧ here = place := by
  constructor
  · intro ⟨taken,found⟩
    by_cases same : here = place ∧ taken = seat
    · obtain ⟨rfl,rfl⟩ := same
      rw [set_same] at found
      exact .inr ⟨(Option.some.inj found).symm,rfl⟩
    · rw [set_other _ same] at found
      exact .inl ⟨taken,found⟩
  · rintro (⟨taken,found⟩ | ⟨rfl,rfl⟩)
    · refine ⟨taken,?_⟩
      rw [set_other]
      · exact found
      · rintro ⟨rfl,rfl⟩
        rw [empty] at found
        cases found
    · exact ⟨seat,set_same _ _ _⟩

theorem within_cleared {place here : Place} {seat : Seat} {other : Person} :
    Within (set seating place seat none) other here ↔
      ∃ taken, seating here taken = some other ∧ ¬ (here = place ∧ taken = seat) := by
  constructor
  · intro ⟨taken,found⟩
    by_cases same : here = place ∧ taken = seat
    · obtain ⟨rfl,rfl⟩ := same
      rw [set_same] at found
      cases found
    · rw [set_other _ same] at found
      exact ⟨taken,found,same⟩
  · intro ⟨taken,found,apart⟩
    refine ⟨taken,?_⟩
    rw [set_other _ apart]
    exact found

theorem Within.of_cleared {place here : Place} {seat : Seat} {other : Person}
    (within : Within (set seating place seat none) other here) : Within seating other here := by
  obtain ⟨taken,found,_⟩ := within_cleared.mp within
  exact ⟨taken,found⟩

theorem within_cleared_other {place here : Place} {seat : Seat} {other : Person}
    (apart : here ≠ place) :
    Within (set seating place seat none) other here ↔ Within seating other here := by
  constructor
  · exact Within.of_cleared
  · intro ⟨taken,found⟩
    exact within_cleared.mpr ⟨taken,found,fun same => apart same.1⟩

theorem not_within_cleared {place : Place} {seat : Seat} {person : Person} :
    ¬ Within (set seating place seat none) person place ↔
      ∀ taken, seating place taken = some person → taken = seat := by
  rw [within_cleared]
  constructor
  · intro out taken found
    by_contra apart
    exact out ⟨taken,found,fun same => apart same.2⟩
  · intro only ⟨taken,found,apart⟩
    exact apart ⟨rfl,only taken found⟩

theorem Exclusive.cleared (exclusive : Exclusive seating) (place : Place) (seat : Seat) :
    Exclusive (set seating place seat none) :=
  fun person here there first second =>
    exclusive person here there first.of_cleared second.of_cleared

/-- Nobody ends up in two places exactly if the new holder is nowhere else. -/
theorem Exclusive.given_iff (exclusive : Exclusive seating) {place : Place} {seat : Seat}
    {person : Person} (empty : seating place seat = none) :
    Exclusive (set seating place seat (some person)) ↔
      ∀ here, Within seating person here → here = place := by
  constructor
  · intro exclusive' here within
    exact exclusive' person here place ((within_given empty).mpr (.inl within))
      ((within_given empty).mpr (.inr ⟨rfl,rfl⟩))
  · intro nowhere other here there first second
    rcases (within_given empty).mp first with held | ⟨rfl,rfl⟩
    · rcases (within_given empty).mp second with kept | ⟨rfl,rfl⟩
      · exact exclusive other here there held kept
      · exact nowhere here held
    · rcases (within_given empty).mp second with kept | ⟨_,same⟩
      · exact (nowhere there kept).symm
      · exact same.symm

theorem absent_cleared_iff {place : Place} {seat : Seat} {person : Person} :
    (∀ here, ¬ Within (set seating place seat none) person here) ↔ OnlyAt seating person place seat := by
  constructor
  · intro absent here taken found
    by_contra apart
    exact absent here (within_cleared.mpr ⟨taken,found,apart⟩)
  · intro only here within
    obtain ⟨taken,found,apart⟩ := within_cleared.mp within
    exact apart (only here taken found)

section Holdings

/-- The seat of each person, if it has one. -/
abbrev Holding (Person Seat : Type) := Person → Option Seat

/-- No two persons have the same seat. -/
def Unshared {Person Seat : Type} (holding : Holding Person Seat) : Prop :=
  ∀ first second seat, holding first = some seat → holding second = some seat → first = second

variable {Holder Held : Type} [DecidableEq Holder]

theorem Unshared.given_iff {holding : Holding Holder Held} (unshared : Unshared holding)
    (holder : Holder) (seat : Held) : Unshared (Function.update holding holder (some seat)) ↔
      ∀ other, holding other = some seat → other = holder := by
  constructor
  · intro given other has
    by_contra differs
    apply differs
    apply given other holder seat
    · rwa [Function.update_of_ne differs]
    · exact Function.update_self ..
  · intro free first second shared has_first has_second
    by_cases first_given : first = holder
    · by_cases second_given : second = holder
      · rw [first_given,second_given]
      · rw [first_given,Function.update_self] at has_first
        rw [Function.update_of_ne second_given] at has_second
        obtain rfl : seat = shared := Option.some.inj has_first
        rw [first_given,free second has_second]
    · rw [Function.update_of_ne first_given] at has_first
      by_cases second_given : second = holder
      · rw [second_given,Function.update_self] at has_second
        obtain rfl : seat = shared := Option.some.inj has_second
        exact absurd (free first has_first) first_given
      · rw [Function.update_of_ne second_given] at has_second
        exact unshared first second shared has_first has_second

end Holdings
end UavFanet.Library.Seats
