import Mathlib.Data.List.Pairwise

/-! Members of a record, and loaders that assign one after another until a read throws. -/
namespace UavFanet.Library

/-- A member of a record that can be read and assigned. -/
structure Member (S α : Type) where
  get : S → α
  set : S → α → S
  get_set : ∀ s v, get (set s v) = v := by intro _ _; rfl
  set_get : ∀ s, set s (get s) = s := by intro _; rfl

/-- Assigning one of the two leaves what the other one holds. -/
structure Member.Apart {S α β : Type} (a : Member S α) (b : Member S β) : Prop where
  first : ∀ s v, b.get (a.set s v) = b.get s
  second : ∀ s v, a.get (b.set s v) = a.get s

/-- What a loader does about one member: the value that it assigns, if any, and how it ends. -/
structure Assignment (S Doc ε : Type) : Type 1 where
  Value : Type
  member : Member S Value
  given : Doc → Option Value × Except ε Unit

namespace Assignment

variable {S Doc ε : Type}

def Apart (a b : Assignment S Doc ε) : Prop := a.member.Apart b.member

instance : Std.Symm (@Apart S Doc ε) :=
  ⟨fun _ _ apart => ⟨apart.second,apart.first⟩⟩

def apply (a : Assignment S Doc ε) (doc : Doc) (s : S) : S :=
  match (a.given doc).1 with
  | none => s
  | some v => a.member.set s v

/-- Nothing is assigned but the value that is there. -/
def Keeps (a : Assignment S Doc ε) (doc : Doc) (s : S) : Prop :=
  ∀ v, (a.given doc).1 = some v → v = a.member.get s

def applyAll (doc : Doc) (items : List (Assignment S Doc ε)) (s : S) : S :=
  items.foldl (fun s a => a.apply doc s) s

/-- The record as the loader leaves it, and how it ends. -/
def run (doc : Doc) : List (Assignment S Doc ε) → S → S × Except ε Unit
  | [],s => (s,.ok ())
  | a::rest,s =>
    match (a.given doc).2 with
    | .error failure => (a.apply doc s,.error failure)
    | .ok _ => run doc rest (a.apply doc s)

/-- Those that a run comes to: none after the first that throws. -/
def reached (doc : Doc) : List (Assignment S Doc ε) → List (Assignment S Doc ε)
  | [] => []
  | a::rest =>
    match (a.given doc).2 with
    | .error _ => [a]
    | .ok _ => a::reached doc rest

/-- How a run ends, which the record has no part in. -/
def ends (doc : Doc) : List (Assignment S Doc ε) → Except ε Unit
  | [] => .ok ()
  | a::rest =>
    match (a.given doc).2 with
    | .error failure => .error failure
    | .ok _ => ends doc rest

variable {doc : Doc} {s : S} {a b : Assignment S Doc ε} {items : List (Assignment S Doc ε)}

theorem run_eq : run doc items s = (applyAll doc (reached doc items) s,ends doc items) := by
  induction items generalizing s with
  | nil => rfl
  | cons a rest ih =>
    rw [run,reached,ends]
    cases (a.given doc).2 with
    | error failure => rfl
    | ok _ => exact ih

theorem ends_ok_iff : ends doc items = .ok () ↔ ∀ a ∈ items, (a.given doc).2 = .ok () := by
  induction items with
  | nil => simp [ends]
  | cons a rest ih =>
    rw [ends,List.forall_mem_cons,← ih]
    cases (a.given doc).2 with
    | error failure => simp
    | ok _ => simp

theorem ends_error {failure : ε} (threw : ends doc items = .error failure) :
    ∃ a ∈ items, (a.given doc).2 = .error failure := by
  induction items with
  | nil => cases threw
  | cons a rest ih =>
    rw [ends] at threw
    cases outcome : (a.given doc).2 with
    | error other =>
      rw [outcome] at threw
      exact ⟨a,List.mem_cons_self,outcome.trans threw⟩
    | ok _ =>
      rw [outcome] at threw
      obtain ⟨b,member,thrower⟩ := ih threw
      exact ⟨b,List.mem_cons_of_mem _ member,thrower⟩

theorem reached_sublist : (reached doc items).Sublist items := by
  induction items with
  | nil => exact .slnil
  | cons a rest ih =>
    rw [reached]
    cases (a.given doc).2 with
    | error failure => exact (List.nil_sublist rest).cons_cons a
    | ok _ => exact ih.cons_cons a

theorem get_apply_self : a.member.get (a.apply doc s) = (a.given doc).1.getD (a.member.get s) := by
  unfold apply
  cases (a.given doc).1 with
  | none => rfl
  | some v => exact a.member.get_set s v

theorem get_apply_apart (apart : a.Apart b) : b.member.get (a.apply doc s) = b.member.get s := by
  unfold apply
  cases (a.given doc).1 with
  | none => rfl
  | some v => exact apart.first s v

theorem apply_kept (keeps : a.Keeps doc s) : a.apply doc s = s := by
  unfold apply
  cases assigned : (a.given doc).1 with
  | none => rfl
  | some v =>
    rw [keeps v assigned]
    exact a.member.set_get s

theorem get_applyAll_apart (apart : ∀ b ∈ items, a.Apart b) :
    a.member.get (applyAll doc items s) = a.member.get s := by
  induction items generalizing s with
  | nil => rfl
  | cons b rest ih =>
    have next := apart b List.mem_cons_self
    have others := fun c member => apart c (List.mem_cons_of_mem b member)
    exact (ih others).trans (get_apply_apart (symm next))

/-- No other assignment interferes with what one of them leaves in its member. -/
theorem get_applyAll (apart : items.Pairwise Apart) (member : a ∈ items) :
    a.member.get (applyAll doc items s) = (a.given doc).1.getD (a.member.get s) := by
  induction items generalizing s with
  | nil => cases member
  | cons b rest ih =>
    obtain ⟨first,others⟩ := List.pairwise_cons.mp apart
    rcases List.mem_cons.mp member with rfl | later
    · exact (get_applyAll_apart first).trans get_apply_self
    · refine (ih others later).trans ?_
      rw [get_apply_apart (first a later)]

theorem applyAll_eq_self_iff (apart : items.Pairwise Apart) :
    applyAll doc items s = s ↔ ∀ a ∈ items, a.Keeps doc s := by
  constructor
  · intro same a member v assigned
    have left := @get_applyAll _ _ _ doc s _ _ apart member
    rw [same,assigned] at left
    exact left.symm
  · intro keeps
    clear apart
    induction items with
    | nil => rfl
    | cons a rest ih =>
      have first : a.apply doc s = s := apply_kept (keeps a List.mem_cons_self)
      rw [applyAll,List.foldl_cons,first]
      exact ih fun b member => keeps b (List.mem_cons_of_mem a member)

/-- What no assignment to the members changes, a list of them does not. -/
theorem applyAll_invariant {α : Type} {observe : S → α}
    (unchanged : ∀ a ∈ items, ∀ s v, observe (a.member.set s v) = observe s) :
    observe (applyAll doc items s) = observe s := by
  induction items generalizing s with
  | nil => rfl
  | cons a rest ih =>
    have one : observe (a.apply doc s) = observe s := by
      unfold apply
      cases (a.given doc).1 with
      | none => rfl
      | some v => exact unchanged a List.mem_cons_self s v
    exact (ih fun b member => unchanged b (List.mem_cons_of_mem a member)).trans one

/-- A run leaves the record as it was if and only if everything that it comes to does. -/
theorem run_unchanged_iff (apart : items.Pairwise Apart) :
    (run doc items s).1 = s ↔ ∀ a ∈ reached doc items, a.Keeps doc s := by
  rw [run_eq]
  exact applyAll_eq_self_iff (apart.sublist reached_sublist)

theorem get_run_reached (apart : items.Pairwise Apart) (member : a ∈ reached doc items) :
    a.member.get (run doc items s).1 = (a.given doc).1.getD (a.member.get s) := by
  rw [run_eq]
  exact get_applyAll (apart.sublist reached_sublist) member

/-- An assignment of the list that the run does not come to is apart from those that it does. -/
theorem get_run_unreached (apart : items.Pairwise Apart) (member : a ∈ items)
    (unreached : a ∉ reached doc items) : a.member.get (run doc items s).1 = a.member.get s := by
  rw [run_eq]
  refine get_applyAll_apart fun b came => ?_
  have different : a ≠ b := fun same => unreached (same ▸ came)
  exact apart.forall member (reached_sublist.subset came) different

end Assignment

section LastWrite

variable {S Call α : Type} {value : S → α} {perform : S → Call → S} {Gives : Call → α → Prop}

/-- A call gives the value that is held after it, or leaves the one before. -/
def Writes (value : S → α) (perform : S → Call → S) (Gives : Call → α → Prop) : Prop :=
  ∀ s call, (∃ v, Gives call v) ∧ (∀ v, Gives call v → value (perform s call) = v) ∨
    (∀ v, ¬ Gives call v) ∧ value (perform s call) = value s

theorem Writes.unwritten (writes : Writes value perform Gives) {calls : List Call}
    (none : ∀ call ∈ calls, ∀ v, ¬ Gives call v) (s : S) :
    value (calls.foldl perform s) = value s := by
  induction calls generalizing s with
  | nil => rfl
  | cons call rest ih =>
    refine (ih (fun other member => none other (List.mem_cons_of_mem call member)) _).trans ?_
    rcases writes s call with ⟨⟨v,given⟩,-⟩ | ⟨-,kept⟩
    · exact absurd given (none call List.mem_cons_self v)
    · exact kept

theorem Writes.last (writes : Writes value perform Gives) {earlier later : List Call}
    {call : Call} {v : α} (given : Gives call v) (none : ∀ other ∈ later, ∀ w, ¬ Gives other w)
    (s : S) : value ((earlier ++ call::later).foldl perform s) = v := by
  rw [List.foldl_append,List.foldl_cons,writes.unwritten none]
  rcases writes (earlier.foldl perform s) call with ⟨-,held⟩ | ⟨silent,-⟩
  · exact held v given
  · exact absurd given (silent v)

theorem exists_last (Gives : Call → α → Prop) (calls : List Call) :
    (∀ call ∈ calls, ∀ v, ¬ Gives call v) ∨
      ∃ earlier call later v, calls = earlier ++ call::later ∧ Gives call v ∧
        ∀ other ∈ later, ∀ w, ¬ Gives other w := by
  induction calls with
  | nil => exact .inl (by simp)
  | cons call rest ih =>
    rcases ih with silent | ⟨earlier,last,later,v,rfl,given,none⟩
    · by_cases gives : ∃ v, Gives call v
      · obtain ⟨v,given⟩ := gives
        exact .inr ⟨[],call,rest,v,rfl,given,silent⟩
      · exact .inl (List.forall_mem_cons.mpr ⟨fun v given => gives ⟨v,given⟩,silent⟩)
    · exact .inr ⟨call::earlier,last,later,v,rfl,given,none⟩

/-- After a run of calls the value is the first one if and only if the last call that gives one
gives that. -/
theorem Writes.unchanged_iff (writes : Writes value perform Gives) (calls : List Call) (s : S) :
    value (calls.foldl perform s) = value s ↔
      ∀ earlier call later v, calls = earlier ++ call::later → Gives call v →
        (∀ other ∈ later, ∀ w, ¬ Gives other w) → v = value s := by
  constructor
  · rintro same earlier call later v rfl given none
    exact (writes.last given none s).symm.trans same
  · intro restored
    rcases exists_last Gives calls with silent | ⟨earlier,call,later,v,rfl,given,none⟩
    · exact writes.unwritten silent s
    · exact (writes.last given none s).trans (restored earlier call later v rfl given none)

end LastWrite
end UavFanet.Library
