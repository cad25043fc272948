import Mathlib.Data.List.Induction
import Mathlib.Data.List.Nodup

/-! Tables filled by entries that say where they go, one after the other. -/
namespace UavFanet.Library.Placement

variable {α β σ ε : Type}

/-- A loop that stops at the first entry its guard refuses, where no step changes what the guard
says of the entries to come. -/
theorem foldlM_guard (guard : σ → α → Prop) [∀ s entry,Decidable (guard s entry)] (next : σ → α → σ)
    (failure : ε) (stable : ∀ s entry other, guard (next s entry) other ↔ guard s other)
    (entries : List α) (first last : σ) :
    entries.foldlM (fun s entry => if guard s entry then Except.ok (next s entry)
      else Except.error failure) first = .ok last ↔
      (∀ entry ∈ entries, guard first entry) ∧ entries.foldl next first = last := by
  induction entries generalizing first with
  | nil => simp [pure,Except.pure]
  | cons entry entries ih =>
    rw [List.foldlM_cons,List.foldl_cons,List.forall_mem_cons]
    by_cases open_ : guard first entry
    · rw [if_pos open_]
      show entries.foldlM _ (next first entry) = Except.ok last ↔ _
      rw [ih]
      simp [open_,stable]
    · simp [open_,bind,Except.bind]

variable (slot : α → Nat) (value : α → β)

def place (table : List β) (entries : List α) : List β :=
  entries.foldl (fun table entry => table.set (slot entry) (value entry)) table

/-- The entry that has the last word about a cell. -/
def lastAt (entries : List α) (i : Nat) : Option α :=
  (entries.filter (fun entry => slot entry = i)).getLast?

variable {slot value} {table : List β} {entries : List α} {i : Nat}

theorem place_append (entry : α) : place slot value table (entries ++ [entry]) =
    (place slot value table entries).set (slot entry) (value entry) := by
  simp [place]

theorem lastAt_append (entry : α) : lastAt slot (entries ++ [entry]) i =
    if slot entry = i then some entry else lastAt slot entries i := by
  by_cases here : slot entry = i
  · simp [lastAt,here]
  · simp [lastAt,here]

@[simp] theorem length_place : (place slot value table entries).length = table.length := by
  induction entries using List.reverseRecOn with
  | nil => rfl
  | append_singleton entries entry ih => rw [place_append,List.length_set,ih]

theorem getElem?_place (inside : i < table.length) : (place slot value table entries)[i]? =
    ((lastAt slot entries i).map value).or table[i]? := by
  induction entries using List.reverseRecOn with
  | nil => rfl
  | append_singleton entries entry ih =>
    rw [place_append,lastAt_append]
    by_cases here : slot entry = i
    · subst here
      simp [inside]
    · rw [List.getElem?_set_ne here,ih,if_neg here]

/-- Every value in the table is that of the last entry of its cell, or was there before. -/
theorem mem_place {found : β} (inside : found ∈ place slot value table entries) :
    ∃ i < table.length, ((lastAt slot entries i).map value).or table[i]? = some found := by
  obtain ⟨i,here⟩ := List.mem_iff_getElem?.mp inside
  have bound : i < table.length := by
    obtain ⟨below,_⟩ := List.getElem?_eq_some_iff.mp here
    rwa [length_place] at below
  exact ⟨i,bound,getElem?_place bound ▸ here⟩

theorem lastAt_some {entry : α} (last : lastAt slot entries i = some entry) :
    entry ∈ entries ∧ slot entry = i := by
  have member := List.mem_of_getLast? last
  simpa using member

/-- Entries that stand where they go are each written once. -/
theorem count_range {n : Nat} (ordered : entries.map slot = List.range n) (inside : i < n) :
    (entries.map slot).count i = 1 := by
  rw [ordered]
  exact List.count_eq_one_of_mem List.nodup_range (List.mem_range.mpr inside)

end UavFanet.Library.Placement
