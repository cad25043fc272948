import Mathlib.Data.List.Basic

/-! Sets of numbers kept as a list of blocks, each below the next one, that grow by one number at
a time. -/
namespace UavFanet.Library

structure Block where
  low : Nat
  high : Nat
  deriving DecidableEq,Repr

namespace Block

def Holds (block : Block) (n : Nat) : Prop := block.low ≤ n ∧ n ≤ block.high

instance (block : Block) (n : Nat) : Decidable (block.Holds n) :=
  inferInstanceAs (Decidable (_ ∧ _))

/-- Every block has a number, and all numbers of the later blocks are above its own. -/
def Ordered : List Block → Prop
  | [] => True
  | block :: rest => block.low ≤ block.high ∧ (∀ later ∈ rest, block.high < later.low) ∧ Ordered rest

def Covered (blocks : List Block) (n : Nat) : Prop := ∃ block ∈ blocks, block.Holds n

/-- Adds a number that no block holds. It joins the block that ends right before it, else the one
that starts right after it. Blocks that come to touch stay apart. -/
def insert (n : Nat) : List Block → Option (List Block)
  | [] => some [⟨n,n⟩]
  | block :: rest =>
    if block.Holds n then none
    else if n+1 < block.low then some (⟨n,n⟩ :: block :: rest)
    else if n = block.high+1 then
      match rest with
      | [] => some [⟨block.low,n⟩]
      | next :: _ => if n = next.low then none else some (⟨block.low,n⟩ :: rest)
    else if n+1 = block.low then some (⟨n,block.high⟩ :: rest)
    else (insert n rest).map (block :: ·)

/-- A number is refused if it is held already. Else it is the one number that comes in. -/
def Adds (n : Nat) (blocks : List Block) : Option (List Block) → Prop
  | none => Covered blocks n
  | some after =>
    ¬ Covered blocks n ∧ Ordered after ∧ ∀ m, Covered after m ↔ m = n ∨ Covered blocks m

variable {block : Block} {blocks : List Block} {n : Nat}

theorem covered_nil : ¬ Covered [] n := fun ⟨_,member,_⟩ => nomatch member

theorem covered_cons : Covered (block :: blocks) n ↔ block.Holds n ∨ Covered blocks n := by
  simp [Covered]

theorem Ordered.first (ordered : Ordered (block :: blocks)) :
    block.low ≤ block.high ∧ ∀ m, Covered blocks m → block.high < m :=
  ⟨ordered.1,fun _ ⟨later,member,held⟩ => Nat.lt_of_lt_of_le (ordered.2.1 later member) held.1⟩

theorem Ordered.nonempty (ordered : Ordered blocks) : ∀ block ∈ blocks, block.low ≤ block.high := by
  induction blocks with
  | nil => exact fun _ none => nomatch none
  | cons first rest ih => exact List.forall_mem_cons.mpr ⟨ordered.1,ih ordered.2.2⟩

theorem Ordered.cons_of_covered (nonempty : block.low ≤ block.high)
    (below : ∀ m, Covered blocks m → block.high < m) (ordered : Ordered blocks) :
    Ordered (block :: blocks) :=
  ⟨nonempty,fun later member =>
    below _ ⟨later,member,Nat.le_refl _,ordered.nonempty later member⟩,ordered⟩

theorem adds_before (ordered : Ordered (block :: blocks)) (before : n+1 < block.low) :
    Adds n (block :: blocks) (some (⟨n,n⟩ :: block :: blocks)) := by
  have first := ordered.first
  have clear : ∀ m, Covered (block :: blocks) m → n < m := by
    intro m held
    rcases covered_cons.mp held with ⟨low,-⟩ | later
    · omega
    · have := first.2 m later
      omega
  refine ⟨fun held => Nat.lt_irrefl n (clear n held),.cons_of_covered (Nat.le_refl n) clear ordered,
    fun m => ?_⟩
  rw [covered_cons]
  refine or_congr_left ?_
  simp only [Holds]
  omega

/-- A block grows where none of the later blocks is in the way. -/
theorem adds_end (ordered : Ordered (block :: blocks))
    (clear : ¬ Covered blocks (block.high+1)) :
    Adds (block.high+1) (block :: blocks) (some (⟨block.low,block.high+1⟩ :: blocks)) := by
  have first := ordered.first
  refine ⟨?_,.cons_of_covered (Nat.le_succ_of_le first.1) ?_ ordered.2.2,fun m => ?_⟩
  · rw [covered_cons]
    rintro (⟨-,high⟩ | later)
    · omega
    · exact clear later
  · intro m later
    refine Nat.lt_of_le_of_ne (first.2 m later) ?_
    rintro rfl
    exact clear later
  · rw [covered_cons,covered_cons,← or_assoc]
    refine or_congr_left ?_
    simp only [Holds]
    omega

theorem adds_start (ordered : Ordered (block :: blocks)) (at_start : n+1 = block.low) :
    Adds n (block :: blocks) (some (⟨n,block.high⟩ :: blocks)) := by
  have first := ordered.first
  refine ⟨?_,.cons_of_covered (by simp only; omega) first.2 ordered.2.2,fun m => ?_⟩
  · rw [covered_cons]
    rintro (⟨low,-⟩ | later)
    · omega
    · have := first.2 n later
      omega
  · rw [covered_cons,covered_cons,← or_assoc]
    refine or_congr_left ?_
    simp only [Holds]
    omega

theorem adds_later (ordered : Ordered (block :: blocks)) (beyond : block.high < n)
    {result : Option (List Block)} (adds : Adds n blocks result) :
    Adds n (block :: blocks) (result.map (block :: ·)) := by
  have first := ordered.first
  cases result with
  | none => exact covered_cons.mpr (.inr adds)
  | some after =>
    obtain ⟨new,sorted,numbers⟩ := adds
    refine ⟨?_,.cons_of_covered first.1 ?_ sorted,fun m => ?_⟩
    · rw [covered_cons]
      rintro (⟨-,high⟩ | later)
      · omega
      · exact new later
    · intro m held
      rcases (numbers m).mp held with rfl | later
      · exact beyond
      · exact first.2 m later
    · rw [covered_cons,covered_cons,numbers]
      exact or_left_comm

theorem insert_adds (ordered : Ordered blocks) : Adds n blocks (insert n blocks) := by
  induction blocks with
  | nil =>
    refine ⟨covered_nil,⟨Nat.le_refl n,fun _ none => (nomatch none),trivial⟩,fun m => ?_⟩
    rw [covered_cons]
    refine or_congr_left ?_
    simp only [Holds]
    omega
  | cons block rest ih =>
    rw [insert.eq_def]
    dsimp only
    by_cases held : block.Holds n
    · rw [if_pos held]
      exact covered_cons.mpr (.inl held)
    by_cases before : n+1 < block.low
    · rw [if_neg held,if_pos before]
      exact adds_before ordered before
    by_cases at_end : n = block.high+1
    · subst at_end
      rw [if_neg held,if_neg before,if_pos rfl]
      cases rest with
      | nil => exact adds_end ordered covered_nil
      | cons next others =>
        have sorted := ordered.2.2
        dsimp only
        split
        · rename_i collides
          exact covered_cons.mpr (.inr (covered_cons.mpr (.inl
            ⟨Nat.le_of_eq collides.symm,collides ▸ sorted.1⟩)))
        · rename_i apart
          refine adds_end ordered ?_
          rw [covered_cons]
          rintro (⟨low,-⟩ | later)
          · have := ordered.2.1 next (List.mem_cons_self ..)
            omega
          · have := ordered.2.1 next (List.mem_cons_self ..)
            have := sorted.first.2 _ later
            have := sorted.1
            omega
    by_cases at_start : n+1 = block.low
    · rw [if_neg held,if_neg before,if_neg at_end,if_pos at_start]
      exact adds_start ordered at_start
    · rw [if_neg held,if_neg before,if_neg at_end,if_neg at_start]
      refine adds_later ordered ?_ (ih ordered.2.2)
      simp only [Holds] at held
      omega

end Block
end UavFanet.Library
