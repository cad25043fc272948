import Mathlib.Data.List.Basic
import Mathlib.Algebra.BigOperators.Group.List.Basic
import Mathlib.Algebra.Order.Ring.Nat

/-! Buffers laid out as consecutive fields: where a field begins, and what a
bounds-checked slice of the buffer reads there. -/
namespace UavFanet.Library.ByteLayout

variable {α : Type}

def slice (buffer : List α) (offset count : Nat) : Option (List α) :=
  if offset+count ≤ buffer.length then some ((buffer.drop offset).take count) else none

def offsetOf (fields : List (List α)) (i : Nat) : Nat := ((fields.take i).map List.length).sum

theorem slice_within {buffer : List α} {offset count : Nat} (within : offset+count ≤ buffer.length) :
    slice buffer offset count = some ((buffer.drop offset).take count) := if_pos within

theorem length_slice {buffer part : List α} {offset count : Nat}
    (read : slice buffer offset count = some part) : part.length = count := by
  rw [slice] at read
  split at read
  · rename_i within
    cases read
    rw [List.length_take,List.length_drop]
    omega
  · cases read

@[simp] theorem slice_after (front back : List α) (offset count : Nat) :
    slice (front ++ back) (front.length+offset) count = slice back offset count := by
  have bounds : front.length+offset+count ≤ (front ++ back).length ↔ offset+count ≤ back.length := by
    rw [List.length_append]
    omega
  simp only [slice,bounds,List.drop_length_add_append]

theorem slice_before {front : List α} (back : List α) {offset count : Nat}
    (within : offset+count ≤ front.length) :
    slice (front ++ back) offset count = slice front offset count := by
  have longer : offset+count ≤ (front ++ back).length := by
    rw [List.length_append]
    omega
  have inside : count ≤ (front.drop offset).length := by
    rw [List.length_drop]
    omega
  rw [slice_within longer,slice_within within,List.drop_append,List.take_append_of_le_length inside]

theorem slice_take (buffer : List α) {offset count size : Nat} (within : offset+count ≤ size) :
    slice (buffer.take size) offset count = slice buffer offset count := by
  have bounds : offset+count ≤ (buffer.take size).length ↔ offset+count ≤ buffer.length := by
    rw [List.length_take]
    omega
  have inside : ((buffer.take size).drop offset).take count = (buffer.drop offset).take count := by
    rw [List.drop_take,List.take_take,Nat.min_eq_left (by omega)]
  simp only [slice,bounds,inside]

/-- Reading at the offset and with the length of a field gives the field. -/
theorem slice_flatten {fields : List (List α)} {i : Nat} {field : List α}
    (present : fields[i]? = some field) :
    slice fields.flatten (offsetOf fields i) field.length = some field := by
  induction fields generalizing i with
  | nil => simp at present
  | cons first rest ih =>
    cases i with
    | zero =>
      obtain rfl : first = field := by simpa using present
      rw [List.flatten_cons,offsetOf,List.take_zero,List.map_nil,List.sum_nil,
        slice_before rest.flatten (by omega),slice_within (by omega)]
      simp
    | succ i =>
      have next : offsetOf (first :: rest) (i+1) = first.length+offsetOf rest i := by
        simp [offsetOf]
      rw [List.flatten_cons,next,slice_after]
      exact ih (by simpa using present)

/-- The part stands in the buffer at the offset. -/
def Holds (buffer : List α) (offset : Nat) (part : List α) : Prop :=
  slice buffer offset part.length = some part

instance [DecidableEq α] (buffer part : List α) (offset : Nat) :
    Decidable (Holds buffer offset part) := inferInstanceAs (Decidable (_ = _))

theorem holds_of_slice {buffer part : List α} {offset count : Nat}
    (read : slice buffer offset count = some part) : Holds buffer offset part := by
  rw [Holds,length_slice read,read]

theorem holds_iff {buffer : List α} {offset : Nat} {part : List α} :
    Holds buffer offset part ↔
      ∃ front back, front.length = offset ∧ buffer = front ++ (part ++ back) := by
  constructor
  · intro holds
    rw [Holds,slice] at holds
    split at holds
    · rename_i within
      have found := Option.some.inj holds
      refine ⟨buffer.take offset,(buffer.drop offset).drop part.length,?_,?_⟩
      · exact List.length_take_of_le (by omega)
      · nth_rewrite 1 [← List.take_append_drop offset buffer]
        nth_rewrite 1 [← List.take_append_drop part.length (buffer.drop offset)]
        rw [found]
    · cases holds
  · rintro ⟨front,back,rfl,rfl⟩
    have here := slice_after front (part ++ back) 0 part.length
    have start : slice (part ++ back) 0 part.length = some part := by
      rw [slice_before back (by omega),slice_within (by omega),List.drop_zero,List.take_length]
    rw [Holds,← start]
    exact here

theorem holds_append {buffer : List α} {offset : Nat} (first second : List α) :
    Holds buffer offset (first ++ second) ↔
      Holds buffer offset first ∧ Holds buffer (offset+first.length) second := by
  simp only [holds_iff]
  constructor
  · rintro ⟨front,back,size,rfl⟩
    refine ⟨⟨front,second ++ back,size,by simp⟩,front ++ first,back,?_,by simp⟩
    rw [List.length_append,size]
  · rintro ⟨⟨front,back,size,rfl⟩,longer,rest,longer_size,same⟩
    have prefixes : front ++ first = longer ∧ back = second ++ rest := by
      rw [← List.append_assoc] at same
      exact List.append_inj same (by rw [List.length_append,size,longer_size])
    exact ⟨front,rest,size,by rw [prefixes.2,List.append_assoc]⟩

theorem holds_nil {buffer : List α} {offset : Nat} : Holds buffer offset [] ↔ offset ≤ buffer.length := by
  rw [Holds,slice]
  simp

theorem holds_flatten_cons {buffer : List α} {offset : Nat} (field : List α)
    (fields : List (List α)) : Holds buffer offset (field :: fields).flatten ↔
      Holds buffer offset field ∧ Holds buffer (offset+field.length) fields.flatten := by
  rw [List.flatten_cons,holds_append]

theorem holds_whole {buffer part : List α} (size : part.length = buffer.length) :
    Holds buffer 0 part ↔ buffer = part := by
  rw [Holds,size,slice_within (by omega),List.drop_zero,List.take_length,Option.some.injEq]

theorem Holds.unique {buffer first second : List α} {offset : Nat} (one : Holds buffer offset first)
    (other : Holds buffer offset second) (size : first.length = second.length) : first = second := by
  rw [Holds,size] at one
  exact Option.some.inj (one.symm.trans other)

end UavFanet.Library.ByteLayout
