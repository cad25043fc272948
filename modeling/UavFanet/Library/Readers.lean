import UavFanet.Library.BigEndian
import Mathlib.Data.List.Basic

/-! Readers of byte strings that take what they read from the front, and the writers that
they undo. -/
namespace UavFanet.Library.Readers

/-- `none` is a read past the end, or of bytes that are refused. -/
abbrev Reader (α : Type) := StateT (List UInt8) Option α

variable {α β : Type}

/-- Whatever follows the bytes is left alone. -/
def Reads (read : Reader α) (value : α) (bytes : List UInt8) : Prop :=
  ∀ rest, read.run (bytes ++ rest) = some (value,rest)

theorem Reads.pure (value : α) : Reads (Pure.pure value) value [] := fun _ => rfl

theorem Reads.bind {read : Reader α} {next : α → Reader β} {a : α} {b : β} {first second : List UInt8}
    (one : Reads read a first) (two : Reads (next a) b second) :
    Reads (read >>= next) b (first ++ second) := by
  intro rest
  rw [List.append_assoc,StateT.run_bind,one]
  exact two rest

theorem Reads.map {read : Reader α} {a : α} {bytes : List UInt8} (f : α → β)
    (reads : Reads read a bytes) : Reads (f <$> read) (f a) bytes := by
  intro rest
  rw [StateT.run_map,reads]
  rfl

theorem reads_guard {p : Prop} [Decidable p] (holds : p) :
    Reads (guard p : Reader Unit) () [] := by
  intro rest
  rw [guard,if_pos holds]
  rfl

def byte : Reader UInt8 := fun
  | [] => none
  | first :: rest => some (first,rest)

theorem reads_byte (value : UInt8) : Reads byte value [value] := fun _ => rfl

/-- An unsigned number of `width` bytes, most significant first. -/
def word (width : Nat) : Reader Nat := fun bytes =>
  if width ≤ bytes.length then some (BigEndian.decode (bytes.take width),bytes.drop width) else none

theorem reads_word (width : Nat) {n : Nat} (fits : n < 256^width) :
    Reads (word width) n (BigEndian.encode width n) := by
  intro rest
  have length := BigEndian.length_encode width n
  change (if width ≤ _ then _ else _) = _
  rw [if_pos (by rw [List.length_append,length]; exact Nat.le_add_right _ _),
    List.take_left' length,List.drop_left' length,BigEndian.decode_encode,Nat.mod_eq_of_lt fits]

def times (read : Reader α) : Nat → Reader (List α)
  | 0 => return []
  | n+1 => do
    let item ← read
    let items ← times read n
    return item :: items

theorem Reads.times {read : Reader α} {write : α → List UInt8} {items : List α}
    (each : ∀ item ∈ items, Reads read item (write item)) :
    Reads (times read items.length) items (items.flatMap write) := by
  induction items with
  | nil => exact .pure []
  | cons item items ih =>
    have later := ih fun other inside => each other (List.mem_cons_of_mem item inside)
    rw [List.flatMap_cons]
    refine (each item List.mem_cons_self).bind ?_
    rw [← List.append_nil (items.flatMap write)]
    exact later.bind (.pure _)

/-- A reader that looks at its input first. -/
theorem Reads.of_input {read : List UInt8 → Reader α} {value : α} {bytes : List UInt8}
    (each : ∀ rest, (read (bytes ++ rest)).run (bytes ++ rest) = some (value,rest)) :
    Reads (fun input => (read input).run input) value bytes := each

end UavFanet.Library.Readers
