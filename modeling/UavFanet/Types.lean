import Mathlib.Algebra.Order.Ring.Nat
import Mathlib.Data.List.Forall2

/-! Values shared by all parts: byte buffers, 256-bit keys, 128-bit nonces and
the ways a call of the source can fail to return. -/
namespace UavFanet

abbrev ByteBuffer := List UInt8

/-- 32 bytes: an AES-256 key, an HMAC key or a SHA-256 digest. -/
abbrev Key256 := Vector UInt8 32
abbrev AesGcmKey := Key256
abbrev HmacKey := Key256
abbrev Nonce128 := Vector UInt8 16

/-- Why a call has no result. The texts are those passed to `UAV_THROW`, without
the file and line that the macro puts in front. -/
inductive Failure where
  | cryptoException (text : String)
  /-- `UAV_OPENSSL_THROW`: a `CryptoException` whose text goes on with OpenSSL's error queue. -/
  | opensslError (context : String)
  | serializationException (text : String)
  | invalidArgumentException (text : String)
  | configException (text : String)
  /-- An exception of the JSON library, by its number. -/
  | jsonException (id : Nat)
  /-- An exception of the C++ standard library, by the function that throws it. -/
  | standardException (thrower : String)
  /-- An exception of a Python script, by its class and its text. -/
  | scriptException (type text : String)
  /-- `std::overflow_error` of a `cpp_int` division. -/
  | divisionByZero
  /-- A read outside its buffer, a conversion out of its range or a machine division by zero,
  which C++ leaves undefined. -/
  | outOfRange
  /-- A loop that no further iteration ends. -/
  | diverges
  /-- A `do … while` over random draws that rejected every draw supplied so far. -/
  | drawsExhausted
  deriving DecidableEq,Repr

abbrev Result := Except Failure

namespace Result

variable {α β : Type}

/-- What a `catch` of every exception leaves: nothing. Undefined reads and endless loops are
no exceptions. -/
def caught : Result α → Result (Option α)
  | .ok value => .ok (some value)
  | .error .outOfRange => .error .outOfRange
  | .error .diverges => .error .diverges
  | .error .drawsExhausted => .error .drawsExhausted
  | .error _ => .ok none

theorem bind_ok {first : Result α} {next : α → Result β} {result : β} :
    (first >>= next) = .ok result ↔ ∃ value, first = .ok value ∧ next value = .ok result := by
  cases first with
  | error failure => simp [bind,Except.bind]
  | ok value => simp [bind,Except.bind]

@[simp] theorem ok_bind (value : α) (next : α → Result β) :
    ((.ok value : Result α) >>= next) = next value := rfl

@[simp] theorem error_bind (failure : Failure) (next : α → Result β) :
    ((.error failure : Result α) >>= next) = .error failure := rfl

theorem ite_bind (test : Prop) [Decidable test] (first second : Result α) (next : α → Result β) :
    (if test then first >>= next else second >>= next) =
      (if test then first else second) >>= next := by
  split
  · rfl
  · rfl

theorem bind_ok_unit {first : Result Unit} {next : Result β} {result : β} :
    (first >>= fun _ => next) = .ok result ↔ first = .ok () ∧ next = .ok result := by
  rw [bind_ok]
  exact ⟨fun ⟨_,checked,rest⟩ => ⟨checked,rest⟩,fun ⟨checked,rest⟩ => ⟨(),checked,rest⟩⟩

/-- `if (condition) UAV_THROW(…)`. -/
def throwIf (condition : Prop) [Decidable condition] (failure : Failure) : Result Unit :=
  if condition then .error failure else .ok ()

theorem throwIf_ok {condition : Prop} [Decidable condition] {failure : Failure} :
    throwIf condition failure = .ok () ↔ ¬ condition := by
  by_cases holds : condition
  · simp [throwIf,holds]
  · simp [throwIf,holds]

theorem forM_ok {items : List α} {check : α → Result Unit} :
    forM items check = .ok () ↔ ∀ item ∈ items, check item = .ok () := by
  induction items with
  | nil => simp [pure,Except.pure]
  | cons item items ih =>
    rw [List.forM_cons,bind_ok_unit,ih,List.forall_mem_cons]

theorem mapM_ok {items : List α} {each : α → Result β} {results : List β} :
    items.mapM each = .ok results ↔
      List.Forall₂ (fun item result => each item = .ok result) items results := by
  induction items generalizing results with
  | nil =>
    rw [List.mapM_nil,List.forall₂_nil_left_iff]
    exact ⟨fun same => (Except.ok.inj same).symm,fun empty => empty ▸ rfl⟩
  | cons item items ih =>
    rw [List.mapM_cons,bind_ok]
    constructor
    · rintro ⟨first,head,rest⟩
      obtain ⟨others,tail,same⟩ := bind_ok.mp rest
      obtain rfl := Except.ok.inj same
      exact .cons head (ih.mp tail)
    · rintro (_ | ⟨head,tail⟩)
      exact ⟨_,head,bind_ok.mpr ⟨_,ih.mpr tail,rfl⟩⟩

theorem mapM_mem {items : List α} {each : α → Result β} {results : List β}
    (mapped : items.mapM each = .ok results) :
    (∀ item ∈ items, ∃ result ∈ results, each item = .ok result) ∧
      ∀ result ∈ results, ∃ item ∈ items, each item = .ok result := by
  have pairs := mapM_ok.mp mapped
  induction pairs with
  | nil => simp
  | cons head tail ih =>
    obtain ⟨left,right⟩ := ih (mapM_ok.mpr tail)
    simp only [List.forall_mem_cons,List.exists_mem_cons_iff]
    exact ⟨⟨.inl head,fun item inside => .inr (left item inside)⟩,
      .inl head,fun result inside => .inr (right result inside)⟩

theorem mapM_every {items : List α} {each : α → Result β} {good : β → Prop}
    (every : ∀ item ∈ items, ∃ result, each item = .ok result ∧ good result) :
    ∃ results, items.mapM each = .ok results ∧ results.length = items.length ∧
      ∀ result ∈ results, good result := by
  induction items with
  | nil => exact ⟨[],rfl,rfl,by simp⟩
  | cons item items ih =>
    obtain ⟨⟨first,head,first_good⟩,others⟩ := List.forall_mem_cons.mp every
    obtain ⟨results,tail,length,rest_good⟩ := ih others
    refine ⟨first::results,?_,by simp [length],List.forall_mem_cons.mpr ⟨first_good,rest_good⟩⟩
    rw [List.mapM_cons,head,ok_bind,tail]
    rfl

theorem refuses {failure : Failure} {condition : Prop} (fails : ¬ condition) :
    (∃ value : α, (.error failure : Result α) = .ok value) ↔ condition := by
  constructor
  · intro ⟨value,impossible⟩
    cases impossible
  · intro holds
    exact absurd holds fails

theorem accepts {result : α} {condition : Prop} (holds : condition) :
    (∃ value, (.ok result : Result α) = .ok value) ↔ condition :=
  ⟨fun _ => holds,fun _ => ⟨result,rfl⟩⟩

theorem bind_pure_accepts {first : Result α} {last : α → β} :
    (∃ value, (first >>= fun result => pure (last result)) = .ok value) ↔
      ∃ result, first = .ok result := by
  cases first with
  | error failure => exact ⟨fun ⟨_,impossible⟩ => (nomatch impossible),fun ⟨_,impossible⟩ => (nomatch impossible)⟩
  | ok result => exact ⟨fun _ => ⟨result,rfl⟩,fun _ => ⟨last result,rfl⟩⟩

/-- Whatever is thrown is one of the allowed failures. -/
def Throws (allowed : Failure → Prop) (result : Result α) : Prop :=
  ∀ failure, result = .error failure → allowed failure

namespace Throws

variable {allowed : Failure → Prop}

theorem ok (value : α) : Throws allowed (.ok value) := nofun

theorem error {failure : Failure} (holds : allowed failure) :
    Throws allowed (.error failure : Result α) := by
  rintro _ ⟨⟩
  exact holds

theorem bind {first : Result α} {next : α → Result β} (throws : Throws allowed first)
    (rest : ∀ value, first = .ok value → Throws allowed (next value)) :
    Throws allowed (first >>= next) := by
  cases first with
  | error failure => exact .error (throws failure rfl)
  | ok value => exact rest value rfl

theorem map {first : Result α} {f : α → β} (throws : Throws allowed first) :
    Throws allowed (first.map f) := by
  cases first with
  | error failure => exact .error (throws failure rfl)
  | ok value => exact .ok (f value)

theorem ite {test : Prop} [Decidable test] {first second : Result α}
    (one : Throws allowed first) (other : ¬ test → Throws allowed second) :
    Throws allowed (if test then first else second) := by
  split
  · exact one
  · exact other ‹_›

theorem mapM {each : α → Result β} (items : List α) (throws : ∀ item, Throws allowed (each item)) :
    Throws allowed (items.mapM each) := by
  induction items with
  | nil => exact .ok []
  | cons item items ih =>
    rw [List.mapM_cons]
    exact (throws item).bind fun first _ => ih.bind fun rest _ => .ok (first::rest)

theorem of_exists {first : Result α} (found : ∃ value, first = .ok value) :
    Throws allowed first := by
  obtain ⟨value,rfl⟩ := found
  exact .ok value

theorem reads {first : Result α} {next : α → Result β} (found : ∃ value, first = .ok value)
    (rest : ∀ value, Throws allowed (next value)) : Throws allowed (first >>= next) :=
  (of_exists found).bind fun value _ => rest value

end Throws

theorem caught_some {first : Result α} {value : α} :
    first.caught = .ok (some value) ↔ first = .ok value := by
  cases first with
  | error failure => cases failure <;> simp [caught]
  | ok other => simp [caught]

end Result
end UavFanet
