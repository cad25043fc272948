import Mathlib.Data.List.Forall2

/-! Two programs that may throw and that agree: both throw for related reasons, or both return
related values. -/
namespace UavFanet.Library

variable {ε δ α β : Type}

inductive Agree (failing : ε → δ → Prop) (related : α → β → Prop) : Except ε α → Except δ β → Prop where
  | ok {a : α} {b : β} (same : related a b) : Agree failing related (.ok a) (.ok b)
  | error {e : ε} {d : δ} (same : failing e d) : Agree failing related (.error e) (.error d)

namespace Agree

variable {γ κ : Type} {failing : ε → δ → Prop} {related : α → β → Prop} {onward : γ → κ → Prop}

theorem refl (result : Except ε α) : Agree Eq Eq result result := by
  cases result with
  | error e => exact .error rfl
  | ok a => exact .ok rfl

theorem bind {first : Except ε α} {second : Except δ β} (agree : Agree failing related first second)
    {next : α → Except ε γ} {other : β → Except δ κ}
    (rest : ∀ a b, related a b → Agree failing onward (next a) (other b)) :
    Agree failing onward (first >>= next) (second >>= other) := by
  cases agree with
  | ok same => exact rest _ _ same
  | error same => exact .error same

/-- Two loops over the same list, step by step. -/
theorem foldlM {T : Type} {step : α → T → Except ε α} {other : β → T → Except δ β} {items : List T}
    {a : α} {b : β} (start : related a b)
    (each : ∀ a b, related a b → ∀ item ∈ items, Agree failing related (step a item) (other b item)) :
    Agree failing related (items.foldlM step a) (items.foldlM other b) := by
  induction items generalizing a b with
  | nil => exact .ok start
  | cons item items ih =>
    rw [List.foldlM_cons,List.foldlM_cons]
    exact bind (each a b start item List.mem_cons_self) fun c d same =>
      ih same fun c d same item inside => each c d same item (List.mem_cons_of_mem _ inside)

end Agree

theorem bind_success {first : Except ε α} {next : α → Except ε β} {b : β} :
    first >>= next = .ok b ↔ ∃ a, first = .ok a ∧ next a = .ok b := by
  cases first with
  | error e => exact ⟨fun failed => (nomatch failed),fun ⟨_,failed,_⟩ => nomatch failed⟩
  | ok a =>
    refine ⟨fun returned => ⟨a,rfl,returned⟩,fun ⟨b,same,returned⟩ => ?_⟩
    cases same
    exact returned

variable {S T C A : Type}

/-- The last state of a run, with what its calls returned. The run ends where one throws. -/
def collect (perform : S → C → Except ε (S × A)) : S → List C → Except ε (S × List A)
  | state,[] => .ok (state,[])
  | state,call :: rest => do
    let (state,answer) ← perform state call
    let (state,answers) ← collect perform state rest
    return (state,answer :: answers)

/-- Two machines that agree on every call agree on every run. -/
theorem collect_agree {failing : ε → δ → Prop} {related : S → T → Prop}
    {perform : S → C → Except ε (S × A)} {other : T → C → Except δ (T × A)}
    (each : ∀ s t, related s t → ∀ call,
      Agree failing (fun a b => related a.1 b.1 ∧ a.2 = b.2) (perform s call) (other t call))
    (calls : List C) {s : S} {t : T} (start : related s t) :
    Agree failing (fun a b => related a.1 b.1 ∧ a.2 = b.2) (collect perform s calls)
      (collect other t calls) := by
  induction calls generalizing s t with
  | nil => exact .ok ⟨start,rfl⟩
  | cons call rest ih =>
    refine .bind (each s t start call) fun a b same => ?_
    refine .bind (ih same.1) fun c d rest_same => ?_
    exact .ok ⟨rest_same.1,congr (congrArg List.cons same.2) rest_same.2⟩

end UavFanet.Library
