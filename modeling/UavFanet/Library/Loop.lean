import Mathlib.Logic.Function.Iterate
import Mathlib.Order.Basic
import Mathlib.Data.Nat.Init

/-! Bounded runs of a `while` loop. A loop whose test repeats after finitely
many iterations is decided by a bounded run, so the bound loses no outcome. -/
namespace UavFanet.Library.Loop

/-- `while (again s) s = body s`, given up after `fuel` iterations. -/
def whileDo {σ : Type} (again : σ → Bool) (body : σ → σ) : Nat → σ → Option σ
  | 0, s => if again s then none else some s
  | fuel+1, s => if again s then whileDo again body fuel (body s) else some s

variable {σ : Type} {again : σ → Bool} {body : σ → σ}

/-- A run that ends is the least number of iterations after which the test fails. -/
theorem whileDo_eq_some (fuel : Nat) (s t : σ) :
    whileDo again body fuel s = some t ↔
      ∃ k, k ≤ fuel ∧ (∀ j < k, again (body^[j] s) = true) ∧
        again (body^[k] s) = false ∧ body^[k] s = t := by
  induction fuel generalizing s with
  | zero =>
    cases test : again s with
    | true =>
      simp only [whileDo,test,if_true,reduceCtorEq,Nat.le_zero,false_iff,not_exists,not_and]
      rintro k rfl _ stopped
      simp [test] at stopped
    | false =>
      simp only [whileDo,test,Bool.false_eq_true,if_false,Option.some.injEq,Nat.le_zero]
      constructor
      · rintro rfl
        exact ⟨0,rfl,by simp,test,rfl⟩
      · rintro ⟨k,rfl,_,_,same⟩
        exact same
  | succ fuel ih =>
    cases test : again s with
    | true =>
      simp only [whileDo,test,if_true,ih]
      constructor
      · rintro ⟨k,bound,running,stopped,same⟩
        refine ⟨k+1,by omega,?_,stopped,same⟩
        intro j before
        cases j with
        | zero => exact test
        | succ j => exact running j (by omega)
      · rintro ⟨k,bound,running,stopped,same⟩
        cases k with
        | zero => simp [test] at stopped
        | succ k =>
          exact ⟨k,by omega,fun j before => running (j+1) (by omega),stopped,same⟩
    | false =>
      simp only [whileDo,test,Bool.false_eq_true,if_false,Option.some.injEq]
      constructor
      · rintro rfl
        exact ⟨0,by omega,by simp,test,rfl⟩
      · rintro ⟨k,_,running,_,same⟩
        cases k with
        | zero => exact same
        | succ k => simpa [test] using running 0 (by omega)

/-- A loop still running after a whole period of its test never ends. -/
theorem whileDo_periodic {period : Nat} {s : σ}
    (repeats : ∀ k, again (body^[k+(period+1)] s) = again (body^[k] s))
    (running : whileDo again body period s = none) (fuel : Nat) :
    whileDo again body fuel s = none := by
  have every : ∀ k, again (body^[k] s) = true := by
    intro k
    induction k using Nat.strong_induction_on with
    | _ k ih =>
      by_cases late : period < k
      · have shifted := repeats (k-(period+1))
        rw [Nat.sub_add_cancel late] at shifted
        rw [shifted]
        exact ih _ (by omega)
      · by_contra stopped
        have ended := (whileDo_eq_some period s (body^[k] s)).mpr
          ⟨k,by omega,fun j before => ih j before,by simpa using stopped,rfl⟩
        simp [running] at ended
  cases result : whileDo again body fuel s with
  | none => rfl
  | some t =>
    obtain ⟨k,_,_,stopped,_⟩ := (whileDo_eq_some fuel s t).mp result
    simp [every k] at stopped

end UavFanet.Library.Loop
