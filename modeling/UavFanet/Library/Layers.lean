import Mathlib.Data.Nat.Init

/-! Tables of distances that are filled one layer after the other: what is in them in the end is
reached by a shortest walk. -/
namespace UavFanet.Library.Layers

variable {V P : Type} (edge : V → V → Prop) (root : V → Option (Nat × P)) (base : Nat)

/-- Walks along the edges, from a root at the distance `base` and over vertices that are no roots.
They keep what the root was given. -/
inductive Walk : Nat → P → V → Prop where
  | start {p : P} {v : V} (given : root v = some (base,p)) : Walk base p v
  | next {n : Nat} {p : P} {u v : V} (before : Walk n p u) (along : edge u v) (free : root v = none) :
      Walk (n+1) p v

/-- The table holds the roots and the layers up to `h`, and those before `h` were left by all
their edges. -/
structure Layered (h : Nat) (table : V → Option (Nat × P)) : Prop where
  roots : ∀ {v e}, root v = some e → table v = some e
  sound : ∀ {v n p}, root v = none → table v = some (n,p) → Walk edge root base n p v ∧ n ≤ h
  closed : ∀ {u v m p}, table u = some (m,p) → base ≤ m → m < h → edge u v →
    ∃ e, table v = some e ∧ (root v = none → e.1 ≤ m+1)

variable {edge root base}

theorem Walk.base_le {n : Nat} {p : P} {v : V} (walk : Walk edge root base n p v) : base ≤ n := by
  induction walk with
  | start => exact Nat.le_refl base
  | next _ _ _ ih => exact Nat.le_succ_of_le ih

theorem Layered.start : Layered edge root base base root :=
  ⟨id,fun free held => (nomatch free.symm.trans held),
    fun _ late early => absurd late (Nat.not_le.mpr early)⟩

variable {h : Nat} {table after : V → Option (Nat × P)}

/-- One pass over the edges that leave the layer `h`. -/
theorem Layered.next (layered : Layered edge root base h table)
    (low : ∀ {v n p}, root v = some (n,p) → n ≤ base) (late : base ≤ h)
    (keeps : ∀ {v e}, table v = some e → after v = some e)
    (fresh : ∀ {v n p}, table v = none → after v = some (n,p) →
      n = h+1 ∧ ∃ u, table u = some (h,p) ∧ edge u v)
    (full : ∀ {u v p}, table u = some (h,p) → edge u v → ∃ e, after v = some e) :
    Layered edge root base (h+1) after := by
  have reached : ∀ {u p}, table u = some (h,p) → Walk edge root base h p u := by
    intro u p held
    cases given : root u with
    | none => exact (layered.sound given held).1
    | some e =>
      have same := (layered.roots given).symm.trans held
      obtain rfl := Option.some.inj same
      obtain rfl : h = base := Nat.le_antisymm (low given) late
      exact .start given
  have new_layer : ∀ {v n p}, root v = none → after v = some (n,p) →
      Walk edge root base n p v ∧ n ≤ h+1 := by
    intro v n p free held
    cases before : table v with
    | none =>
      obtain ⟨rfl,u,there,along⟩ := fresh before held
      exact ⟨.next (reached there) along free,Nat.le_refl _⟩
    | some e =>
      obtain rfl := Option.some.inj ((keeps before).symm.trans held)
      exact ⟨(layered.sound free before).1,Nat.le_succ_of_le (layered.sound free before).2⟩
  refine ⟨fun given => keeps (layered.roots given),new_layer,?_⟩
  intro u v m p held first early along
  have before : table u = some (m,p) := by
    cases before : table u with
    | none =>
      obtain ⟨rfl,-⟩ := fresh before held
      omega
    | some e => rw [← held,keeps before]
  rcases Nat.lt_succ_iff_lt_or_eq.mp early with inside | rfl
  · obtain ⟨e,there,near⟩ := layered.closed before first inside along
    exact ⟨e,keeps there,near⟩
  · obtain ⟨e,there⟩ := full before along
    exact ⟨e,there,fun free => (new_layer free there).2⟩

/-- Once a layer is empty, the table holds a shortest walk to whatever can be reached. -/
theorem Layered.shortest (layered : Layered edge root base (h+1) table)
    (last : ∀ {v n p}, table v = some (n,p) → n ≤ h) {n : Nat} {p : P} {v : V}
    (walk : Walk edge root base n p v) : ∃ m q, table v = some (m,q) ∧ base ≤ m ∧ m ≤ n := by
  induction walk with
  | start given => exact ⟨_,_,layered.roots given,Nat.le_refl _,Nat.le_refl _⟩
  | next before along free ih =>
    obtain ⟨m,q,there,first,near⟩ := ih
    obtain ⟨⟨k,r⟩,held,close⟩ := layered.closed there first (Nat.lt_succ_of_le (last there)) along
    exact ⟨k,r,held,(layered.sound free held).1.base_le,Nat.le_trans (close free) (Nat.succ_le_succ near)⟩

end UavFanet.Library.Layers
