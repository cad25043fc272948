import Mathlib.Data.Multiset.Count
import Mathlib.Data.Multiset.MapFold
import Mathlib.Data.Set.Insert
import UavFanet.Library.Run

/-! Requests that are settled early or closed by a timer of their own. A ledger holds the requests
that are pending and the timers that are set; its notes say what was opened, settled or expired. -/
namespace UavFanet.Library.Deadlines

/-- A timer that expires on a pending request closes it with a record. -/
inductive Note (Key Record : Type) where
  | opened (key : Key)
  | settled (key : Key) (record : Record)
  | expired (key : Key) (record : Option Record)

namespace Note

variable {Key Record : Type}

def opening : Note Key Record → Option Key
  | opened key => some key
  | settled _ _ => none
  | expired _ _ => none

def outcome : Note Key Record → Option (Key × Record)
  | opened _ => none
  | settled key record => some (key,record)
  | expired key record => record.map fun record => (key,record)

def expiry : Note Key Record → Option Key
  | opened _ => none
  | settled _ _ => none
  | expired key _ => some key

end Note

variable {Key Record : Type}

def openings (notes : List (Note Key Record)) : List Key := notes.filterMap Note.opening

def outcomes (notes : List (Note Key Record)) : List (Key × Record) := notes.filterMap Note.outcome

def expiries (notes : List (Note Key Record)) : List Key := notes.filterMap Note.expiry

structure Ledger (Key : Type) where
  pending : Set Key
  timers : Multiset Key

variable {State Event : Type}

/-- The notes of a run, in order. -/
def notes (step : State → Event → State × Option (Note Key Record)) (start : State)
    (events : List Event) : List (Note Key Record) :=
  (Run.outputs step start events).map Prod.snd

theorem notes_cons (step : State → Event → State × Option (Note Key Record)) (start : State)
    (event : Event) (rest : List Event) : notes step start (event :: rest) =
      (step start event).2.toList ++ notes step (step start event).1 rest := by
  rw [notes,Run.outputs,List.map_append,notes]
  cases (step start event).2 <;> rfl

theorem notes_snoc (step : State → Event → State × Option (Note Key Record)) (event : Event)
    (events : List Event) (start : State) : notes step start (events ++ [event]) =
      notes step start events ++ (step (Run.final step start events) event).2.toList := by
  induction events generalizing start with
  | nil => exact (notes_cons step start event []).trans (List.append_nil _)
  | cons first rest ih =>
    rw [List.cons_append,notes_cons,notes_cons,ih,List.append_assoc,Run.final_cons]

variable [DecidableEq Key]

theorem count_openings (notes : List (Note Key Record)) (note : Note Key Record) (key : Key) :
    (openings (notes ++ [note])).count key =
      (openings notes).count key+if note.opening = some key then 1 else 0 := by
  rw [openings,List.filterMap_append,List.count_append,openings]
  cases seen : note.opening with
  | none => simp [seen]
  | some other => simp [seen,List.count_singleton]

theorem count_outcomes (notes : List (Note Key Record)) (note : Note Key Record) (key : Key) :
    ((outcomes (notes ++ [note])).map Prod.fst).count key =
      ((outcomes notes).map Prod.fst).count key+if note.outcome.map Prod.fst = some key then 1 else 0 := by
  rw [outcomes,List.filterMap_append,List.map_append,List.count_append,outcomes]
  cases seen : note.outcome with
  | none => simp [seen]
  | some other => simp [seen,List.count_singleton]

theorem count_expiries (notes : List (Note Key Record)) (note : Note Key Record) (key : Key) :
    (expiries (notes ++ [note])).count key =
      (expiries notes).count key+if note.expiry = some key then 1 else 0 := by
  rw [expiries,List.filterMap_append,List.count_append,expiries]
  cases seen : note.expiry with
  | none => simp [seen]
  | some other => simp [seen,List.count_singleton]

namespace Ledger

/-- Opening a request sets its timer; settling it leaves the timer to expire later. -/
inductive Step (ledger : Ledger Key) : Note Key Record → Ledger Key → Prop
  | opened (key : Key) :
      Step ledger (.opened key) ⟨insert key ledger.pending,key ::ₘ ledger.timers⟩
  | settled {key : Key} (record : Record) (open_request : key ∈ ledger.pending) :
      Step ledger (.settled key record) ⟨ledger.pending \ {key},ledger.timers⟩
  | closed {key : Key} (record : Record) (set : key ∈ ledger.timers)
      (open_request : key ∈ ledger.pending) :
      Step ledger (.expired key (some record)) ⟨ledger.pending \ {key},ledger.timers.erase key⟩
  | lapsed {key : Key} (set : key ∈ ledger.timers) (no_request : key ∉ ledger.pending) :
      Step ledger (.expired key none) ⟨ledger.pending,ledger.timers.erase key⟩

/-- A ledger against the notes so far: each request opened is pending or has an outcome, and each
timer set is still set or has expired. -/
structure Accounts (ledger : Ledger Key) (notes : List (Note Key Record)) : Prop where
  pending : ∀ key ∈ ledger.pending,
    ((outcomes notes).map Prod.fst).count key+1 = (openings notes).count key
  closed : ∀ key ∉ ledger.pending,
    ((outcomes notes).map Prod.fst).count key = (openings notes).count key
  timers : ∀ key, ledger.timers.count key+(expiries notes).count key = (openings notes).count key
  expired : ∀ key ∈ ledger.pending, (expiries notes).count key = 0

theorem Accounts.empty : Accounts (⟨∅,0⟩ : Ledger Key) ([] : List (Note Key Record)) where
  pending key member := absurd member (Set.notMem_empty key)
  closed _ _ := rfl
  timers key := Multiset.count_zero key
  expired key member := absurd member (Set.notMem_empty key)

section Step

variable {ledger next : Ledger Key} {notes : List (Note Key Record)} {note : Note Key Record}

theorem Accounts.opened {key : Key} (accounts : Accounts ledger notes)
    (fresh : key ∉ openings notes) :
    Accounts ⟨insert key ledger.pending,key ::ₘ ledger.timers⟩
      (notes ++ [.opened key]) := by
  have first : (openings notes).count key = 0 := List.count_eq_zero.mpr fresh
  have absent : key ∉ ledger.pending := by
    intro pending
    have counted := accounts.pending key pending
    omega
  have no_outcome := accounts.closed key absent
  have timed := accounts.timers key
  have apart : ∀ other, other ∈ ledger.pending → key ≠ other := by
    rintro other member rfl
    exact absent member
  constructor
  · rintro other (rfl | member)
    · simp [count_openings,count_outcomes,Note.opening,Note.outcome,no_outcome]
    · simp [count_openings,count_outcomes,Note.opening,Note.outcome,apart other member,
        accounts.pending other member]
  · intro other outside
    have differs : key ≠ other := fun same => outside (.inl same.symm)
    simp [count_openings,count_outcomes,Note.opening,Note.outcome,differs,
      accounts.closed other fun member => outside (.inr member)]
  · intro other
    have counted := accounts.timers other
    simp only [count_openings,count_expiries,Note.opening,Note.expiry,Multiset.count_cons,
      Option.some.injEq,eq_comm (a := other) (b := key),reduceCtorEq,if_false]
    omega
  · rintro other (rfl | member)
    · simp only [count_expiries,Note.expiry,reduceCtorEq,if_false]
      omega
    · simp [count_expiries,Note.expiry,accounts.expired other member]

theorem Accounts.outcome {key : Key} {record : Record} {timers : Multiset Key}
    (accounts : Accounts ledger notes) (pending : key ∈ ledger.pending)
    (opening : note.opening = none) (outcome : note.outcome = some (key,record))
    (timed : ∀ other, timers.count other+(if note.expiry = some other then 1 else 0) =
      ledger.timers.count other)
    (expires : ∀ other, note.expiry = some other → other = key) :
    Accounts ⟨ledger.pending \ {key},timers⟩ (notes ++ [note]) := by
  constructor
  · rintro other ⟨member,differs⟩
    have distinct : key ≠ other := fun same => differs same.symm
    simp [count_openings,count_outcomes,opening,outcome,distinct,accounts.pending other member]
  · intro other outside
    by_cases same : key = other
    · subst same
      simp [count_openings,count_outcomes,opening,outcome,accounts.pending key pending]
    · simp [count_openings,count_outcomes,opening,outcome,same,
        accounts.closed other fun member => outside ⟨member,fun back => same back.symm⟩]
  · intro other
    have counted := accounts.timers other
    have change := timed other
    simp only [count_openings,count_expiries,opening,reduceCtorEq,if_false]
    omega
  · rintro other ⟨member,differs⟩
    have silent : note.expiry ≠ some other := fun expired => differs (expires other expired)
    simp [count_expiries,silent,accounts.expired other member]

/-- Every note that follows from an accounted ledger keeps it so, when requests are opened under
new keys. -/
theorem Accounts.step (accounts : Accounts ledger notes) (step : Step ledger note next)
    (fresh : ∀ key, note.opening = some key → key ∉ openings notes) :
    Accounts next (notes ++ [note]) := by
  have erased : ∀ {key : Key}, key ∈ ledger.timers → ∀ other,
      (ledger.timers.erase key).count other+(if key = other then 1 else 0) =
        ledger.timers.count other := by
    intro key set other
    rw [← Multiset.cons_erase set,Multiset.count_cons,Multiset.cons_erase set]
    simp only [eq_comm (a := other) (b := key)]
  cases step with
  | opened key => exact accounts.opened (fresh key rfl)
  | settled record pending =>
    exact accounts.outcome pending rfl rfl (fun _ => rfl) (fun _ impossible => by cases impossible)
  | closed record set pending =>
    apply accounts.outcome pending rfl rfl
    · simpa [Note.expiry] using erased set
    · rintro other expired
      exact (Option.some.inj expired).symm
  | @lapsed key set no_request =>
    constructor
    · intro other member
      simp [count_openings,count_outcomes,Note.opening,Note.outcome,accounts.pending other member]
    · intro other outside
      simp [count_openings,count_outcomes,Note.opening,Note.outcome,accounts.closed other outside]
    · intro other
      have counted := accounts.timers other
      have change := erased set other
      simp only [count_openings,count_expiries,Note.opening,Note.expiry,Option.some.injEq,
        reduceCtorEq,if_false]
      omega
    · intro other member
      have differs : key ≠ other := by
        rintro rfl
        exact no_request member
      simp [count_expiries,Note.expiry,differs,accounts.expired other member]

/-- A request opened once has at most one outcome, and has one once its timer has expired. -/
theorem Accounts.once (accounts : Accounts ledger notes) (opened_once : (openings notes).Nodup)
    (key : Key) : ((outcomes notes).map Prod.fst).count key ≤ 1 ∧
      (key ∈ expiries notes → ((outcomes notes).map Prod.fst).count key = 1) := by
  have single := List.nodup_iff_count.mp opened_once key
  have timed := accounts.timers key
  constructor
  · by_cases pending : key ∈ ledger.pending
    · have counted := accounts.pending key pending
      omega
    · have counted := accounts.closed key pending
      omega
  · intro expired
    have positive := List.count_pos_iff.mpr expired
    have done : key ∉ ledger.pending := by
      intro pending
      have unexpired := accounts.expired key pending
      omega
    have counted := accounts.closed key done
    omega

theorem Accounts.due (accounts : Accounts ledger notes) {key : Key} (opened : key ∈ openings notes) :
    key ∈ expiries notes ∨ key ∈ ledger.timers := by
  have timed := accounts.timers key
  have positive := List.count_pos_iff.mpr opened
  by_cases set : key ∈ ledger.timers
  · exact .inr set
  · rw [Multiset.count_eq_zero_of_notMem set,Nat.zero_add] at timed
    exact .inl (List.count_pos_iff.mp (by omega))

end Step

section Runs

variable {step : State → Event → State × Option (Note Key Record)} {ledger : State → Ledger Key}

/-- A machine whose steps follow the ledger of its state ends with an accounted ledger. -/
theorem Accounts.run
    (follows : ∀ state event,
      (step state event).2.elim (ledger (step state event).1 = ledger state)
        fun note => Step (ledger state) note (ledger (step state event).1))
    (events : List Event) {start : State} {before : List (Note Key Record)}
    (accounts : Accounts (ledger start) before)
    (opened_once : (openings (before ++ notes step start events)).Nodup) :
    Accounts (ledger (Run.final step start events)) (before ++ notes step start events) := by
  induction events generalizing start before with
  | nil => simpa [notes,Run.outputs] using accounts
  | cons event rest ih =>
    have stepped := follows start event
    rw [notes_cons] at opened_once ⊢
    rw [Run.final_cons]
    cases seen : (step start event).2 with
    | none =>
      rw [seen,Option.elim_none] at stepped
      rw [seen] at opened_once
      apply ih (stepped ▸ accounts) opened_once
    | some note =>
      rw [seen,Option.elim_some] at stepped
      rw [seen,Option.toList_some,← List.append_assoc] at opened_once
      rw [Option.toList_some,← List.append_assoc]
      apply ih _ opened_once
      apply accounts.step stepped
      intro key opens member
      have again : (openings (before ++ [note])).Nodup := by
        rw [openings,List.filterMap_append] at opened_once
        exact (List.nodup_append.mp opened_once).1
      rw [openings,List.filterMap_append,List.filterMap_cons_some opens] at again
      exact (List.nodup_append.mp again).2.2 key member key (List.mem_cons_self ..) rfl

end Runs
end Ledger
end UavFanet.Library.Deadlines
