import Mathlib.Data.List.Basic
import Mathlib.Data.List.Induction

/-! Requests that are opened and closed by key. The last event about a key decides what is
outstanding for it; closings that find their own request open each have an opening of their own. -/
namespace UavFanet.Library.Outstanding

inductive Event (Key Tag : Type) where
  | opened (key : Key) (tag : Tag)
  | closed (key : Key) (tag : Tag)

namespace Event

variable {Key Tag : Type}

def key : Event Key Tag → Key
  | opened key _ => key
  | closed key _ => key

/-- What it leaves outstanding for its key. -/
def left : Event Key Tag → Option Tag
  | opened _ tag => some tag
  | closed _ _ => none

end Event

variable {Item Key Tag : Type} (view : Item → Option (Event Key Tag))

/-- A cause for each closing: an earlier opening with its key and tag, and no two share one. -/
structure Attributed (items : List Item) (cause : Nat → Nat) : Prop where
  earlier : ∀ j key tag, items[j]?.bind view = some (.closed key tag) →
    cause j < j ∧ items[cause j]?.bind view = some (.opened key tag)
  once : ∀ i j key tag other label, items[i]?.bind view = some (.closed key tag) →
    items[j]?.bind view = some (.closed other label) → cause i = cause j → i = j

section Seen

variable {view}

theorem seen_concat (items : List Item) (item : Item) (i : Nat) :
    (items ++ [item])[i]?.bind view =
      if i = items.length then view item else items[i]?.bind view := by
  rcases Nat.lt_trichotomy i items.length with within | rfl | beyond
  · rw [List.getElem?_append_left within,if_neg (by omega)]
  · simp
  · rw [if_neg (by omega),List.getElem?_eq_none (by simp; omega),
      List.getElem?_eq_none (by omega)]

theorem seen_within {items : List Item} {i : Nat} {event : Event Key Tag}
    (seen : items[i]?.bind view = some event) : i < items.length := by
  by_contra beyond
  rw [List.getElem?_eq_none (by omega)] at seen
  cases seen

theorem Attributed.keep {items : List Item} {cause : Nat → Nat} {item : Item}
    (attributed : Attributed view items cause)
    (no_closing : ∀ key tag, view item ≠ some (.closed key tag)) :
    Attributed view (items ++ [item]) cause where
  earlier j key tag seen := by
    rw [seen_concat] at seen
    split at seen
    · exact absurd seen (no_closing key tag)
    · obtain ⟨before,opened⟩ := attributed.earlier j key tag seen
      have within := seen_within opened
      rw [seen_concat,if_neg (by omega)]
      exact ⟨before,opened⟩
  once i j key tag other label first second := by
    rw [seen_concat] at first second
    split at first
    · exact absurd first (no_closing key tag)
    split at second
    · exact absurd second (no_closing other label)
    exact attributed.once i j key tag other label first second

/-- A closing is attributed to the opening that it finds: no earlier one was. -/
theorem Attributed.close {items : List Item} {cause : Nat → Nat} {item : Item} {key : Key}
    {tag : Tag} {opening : Nat} (attributed : Attributed view items cause)
    (closes : view item = some (.closed key tag))
    (opened : items[opening]?.bind view = some (.opened key tag))
    (quiet : ∀ (j : Nat) event, opening < j → items[j]?.bind view = some event → event.key ≠ key) :
    Attributed view (items ++ [item]) (fun j => if j = items.length then opening else cause j) := by
  have within := seen_within opened
  have fresh : ∀ j other label, items[j]?.bind view = some (.closed other label) →
      cause j ≠ opening := by
    rintro j other label seen rfl
    obtain ⟨before,same⟩ := attributed.earlier j other label seen
    rw [opened] at same
    obtain ⟨rfl,rfl⟩ := Event.opened.inj (Option.some.inj same)
    exact quiet j _ before seen rfl
  constructor
  · intro j other label seen
    rw [seen_concat] at seen
    split at seen
    · rename_i last
      rw [closes] at seen
      obtain ⟨rfl,rfl⟩ := Event.closed.inj (Option.some.inj seen)
      rw [if_pos last,seen_concat,if_neg (by omega)]
      exact ⟨by omega,opened⟩
    · rename_i earlier
      obtain ⟨before,cause_opened⟩ := attributed.earlier j other label seen
      have inside := seen_within cause_opened
      rw [if_neg earlier,seen_concat,if_neg (by omega)]
      exact ⟨before,cause_opened⟩
  · intro i j first_key first_tag second_key second_tag first second same
    rw [seen_concat] at first second
    split at first
    · rename_i i_last
      split at second
      · omega
      · rename_i j_earlier
        rw [if_pos i_last,if_neg j_earlier] at same
        exact absurd same.symm (fresh j _ _ second)
    · rename_i i_earlier
      split at second
      · rename_i j_last
        rw [if_neg i_earlier,if_pos j_last] at same
        exact absurd same (fresh i _ _ first)
      · rename_i j_earlier
        rw [if_neg i_earlier,if_neg j_earlier] at same
        exact attributed.once i j _ _ _ _ first second same

end Seen

variable [DecidableEq Key]

/-- The tag outstanding for a key, by the last event about it. -/
def outstanding (key : Key) (items : List Item) : Option Tag :=
  ((items.filterMap view).filter (·.key = key)).getLast?.bind Event.left

/-- Every closing comes when its key is outstanding with its tag. -/
def Matched (items : List Item) : Prop :=
  ∀ before item after, items = before ++ item :: after →
    ∀ key tag, view item = some (.closed key tag) → outstanding view key before = some tag

variable {view}

@[simp] theorem outstanding_nil (key : Key) : outstanding view key [] = none := rfl

theorem outstanding_concat (key : Key) (items : List Item) (item : Item) :
    outstanding view key (items ++ [item]) =
      (view item).elim (outstanding view key items)
        fun event => if event.key = key then event.left else outstanding view key items := by
  unfold outstanding
  rw [List.filterMap_append,List.filter_append]
  cases seen : view item with
  | none => simp [seen]
  | some event =>
    by_cases same : event.key = key
    · simp [seen,same]
    · simp [seen,same]

/-- What is outstanding was opened by an event after which none is about its key. -/
theorem outstanding_opened {key : Key} {tag : Tag} {items : List Item}
    (remains : outstanding view key items = some tag) :
    ∃ i < items.length, items[i]?.bind view = some (.opened key tag) ∧
      ∀ (j : Nat) event, i < j → items[j]?.bind view = some event → event.key ≠ key := by
  induction items using List.reverseRecOn with
  | nil => cases remains
  | append_singleton items item ih =>
    rw [outstanding_concat] at remains
    have last : ∀ event, view item = some event → event.key = key → event.left = some tag := by
      intro event seen same
      rwa [seen,Option.elim_some,if_pos same] at remains
    by_cases opens : view item = some (.opened key tag)
    · refine ⟨items.length,by simp,by rw [seen_concat,if_pos rfl,opens],?_⟩
      intro j event after seen
      rw [seen_concat,if_neg (by omega),List.getElem?_eq_none (by omega)] at seen
      cases seen
    · have other : ∀ event, view item = some event → event.key ≠ key := by
        rintro (⟨k,t⟩ | ⟨k,t⟩) seen rfl
        · obtain rfl : t = tag := Option.some.inj (last _ seen rfl)
          exact opens seen
        · cases last _ seen rfl
      have before : outstanding view key items = some tag := by
        cases seen : view item with
        | none => rwa [seen] at remains
        | some event => rwa [seen,Option.elim_some,if_neg (other event seen)] at remains
      obtain ⟨i,within,opened,quiet⟩ := ih before
      refine ⟨i,by simp; omega,by rw [seen_concat,if_neg (by omega),opened],?_⟩
      intro j event after seen
      rw [seen_concat] at seen
      split at seen
      · exact other event seen
      · exact quiet j event after seen

theorem Matched.front {items : List Item} {item : Item} (matched : Matched view (items ++ [item])) :
    Matched view items := by
  intro before closing after split key tag seen
  exact matched before closing (after ++ [item]) (by simp [split]) key tag seen

/-- Matched closings have each a cause of their own. -/
theorem Matched.attributed {items : List Item} (matched : Matched view items) :
    ∃ cause, Attributed view items cause := by
  induction items using List.reverseRecOn with
  | nil =>
    refine ⟨id,?_,?_⟩
    · intro j key tag seen
      cases seen
    · intro i j key tag other label seen
      cases seen
  | append_singleton items item ih =>
    obtain ⟨cause,attributed⟩ := ih matched.front
    by_cases closes : ∃ key tag, view item = some (.closed key tag)
    · obtain ⟨key,tag,seen⟩ := closes
      obtain ⟨opening,-,opened,quiet⟩ :=
        outstanding_opened (matched items item [] rfl key tag seen)
      exact ⟨_,attributed.close seen opened quiet⟩
    · exact ⟨cause,attributed.keep fun key tag seen => closes ⟨key,tag,seen⟩⟩

end UavFanet.Library.Outstanding
