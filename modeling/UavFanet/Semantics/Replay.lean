import Mathlib.Data.List.Basic

/-! Replay protection as it is meant: each sender's accepted packets are remembered
in full, over unbounded numbers and arbitrary senders and nonces. -/
namespace UavFanet.Semantics.Replay

variable {Sender Nonce : Type}

structure Packet (Nonce : Type) where
  timestamp : Nat
  seq : Nat
  nonce : Nonce
  deriving DecidableEq

structure Call (Sender Nonce : Type) where
  sender : Sender
  packet : Packet Nonce
  clock : Nat

/-- The accepted packets of one sender, newest first. -/
abbrev History (Nonce : Type) := List (Packet Nonce)

def maximum (history : History Nonce) : Option Nat := (history.map Packet.seq).max?

def Timely (skew clock timestamp : Nat) : Prop :=
  timestamp ≤ clock+skew ∧ clock ≤ timestamp+skew

/-- The nonce is not among the last 64 accepted ones. -/
def NonceFresh (history : History Nonce) (nonce : Nonce) : Prop :=
  nonce ∉ (history.map Packet.nonce).take 64

/-- The number exceeds all accepted ones, or is in the window and not accepted yet. -/
def SeqFresh (window : Nat) (history : History Nonce) (seq : Nat) : Prop :=
  ∀ top ∈ maximum history, top < seq ∨ (top-seq < window ∧ seq ∉ history.map Packet.seq)

theorem maximum_cons (packet : Packet Nonce) (history : History Nonce) :
    maximum (packet::history) = some (max packet.seq ((maximum history).getD 0)) := by
  cases history with
  | nil => simp [maximum]
  | cons other rest => simp [maximum,List.max?_cons]

theorem le_maximum {history : History Nonce} {packet : Packet Nonce} (member : packet ∈ history) :
    packet.seq ≤ (maximum history).getD 0 := by
  have present : packet.seq ∈ history.map Packet.seq := List.mem_map_of_mem member
  cases found : maximum history with
  | none =>
    rw [maximum,List.max?_eq_none_iff] at found
    simp [found] at present
  | some top => exact (List.max?_eq_some_iff.mp found).2 _ present

variable [DecidableEq Sender] [DecidableEq Nonce]

instance (skew clock timestamp : Nat) : Decidable (Timely skew clock timestamp) :=
  inferInstanceAs (Decidable (_ ∧ _))

instance (history : History Nonce) (nonce : Nonce) : Decidable (NonceFresh history nonce) :=
  inferInstanceAs (Decidable (¬ _))

instance (window : Nat) (history : History Nonce) (seq : Nat) :
    Decidable (SeqFresh window history seq) :=
  inferInstanceAs (Decidable (∀ top ∈ maximum history, _))

def decision (skew window : Nat) (history : History Nonce) (clock : Nat) (packet : Packet Nonce) :
    Bool :=
  decide (Timely skew clock packet.timestamp ∧ NonceFresh history packet.nonce ∧
    SeqFresh window history packet.seq)

def record (skew window : Nat) (histories : Sender → History Nonce) (call : Call Sender Nonce) :
    Sender → History Nonce :=
  if decision skew window (histories call.sender) call.clock call.packet then
    fun sender => if sender = call.sender then call.packet::histories sender else histories sender
  else histories

def decisions (skew window : Nat) : (Sender → History Nonce) → List (Call Sender Nonce) → List Bool
  | _, [] => []
  | histories, call::calls =>
    decision skew window (histories call.sender) call.clock call.packet ::
      decisions skew window (record skew window histories call) calls

end UavFanet.Semantics.Replay
