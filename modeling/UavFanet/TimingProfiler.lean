import UavFanet.Types
import UavFanet.Library.Run
import Mathlib.Algebra.Order.Ring.Int

/-! `TimingProfiler`: packet timings, and which send record a receive is matched to. -/
namespace UavFanet

/-- The fields that a receive is compared by. -/
structure Flow where
  pkt_type : String
  src_id : UInt32
  dst_id : UInt32
  deriving DecidableEq

structure PacketTimingRecord (D : Type) extends Flow where
  send_s : D
  recv_s : D
  delay_ms : D
  size_bytes : UInt32 := 0

namespace TimingProfiler
open Library

variable {D : Type}

/-- The position of the last element that passes: a search from the back. -/
def newest {α : Type} (p : α → Bool) : List α → Option Nat
  | [] => none
  | x::xs =>
    match newest p xs with
    | some i => some (i+1)
    | none => if p x then some 0 else none

/-- The records, and beside them the packets on their way: each with the position of the record
made when it was sent, in the order of sending. -/
structure Traffic (D : Type) where
  m_packets : List (PacketTimingRecord D) := []
  outstanding : List (Flow × Nat) := []

inductive Event (D : Type) where
  | send (flow : Flow) (size_bytes : UInt32) (now : D)
  | recv (flow : Flow) (now : D)

/-- The send of the packet that a flow delivers next: the first that is outstanding. -/
def own (flow : Flow) (outstanding : List (Flow × Nat)) : Option Nat :=
  (outstanding.find? (·.1 = flow)).map (·.2)

/-- What is received has been sent. -/
def Genuine (traffic : Traffic D) : Event D → Prop
  | .send _ _ _ => True
  | .recv flow _ => ∃ i, (flow,i) ∈ traffic.outstanding

/-- Nothing else of the flow is outstanding when a packet is received. -/
def Alone (traffic : Traffic D) : Event D → Prop
  | .send _ _ _ => True
  | .recv flow _ => ∀ i j, (flow,i) ∈ traffic.outstanding → (flow,j) ∈ traffic.outstanding → i = j

section Calls

variable [Zero D] [DecidableEq D]

/-- The search condition: a record of the flow with no time of receipt. -/
def awaits (flow : Flow) (r : PacketTimingRecord D) : Bool := r.toFlow = flow ∧ r.recv_s = 0

/-- A receive is matched to the send of its packet. -/
def Matched (traffic : Traffic D) : Event D → Prop
  | .send _ _ _ => True
  | .recv flow _ => newest (awaits flow) traffic.m_packets = own flow traffic.outstanding

variable [Sub D] [Mul D] [NatCast D]

def recordPacketSend (flow : Flow) (size_bytes : UInt32) (now : D)
    (m_packets : List (PacketTimingRecord D)) : List (PacketTimingRecord D) :=
  m_packets ++ [{ flow with send_s := now, recv_s := 0, delay_ms := 0, size_bytes }]

def received (now : D) (r : PacketTimingRecord D) : PacketTimingRecord D :=
  { r with recv_s := now, delay_ms := (now-r.send_s)*(1000 : Nat) }

def recordPacketRecv (flow : Flow) (now : D) (m_packets : List (PacketTimingRecord D)) :
    List (PacketTimingRecord D) :=
  match newest (awaits flow) m_packets with
  | some i => m_packets.modify i (received now)
  | none => m_packets ++ [{ flow with send_s := now, recv_s := now, delay_ms := 0 }]

/-- A call of one of the two functions. Of a receive the position of the matched record comes
out. -/
def step (traffic : Traffic D) : Event D → Traffic D × Option (Option Nat)
  | .send flow size_bytes now =>
    ({ m_packets := recordPacketSend flow size_bytes now traffic.m_packets
       outstanding := traffic.outstanding ++ [(flow,traffic.m_packets.length)] },none)
  | .recv flow now =>
    ({ m_packets := recordPacketRecv flow now traffic.m_packets
       outstanding :=
         match own flow traffic.outstanding with
         | some i => traffic.outstanding.filter (· ≠ (flow,i))
         | none => traffic.outstanding },
      some (newest (awaits flow) traffic.m_packets))

end Calls

section Newest

variable {α : Type} {p : α → Bool} {xs : List α} {i : Nat}

theorem newest_none : newest p xs = none ↔ ∀ x ∈ xs, p x = false := by
  induction xs with
  | nil => simp [newest]
  | cons x xs ih =>
    rw [newest,List.forall_mem_cons,← ih]
    cases newest p xs with
    | some i => simp
    | none => simp

theorem newest_passes (found : newest p xs = some i) :
    (∃ x, xs[i]? = some x ∧ p x = true) ∧ ∀ j x, i < j → xs[j]? = some x → p x = false := by
  induction xs generalizing i with
  | nil => cases found
  | cons first xs ih =>
    rw [newest] at found
    cases later : newest p xs with
    | some k =>
      rw [later] at found
      cases found
      obtain ⟨passes,others⟩ := ih later
      refine ⟨passes,fun j x beyond here => ?_⟩
      obtain ⟨j,rfl⟩ : ∃ m, j = m+1 := ⟨j-1,by omega⟩
      exact others j x (by omega) here
    | none =>
      rw [later] at found
      dsimp only at found
      split at found
      · rename_i passes
        cases found
        refine ⟨⟨first,rfl,passes⟩,fun j x beyond here => ?_⟩
        obtain ⟨j,rfl⟩ : ∃ m, j = m+1 := ⟨j-1,by omega⟩
        exact newest_none.mp later x (List.mem_of_getElem? here)
      · cases found

theorem newest_some : newest p xs = some i ↔
    (∃ x, xs[i]? = some x ∧ p x = true) ∧ ∀ j x, i < j → xs[j]? = some x → p x = false := by
  refine ⟨newest_passes,fun ⟨⟨x,here,passes⟩,others⟩ => ?_⟩
  cases found : newest p xs with
  | none =>
    rw [newest_none.mp found x (List.mem_of_getElem? here)] at passes
    cases passes
  | some k =>
    obtain ⟨⟨y,there,passed⟩,beyond⟩ := newest_passes found
    rcases Nat.lt_trichotomy i k with before | same | after
    · rw [others k y before there] at passed
      cases passed
    · rw [same]
    · rw [beyond i x after here] at passes
      cases passes

end Newest
/-- What holds as long as every receive is matched to its own send. -/
structure Tidy [Zero D] [DecidableEq D] (traffic : Traffic D) : Prop where
  waiting : ∀ flow i, (flow,i) ∈ traffic.outstanding →
    ∃ r, traffic.m_packets[i]? = some r ∧ awaits flow r = true
  newer : ∀ flow i j r, (flow,i) ∈ traffic.outstanding → i < j →
    traffic.m_packets[j]? = some r → r.toFlow = flow → (flow,j) ∈ traffic.outstanding
  ordered : (traffic.outstanding.map (·.2)).Pairwise (· < ·)

section Waiting

variable [Zero D] [DecidableEq D] {traffic : Traffic D} {flow other : Flow} {i j k : Nat}
  {event : Event D}

theorem own_of_mem {outstanding : List (Flow × Nat)} (sent : (flow,j) ∈ outstanding) :
    ∃ i, own flow outstanding = some i := by
  cases first : outstanding.find? (·.1 = flow) with
  | none => exact absurd (List.find?_eq_none.mp first _ sent) (by simp)
  | some packet => exact ⟨packet.2,by rw [own,first]; rfl⟩

theorem Tidy.within (tidy : Tidy traffic) (sent : (flow,i) ∈ traffic.outstanding) :
    i < traffic.m_packets.length := by
  obtain ⟨r,here,-⟩ := tidy.waiting flow i sent
  exact (List.getElem?_eq_some_iff.mp here).1

/-- The packet that is delivered next is outstanding, and no other of its flow was sent before. -/
theorem Tidy.own_first (tidy : Tidy traffic) (next : own flow traffic.outstanding = some i) :
    (flow,i) ∈ traffic.outstanding ∧ ∀ k, (flow,k) ∈ traffic.outstanding → i ≤ k := by
  obtain ⟨⟨_,_⟩,first,rfl⟩ := Option.map_eq_some_iff.mp next
  obtain ⟨same,before,after,split,others⟩ := List.find?_eq_some_iff_append.mp first
  obtain rfl := of_decide_eq_true same
  refine ⟨List.mem_of_find?_eq_some first,fun k sent => ?_⟩
  have ordered := tidy.ordered
  rw [split,List.map_append,List.map_cons] at ordered
  rw [split] at sent
  rcases List.mem_append.mp sent with earlier | later
  · exact absurd (others _ earlier) (by simp)
  · rcases List.mem_cons.mp later with here | later
    · cases here
      exact le_refl _
    · have tail := (List.pairwise_append.mp ordered).2.1
      exact le_of_lt (List.rel_of_pairwise_cons tail (List.mem_map_of_mem later))

/-- Two packets outstanding at one position are one packet. -/
theorem Tidy.same_flow (tidy : Tidy traffic) (sent : (flow,i) ∈ traffic.outstanding)
    (also : (other,i) ∈ traffic.outstanding) : flow = other := by
  obtain ⟨r,here,awaiting⟩ := tidy.waiting flow i sent
  obtain ⟨_,there,also_awaiting⟩ := tidy.waiting other i also
  cases here.symm.trans there
  exact (of_decide_eq_true awaiting).1.symm.trans (of_decide_eq_true also_awaiting).1

/-- The search takes the newest of the flow, so that is the right one if it is the only one. -/
theorem Tidy.matched_iff (tidy : Tidy traffic) (genuine : Genuine traffic event) :
    Matched traffic event ↔ Alone traffic event := by
  cases event with
  | send flow size_bytes now => exact Iff.rfl
  | recv flow now =>
    obtain ⟨j,sent⟩ := genuine
    obtain ⟨i,next⟩ := own_of_mem sent
    obtain ⟨here,first⟩ := tidy.own_first next
    rw [Matched,Alone,next,newest_some]
    constructor
    · rintro ⟨-,none_later⟩
      have only k (outstanding : (flow,k) ∈ traffic.outstanding) : k = i := by
        obtain ⟨r,there,awaiting⟩ := tidy.waiting flow k outstanding
        by_contra different
        have before := first k outstanding
        rw [none_later k r (by omega) there] at awaiting
        cases awaiting
      exact fun j k one two => (only j one).trans (only k two).symm
    · intro alone
      refine ⟨tidy.waiting flow i here,fun k r after there => ?_⟩
      by_contra awaiting
      have same : r.toFlow = flow := by
        rw [Bool.not_eq_false] at awaiting
        exact (of_decide_eq_true awaiting).1
      have := alone i k here (tidy.newer flow i k r here after there same)
      omega

theorem tidy_start : Tidy ({} : Traffic D) where
  waiting _ _ none := nomatch none
  newer _ _ _ _ none := nomatch none
  ordered := List.Pairwise.nil

end Waiting

section Steps

variable [Zero D] [DecidableEq D] [Sub D] [Mul D] [NatCast D] {traffic : Traffic D} {flow : Flow}
  {size_bytes : UInt32} {now : D} {event : Event D}

theorem tidy_send (tidy : Tidy traffic) : Tidy (step traffic (.send flow size_bytes now)).1 := by
  constructor
  · intro other i sent
    rcases List.mem_append.mp sent with before | new
    · obtain ⟨r,here,awaiting⟩ := tidy.waiting other i before
      exact ⟨r,List.getElem?_append_left (tidy.within before) ▸ here,awaiting⟩
    · cases List.mem_singleton.mp new
      exact ⟨_,List.getElem?_concat_length,by simp [awaits]⟩
  · intro other i j r sent beyond here same
    have within : j < traffic.m_packets.length+1 := by
      simpa [step,recordPacketSend] using (List.getElem?_eq_some_iff.mp here).1
    rcases Nat.lt_succ_iff_lt_or_eq.mp within with earlier | rfl
    · rcases List.mem_append.mp sent with before | new
      · rw [step,recordPacketSend,List.getElem?_append_left earlier] at here
        exact List.mem_append_left _ (tidy.newer other i j r before beyond here same)
      · cases List.mem_singleton.mp new
        omega
    · rw [step,recordPacketSend,List.getElem?_concat_length] at here
      cases here
      subst same
      exact List.mem_append_right _ (List.mem_singleton.mpr rfl)
  · rw [step,List.map_append,List.pairwise_append]
    refine ⟨tidy.ordered,List.pairwise_singleton _ _,fun i sent j last => ?_⟩
    obtain ⟨⟨other,_⟩,member,rfl⟩ := List.mem_map.mp sent
    obtain rfl : j = traffic.m_packets.length := by simpa using last
    exact tidy.within member

theorem tidy_recv (tidy : Tidy traffic) (genuine : Genuine traffic (.recv flow now))
    (matched : Matched traffic (.recv flow now)) : Tidy (step traffic (.recv flow now)).1 := by
  obtain ⟨j,sent⟩ := genuine
  obtain ⟨i,next⟩ := own_of_mem sent
  obtain ⟨here,first⟩ := tidy.own_first next
  have left : (step traffic (.recv flow now)).1 =
      { m_packets := traffic.m_packets.modify i (received now)
        outstanding := traffic.outstanding.filter (· ≠ (flow,i)) } := by
    rw [Matched,next] at matched
    simp only [step,recordPacketRecv,next,matched]
  rw [left]
  constructor
  · intro other k outstanding
    obtain ⟨before,different⟩ := List.mem_filter.mp outstanding
    obtain ⟨r,there,awaiting⟩ := tidy.waiting other k before
    have elsewhere : i ≠ k := by
      rintro rfl
      obtain rfl := tidy.same_flow here before
      simp at different
    exact ⟨r,by simp [elsewhere,there],awaiting⟩
  · intro other k l r outstanding beyond there same
    obtain ⟨before,-⟩ := List.mem_filter.mp outstanding
    obtain ⟨old,was,kept⟩ : ∃ old, traffic.m_packets[l]? = some old ∧ old.toFlow = other := by
      rw [List.getElem?_modify] at there
      obtain ⟨old,was,rfl⟩ := Option.map_eq_some_iff.mp there
      refine ⟨old,was,?_⟩
      rw [← same]
      split
      · rfl
      · rfl
    refine List.mem_filter.mpr ⟨tidy.newer other k l old before beyond was kept,?_⟩
    simp only [ne_eq,Prod.mk.injEq,not_and,decide_eq_true_eq]
    rintro rfl rfl
    have := first k before
    omega
  · exact tidy.ordered.sublist (List.filter_sublist.map _)

theorem tidy_step (tidy : Tidy traffic) (genuine : Genuine traffic event)
    (matched : Matched traffic event) : Tidy (step traffic event).1 := by
  cases event with
  | send flow size_bytes now => exact tidy_send tidy
  | recv flow now => exact tidy_recv tidy genuine matched

/-- A position that a later receive may mark: that of a packet on its way or of one yet to be
sent. -/
def Pending (traffic : Traffic D) (k : Nat) : Prop :=
  (∃ flow, (flow,k) ∈ traffic.outstanding) ∨ traffic.m_packets.length ≤ k

theorem pending_send {k : Nat} (after : Pending (step traffic (.send flow size_bytes now)).1 k) :
    Pending traffic k := by
  rcases after with ⟨other,sent⟩ | beyond
  · rcases List.mem_append.mp sent with before | new
    · exact .inl ⟨other,before⟩
    · cases List.mem_singleton.mp new
      exact .inr (le_refl _)
  · exact .inr (by simp [step,recordPacketSend] at beyond; omega)

/-- A matched receive takes its packet off the way, and nothing else comes onto it. -/
theorem pending_recv {i k : Nat} (tidy : Tidy traffic) (next : own flow traffic.outstanding = some i)
    (marked : newest (awaits flow) traffic.m_packets = some i)
    (after : Pending (step traffic (.recv flow now)).1 k) : Pending traffic k ∧ k ≠ i := by
  obtain ⟨here,-⟩ := tidy.own_first next
  rcases after with ⟨other,left⟩ | beyond
  · simp only [step,next,List.mem_filter] at left
    refine ⟨.inl ⟨other,left.1⟩,?_⟩
    rintro rfl
    obtain rfl := tidy.same_flow here left.1
    simp at left
  · have length : (step traffic (.recv flow now)).1.m_packets.length =
        traffic.m_packets.length := by
      simp [step,recordPacketRecv,marked]
    rw [length] at beyond
    have := tidy.within here
    exact ⟨.inr beyond,by omega⟩

/-- Along a run in which all is matched only pending positions are marked, each of them once. -/
theorem marked_once {events : List (Event D)} (tidy : Tidy traffic)
    (genuine : Run.Along step Genuine traffic events)
    (matched : Run.Along step Matched traffic events) :
    ((Run.outputs step traffic events).map (·.2)).Nodup ∧
      ∀ position ∈ (Run.outputs step traffic events).map (·.2), ∃ k, position = some k ∧
        Pending traffic k := by
  induction events generalizing traffic with
  | nil => exact ⟨List.nodup_nil,fun _ none => nomatch none⟩
  | cons event rest ih =>
    obtain ⟨once,positions⟩ :=
      ih (tidy_step tidy genuine.head matched.head) genuine.tail matched.tail
    cases event with
    | send flow size_bytes now =>
      refine ⟨once,fun position member => ?_⟩
      obtain ⟨k,rfl,after⟩ := positions position member
      exact ⟨k,rfl,pending_send after⟩
    | recv flow now =>
      obtain ⟨j,sent⟩ := genuine.head
      obtain ⟨i,next⟩ := own_of_mem sent
      have marked : newest (awaits flow) traffic.m_packets = some i := matched.head.trans next
      have outputs : (Run.outputs step traffic (.recv flow now::rest)).map (·.2) =
          some i::(Run.outputs step (step traffic (.recv flow now)).1 rest).map (·.2) := by
        rw [← marked]
        rfl
      rw [outputs,List.nodup_cons,List.forall_mem_cons]
      refine ⟨⟨fun again => ?_,once⟩,⟨i,rfl,.inl ⟨flow,(tidy.own_first next).1⟩⟩,
        fun position member => ?_⟩
      · obtain ⟨k,same,after⟩ := positions _ again
        exact (pending_recv tidy next marked after).2 (Option.some.inj same).symm
      · obtain ⟨k,same,after⟩ := positions position member
        exact ⟨k,same,(pending_recv tidy next marked after).1⟩

/-- In a run of sends and of receives of what has been sent, each receive is matched to its own send
and no send to two if and only if nothing else of a flow is ever outstanding when it delivers. -/
theorem matched_to_own_iff {events : List (Event D)} (genuine : Run.Along step Genuine {} events) :
    (Run.Along step Matched {} events ∧ ((Run.outputs step {} events).map (·.2)).Nodup) ↔
      Run.Along step Alone {} events := by
  have one (traffic : Traffic D) event (tidy : Tidy traffic)
      (both : Genuine traffic event ∧ Alone traffic event) :
      Matched traffic event ∧ Tidy (step traffic event).1 := by
    have matched := (tidy.matched_iff both.1).mpr both.2
    exact ⟨matched,tidy_step tidy both.1 matched⟩
  have other (traffic : Traffic D) event (tidy : Tidy traffic)
      (both : Genuine traffic event ∧ Matched traffic event) :
      Alone traffic event ∧ Tidy (step traffic event).1 :=
    ⟨(tidy.matched_iff both.1).mp both.2,tidy_step tidy both.1 both.2⟩
  constructor
  · rintro ⟨matched,-⟩
    exact (genuine.and matched).imp other tidy_start
  · intro alone
    have matched := (genuine.and alone).imp one tidy_start
    exact ⟨matched,(marked_once tidy_start genuine matched).1⟩

end Steps

def dataFlow : Flow := ⟨"DATA",1,2⟩

theorem one_by_one_matched :
    Run.Along step Matched ({} : Traffic Int) [.send dataFlow 64 0,.recv dataFlow 0] := by
  have genuine : Run.Along step Genuine ({} : Traffic Int) [.send dataFlow 64 0,.recv dataFlow 0] :=
    .cons trivial (.cons ⟨0,by decide⟩ .nil)
  refine ((matched_to_own_iff genuine).mpr (.cons trivial (.cons ?_ .nil))).1
  rintro i j first second
  cases List.mem_singleton.mp first
  cases List.mem_singleton.mp second
  rfl

/-- Two packets on their way: the first receive takes the second send, and at time 0 so does the
second one. -/
theorem newest_send_taken :
    Run.Along step Genuine ({} : Traffic Int)
      [.send dataFlow 64 1,.send dataFlow 64 2,.recv dataFlow 3,.recv dataFlow 4] ∧
    (Run.outputs step ({} : Traffic Int)
      [.send dataFlow 64 1,.send dataFlow 64 2,.recv dataFlow 3,.recv dataFlow 4]).map (·.2) =
        [some 1,some 0] ∧
    ¬ Run.Along step Matched ({} : Traffic Int)
      [.send dataFlow 64 1,.send dataFlow 64 2,.recv dataFlow 3,.recv dataFlow 4] ∧
    (Run.outputs step ({} : Traffic Int)
      [.send dataFlow 64 0,.send dataFlow 64 0,.recv dataFlow 0,.recv dataFlow 0]).map (·.2) =
        [some 1,some 1] := by
  refine ⟨.cons trivial (.cons trivial (.cons ⟨0,by decide⟩ (.cons ⟨1,by decide⟩ .nil))),
    by decide,fun matched => ?_,by decide⟩
  exact absurd matched.tail.tail.head (by unfold Matched; decide)

end TimingProfiler
end UavFanet
