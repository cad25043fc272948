import UavFanet.Types
import UavFanet.Library.BitWindow
import Std.Data.ExtTreeMap.Lemmas

/-! `ReplayCache`: timestamp, nonce and sequence checks with one state for each
sender, and the eviction of senders not seen for a while. -/
namespace UavFanet.Replay
open Library

structure ReplayToken where
  timestamp_us : UInt64
  nonce : Nonce128
  sequence_num : UInt64
  deriving DecidableEq,Repr

def ReplayToken.generate (now_us : UInt64) (nonce : Result Nonce128) (sequence_num : UInt64) :
    Result ReplayToken := do
  let nonce ← nonce
  return { timestamp_us := now_us, nonce, sequence_num }

structure SequenceCounter where
  m_counter : UInt64 := 1
  deriving DecidableEq,Repr

def SequenceCounter.next (seq : SequenceCounter) : UInt64 × SequenceCounter :=
  (seq.m_counter,{ m_counter := seq.m_counter+1 })

inductive ReplayCheckResult where
  | accepted
  | replayTimestamp
  | replayNonce
  | replaySequence
  | replayOldSeq
  deriving DecidableEq,Repr

def zeroNonce : Nonce128 := Vector.replicate 16 0

structure SenderState where
  last_seq : UInt64 := 0
  window_bitmap : UInt64 := 0
  last_seen_us : UInt64 := 0
  nonce_cache : Vector Nonce128 64 := Vector.replicate 64 zeroNonce
  nonce_head : Fin 64 := 0
  deriving DecidableEq,Repr

abbrev Senders := Std.ExtTreeMap UInt32 SenderState compare

structure ReplayCache where
  m_senders : Senders
  m_max_skew_us : UInt64
  m_window_size : UInt32

def ReplayCache.new (max_skew_us : UInt64) (window_size : UInt32) : ReplayCache :=
  { m_senders := ∅, m_max_skew_us := max_skew_us, m_window_size := window_size }

def checkTimestamp (max_skew_us pkt_us now_us : UInt64) : Bool :=
  let diff := if pkt_us > now_us then pkt_us-now_us else now_us-pkt_us
  diff ≤ max_skew_us

/-- A slot with all bytes zero counts as unused. -/
def checkNonce (state : SenderState) (nonce : Nonce128) : Bool :=
  !state.nonce_cache.toList.any (fun cached => cached.toList.any (· != 0) && cached == nonce)

def checkSequence (state : SenderState) (seq : UInt64) : Bool :=
  if seq > state.last_seq then true
  else
    let diff := state.last_seq-seq
    if diff ≥ 64 then false else !BitWindow.marked state.window_bitmap diff

def recordNonce (state : SenderState) (nonce : Nonce128) : SenderState :=
  { state with
    nonce_cache := state.nonce_cache.set state.nonce_head nonce
    nonce_head := state.nonce_head+1 }

def recordSequence (state : SenderState) (seq : UInt64) : SenderState :=
  if seq > state.last_seq then
    { state with
      window_bitmap := BitWindow.advance state.window_bitmap (seq-state.last_seq)
      last_seq := seq }
  else
    let diff := state.last_seq-seq
    if diff < 64 then { state with window_bitmap := BitWindow.mark state.window_bitmap diff }
    else state

/-- Layers 2 and 3. The sum `sequence_num + window_size` is taken in 64 bits. -/
def checkState (window_size : UInt32) (state : SenderState) (token : ReplayToken) :
    ReplayCheckResult :=
  if !checkNonce state token.nonce then .replayNonce
  else if state.last_seq > 0 then
    if token.sequence_num+window_size.toUInt64 ≤ state.last_seq then .replayOldSeq
    else if !checkSequence state token.sequence_num then .replaySequence
    else .accepted
  else .accepted

def recordToken (state : SenderState) (token : ReplayToken) (now_us : UInt64) : SenderState :=
  { recordSequence (recordNonce state token.nonce) token.sequence_num with last_seen_us := now_us }

def senderState (cache : ReplayCache) (sender_id : UInt32) : SenderState :=
  (cache.m_senders[sender_id]?).getD {}

def putSender (cache : ReplayCache) (sender_id : UInt32) (state : SenderState) : ReplayCache :=
  { cache with m_senders := cache.m_senders.insert sender_id state }

/-- The time a check works with: `now_us`, or the wall clock where it is zero. -/
def checkTime (wall now_us : UInt64) : UInt64 := if now_us = 0 then wall else now_us

def doCheck (wall : UInt64) (cache : ReplayCache) (sender_id : UInt32) (token : ReplayToken)
    (now_us : UInt64) (record : Bool) : ReplayCheckResult × ReplayCache :=
  let now := checkTime wall now_us
  if !checkTimestamp cache.m_max_skew_us token.timestamp_us now then (.replayTimestamp,cache)
  else
    let state := senderState cache sender_id
    let result := checkState cache.m_window_size state token
    if result = .accepted ∧ record then
      (result,putSender cache sender_id (recordToken state token now))
    else (result,putSender cache sender_id state)

def checkAndRecord (wall : UInt64) (cache : ReplayCache) (sender_id : UInt32) (token : ReplayToken)
    (now_us : UInt64) : ReplayCheckResult × ReplayCache :=
  doCheck wall cache sender_id token now_us true

/-- `CheckOnly` casts the cache to a mutable one: it does create the sender's state. -/
def checkOnly (wall : UInt64) (cache : ReplayCache) (sender_id : UInt32) (token : ReplayToken)
    (now_us : UInt64) : ReplayCheckResult × ReplayCache :=
  doCheck wall cache sender_id token now_us false

def evict (wall : UInt64) (cache : ReplayCache) (max_age_us : UInt64) : ReplayCache :=
  { cache with
    m_senders := cache.m_senders.filter fun _ state =>
      !(state.last_seen_us > 0 && wall-state.last_seen_us > max_age_us) }

def resetSender (cache : ReplayCache) (sender_id : UInt32) : ReplayCache :=
  { cache with m_senders := cache.m_senders.erase sender_id }

def reset (cache : ReplayCache) : ReplayCache := { cache with m_senders := ∅ }

def senderCount (cache : ReplayCache) : Nat := cache.m_senders.size

def hasSender (cache : ReplayCache) (sender_id : UInt32) : Bool := sender_id ∈ cache.m_senders

theorem checkTimestamp_iff {max_skew_us pkt_us now_us : UInt64} :
    checkTimestamp max_skew_us pkt_us now_us = true ↔
      pkt_us.toNat ≤ now_us.toNat+max_skew_us.toNat ∧
        now_us.toNat ≤ pkt_us.toNat+max_skew_us.toNat := by
  have pkt_bound := pkt_us.toNat_lt
  have now_bound := now_us.toNat_lt
  simp only [checkTimestamp,decide_eq_true_eq,UInt64.le_iff_toNat_le]
  split
  · rename_i future
    have later := UInt64.lt_iff_toNat_lt.mp future
    rw [UInt64.toNat_sub_of_le _ _ (UInt64.le_iff_toNat_le.mpr (by omega))]
    omega
  · rename_i past
    have earlier := UInt64.lt_iff_toNat_lt.not.mp past
    rw [UInt64.toNat_sub_of_le _ _ (UInt64.le_iff_toNat_le.mpr (by omega))]
    omega

theorem checkNonce_iff {state : SenderState} {nonce : Nonce128} :
    checkNonce state nonce = true ↔ nonce = zeroNonce ∨ nonce ∉ state.nonce_cache := by
  have used (cached : Nonce128) : cached.toList.any (· != 0) = true ↔ cached ≠ zeroNonce := by
    rw [ne_eq,zeroNonce,Vector.ext_iff,List.any_eq_true]
    simp [Vector.mem_iff_getElem]
  rw [checkNonce,Bool.not_eq_true',← Bool.not_eq_true,List.any_eq_true]
  simp only [Bool.and_eq_true,used,beq_iff_eq,Vector.mem_toList_iff]
  constructor
  · intro fresh
    by_contra repeated
    rw [not_or,not_not] at repeated
    exact fresh ⟨nonce,repeated.2,repeated.1,rfl⟩
  · rintro free ⟨cached,member,nonzero,rfl⟩
    rcases free with zero | absent
    · exact nonzero zero
    · exact absent member

theorem checkSequence_iff {state : SenderState} {seq : UInt64} :
    checkSequence state seq = true ↔ state.last_seq < seq ∨
      (seq ≤ state.last_seq ∧ state.last_seq.toNat-seq.toNat < 64 ∧
        BitWindow.bit state.window_bitmap (state.last_seq.toNat-seq.toNat) = false) := by
  rw [checkSequence]
  split
  · rename_i above
    simp [above]
  · rename_i below
    have inside : seq ≤ state.last_seq := UInt64.not_lt.mp below
    have difference : (state.last_seq-seq).toNat = state.last_seq.toNat-seq.toNat :=
      UInt64.toNat_sub_of_le _ _ inside
    simp only [ge_iff_le,UInt64.le_iff_toNat_le,difference,UInt64.reduceToNat]
    by_cases far : 64 ≤ state.last_seq.toNat-seq.toNat
    · simp [far,below,show ¬ state.last_seq.toNat-seq.toNat < 64 by omega]
    · have near : (state.last_seq-seq).toNat < 64 := by omega
      simp [far,below,BitWindow.marked_eq near,difference,
        show state.last_seq.toNat-seq.toNat < 64 by omega,UInt64.le_iff_toNat_le.mp inside]

theorem recordToken_above {state : SenderState} {token : ReplayToken} (now_us : UInt64)
    (above : state.last_seq < token.sequence_num) :
    (recordToken state token now_us).last_seq = token.sequence_num ∧ ∀ k < 64,
      BitWindow.bit (recordToken state token now_us).window_bitmap k =
        (decide (k = 0) || (decide (token.sequence_num.toNat-state.last_seq.toNat ≤ k) &&
          BitWindow.bit state.window_bitmap
            (k-(token.sequence_num.toNat-state.last_seq.toNat)))) := by
  have difference : (token.sequence_num-state.last_seq).toNat =
      token.sequence_num.toNat-state.last_seq.toNat :=
    UInt64.toNat_sub_of_le _ _ (UInt64.le_of_lt above)
  simp only [recordToken,recordSequence,recordNonce,above,if_true,true_and]
  intro k inside
  rw [BitWindow.bit_advance inside,difference]

theorem recordToken_within {state : SenderState} {token : ReplayToken} (now_us : UInt64)
    (within : token.sequence_num ≤ state.last_seq) :
    (recordToken state token now_us).last_seq = state.last_seq ∧ ∀ k < 64,
      BitWindow.bit (recordToken state token now_us).window_bitmap k =
        (BitWindow.bit state.window_bitmap k ||
          decide (k = state.last_seq.toNat-token.sequence_num.toNat)) := by
  have difference : (state.last_seq-token.sequence_num).toNat =
      state.last_seq.toNat-token.sequence_num.toNat := UInt64.toNat_sub_of_le _ _ within
  simp only [recordToken,recordSequence,recordNonce,UInt64.not_lt.mpr within,if_false,
    UInt64.lt_iff_toNat_lt,difference,UInt64.reduceToNat]
  split
  · rename_i near
    refine ⟨rfl,fun k inside => ?_⟩
    rw [BitWindow.bit_mark (by omega),difference]
  · rename_i far
    refine ⟨rfl,fun k inside => ?_⟩
    simp [show k ≠ state.last_seq.toNat-token.sequence_num.toNat by omega]

@[simp] theorem recordToken_last_seen (state : SenderState) (token : ReplayToken) (now_us : UInt64) :
    (recordToken state token now_us).last_seen_us = now_us := rfl

theorem checkState_iff {window_size : UInt32} {state : SenderState} {token : ReplayToken} :
    checkState window_size state token = .accepted ↔ checkNonce state token.nonce = true ∧
      (state.last_seq = 0 ∨ (state.last_seq < token.sequence_num+window_size.toUInt64 ∧
        checkSequence state token.sequence_num = true)) := by
  rw [checkState]
  cases checkNonce state token.nonce with
  | false => simp
  | true =>
    by_cases empty : state.last_seq = 0
    · simp [empty]
    · have started : state.last_seq > 0 := UInt64.pos_iff_ne_zero.mpr empty
      by_cases old : token.sequence_num+window_size.toUInt64 ≤ state.last_seq
      · simp [empty,started,old,UInt64.not_lt.mpr old]
      · have young := UInt64.not_le.mp old
        cases checkSequence state token.sequence_num <;> simp [empty,started,old,young]

/-- A check fails on the timestamp and touches nothing, records an accepted token, or
leaves the sender's state as it was, created where there was none. -/
theorem doCheck_cases (wall : UInt64) (cache : ReplayCache) (sender_id : UInt32)
    (token : ReplayToken) (now_us : UInt64) (record : Bool) :
    (doCheck wall cache sender_id token now_us record = (.replayTimestamp,cache) ∧
      checkTimestamp cache.m_max_skew_us token.timestamp_us (checkTime wall now_us) = false) ∨
    (checkTimestamp cache.m_max_skew_us token.timestamp_us (checkTime wall now_us) = true ∧
      ((doCheck wall cache sender_id token now_us record = (.accepted,
          putSender cache sender_id
            (recordToken (senderState cache sender_id) token (checkTime wall now_us))) ∧
        record = true ∧
        checkState cache.m_window_size (senderState cache sender_id) token = .accepted) ∨
      (doCheck wall cache sender_id token now_us record =
          (checkState cache.m_window_size (senderState cache sender_id) token,
            putSender cache sender_id (senderState cache sender_id)) ∧
        (checkState cache.m_window_size (senderState cache sender_id) token = .accepted →
          record = false)))) := by
  cases timely : checkTimestamp cache.m_max_skew_us token.timestamp_us (checkTime wall now_us) with
  | false => exact .inl ⟨by simp [doCheck,timely],rfl⟩
  | true =>
    refine .inr ⟨rfl,?_⟩
    by_cases recorded :
        checkState cache.m_window_size (senderState cache sender_id) token = .accepted ∧ record = true
    · exact .inl ⟨by simp [doCheck,timely,recorded],recorded.2,recorded.1⟩
    · refine .inr ⟨by simp [doCheck,timely,recorded],?_⟩
      intro accepted
      simpa [accepted] using recorded

theorem getElem?_putSender (cache : ReplayCache) (sender_id other : UInt32) (state : SenderState) :
    (putSender cache sender_id state).m_senders[other]? =
      if sender_id = other then some state else cache.m_senders[other]? := by
  simp [putSender,Std.ExtTreeMap.getElem?_insert]

end UavFanet.Replay
