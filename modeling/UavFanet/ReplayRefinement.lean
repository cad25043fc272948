import UavFanet.Replay
import UavFanet.Library.RingBuffer
import UavFanet.Semantics.Replay

/-! The cache against the reference model: the states correspond after every call,
and the decisions agree except at the sentinels and at the end of the number range. -/
namespace UavFanet.ReplayRefinement
open Library UavFanet.Replay
open UavFanet.Semantics.Replay (Packet History Timely NonceFresh SeqFresh maximum)

abbrev Histories := UInt32 → History Nonce128

structure CheckCall where
  sender_id : UInt32
  token : ReplayToken
  now_us : UInt64
  wall : UInt64
  deriving DecidableEq,Repr

def packet (token : ReplayToken) : Packet Nonce128 :=
  ⟨token.timestamp_us.toNat,token.sequence_num.toNat,token.nonce⟩

def CheckCall.abstract (call : CheckCall) : Semantics.Replay.Call UInt32 Nonce128 :=
  ⟨call.sender_id,packet call.token,(checkTime call.wall call.now_us).toNat⟩

def check (cache : ReplayCache) (call : CheckCall) : ReplayCheckResult × ReplayCache :=
  checkAndRecord call.wall cache call.sender_id call.token call.now_us

def decisions : ReplayCache → List CheckCall → List Bool
  | _, [] => []
  | cache, call::calls =>
    decide ((check cache call).1 = .accepted) :: decisions (check cache call).2 calls

/-- The ring holds the last nonces, `last_seq` the maximum (zero for none), and the
bitmap the accepted numbers below it. -/
structure Represents (state : SenderState) (history : History Nonce128) : Prop where
  ring : RingBuffer.Holds state.nonce_cache state.nonce_head zeroNonce (history.map Packet.nonce)
  last : state.last_seq.toNat = (maximum history).getD 0
  bits : ∀ k < 64, BitWindow.bit state.window_bitmap k = true ↔
    k ≤ state.last_seq.toNat ∧ state.last_seq.toNat-k ∈ history.map Packet.seq

def Corresponds (cache : ReplayCache) (histories : Histories) : Prop :=
  ∀ sender_id, Represents (senderState cache sender_id) (histories sender_id)

theorem represents_empty : Represents {} [] where
  ring := RingBuffer.empty _ _
  last := rfl
  bits k _ := by simp [BitWindow.bit]

theorem recordToken_holds {state : SenderState} {history : History Nonce128}
    (represents : Represents state history) (token : ReplayToken) (now_us : UInt64) :
    RingBuffer.Holds (recordToken state token now_us).nonce_cache
      (recordToken state token now_us).nonce_head zeroNonce
      ((packet token::history).map Packet.nonce) := by
  have pushed := RingBuffer.push represents.ring token.nonce (state.nonce_head+1) (Fin.val_add _ _)
  have same : recordToken state token now_us =
    { recordSequence (recordNonce state token.nonce) token.sequence_num with
      last_seen_us := now_us } := rfl
  rw [same,recordSequence]
  split
  · exact pushed
  · dsimp only
    split <;> exact pushed

theorem mem_recorded {token : ReplayToken} {history : History Nonce128} (seq : Nat) :
    seq ∈ (packet token::history).map Packet.seq ↔
      seq = token.sequence_num.toNat ∨ seq ∈ history.map Packet.seq := by
  simp [packet]

theorem Represents.beyond {state : SenderState} {history : History Nonce128}
    (represents : Represents state history) {seq : Nat} (beyond : state.last_seq.toNat < seq) :
    seq ∉ history.map Packet.seq := by
  intro found
  obtain ⟨other,present,rfl⟩ := List.mem_map.mp found
  have := Semantics.Replay.le_maximum present
  rw [← represents.last] at this
  omega

theorem Represents.bits_above {state : SenderState} {history : History Nonce128}
    (represents : Represents state history) {token : ReplayToken} (now_us : UInt64)
    (above : state.last_seq < token.sequence_num) {k : Nat} (inside : k < 64) :
    BitWindow.bit (recordToken state token now_us).window_bitmap k = true ↔
      k ≤ token.sequence_num.toNat ∧
        token.sequence_num.toNat-k ∈ (packet token::history).map Packet.seq := by
  have up := UInt64.lt_iff_toNat_lt.mp above
  rw [(recordToken_above now_us above).2 k inside,mem_recorded]
  by_cases shifted : token.sequence_num.toNat-state.last_seq.toNat ≤ k
  · have old := represents.bits (k-(token.sequence_num.toNat-state.last_seq.toNat)) (by omega)
    have below : k ≤ token.sequence_num.toNat →
        state.last_seq.toNat-(k-(token.sequence_num.toNat-state.last_seq.toNat)) =
          token.sequence_num.toNat-k := by omega
    simp only [Bool.or_eq_true,decide_eq_true_eq,Bool.and_eq_true,shifted,true_and,old]
    constructor
    · rintro (zero | ⟨bound,found⟩)
      · omega
      · rw [below (by omega)] at found
        exact ⟨by omega,.inr found⟩
    · rintro ⟨bound,zero | found⟩
      · omega
      · rw [← below bound] at found
        exact .inr ⟨by omega,found⟩
  · simp only [shifted,decide_false,Bool.false_and,Bool.or_false,decide_eq_true_eq]
    constructor
    · rintro rfl
      exact ⟨by omega,.inl (by omega)⟩
    · rintro ⟨bound,same | found⟩
      · omega
      · exact absurd found (represents.beyond (by omega))

theorem Represents.bits_within {state : SenderState} {history : History Nonce128}
    (represents : Represents state history) {token : ReplayToken} (now_us : UInt64)
    (within : token.sequence_num ≤ state.last_seq) {k : Nat} (inside : k < 64) :
    BitWindow.bit (recordToken state token now_us).window_bitmap k = true ↔
      k ≤ state.last_seq.toNat ∧
        state.last_seq.toNat-k ∈ (packet token::history).map Packet.seq := by
  have low := UInt64.le_iff_toNat_le.mp within
  rw [(recordToken_within now_us within).2 k inside,mem_recorded]
  simp only [Bool.or_eq_true,decide_eq_true_eq,represents.bits k inside]
  constructor
  · rintro (⟨bound,found⟩ | rfl)
    · exact ⟨bound,.inr found⟩
    · exact ⟨by omega,.inl (by omega)⟩
  · rintro ⟨bound,same | found⟩
    · exact .inr (by omega)
    · exact .inl ⟨bound,found⟩

theorem Represents.record {state : SenderState} {history : History Nonce128}
    (represents : Represents state history) (token : ReplayToken) (now_us : UInt64) :
    Represents (recordToken state token now_us) (packet token::history) := by
  have largest : (maximum (packet token::history)).getD 0 =
      max token.sequence_num.toNat state.last_seq.toNat := by
    rw [Semantics.Replay.maximum_cons,represents.last]
    rfl
  have ring := recordToken_holds represents token now_us
  by_cases above : state.last_seq < token.sequence_num
  · have last := (recordToken_above now_us above).1
    have up := UInt64.lt_iff_toNat_lt.mp above
    refine ⟨ring,by rw [largest,last]; omega,fun k inside => ?_⟩
    rw [last]
    exact represents.bits_above now_us above inside
  · have within : token.sequence_num ≤ state.last_seq := UInt64.not_lt.mp above
    have last := (recordToken_within now_us within).1
    have low := UInt64.le_iff_toNat_le.mp within
    refine ⟨ring,by rw [largest,last]; omega,fun k inside => ?_⟩
    rw [last]
    exact represents.bits_within now_us within inside

theorem checkNonce_represents {state : SenderState} {history : History Nonce128}
    (represents : Represents state history) (nonce : Nonce128) :
    checkNonce state nonce = true ↔ nonce = zeroNonce ∨ NonceFresh history nonce := by
  rw [checkNonce_iff,RingBuffer.mem_iff represents.ring,NonceFresh]
  constructor
  · rintro (zero | absent)
    · exact .inl zero
    · exact .inr (fun member => absent (.inl member))
  · rintro (zero | absent)
    · exact .inl zero
    · by_cases zero : nonce = zeroNonce
      · exact .inl zero
      · exact .inr (fun found => found.elim absent (fun free => zero free.1))

def SequenceZero (history : History Nonce128) (seq : Nat) : Prop :=
  maximum history = some 0 ∧ seq = 0

/-- An unused number whose sum with the window wraps around to at most the maximum. -/
def SumWraps (window : Nat) (history : History Nonce128) (seq : Nat) : Prop :=
  ∃ top ∈ maximum history, 0 < top ∧ 2^64 ≤ seq+window ∧ seq+window ≤ 2^64+top ∧
    seq ∉ history.map Packet.seq

theorem SumWraps.seqFresh {window : Nat} {history : History Nonce128} {seq : Nat}
    (wraps : SumWraps window history seq) (bounded : ∀ top ∈ maximum history, top < 2^64) :
    SeqFresh window history seq := by
  obtain ⟨top,found,_,wrapped,_,unused⟩ := wraps
  intro other present
  have same : other = top := Option.mem_unique present found
  subst same
  have := bounded other present
  by_cases above : other < seq
  · exact .inl above
  · exact .inr ⟨by omega,unused⟩

theorem SequenceZero.not_seqFresh {window : Nat} {history : History Nonce128} {seq : Nat}
    (zero : SequenceZero history seq) : ¬ SeqFresh window history seq := by
  intro fresh
  obtain ⟨top,rfl⟩ := zero
  have used : 0 ∈ history.map Packet.seq := List.max?_mem top
  rcases fresh 0 top with above | ⟨_,unused⟩
  · omega
  · exact unused used

/-- The sequence layer accepts what the reference accepts, less the wrapped sums, and a
repeated zero on top. -/
theorem sequence_layer {state : SenderState} {history : History Nonce128} {window : UInt32}
    (represents : Represents state history) (small : window.toNat ≤ 64) (seq : UInt64) :
    (state.last_seq = 0 ∨
        (state.last_seq < seq+window.toUInt64 ∧ checkSequence state seq = true)) ↔
      (SeqFresh window.toNat history seq.toNat ∧ ¬ SumWraps window.toNat history seq.toNat) ∨
        SequenceZero history seq.toNat := by
  have zero_iff : state.last_seq = 0 ↔ state.last_seq.toNat = 0 := UInt64.toNat_inj.symm
  have last := represents.last
  have seq_bound := seq.toNat_lt
  have last_bound := state.last_seq.toNat_lt
  cases top : maximum history with
  | none =>
    rw [top,Option.getD_none] at last
    have fresh : SeqFresh window.toNat history seq.toNat := by simp [SeqFresh,top]
    have unwrapped : ¬ SumWraps window.toNat history seq.toNat := by simp [SumWraps,top]
    simp [zero_iff,last,fresh,unwrapped]
  | some m =>
    rw [top,Option.getD_some] at last
    have fresh_iff : SeqFresh window.toNat history seq.toNat ↔ m < seq.toNat ∨
        (m-seq.toNat < window.toNat ∧ seq.toNat ∉ history.map Packet.seq) := by
      simp only [SeqFresh,top,Option.mem_some_iff,forall_eq']
    have wraps_iff : SumWraps window.toNat history seq.toNat ↔ 0 < m ∧
        2^64 ≤ seq.toNat+window.toNat ∧ seq.toNat+window.toNat ≤ 2^64+m ∧
        seq.toNat ∉ history.map Packet.seq := by
      simp only [SumWraps,top,Option.mem_some_iff,exists_eq_left']
    have zero_seq : SequenceZero history seq.toNat ↔ m = 0 ∧ seq.toNat = 0 := by
      simp only [SequenceZero,top,Option.some.injEq]
    have unused_above (above : m < seq.toNat) : seq.toNat ∉ history.map Packet.seq := by
      intro found
      obtain ⟨other,present,same⟩ := List.mem_map.mp found
      have := Semantics.Replay.le_maximum present
      rw [top,Option.getD_some] at this
      omega
    have sum : (seq+window.toUInt64).toNat = if seq.toNat+window.toNat < 2^64 then
        seq.toNat+window.toNat else seq.toNat+window.toNat-2^64 := by
      rw [UInt64.toNat_add,UInt32.toNat_toUInt64]
      split <;> omega
    have clear (below : seq.toNat ≤ m) (near : m-seq.toNat < 64) :
        BitWindow.bit state.window_bitmap (m-seq.toNat) = false ↔
          seq.toNat ∉ history.map Packet.seq := by
      have bits := represents.bits (m-seq.toNat) near
      rw [last,show m-(m-seq.toNat) = seq.toNat by omega] at bits
      rw [← Bool.not_eq_true,bits]
      simp [show m-seq.toNat ≤ m by omega]
    have checked : checkSequence state seq = true ↔ m < seq.toNat ∨
        (seq.toNat ≤ m ∧ m-seq.toNat < 64 ∧ seq.toNat ∉ history.map Packet.seq) := by
      rw [checkSequence_iff,UInt64.lt_iff_toNat_lt,UInt64.le_iff_toNat_le,last]
      refine or_congr_right (and_congr_right fun below => and_congr_right fun near => clear below near)
    rw [zero_iff,last,fresh_iff,wraps_iff,zero_seq,checked,UInt64.lt_iff_toNat_lt,sum,last]
    by_cases used : seq.toNat ∈ history.map Packet.seq
    · have low : ¬ m < seq.toNat := fun above => unused_above above used
      simp only [used,low,not_true_eq_false,and_false,or_false,false_and,false_or]
      omega
    · simp only [used,not_false_eq_true,and_true]
      split <;> omega

theorem check_accepted {cache : ReplayCache} {histories : Histories}
    (corresponds : Corresponds cache histories) (small : cache.m_window_size.toNat ≤ 64)
    (call : CheckCall) :
    (check cache call).1 = .accepted ↔
      Timely cache.m_max_skew_us.toNat call.abstract.clock call.abstract.packet.timestamp ∧
      (call.abstract.packet.nonce = zeroNonce ∨
        NonceFresh (histories call.sender_id) call.abstract.packet.nonce) ∧
      ((SeqFresh cache.m_window_size.toNat (histories call.sender_id) call.abstract.packet.seq ∧
        ¬ SumWraps cache.m_window_size.toNat (histories call.sender_id) call.abstract.packet.seq) ∨
      SequenceZero (histories call.sender_id) call.abstract.packet.seq) := by
  have represents := corresponds call.sender_id
  have timely : checkTimestamp cache.m_max_skew_us call.token.timestamp_us
      (checkTime call.wall call.now_us) = true ↔ Timely cache.m_max_skew_us.toNat
      call.abstract.clock call.abstract.packet.timestamp := checkTimestamp_iff
  have nonce := checkNonce_represents represents call.token.nonce
  have sequence := sequence_layer represents small call.token.sequence_num
  have layers : checkState cache.m_window_size (senderState cache call.sender_id) call.token =
    .accepted ↔ _ := checkState_iff.trans (and_congr nonce sequence)
  refine Iff.trans ?_ (and_congr timely layers)
  rcases doCheck_cases call.wall cache call.sender_id call.token call.now_us true with
    ⟨late,stale⟩ | ⟨fresh,⟨recorded,_,accepted⟩ | ⟨kept,_⟩⟩
  · simp [check,checkAndRecord,late,stale]
  · simp [check,checkAndRecord,recorded,fresh,accepted]
  · simp [check,checkAndRecord,kept,fresh]

/-- Where the cache departs from the reference: a timely packet whose sum with the window
wraps, a repeated number zero, or a repeated all-zero nonce, each with the other layer
letting the packet through. -/
def Deviates (skew window : Nat) (history : History Nonce128) (clock : Nat)
    (packet : Packet Nonce128) : Prop :=
  Timely skew clock packet.timestamp ∧
    ((NonceFresh history packet.nonce ∧ SumWraps window history packet.seq) ∨
    ((packet.nonce = zeroNonce ∨ NonceFresh history packet.nonce) ∧
      SequenceZero history packet.seq) ∨
    (packet.nonce = zeroNonce ∧ ¬ NonceFresh history packet.nonce ∧
      SeqFresh window history packet.seq ∧ ¬ SumWraps window history packet.seq))

theorem decision_agrees {cache : ReplayCache} {histories : Histories}
    (corresponds : Corresponds cache histories) (small : cache.m_window_size.toNat ≤ 64)
    (call : CheckCall) :
    ((check cache call).1 = .accepted ↔
        Semantics.Replay.decision cache.m_max_skew_us.toNat cache.m_window_size.toNat
          (histories call.sender_id) call.abstract.clock call.abstract.packet = true) ↔
      ¬ Deviates cache.m_max_skew_us.toNat cache.m_window_size.toNat (histories call.sender_id)
        call.abstract.clock call.abstract.packet := by
  have bounded : ∀ top ∈ maximum (histories call.sender_id), top < 2^64 := by
    intro top found
    have last := (corresponds call.sender_id).last
    rw [Option.mem_def.mp found,Option.getD_some] at last
    rw [← last]
    exact UInt64.toNat_lt _
  have wraps_fresh : SumWraps cache.m_window_size.toNat (histories call.sender_id)
      call.abstract.packet.seq → SeqFresh cache.m_window_size.toNat (histories call.sender_id)
      call.abstract.packet.seq := fun wraps => wraps.seqFresh bounded
  have zero_stale : SequenceZero (histories call.sender_id) call.abstract.packet.seq →
      ¬ SeqFresh cache.m_window_size.toNat (histories call.sender_id) call.abstract.packet.seq :=
    fun zero => zero.not_seqFresh
  rw [check_accepted corresponds small,Semantics.Replay.decision,decide_eq_true_iff,Deviates]
  tauto

theorem corresponds_step {cache : ReplayCache} {histories : Histories}
    (corresponds : Corresponds cache histories) {call : CheckCall}
    (agree : (check cache call).1 = .accepted ↔
      Semantics.Replay.decision cache.m_max_skew_us.toNat cache.m_window_size.toNat
        (histories call.sender_id) call.abstract.clock call.abstract.packet = true) :
    Corresponds (check cache call).2 (Semantics.Replay.record cache.m_max_skew_us.toNat
        cache.m_window_size.toNat histories call.abstract) ∧
      (check cache call).2.m_max_skew_us = cache.m_max_skew_us ∧
      (check cache call).2.m_window_size = cache.m_window_size := by
  have put (state : SenderState) (sender_id : UInt32) :
      senderState (putSender cache call.sender_id state) sender_id =
        if call.sender_id = sender_id then state else senderState cache sender_id := by
    rw [senderState,getElem?_putSender]
    split <;> rfl
  have kept_histories (refused : (check cache call).1 ≠ .accepted) :
      Semantics.Replay.record cache.m_max_skew_us.toNat cache.m_window_size.toNat histories
        call.abstract = histories := if_neg (fun accepted => refused (agree.mpr accepted))
  rcases doCheck_cases call.wall cache call.sender_id call.token call.now_us true with
    ⟨late,_⟩ | ⟨_,⟨recorded,_,_⟩ | ⟨kept,refused⟩⟩
  · rw [kept_histories (by simp [check,checkAndRecord,late])]
    simpa [check,checkAndRecord,late] using corresponds
  · have accepted : (check cache call).1 = .accepted := by simp [check,checkAndRecord,recorded]
    have extended : Semantics.Replay.record cache.m_max_skew_us.toNat cache.m_window_size.toNat
        histories call.abstract = fun sender => if sender = call.sender_id then
          packet call.token::histories sender else histories sender := if_pos (agree.mp accepted)
    rw [extended]
    simp only [check,checkAndRecord,recorded]
    refine ⟨?_,rfl,rfl⟩
    intro sender_id
    rw [put]
    by_cases same : call.sender_id = sender_id
    · subst same
      simpa using (corresponds call.sender_id).record call.token _
    · simpa [same,Ne.symm same] using corresponds sender_id
  · rw [kept_histories (by
      simp only [check,checkAndRecord,kept]
      exact fun accepted => by simpa using refused accepted)]
    simp only [check,checkAndRecord,kept]
    refine ⟨?_,rfl,rfl⟩
    intro sender_id
    rw [put]
    split
    · rename_i same
      exact same ▸ corresponds call.sender_id
    · exact corresponds sender_id

/-- No call of the run deviates, judged on the histories that the reference has by then. -/
def NeverDeviates (skew window : Nat) : Histories → List CheckCall → Prop
  | _, [] => True
  | histories, call::calls =>
    ¬ Deviates skew window (histories call.sender_id) call.abstract.clock call.abstract.packet ∧
      NeverDeviates skew window (Semantics.Replay.record skew window histories call.abstract) calls

theorem decisions_agree {cache : ReplayCache} {histories : Histories} {calls : List CheckCall}
    (corresponds : Corresponds cache histories) (small : cache.m_window_size.toNat ≤ 64) :
    decisions cache calls = Semantics.Replay.decisions cache.m_max_skew_us.toNat
        cache.m_window_size.toNat histories (calls.map CheckCall.abstract) ↔
      NeverDeviates cache.m_max_skew_us.toNat cache.m_window_size.toNat histories calls := by
  -- Up to the first call that deviates the two stay in correspondence; from there both sides fail.
  induction calls generalizing cache histories with
  | nil => simp [decisions,Semantics.Replay.decisions,NeverDeviates]
  | cons call calls ih =>
    rw [decisions,List.map_cons,Semantics.Replay.decisions,List.cons.injEq,NeverDeviates,
      ← decision_agrees corresponds small call,Bool.eq_iff_iff,decide_eq_true_iff]
    refine and_congr_right fun agree => ?_
    obtain ⟨next,same_skew,same_window⟩ := corresponds_step corresponds agree
    have rest := ih next (by rw [same_window]; exact small)
    rwa [same_skew,same_window] at rest

/-- The cache refines the reference exactly on the runs without a deviating call. -/
theorem cache_refines_iff (max_skew_us : UInt64) (window_size : UInt32)
    (small : window_size.toNat ≤ 64) (calls : List CheckCall) :
    decisions (.new max_skew_us window_size) calls =
        Semantics.Replay.decisions max_skew_us.toNat window_size.toNat (fun _ => [])
          (calls.map CheckCall.abstract) ↔
      NeverDeviates max_skew_us.toNat window_size.toNat (fun _ => []) calls := by
  have initial : Corresponds (.new max_skew_us window_size) (fun _ => []) := by
    intro sender_id
    simpa [senderState,ReplayCache.new] using represents_empty
  exact decisions_agree initial small

def markedNonce (byte : UInt8) : Nonce128 := zeroNonce.set 0 byte

/-- In order, a late arrival inside the window, its replay, and one below the window. -/
def orderlyCalls : List CheckCall :=
  [⟨1,⟨10,markedNonce 1,100⟩,10,0⟩,⟨1,⟨10,markedNonce 2,98⟩,11,0⟩,⟨1,⟨10,markedNonce 3,98⟩,11,0⟩,
    ⟨1,⟨10,markedNonce 4,36⟩,12,0⟩,⟨2,⟨10,markedNonce 1,36⟩,0,13⟩]

theorem orderlyCalls_refine : decisions (.new 5 64) orderlyCalls = [true,true,false,false,true] ∧
    NeverDeviates (5 : UInt64).toNat (64 : UInt32).toNat (fun _ => []) orderlyCalls :=
  ⟨by decide +kernel,(cache_refines_iff 5 64 (by decide) orderlyCalls).mp (by decide +kernel)⟩

/-- The three departures: sequence number zero twice, an all-zero nonce twice, and a number
so large that adding the window wraps around. -/
theorem sentinels_deviate :
    (decisions (.new 5 64) [⟨1,⟨10,markedNonce 1,0⟩,10,0⟩,⟨1,⟨10,markedNonce 2,0⟩,10,0⟩] = [true,true] ∧
      Semantics.Replay.decisions 5 64 (fun _ => []) ([⟨1,⟨10,markedNonce 1,0⟩,10,0⟩,
        ⟨1,⟨10,markedNonce 2,0⟩,10,0⟩].map CheckCall.abstract) = [true,false]) ∧
    (decisions (.new 5 64) [⟨1,⟨10,zeroNonce,1⟩,10,0⟩,⟨1,⟨10,zeroNonce,2⟩,10,0⟩] = [true,true] ∧
      Semantics.Replay.decisions 5 64 (fun _ => []) ([⟨1,⟨10,zeroNonce,1⟩,10,0⟩,
        ⟨1,⟨10,zeroNonce,2⟩,10,0⟩].map CheckCall.abstract) = [true,false]) ∧
    (decisions (.new 5 64) [⟨1,⟨10,markedNonce 1,100⟩,10,0⟩,
        ⟨1,⟨10,markedNonce 2,18446744073709551615⟩,10,0⟩] = [true,false] ∧
      Semantics.Replay.decisions 5 64 (fun _ => []) ([⟨1,⟨10,markedNonce 1,100⟩,10,0⟩,
        ⟨1,⟨10,markedNonce 2,18446744073709551615⟩,10,0⟩].map CheckCall.abstract) = [true,true]) := by
  decide +kernel

end UavFanet.ReplayRefinement
