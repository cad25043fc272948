import UavFanet.Replay

/-! No token with a positive sequence number is accepted twice, over every run of
checks and evictions on one clock. -/
namespace UavFanet.ReplayProtection
open Library UavFanet.Replay

inductive CacheOp where
  | checkAndRecord (sender_id : UInt32) (token : ReplayToken) (now_us : UInt64)
  | checkOnly (sender_id : UInt32) (token : ReplayToken) (now_us : UInt64)
  | evict (max_age_us : UInt64)
  deriving DecidableEq,Repr

structure TimedOp where
  op : CacheOp
  wall : UInt64
  deriving DecidableEq,Repr

def TimedOp.time (timed : TimedOp) : UInt64 :=
  match timed.op with
  | .checkAndRecord _ _ now_us | .checkOnly _ _ now_us => checkTime timed.wall now_us
  | .evict _ => timed.wall

def step (cache : ReplayCache) (timed : TimedOp) : ReplayCache :=
  match timed.op with
  | .checkAndRecord sender_id token now_us =>
    (checkAndRecord timed.wall cache sender_id token now_us).2
  | .checkOnly sender_id token now_us => (checkOnly timed.wall cache sender_id token now_us).2
  | .evict max_age_us => evict timed.wall cache max_age_us

def acceptance (cache : ReplayCache) (timed : TimedOp) : List (UInt32 × ReplayToken) :=
  match timed.op with
  | .checkAndRecord sender_id token now_us =>
    if (checkAndRecord timed.wall cache sender_id token now_us).1 = .accepted then
      [(sender_id,token)]
    else []
  | .checkOnly _ _ _ | .evict _ => []

def acceptances : ReplayCache → List TimedOp → List (UInt32 × ReplayToken)
  | _, [] => []
  | cache, timed::ops => acceptance cache timed ++ acceptances (step cache timed) ops

/-- The window rejects this number: it is marked, or has fallen below the window. -/
def Covered (state : SenderState) (seq : UInt64) : Prop :=
  seq ≤ state.last_seq ∧ (64 ≤ state.last_seq.toNat-seq.toNat ∨
    BitWindow.bit state.window_bitmap (state.last_seq.toNat-seq.toNat) = true)

/-- No later check accepts the token: its time is over, or its sender's state covers it
and will not be evicted before its time is over. -/
def Guarded (cache : ReplayCache) (clock : UInt64) (sender_id : UInt32) (token : ReplayToken) : Prop :=
  token.timestamp_us.toNat+cache.m_max_skew_us.toNat < clock.toNat ∨
    ∃ state, cache.m_senders[sender_id]? = some state ∧ Covered state token.sequence_num ∧
      0 < state.last_seen_us ∧
      token.timestamp_us.toNat ≤ state.last_seen_us.toNat+cache.m_max_skew_us.toNat

/-- What holds between operations: no state was seen after the clock, and every accepted
token with a positive number is guarded. -/
structure Protected (cache : ReplayCache) (clock : UInt64) (earlier : List (UInt32 × ReplayToken)) :
    Prop where
  seen : ∀ (sender_id : UInt32) (state : SenderState), cache.m_senders[sender_id]? = some state → state.last_seen_us ≤ clock
  guarded : ∀ sender_id token, (sender_id,token) ∈ earlier → 1 ≤ token.sequence_num →
    Guarded cache clock sender_id token

theorem covered_rejected {window_size : UInt32} {state : SenderState} {token : ReplayToken}
    (covered : Covered state token.sequence_num) (positive : 1 ≤ token.sequence_num) :
    checkState window_size state token ≠ .accepted := by
  intro accepted
  obtain ⟨_,empty | ⟨_,fresh⟩⟩ := checkState_iff.mp accepted
  · have low := UInt64.le_iff_toNat_le.mp covered.1
    have one := UInt64.le_iff_toNat_le.mp positive
    rw [empty] at low
    simp at low one
    omega
  · rcases checkSequence_iff.mp fresh with above | ⟨_,near,clear⟩
    · exact absurd covered.1 (UInt64.not_le.mpr above)
    · rcases covered.2 with far | set
      · omega
      · simp [clear] at set

theorem recordToken_covers (state : SenderState) (token : ReplayToken) (now_us : UInt64) :
    Covered (recordToken state token now_us) token.sequence_num ∧
      ∀ seq, Covered state seq → Covered (recordToken state token now_us) seq := by
  by_cases above : state.last_seq < token.sequence_num
  · obtain ⟨last,bits⟩ := recordToken_above now_us above
    have up := UInt64.lt_iff_toNat_lt.mp above
    simp only [Covered,last]
    refine ⟨⟨UInt64.le_refl _,.inr (by simp [bits])⟩,?_⟩
    rintro seq ⟨below,marked⟩
    have low := UInt64.le_iff_toNat_le.mp below
    refine ⟨UInt64.le_trans below (UInt64.le_of_lt above),?_⟩
    by_cases far : 64 ≤ token.sequence_num.toNat-seq.toNat
    · exact .inl far
    · right
      have shifted : token.sequence_num.toNat-seq.toNat-
          (token.sequence_num.toNat-state.last_seq.toNat) = state.last_seq.toNat-seq.toNat := by omega
      have set : BitWindow.bit state.window_bitmap (state.last_seq.toNat-seq.toNat) = true :=
        marked.resolve_left (by omega)
      simp [bits _ (Nat.not_le.mp far),shifted,set,show token.sequence_num.toNat-state.last_seq.toNat ≤
        token.sequence_num.toNat-seq.toNat by omega]
  · have within : token.sequence_num ≤ state.last_seq := UInt64.not_lt.mp above
    obtain ⟨last,bits⟩ := recordToken_within now_us within
    simp only [Covered,last]
    constructor
    · refine ⟨within,?_⟩
      by_cases far : 64 ≤ state.last_seq.toNat-token.sequence_num.toNat
      · exact .inl far
      · exact .inr (by simp [bits _ (Nat.not_le.mp far)])
    · rintro seq ⟨below,marked⟩
      refine ⟨below,?_⟩
      by_cases far : 64 ≤ state.last_seq.toNat-seq.toNat
      · exact .inl far
      · exact .inr (by simp [bits _ (Nat.not_le.mp far),marked.resolve_left far])

theorem Guarded.putSender {cache : ReplayCache} {clock now : UInt64} {sender_id target : UInt32}
    {token : ReplayToken} (guarded : Guarded cache clock sender_id token) (later : clock ≤ now)
    {state' : SenderState} (moved : ∀ state, cache.m_senders[target]? = some state →
      (∀ seq, Covered state seq → Covered state' seq) ∧ state.last_seen_us ≤ state'.last_seen_us) :
    Guarded (putSender cache target state') now sender_id token := by
  rcases guarded with expired | ⟨state,found,covered,active,age⟩
  · left
    have := UInt64.le_iff_toNat_le.mp later
    simp only [Replay.putSender]
    omega
  · right
    by_cases same : target = sender_id
    · subst same
      obtain ⟨covers,seen⟩ := moved state found
      have up := UInt64.le_iff_toNat_le.mp seen
      refine ⟨state',by simp [getElem?_putSender],covers _ covered,UInt64.lt_of_lt_of_le active seen,?_⟩
      simp only [Replay.putSender]
      omega
    · exact ⟨state,by simp [getElem?_putSender,same,found],covered,active,age⟩

theorem Guarded.evict {cache : ReplayCache} {clock now : UInt64} {sender_id : UInt32}
    {token : ReplayToken} {max_age_us : UInt64} (guarded : Guarded cache clock sender_id token)
    (later : clock ≤ now)
    (seen : ∀ state, cache.m_senders[sender_id]? = some state → state.last_seen_us ≤ clock)
    (age : 2*cache.m_max_skew_us.toNat ≤ max_age_us.toNat) :
    Guarded (evict now cache max_age_us) now sender_id token := by
  have up := UInt64.le_iff_toNat_le.mp later
  rcases guarded with expired | ⟨state,found,covered,active,recent⟩
  · left
    simp only [Replay.evict]
    omega
  · have before := UInt64.le_trans (seen state found) later
    have difference := UInt64.toNat_sub_of_le _ _ before
    by_cases kept : now-state.last_seen_us > max_age_us
    · left
      have aged := UInt64.lt_iff_toNat_lt.mp kept
      have low := UInt64.le_iff_toNat_le.mp before
      simp only [Replay.evict]
      omega
    · right
      refine ⟨state,?_,covered,active,recent⟩
      simp [Replay.evict,Std.ExtTreeMap.getElem?_filter,found,kept]

theorem Protected.putSender {cache : ReplayCache} {clock now : UInt64}
    {earlier : List (UInt32 × ReplayToken)} (guards : Protected cache clock earlier)
    (later : clock ≤ now) {target : UInt32} {state' : SenderState}
    (moved : ∀ state, cache.m_senders[target]? = some state →
      (∀ seq, Covered state seq → Covered state' seq) ∧ state.last_seen_us ≤ state'.last_seen_us)
    (seen : state'.last_seen_us ≤ now) :
    Protected (putSender cache target state') now earlier where
  seen sender_id state found := by
    rw [getElem?_putSender] at found
    split at found
    · cases found
      exact seen
    · exact UInt64.le_trans (guards.seen sender_id state found) later
  guarded sender_id token member positive :=
    (guards.guarded sender_id token member positive).putSender later moved

theorem senderState_seen {cache : ReplayCache} {clock : UInt64}
    {earlier : List (UInt32 × ReplayToken)} (guards : Protected cache clock earlier)
    (sender_id : UInt32) : (senderState cache sender_id).last_seen_us ≤ clock := by
  cases found : cache.m_senders[sender_id]? with
  | none =>
    simp only [senderState,found,Option.getD_none]
    exact UInt64.zero_le
  | some state => simpa [senderState,found] using guards.seen sender_id state found

theorem Protected.later {cache : ReplayCache} {clock now : UInt64}
    {earlier : List (UInt32 × ReplayToken)} (guards : Protected cache clock earlier)
    (later : clock ≤ now) : Protected cache now earlier where
  seen sender_id state found := UInt64.le_trans (guards.seen sender_id state found) later
  guarded sender_id token member positive := by
    rcases guards.guarded sender_id token member positive with expired | kept
    · have := UInt64.le_iff_toNat_le.mp later
      exact .inl (by omega)
    · exact .inr kept

private theorem senderState_unmoved (cache : ReplayCache) (target : UInt32) (state : SenderState)
    (found : cache.m_senders[target]? = some state) :
    (∀ seq, Covered state seq → Covered (senderState cache target) seq) ∧
      state.last_seen_us ≤ (senderState cache target).last_seen_us := by
  simp [senderState,found]

private theorem unrecorded_protected {cache : ReplayCache} {clock now : UInt64}
    {earlier : List (UInt32 × ReplayToken)} (guards : Protected cache clock earlier)
    (later : clock ≤ now) (sender_id : UInt32) :
    Protected (putSender cache sender_id (senderState cache sender_id)) now earlier :=
  guards.putSender later (senderState_unmoved cache sender_id)
    (UInt64.le_trans (senderState_seen guards sender_id) later)

private theorem recorded_protected {cache : ReplayCache} {clock now : UInt64}
    {earlier : List (UInt32 × ReplayToken)} (guards : Protected cache clock earlier)
    (later : clock ≤ now) (positive : 0 < now) {sender_id : UInt32} {token : ReplayToken}
    (timely : checkTimestamp cache.m_max_skew_us token.timestamp_us now = true) :
    Protected (putSender cache sender_id (recordToken (senderState cache sender_id) token now)) now
      (earlier ++ [(sender_id,token)]) := by
  obtain ⟨own,others⟩ := recordToken_covers (senderState cache sender_id) token now
  have kept : Protected
      (putSender cache sender_id (recordToken (senderState cache sender_id) token now)) now earlier := by
    refine guards.putSender later ?_ (UInt64.le_refl _)
    intro state found
    refine ⟨fun seq covered => others seq ((senderState_unmoved _ _ state found).1 seq covered),?_⟩
    exact UInt64.le_trans (guards.seen sender_id state found) later
  refine ⟨kept.seen,?_⟩
  intro other token' member one
  rcases List.mem_append.mp member with before | new
  · exact kept.guarded other token' before one
  · cases List.mem_singleton.mp new
    exact .inr ⟨_,by rw [getElem?_putSender,if_pos rfl],own,positive,(checkTimestamp_iff.mp timely).1⟩

private theorem accepted_new {cache : ReplayCache} {clock now : UInt64}
    {earlier : List (UInt32 × ReplayToken)} (guards : Protected cache clock earlier)
    (later : clock ≤ now) {sender_id : UInt32} {token : ReplayToken}
    (timely : checkTimestamp cache.m_max_skew_us token.timestamp_us now = true)
    (accepted : checkState cache.m_window_size (senderState cache sender_id) token = .accepted)
    (one : 1 ≤ token.sequence_num) : (sender_id,token) ∉ earlier := by
  intro repeated
  rcases guards.guarded sender_id token repeated one with expired | ⟨state,found,covered,_⟩
  · have bound := (checkTimestamp_iff.mp timely).2
    have up := UInt64.le_iff_toNat_le.mp later
    omega
  · exact covered_rejected ((senderState_unmoved _ _ state found).1 _ covered) one accepted

private theorem evict_protected {cache : ReplayCache} {clock now : UInt64}
    {earlier : List (UInt32 × ReplayToken)} (guards : Protected cache clock earlier)
    (later : clock ≤ now) {max_age_us : UInt64}
    (age : 2*cache.m_max_skew_us.toNat ≤ max_age_us.toNat) :
    Protected (evict now cache max_age_us) now earlier where
  seen sender_id state found := by
    simp only [evict,Std.ExtTreeMap.getElem?_filter,Option.pfilter_eq_some_iff] at found
    obtain ⟨present,_⟩ := found
    exact (guards.later later).seen sender_id state present
  guarded sender_id token member one :=
    (guards.guarded sender_id token member one).evict later (guards.seen sender_id) age

theorem step_protected {cache : ReplayCache} {clock : UInt64}
    {earlier : List (UInt32 × ReplayToken)} (guards : Protected cache clock earlier)
    {timed : TimedOp} (later : clock ≤ timed.time) (positive : 0 < timed.time)
    (age : ∀ max_age_us, timed.op = .evict max_age_us →
      2*cache.m_max_skew_us.toNat ≤ max_age_us.toNat) :
    Protected (step cache timed) timed.time (earlier ++ acceptance cache timed) ∧
      (∀ entry ∈ acceptance cache timed, 1 ≤ entry.2.sequence_num → entry ∉ earlier) ∧
      (step cache timed).m_max_skew_us = cache.m_max_skew_us := by
  obtain ⟨op,wall⟩ := timed
  cases op with
  | evict max_age_us =>
    refine ⟨?_,by simp [acceptance],rfl⟩
    change Protected (evict wall cache max_age_us) wall (earlier ++ [])
    rw [List.append_nil]
    exact evict_protected guards later (age max_age_us rfl)
  | checkOnly sender_id token now_us =>
    have nothing : acceptance cache ⟨.checkOnly sender_id token now_us,wall⟩ = [] := rfl
    have checked : step cache ⟨.checkOnly sender_id token now_us,wall⟩ =
      (doCheck wall cache sender_id token now_us false).2 := rfl
    rw [nothing,checked,List.append_nil]
    rcases doCheck_cases wall cache sender_id token now_us false with
      ⟨late,_⟩ | ⟨_,⟨_,impossible,_⟩ | ⟨kept,_⟩⟩
    · rw [late]
      exact ⟨guards.later later,by simp,rfl⟩
    · cases impossible
    · rw [kept]
      exact ⟨unrecorded_protected guards later sender_id,by simp,rfl⟩
  | checkAndRecord sender_id token now_us =>
    have checked : step cache ⟨.checkAndRecord sender_id token now_us,wall⟩ =
      (doCheck wall cache sender_id token now_us true).2 := rfl
    have accepts : acceptance cache ⟨.checkAndRecord sender_id token now_us,wall⟩ =
      if (doCheck wall cache sender_id token now_us true).1 = .accepted then [(sender_id,token)]
      else [] := rfl
    rw [checked,accepts]
    rcases doCheck_cases wall cache sender_id token now_us true with
      ⟨late,_⟩ | ⟨timely,⟨recorded,_,accepted⟩ | ⟨kept,rejected⟩⟩
    · simpa [late] using guards.later later
    · simp only [recorded,if_true]
      refine ⟨recorded_protected guards later positive timely,?_,rfl⟩
      intro entry member one
      cases List.mem_singleton.mp member
      exact accepted_new guards later timely accepted one
    · have refused : checkState cache.m_window_size (senderState cache sender_id) token ≠ .accepted :=
        fun accepted => by simpa using rejected accepted
      simp only [kept,refused,if_false,List.append_nil]
      exact ⟨unrecorded_protected guards later sender_id,by simp,rfl⟩

theorem acceptances_new {cache : ReplayCache} {clock : UInt64}
    {earlier : List (UInt32 × ReplayToken)} {ops : List TimedOp}
    (guards : Protected cache clock earlier) (later : ∀ timed ∈ ops, clock ≤ timed.time)
    (positive : ∀ timed ∈ ops, 0 < timed.time)
    (ordered : ops.Pairwise (fun a b => a.time ≤ b.time))
    (age : ∀ timed ∈ ops, ∀ max_age_us, timed.op = .evict max_age_us →
      2*cache.m_max_skew_us.toNat ≤ max_age_us.toNat) :
    (∀ entry ∈ acceptances cache ops, 1 ≤ entry.2.sequence_num → entry ∉ earlier) ∧
      ((acceptances cache ops).filter (fun entry => 1 ≤ entry.2.sequence_num)).Nodup := by
  -- Along the operations: `earlier` grows by what each of them accepts.
  induction ops generalizing cache clock earlier with
  | nil => simp [acceptances]
  | cons timed ops ih =>
    rw [List.pairwise_cons] at ordered
    obtain ⟨guards',new,same⟩ := step_protected guards (later timed (by simp))
      (positive timed (by simp)) (age timed (by simp))
    obtain ⟨rest_new,rest_distinct⟩ := ih guards' ordered.1
      (fun other member => positive other (by simp [member])) ordered.2
      (fun other member => by rw [same]; exact age other (by simp [member]))
    have first : (acceptance cache timed).Nodup := by
      unfold acceptance
      split
      · split <;> simp
      all_goals simp
    constructor
    · intro entry member one
      rcases List.mem_append.mp member with now | after
      · exact new entry now one
      · exact fun before => rest_new entry after one (List.mem_append_left _ before)
    · rw [acceptances,List.filter_append,List.nodup_append]
      refine ⟨first.filter _,rest_distinct,?_⟩
      rintro a now _ after rfl
      obtain ⟨inside,_⟩ := List.mem_filter.mp now
      obtain ⟨outside,one⟩ := List.mem_filter.mp after
      exact rest_new a outside (by simpa using one) (List.mem_append_right _ inside)

/-- No token replay: on one positive clock that never goes back, with evictions no younger
than twice the skew, no token with a positive sequence number is accepted twice. -/
theorem no_token_replay (max_skew_us : UInt64) (window_size : UInt32) (ops : List TimedOp)
    (positive : ∀ timed ∈ ops, 0 < timed.time)
    (ordered : ops.Pairwise (fun a b => a.time ≤ b.time))
    (age : ∀ timed ∈ ops, ∀ max_age_us, timed.op = .evict max_age_us →
      2*max_skew_us.toNat ≤ max_age_us.toNat) :
    ((acceptances (.new max_skew_us window_size) ops).filter
      (fun entry => 1 ≤ entry.2.sequence_num)).Nodup := by
  have initial : Protected (.new max_skew_us window_size) 0 [] :=
    ⟨by simp [ReplayCache.new],by simp⟩
  exact (acceptances_new initial (fun _ _ => UInt64.zero_le) positive ordered age).2

/-- A token, its replay before and after an eviction, and a packet on the wall clock. -/
def replayRun : List TimedOp :=
  [⟨.checkAndRecord 1 ⟨10,zeroNonce,1⟩ 10,0⟩,⟨.checkOnly 2 ⟨11,zeroNonce,1⟩ 11,0⟩,
    ⟨.checkAndRecord 1 ⟨10,zeroNonce,1⟩ 12,0⟩,⟨.evict 10,21⟩,⟨.checkAndRecord 1 ⟨10,zeroNonce,1⟩ 0,21⟩,
    ⟨.checkAndRecord 1 ⟨20,zeroNonce,1⟩ 0,22⟩]

theorem replayRun_distinct : ((acceptances (.new 5 64) replayRun).filter
    (fun entry => 1 ≤ entry.2.sequence_num)).Nodup :=
  no_token_replay 5 64 replayRun (by decide) (by decide) (by
    intro timed member max_age_us evicts
    simp only [replayRun,List.mem_cons,List.not_mem_nil,or_false] at member
    rcases member with rfl | rfl | rfl | rfl | rfl | rfl <;> cases evicts
    decide)

end UavFanet.ReplayProtection
