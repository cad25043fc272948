import UavFanet.Replay
import UavFanet.Library.Run

/-! What a check that records nothing leaves of the cache: the senders that are tracked, and the
decisions on all later calls. -/
namespace UavFanet.ReplayFrame
open Library UavFanet.Replay

structure TokenCheck where
  sender_id : UInt32
  token : ReplayToken
  now_us : UInt64
  wall : UInt64
  /-- `CheckAndRecord` as against `CheckOnly`. -/
  record : Bool
  deriving DecidableEq,Repr

inductive CacheCall where
  | check (call : TokenCheck)
  | resetSender (sender_id : UInt32)
  | reset
  | evict (wall max_age_us : UInt64)

def TokenCheck.perform (cache : ReplayCache) (call : TokenCheck) : ReplayCheckResult × ReplayCache :=
  if call.record then checkAndRecord call.wall cache call.sender_id call.token call.now_us
  else checkOnly call.wall cache call.sender_id call.token call.now_us

theorem TokenCheck.perform_doCheck (cache : ReplayCache) (call : TokenCheck) :
    call.perform cache = doCheck call.wall cache call.sender_id call.token call.now_us call.record := by
  unfold perform checkAndRecord checkOnly
  cases call.record with
  | false => rfl
  | true => rfl

def step (cache : ReplayCache) : CacheCall → ReplayCache × Option ReplayCheckResult
  | .check call => ((call.perform cache).2,some (call.perform cache).1)
  | .resetSender sender_id => (resetSender cache sender_id,none)
  | .reset => (reset cache,none)
  | .evict wall max_age_us => (evict wall cache max_age_us,none)

/-- What the checks among the calls return. -/
def decisions (cache : ReplayCache) (calls : List CacheCall) : List ReplayCheckResult :=
  (Run.outputs step cache calls).map (·.2)

/-- The caches look the same from outside, now and later. -/
structure Indistinguishable (cache other : ReplayCache) : Prop where
  count : senderCount cache = senderCount other
  senders : ∀ sender_id, hasSender cache sender_id = hasSender other sender_id
  decisions : ∀ calls, decisions cache calls = decisions other calls

/-- The checks run against the same states. Whether a state of a new sender is there does not
matter. -/
structure Agrees (cache other : ReplayCache) : Prop where
  skew : cache.m_max_skew_us = other.m_max_skew_us
  window : cache.m_window_size = other.m_window_size
  states : ∀ sender_id, senderState cache sender_id = senderState other sender_id

theorem senderState_putSender (cache : ReplayCache) (sender_id other : UInt32) (state : SenderState) :
    senderState (putSender cache sender_id state) other =
      if sender_id = other then state else senderState cache other := by
  rw [senderState,getElem?_putSender]
  split
  · rfl
  · rfl

theorem senderState_resetSender (cache : ReplayCache) (sender_id other : UInt32) :
    senderState (resetSender cache sender_id) other =
      if sender_id = other then {} else senderState cache other := by
  simp only [senderState,resetSender,Std.ExtTreeMap.getElem?_erase]
  by_cases same : sender_id = other
  · simp [same]
  · simp [same]

/-- A sender that has never been recorded is not evicted, and would start anew if it were. -/
theorem senderState_evict (wall max_age_us : UInt64) (cache : ReplayCache) (sender_id : UInt32) :
    senderState (evict wall cache max_age_us) sender_id =
      if (senderState cache sender_id).last_seen_us > 0 &&
          wall-(senderState cache sender_id).last_seen_us > max_age_us then {}
      else senderState cache sender_id := by
  have filtered : (evict wall cache max_age_us).m_senders[sender_id]? =
      (cache.m_senders[sender_id]?).filter fun state =>
        !(state.last_seen_us > 0 && wall-state.last_seen_us > max_age_us) :=
    Std.ExtTreeMap.getElem?_filter'
  rw [senderState,senderState,filtered]
  cases cache.m_senders[sender_id]? with
  | none => simp
  | some state =>
    cases stale : decide (state.last_seen_us > 0) && decide (wall-state.last_seen_us > max_age_us) with
    | false => simp [Option.filter,stale]
    | true => simp [Option.filter,stale]

namespace Agrees

variable {cache other : ReplayCache}

theorem putSender (agrees : Agrees cache other) (sender_id : UInt32) (state : SenderState) :
    Agrees (putSender cache sender_id state) (putSender other sender_id state) := by
  refine ⟨agrees.skew,agrees.window,fun sender => ?_⟩
  rw [senderState_putSender,senderState_putSender,agrees.states]

theorem resetSender (agrees : Agrees cache other) (sender_id : UInt32) :
    Agrees (resetSender cache sender_id) (resetSender other sender_id) := by
  refine ⟨agrees.skew,agrees.window,fun sender => ?_⟩
  rw [senderState_resetSender,senderState_resetSender,agrees.states]

theorem evict (agrees : Agrees cache other) (wall max_age_us : UInt64) :
    Agrees (evict wall cache max_age_us) (evict wall other max_age_us) := by
  refine ⟨agrees.skew,agrees.window,fun sender => ?_⟩
  rw [senderState_evict,senderState_evict,agrees.states]

theorem perform (agrees : Agrees cache other) (call : TokenCheck) :
    (call.perform cache).1 = (call.perform other).1 ∧
      Agrees (call.perform cache).2 (call.perform other).2 := by
  rw [TokenCheck.perform_doCheck,TokenCheck.perform_doCheck]
  simp only [doCheck,agrees.skew,agrees.window,agrees.states]
  split
  · exact ⟨rfl,agrees⟩
  · split
    · exact ⟨rfl,agrees.putSender ..⟩
    · exact ⟨rfl,agrees.putSender ..⟩

theorem step (agrees : Agrees cache other) (call : CacheCall) :
    (step cache call).2 = (ReplayFrame.step other call).2 ∧
      Agrees (ReplayFrame.step cache call).1 (ReplayFrame.step other call).1 := by
  cases call with
  | check call =>
    obtain ⟨same,after⟩ := agrees.perform call
    exact ⟨congrArg some same,after⟩
  | resetSender sender_id => exact ⟨rfl,agrees.resetSender sender_id⟩
  | reset => exact ⟨rfl,agrees.skew,agrees.window,fun _ => rfl⟩
  | evict wall max_age_us => exact ⟨rfl,agrees.evict wall max_age_us⟩

theorem decisions (agrees : Agrees cache other) (calls : List CacheCall) :
    decisions cache calls = ReplayFrame.decisions other calls := by
  induction calls generalizing cache other with
  | nil => rfl
  | cons call rest ih =>
    obtain ⟨same,after⟩ := agrees.step call
    have later := ih after
    simp only [ReplayFrame.decisions,Run.outputs,List.map_append] at later ⊢
    rw [later,same]
    cases (ReplayFrame.step other call).2 with
    | none => rfl
    | some result => rfl

end Agrees

theorem agrees_putSender_same (cache : ReplayCache) (sender_id : UInt32) :
    Agrees (putSender cache sender_id (senderState cache sender_id)) cache := by
  refine ⟨rfl,rfl,fun sender => ?_⟩
  rw [senderState_putSender]
  split
  · rename_i same
    rw [same]
  · rfl

theorem hasSender_putSender (cache : ReplayCache) (sender_id other : UInt32) (state : SenderState) :
    hasSender (putSender cache sender_id state) other =
      (decide (sender_id = other) || hasSender cache other) := by
  simp [hasSender,putSender,Std.ExtTreeMap.mem_insert]

theorem putSender_same {cache : ReplayCache} {sender_id : UInt32}
    (tracked : hasSender cache sender_id = true) :
    putSender cache sender_id (senderState cache sender_id) = cache := by
  have stored : cache.m_senders[sender_id]? = some (senderState cache sender_id) := by
    have member : sender_id ∈ cache.m_senders := by simpa [hasSender] using tracked
    rw [senderState,Std.ExtTreeMap.getElem?_eq_some_getElem member]
    rfl
  have senders : (putSender cache sender_id (senderState cache sender_id)).m_senders =
      cache.m_senders := by
    apply Std.ExtTreeMap.ext_getElem?
    intro other
    rw [getElem?_putSender]
    split
    · rename_i same
      rw [← same,stored]
    · rfl
  cases cache
  exact congrArg (ReplayCache.mk · _ _) senders

theorem checkState_new (window_size : UInt32) (token : ReplayToken) :
    checkState window_size {} token = .accepted := by
  rw [checkState_iff,checkNonce_iff]
  refine ⟨?_,.inl rfl⟩
  by_cases zero : token.nonce = zeroNonce
  · exact .inl zero
  · refine .inr (fun member => zero ?_)
    exact Vector.eq_of_mem_replicate member

/-- Only a tracked sender has anything recorded that a token can be refused for. -/
theorem hasSender_of_rejected {cache : ReplayCache} {sender_id : UInt32} (token : ReplayToken)
    (rejected : checkState cache.m_window_size (senderState cache sender_id) token ≠ .accepted) :
    hasSender cache sender_id = true := by
  by_contra absent
  have missing : cache.m_senders[sender_id]? = none := by
    apply Std.ExtTreeMap.getElem?_eq_none
    simpa [hasSender] using absent
  apply rejected
  rw [senderState,missing]
  exact checkState_new ..

/-- `CheckOnly`, or a `CheckAndRecord` that is rejected. -/
def TokenCheck.Quiet (cache : ReplayCache) (call : TokenCheck) : Prop :=
  call.record = false ∨ (call.perform cache).1 ≠ .accepted

def TokenCheck.timely (cache : ReplayCache) (call : TokenCheck) : Bool :=
  checkTimestamp cache.m_max_skew_us call.token.timestamp_us (checkTime call.wall call.now_us)

/-- A quiet check past the timestamp writes the sender's state back as it was. -/
theorem TokenCheck.Quiet.perform {cache : ReplayCache} {call : TokenCheck}
    (quiet : call.Quiet cache) :
    (call.perform cache).2 =
        (if call.timely cache then
          putSender cache call.sender_id (senderState cache call.sender_id) else cache) ∧
      (call.record = true → call.timely cache = true → hasSender cache call.sender_id = true) := by
  unfold TokenCheck.Quiet at quiet
  rw [perform_doCheck] at quiet ⊢
  rcases doCheck_cases call.wall cache call.sender_id call.token call.now_us call.record with
    ⟨result,late⟩ | ⟨timely,⟨result,recording,-⟩ | ⟨result,keeping⟩⟩
  · rw [result,timely,late]
    exact ⟨rfl,fun _ impossible => absurd impossible (by decide)⟩
  · rw [result,recording] at quiet
    rcases quiet with reading | rejected
    · cases reading
    · exact absurd rfl rejected
  · rw [result,TokenCheck.timely,timely]
    refine ⟨rfl,fun recording _ => hasSender_of_rejected call.token ?_⟩
    intro accepted
    exact absurd (recording.symm.trans (keeping accepted)) (by decide)

/-- A check that records nothing never changes a later decision, and it leaves no trace unless it
is a `CheckOnly` with a timely token of a sender that is not tracked yet. -/
theorem quiet_checks_untouched_iff (cache : ReplayCache) (call : TokenCheck)
    (quiet : call.Quiet cache) :
    (Indistinguishable (call.perform cache).2 cache ↔
      call.record = true ∨ call.timely cache = false ∨ hasSender cache call.sender_id = true) ∧
    ∀ calls, decisions (call.perform cache).2 calls = decisions cache calls := by
  obtain ⟨after,tracked⟩ := quiet.perform
  rw [after]
  cases timely : call.timely cache with
  | false => exact ⟨⟨fun _ => .inr (.inl rfl),fun _ => ⟨rfl,fun _ => rfl,fun _ => rfl⟩⟩,fun _ => rfl⟩
  | true =>
    have same := agrees_putSender_same cache call.sender_id
    refine ⟨⟨fun untouched => .inr (.inr ?_),fun allowed => ?_⟩,same.decisions⟩
    · rw [← untouched.senders,if_pos rfl,hasSender_putSender]
      simp
    · have present : hasSender cache call.sender_id = true := by
        rcases allowed with recording | late | present
        · exact tracked recording timely
        · cases late
        · exact present
      rw [if_pos rfl,putSender_same present]
      exact ⟨rfl,fun _ => rfl,fun _ => rfl⟩

def emptyCache : ReplayCache := .new 5000000 64

def firstLook : TokenCheck where
  sender_id := 7
  token := { timestamp_us := 1000, nonce := zeroNonce, sequence_num := 1 }
  now_us := 1000
  wall := 0
  record := false

/-- Recorded, the same token stays out once it has been accepted. -/
def firstRecord : TokenCheck := { firstLook with record := true }

theorem firstRecord_repeated_untouched :
    Indistinguishable (firstRecord.perform (firstRecord.perform emptyCache).2).2
      (firstRecord.perform emptyCache).2 :=
  (quiet_checks_untouched_iff (firstRecord.perform emptyCache).2 firstRecord
    (.inr (by decide +kernel))).1.mpr (.inl rfl)

/-- The look at the first token makes the sender a tracked one. -/
theorem firstLook_tracks_sender :
    firstLook.record = false ∧ senderCount emptyCache = 0 ∧
    senderCount (firstLook.perform emptyCache).2 = 1 ∧
    hasSender emptyCache 7 = false ∧ hasSender (firstLook.perform emptyCache).2 7 = true ∧
    ¬ Indistinguishable (firstLook.perform emptyCache).2 emptyCache := by
  refine ⟨rfl,by decide +kernel,by decide +kernel,by decide +kernel,by decide +kernel,?_⟩
  intro same
  exact absurd same.count (by decide +kernel)

end UavFanet.ReplayFrame
