import UavFanet.SkdcRuns
import UavFanet.Library.Outstanding

/-! The handovers that an SKDC completes: `SLAVE_FWD` messages open them, and `KEY_ACK`
messages close them with a `ProcessJoin`. -/
namespace UavFanet.Apps
open Library UavFanet.ByteUtils UavFanet.Packet UavFanet.Handover

/-- A message on port 9051 or 9053. -/
inductive HandoverMessage where
  | slaveFwd (iv : Result GcmIv) (now_us : UInt64) (buf : ByteBuffer)
  | keyAck (draws : RekeyDraws) (buf : ByteBuffer)

namespace HandoverMessage

/-- What a message that passes the checks of its handler is about: a UAV and its new index. -/
def event (crypto : Primitives) (gk : GlobalKey) (cluster_id : UInt32) :
    HandoverMessage → Option (Outstanding.Event UInt32 UInt32)
  | slaveFwd _ _ buf =>
    match parseSlaveFwd crypto buf gk with
    | .ok (some fwd) =>
      if fwd.new_cluster = cluster_id then some (.opened fwd.uav_id fwd.blob.uav_index) else none
    | _ => none
  | keyAck _ buf =>
    match parseKeyAck crypto buf gk with
    | .ok (some ack) =>
      if ack.new_cluster = cluster_id then some (.closed ack.uav_id ack.new_index) else none
    | _ => none

/-- The state after a message, with the arguments of the `ProcessJoin` that it ran. -/
def deliver (crypto : Primitives) (app : SkdcApplication) :
    HandoverMessage → SkdcApplication × Option (UInt32 × UInt32)
  | slaveFwd iv now_us buf => ((app.receiveSlaveKeyFwd crypto iv now_us buf).1,none)
  | keyAck draws buf =>
    ((app.receiveKeyAck crypto draws buf).1,
      (SkdcCall.joining crypto app buf).map fun ack => (ack.uav_id,ack.new_index))

end HandoverMessage

namespace SkdcApplication
open HandoverMessage

/-- The new index of the handover that is pending for a UAV. -/
def pendingIndex (app : SkdcApplication) (uav_id : UInt32) : Option UInt32 :=
  (app.m_pending_ho[uav_id]?).map (·.new_index)

section Deliver

variable (crypto : Primitives) (app : SkdcApplication) (message : HandoverMessage)

theorem deliver_frame : (deliver crypto app message).1.m_gk = app.m_gk ∧
    (deliver crypto app message).1.m_cluster_id = app.m_cluster_id ∧
    ∀ uav_id, (deliver crypto app message).1.pendingIndex uav_id =
      (message.event crypto app.m_gk app.m_cluster_id).elim (app.pendingIndex uav_id)
        fun event => if event.key = uav_id then event.left else app.pendingIndex uav_id := by
  cases message with
  | slaveFwd iv now_us buf =>
    simp only [deliver,receiveSlaveKeyFwd,event]
    cases parsed : parseSlaveFwd crypto buf app.m_gk with
    | error failure => exact ⟨rfl,rfl,fun _ => rfl⟩
    | ok outcome =>
      cases outcome with
      | none => exact ⟨rfl,rfl,fun _ => rfl⟩
      | some fwd =>
        by_cases here : fwd.new_cluster = app.m_cluster_id
        · simp only [here,ne_eq,not_true_eq_false,if_false,if_true]
          refine ⟨trivial,trivial,fun uav_id => ?_⟩
          by_cases same : fwd.uav_id = uav_id
          · simp [pendingIndex,same,Outstanding.Event.key,Outstanding.Event.left]
          · simp [pendingIndex,same,Outstanding.Event.key,Std.ExtTreeMap.getElem?_insert]
        · simp only [here,ne_eq,not_false_eq_true,if_false,if_true]
          exact ⟨trivial,trivial,fun _ => rfl⟩
  | keyAck draws buf =>
    simp only [deliver,receiveKeyAck_joining,event,SkdcCall.joining]
    cases parsed : parseKeyAck crypto buf app.m_gk with
    | error failure => exact ⟨rfl,rfl,fun _ => rfl⟩
    | ok outcome =>
      cases outcome with
      | none => exact ⟨rfl,rfl,fun _ => rfl⟩
      | some ack =>
        by_cases here : ack.new_cluster = app.m_cluster_id
        · simp only [here,if_true,Option.elim_some,processJoin]
          obtain ⟨seq,count,frame⟩ := triggerRekey_frame crypto draws { app with
            m_pending_ho := app.m_pending_ho.erase ack.uav_id
            m_state := { app.m_state with members := app.m_state.members.insert ack.uav_id } }
          rw [frame]
          refine ⟨rfl,rfl,fun uav_id => ?_⟩
          by_cases same : ack.uav_id = uav_id
          · simp [pendingIndex,same,Outstanding.Event.key,Outstanding.Event.left]
          · simp [pendingIndex,same,Outstanding.Event.key,Std.ExtTreeMap.getElem?_erase]
        · simp only [here,if_false,Option.elim_none]
          exact ⟨trivial,trivial,fun _ => trivial⟩

theorem deliver_joins {uav_id new_index : UInt32} :
    (deliver crypto app message).2 = some (uav_id,new_index) ↔
      message.event crypto app.m_gk app.m_cluster_id = some (.closed uav_id new_index) := by
  cases message with
  | slaveFwd iv now_us buf =>
    simp only [deliver,event]
    split
    · split <;> simp
    · simp
  | keyAck draws buf =>
    simp only [deliver,event,SkdcCall.joining]
    cases parsed : parseKeyAck crypto buf app.m_gk with
    | error failure => simp
    | ok outcome =>
      cases outcome with
      | none => simp
      | some ack =>
        by_cases here : ack.new_cluster = app.m_cluster_id
        · simp [here]
        · simp [here]

theorem opens_slaveFwd {gk : GlobalKey} {cluster_id uav_id new_index : UInt32}
    (opens : message.event crypto gk cluster_id = some (.opened uav_id new_index)) :
    ∃ iv now_us buf fwd, message = .slaveFwd iv now_us buf ∧
      parseSlaveFwd crypto buf gk = .ok (some fwd) ∧ fwd.new_cluster = cluster_id ∧
      fwd.uav_id = uav_id ∧ fwd.blob.uav_index = new_index := by
  cases message with
  | keyAck draws buf =>
    simp only [event] at opens
    split at opens
    · split at opens <;> cases opens
    · cases opens
  | slaveFwd iv now_us buf =>
    simp only [event] at opens
    split at opens
    · rename_i fwd parsed
      split at opens
      · cases opens
        exact ⟨iv,now_us,buf,fwd,rfl,parsed,‹_›,rfl,rfl⟩
      · cases opens
    · cases opens

end Deliver

section Runs

variable (crypto : Primitives) (start : SkdcApplication)

/-- What `deliver` did with the message at a position. -/
def joinedAt (messages : List HandoverMessage) (j : Nat) : Option (UInt32 × UInt32) :=
  messages[j]?.bind fun message =>
    (deliver crypto (Run.final (deliver crypto) start (messages.take j)) message).2

/-- Every `ProcessJoin` finds a handover pending for its UAV with its index, and is led to by an
earlier `SLAVE_FWD` with both that leads to no other. -/
structure JoinsCaused (messages : List HandoverMessage) : Prop where
  pending : Run.Along (deliver crypto)
    (fun app message => ∀ uav_id new_index, (deliver crypto app message).2 = some (uav_id,new_index) →
      app.pendingIndex uav_id = some new_index) start messages
  caused : ∃ cause : Nat → Nat,
    (∀ j uav_id new_index, joinedAt crypto start messages j = some (uav_id,new_index) →
      cause j < j ∧ ∃ iv now_us buf fwd, messages[cause j]? = some (.slaveFwd iv now_us buf) ∧
        parseSlaveFwd crypto buf start.m_gk = .ok (some fwd) ∧
        fwd.new_cluster = start.m_cluster_id ∧ fwd.uav_id = uav_id ∧
        fwd.blob.uav_index = new_index) ∧
    ∀ i j first second, joinedAt crypto start messages i = some first →
      joinedAt crypto start messages j = some second → cause i = cause j → i = j

/-- When a `KEY_ACK` passes the checks of its handler, the last message about its UAV that passed
those of its own was a `SLAVE_FWD` with the acknowledged index. -/
def AcksAnswered (messages : List HandoverMessage) : Prop :=
  Outstanding.Matched (HandoverMessage.event crypto start.m_gk start.m_cluster_id) messages

theorem final_frame (messages : List HandoverMessage) :
    (Run.final (deliver crypto) start messages).m_gk = start.m_gk ∧
      (Run.final (deliver crypto) start messages).m_cluster_id = start.m_cluster_id := by
  induction messages using List.reverseRecOn with
  | nil => exact ⟨rfl,rfl⟩
  | append_singleton messages message ih =>
    obtain ⟨kept_gk,kept_cluster,-⟩ :=
      deliver_frame crypto (Run.final (deliver crypto) start messages) message
    rw [Run.final_append]
    exact ⟨kept_gk.trans ih.1,kept_cluster.trans ih.2⟩

theorem final_pendingIndex (empty : start.m_pending_ho = ∅) (messages : List HandoverMessage)
    (uav_id : UInt32) : (Run.final (deliver crypto) start messages).pendingIndex uav_id =
      Outstanding.outstanding (event crypto start.m_gk start.m_cluster_id) uav_id messages := by
  induction messages using List.reverseRecOn with
  | nil => simp [pendingIndex,empty]
  | append_singleton messages message ih =>
    obtain ⟨gk,cluster⟩ := final_frame crypto start messages
    obtain ⟨-,-,pending⟩ := deliver_frame crypto (Run.final (deliver crypto) start messages) message
    rw [Run.final_append,Run.final_cons,Run.final_nil,pending,gk,cluster,
      Outstanding.outstanding_concat,ih]

theorem joinedAt_closed {messages : List HandoverMessage} {j : Nat} {uav_id new_index : UInt32} :
    joinedAt crypto start messages j = some (uav_id,new_index) ↔
      messages[j]?.bind (event crypto start.m_gk start.m_cluster_id) =
        some (.closed uav_id new_index) := by
  obtain ⟨gk,cluster⟩ := final_frame crypto start (messages.take j)
  cases present : messages[j]? with
  | none => simp [joinedAt,present]
  | some message =>
    rw [joinedAt,present,Option.bind_some,deliver_joins,gk,cluster,Option.bind_some]

end Runs

/-- The SKDC's joins are caused by exactly one handover if and only if every acknowledgement
answers the latest `SLAVE_FWD` for its UAV, once. -/
theorem joins_caused_iff (crypto : Primitives) {start : SkdcApplication}
    (empty : start.m_pending_ho = ∅) (messages : List HandoverMessage) :
    JoinsCaused crypto start messages ↔ AcksAnswered crypto start messages := by
  constructor
  · intro caused before message after split uav_id new_index closes
    obtain ⟨gk,cluster⟩ := final_frame crypto start before
    rw [← final_pendingIndex crypto start empty]
    apply caused.pending before message after split
    rw [deliver_joins,gk,cluster]
    exact closes
  · intro answered
    refine ⟨?_,?_⟩
    · intro before message after split uav_id new_index joins
      obtain ⟨gk,cluster⟩ := final_frame crypto start before
      rw [deliver_joins,gk,cluster] at joins
      rw [final_pendingIndex crypto start empty]
      exact answered before message after split uav_id new_index joins
    · obtain ⟨cause,earlier,once⟩ := Outstanding.Matched.attributed answered
      refine ⟨cause,fun j uav_id new_index joined => ?_,fun i j first second left right => ?_⟩
      · obtain ⟨before,opened⟩ :=
          earlier j uav_id new_index ((joinedAt_closed crypto start).mp joined)
        obtain ⟨message,present,opens⟩ := Option.bind_eq_some_iff.mp opened
        obtain ⟨iv,now_us,buf,fwd,rfl,parsed,here,about,index⟩ := opens_slaveFwd crypto message opens
        exact ⟨before,iv,now_us,buf,fwd,present,parsed,here,about,index⟩
      · exact once i j _ _ _ _ ((joinedAt_closed crypto start).mp left)
          ((joinedAt_closed crypto start).mp right)

end SkdcApplication

/-- `rotationCrypto` with a cipher that opens what it sealed. -/
def handoverCrypto : Primitives := { rotationCrypto with
  gcmDecrypt := fun _ _ text _ _ => some text }

theorem handoverCrypto_inverts : Inverts handoverCrypto :=
  ⟨fun _ _ _ _ => rfl,fun _ _ _ _ => rfl⟩

def sampleFwdBytes : ByteBuffer :=
  (buildSlaveFwd handoverCrypto (.ok (Vector.replicate 12 0)) 9 0 { uav_index := 3 }
    zeroKey).toOption.getD []

/-- UAV 9 is to come to cluster 0 with index 3, and says that it did. -/
def sampleSlaveFwd : HandoverMessage := .slaveFwd (.ok (Vector.replicate 12 0)) 0 sampleFwdBytes

def sampleKeyAck : HandoverMessage :=
  .keyAck sampleRekeyDraws (buildKeyAck handoverCrypto 0 9 0 3 zeroKey)

namespace SkdcApplication
open HandoverMessage

theorem sampleSlaveFwd_event :
    sampleSlaveFwd.event handoverCrypto startedSkdc.m_gk startedSkdc.m_cluster_id =
      some (.opened 9 3) := by
  obtain ⟨wire,built⟩ : ∃ wire, buildSlaveFwd handoverCrypto (.ok (Vector.replicate 12 0)) 9 0
      { uav_index := 3 } zeroKey = .ok wire := by
    rw [buildSlaveFwd,AesGcm.encrypt,Result.ok_bind,AesGcm.encryptWithIv,
      AesGcm.updateInput_short (by rw [length_blobAad]; omega),
      AesGcm.updateInput_short (by rw [SlaveKeyBlob.length_serialize]; omega)]
    exact ⟨_,rfl⟩
  have same : sampleFwdBytes = wire := by
    rw [sampleFwdBytes,built]
    rfl
  have parsed := parseSlaveFwd_buildSlaveFwd handoverCrypto_inverts built
  simp only [sampleSlaveFwd,event,same]
  rw [show startedSkdc.m_gk = zeroKey from rfl,parsed]
  rfl

theorem sampleKeyAck_event :
    sampleKeyAck.event handoverCrypto startedSkdc.m_gk startedSkdc.m_cluster_id =
      some (.closed 9 3) := by
  simp only [sampleKeyAck,event]
  rw [show startedSkdc.m_gk = zeroKey from rfl,parseKeyAck_buildKeyAck]
  rfl

theorem sample_join_caused : JoinsCaused handoverCrypto startedSkdc [sampleSlaveFwd,sampleKeyAck] ∧
    joinedAt handoverCrypto startedSkdc [sampleSlaveFwd,sampleKeyAck] 1 = some (9,3) := by
  constructor
  · apply (joins_caused_iff handoverCrypto rfl _).mpr
    intro before message after split uav_id new_index closes
    rcases before with _ | ⟨first,_ | ⟨second,rest⟩⟩
    · obtain ⟨rfl,-⟩ := List.cons.inj split
      rw [sampleSlaveFwd_event] at closes
      cases closes
    · obtain ⟨head,tail⟩ := List.cons.inj split
      subst head
      obtain ⟨rfl,-⟩ := List.cons.inj tail
      rw [sampleKeyAck_event] at closes
      cases closes
      simp [Outstanding.outstanding,sampleSlaveFwd_event,Outstanding.Event.key,
        Outstanding.Event.left]
    · simp at split
  · rw [joinedAt_closed]
    exact sampleKeyAck_event

/-- The same acknowledgement, delivered again, joins again. -/
theorem repeated_ack_joins :
    joinedAt handoverCrypto startedSkdc [sampleSlaveFwd,sampleKeyAck,sampleKeyAck] 2 = some (9,3) ∧
    ¬ JoinsCaused handoverCrypto startedSkdc [sampleSlaveFwd,sampleKeyAck,sampleKeyAck] := by
  have again : joinedAt handoverCrypto startedSkdc [sampleSlaveFwd,sampleKeyAck,sampleKeyAck] 2 =
      some (9,3) := by
    rw [joinedAt_closed]
    exact sampleKeyAck_event
  refine ⟨again,?_⟩
  intro caused
  have pending := caused.pending [sampleSlaveFwd,sampleKeyAck] sampleKeyAck [] rfl 9 3 again
  rw [final_pendingIndex handoverCrypto startedSkdc rfl] at pending
  simp [Outstanding.outstanding,sampleSlaveFwd_event,sampleKeyAck_event,Outstanding.Event.key,
    Outstanding.Event.left] at pending

end SkdcApplication
end UavFanet.Apps
