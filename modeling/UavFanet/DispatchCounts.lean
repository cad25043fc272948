import UavFanet.PacketDispatch

/-! The statistics of `Dispatch`: whatever arrives, each call moves one of eight counters, and
so the counters of a run add up to its calls. -/
namespace UavFanet

/-- What `Dispatch` catches. -/
inductive Reported : Failure → Prop where
  | crypto (text : String) : Reported (.cryptoException text)
  | openssl (context : String) : Reported (.opensslError context)
  | serialization (text : String) : Reported (.serializationException text)

theorem Hmac.stripAndVerifyHmac_throws (crypto : Primitives) (key : HmacKey) (wire : ByteBuffer) :
    (stripAndVerifyHmac crypto key wire).Throws Reported := by
  unfold stripAndVerifyHmac
  refine .ite (.error (.serialization _)) fun _ => ?_
  exact .ite (.ok _) fun _ => .error (.crypto _)

namespace Packet
open Library UavFanet.ByteUtils UavFanet.Replay UavFanet.Apps

section Parsers

variable (buf : ByteBuffer) (offset : Nat)

theorem AuthBody.deserialize_throws : (AuthBody.deserialize buf offset).Throws Reported := by
  by_cases short : buf.length < offset+48
  · rw [deserialize,if_pos short]
    exact .error (.serialization _)
  · exact .of_exists (deserialize_accepts.mpr (by omega))

theorem JoinBody.deserialize_throws : (JoinBody.deserialize buf offset).Throws Reported := by
  by_cases short : buf.length < offset+56
  · rw [deserialize,if_pos short]
    exact .error (.serialization _)
  · exact .of_exists (deserialize_accepts.mpr (by omega))

theorem HandoverBody.deserialize_throws :
    (HandoverBody.deserialize buf offset).Throws Reported := by
  by_cases short : buf.length < offset+64
  · rw [deserialize,if_pos short]
    exact .error (.serialization _)
  · exact .of_exists (deserialize_accepts.mpr (by omega))

theorem RekeyBody.deserialize_throws : (RekeyBody.deserialize buf offset).Throws Reported := by
  unfold deserialize
  refine .ite (.error (.serialization _)) fun long => ?_
  refine .reads (readU32BE_within buf _ (by omega)) fun _ => ?_
  refine .reads (readU32BE_within buf _ (by omega)) fun _ => ?_
  refine .reads (readU8_within buf _ (by omega)) fun _ => ?_
  refine .reads (readU32BE_within buf _ (by omega)) fun mtk_len => ?_
  refine .reads (readU64BE_within buf _ (by omega)) fun _ => ?_
  refine .reads (readArray_within buf _ (by omega)) fun _ => ?_
  refine .ite (.error (.serialization _)) fun whole => ?_
  exact .reads (read_within buf _ _ (by omega)) fun _ => .ok _

theorem DataBody.deserialize_throws : (DataBody.deserialize buf offset).Throws Reported := by
  unfold deserialize
  refine .ite (.error (.serialization _)) fun long => ?_
  refine .reads (readU32BE_within buf _ (by omega)) fun _ => ?_
  refine .reads (readU32BE_within buf _ (by omega)) fun _ => ?_
  refine .reads (readU64BE_within buf _ (by omega)) fun _ => ?_
  refine .reads (readU32BE_within buf _ (by omega)) fun _ => ?_
  refine .reads (readU32BE_within buf _ (by omega)) fun ct_len => ?_
  refine .reads (readArray_within buf _ (by omega)) fun _ => ?_
  refine .reads (readArray_within buf _ (by omega)) fun _ => ?_
  refine .ite (.error (.serialization _)) fun whole => ?_
  exact .reads (read_within buf _ _ (by omega)) fun _ => .ok _

theorem MtkBody.deserialize_throws : (MtkBody.deserialize buf offset).Throws Reported := by
  unfold deserialize
  refine .ite (.error (.serialization _)) fun long => ?_
  refine .reads (readU32BE_within buf _ (by omega)) fun _ => ?_
  refine .reads (readU32BE_within buf _ (by omega)) fun _ => ?_
  refine .reads (readU64BE_within buf _ (by omega)) fun _ => ?_
  refine .reads (readU32BE_within buf _ (by omega)) fun mtk_len => ?_
  refine .reads (readU32BE_within buf _ (by omega)) fun n_group_len => ?_
  refine .reads (readU32BE_within buf _ (by omega)) fun nonce_len => ?_
  refine .ite (.error (.serialization _)) fun whole => ?_
  refine .reads (read_within buf _ _ (by omega)) fun _ => ?_
  refine .reads (read_within buf _ _ (by omega)) fun _ => ?_
  split
  · rename_i present
    have room : 16 ≤ nonce_len.toNat := UInt32.le_iff_toNat_le.mp present
    exact .reads (readArray_within buf _ (by omega)) fun _ => .ok _
  · exact .ok _

variable {wire : ByteBuffer} (crypto : Primitives) (key : HmacKey)

theorem readHeader_throws {size : Nat} (genuine : readU16BE wire 0 = .ok packetMagic)
    (within : 48 ≤ size) (long : size ≤ wire.length) :
    (readHeader (wire.take size)).Throws Reported := by
  rw [readHeader_take within long]
  exact .of_exists (readHeader_within (by omega) genuine)

/-- A parser that verifies throws what its body parser throws, and its own. -/
theorem deserializeVerified_throws {Body : Type} {min_wire : Nat} {too_small : Nat → String}
    {body : ByteBuffer → Nat → Result Body} (genuine : readU16BE wire 0 = .ok packetMagic)
    (room : 80 ≤ min_wire) (throws : ∀ buf, (body buf 48).Throws Reported) :
    (deserializeVerified crypto min_wire too_small body wire key).Throws Reported := by
  unfold deserializeVerified
  refine .ite (.error (.serialization _)) fun long => ?_
  refine (Hmac.stripAndVerifyHmac_throws crypto key wire).bind fun buf stripped => ?_
  obtain ⟨-,rfl⟩ := Hmac.stripAndVerifyHmac_ok.mp stripped
  refine (readHeader_throws genuine (by omega) (by omega)).bind fun header _ => ?_
  exact (throws _).bind fun value _ => .ok (header,value)

theorem MtkPacket.deserialize_throws (genuine : readU16BE wire 0 = .ok packetMagic) :
    (MtkPacket.deserialize wire key).Throws Reported := by
  unfold MtkPacket.deserialize
  refine .ite (.error (.serialization _)) fun long => ?_
  refine (readHeader_throws genuine (by omega) (by omega)).bind fun header _ => ?_
  exact (MtkBody.deserialize_throws _ 48).bind fun body _ => .ok _

theorem AuthPacket.deserialize_throws (genuine : readU16BE wire 0 = .ok packetMagic) :
    (AuthPacket.deserialize crypto wire key).Throws Reported :=
  (deserializeVerified_throws crypto key genuine (by omega) fun buf =>
    AuthBody.deserialize_throws buf 48).bind fun _ _ => .ok _

theorem JoinPacket.deserialize_throws (genuine : readU16BE wire 0 = .ok packetMagic) :
    (JoinPacket.deserialize crypto wire key).Throws Reported :=
  (deserializeVerified_throws crypto key genuine (by omega) fun buf =>
    JoinBody.deserialize_throws buf 48).bind fun _ _ => .ok _

theorem RekeyPacket.deserialize_throws (genuine : readU16BE wire 0 = .ok packetMagic) :
    (RekeyPacket.deserialize crypto wire key).Throws Reported := by
  rw [RekeyPacket.deserialize_verified]
  exact (deserializeVerified_throws crypto key genuine (by omega) fun buf =>
    RekeyBody.deserialize_throws buf 48).bind fun _ _ => .ok _

theorem HandoverPacket.deserialize_throws (genuine : readU16BE wire 0 = .ok packetMagic) :
    (HandoverPacket.deserialize crypto wire key).Throws Reported :=
  (deserializeVerified_throws crypto key genuine (by omega) fun buf =>
    HandoverBody.deserialize_throws buf 48).bind fun _ _ => .ok _

theorem DataPacket.deserialize_throws (genuine : readU16BE wire 0 = .ok packetMagic) :
    (DataPacket.deserialize crypto wire key).Throws Reported :=
  (deserializeVerified_throws crypto key genuine (by omega) fun buf =>
    DataBody.deserialize_throws buf 48).bind fun _ _ => .ok _

end Parsers

/-- The counters of which each call moves one. -/
inductive Outcome where
  | auth | join | rekey | mtk | handover | data | hmac | format
  deriving DecidableEq,Repr

def Outcome.all : List Outcome := [.auth,.join,.rekey,.mtk,.handover,.data,.hmac,.format]

def PacketStats.counter (stats : PacketStats) : Outcome → UInt64
  | .auth => stats.rx_auth
  | .join => stats.rx_join
  | .rekey => stats.rx_rekey
  | .mtk => stats.rx_mtk
  | .handover => stats.rx_handover
  | .data => stats.rx_data
  | .hmac => stats.err_hmac
  | .format => stats.err_format

/-- The calls that the counters add up to. -/
def PacketStats.counted (stats : PacketStats) : UInt64 :=
  stats.rx_auth+stats.rx_join+stats.rx_rekey+stats.rx_mtk+stats.rx_handover+stats.rx_data+
    stats.err_hmac+stats.err_format

/-- From `before` to `after` the counter of the outcome goes up by one, and no other. -/
def Moves (before : PacketStats) (outcome : Outcome) (after : PacketStats) : Prop :=
  ∀ other, after.counter other = before.counter other+(if other = outcome then 1 else 0)

/-- What one call does to the statistics. -/
structure Counts (total : UInt64) (before after : PacketStats) : Prop where
  one : ∃ outcome, Moves before outcome after
  rx_total : after.rx_total = before.rx_total+total

theorem Counts.moved {before after : PacketStats} (outcome : Outcome)
    (moves : Moves before outcome after) (same : after.rx_total = before.rx_total) :
    Counts 0 before after := ⟨⟨outcome,moves⟩,by rw [same,UInt64.add_zero]⟩

theorem Counts.after_total {before after : PacketStats}
    (counts : Counts 0 { before with rx_total := before.rx_total+1 } after) :
    Counts 1 before after := by
  obtain ⟨⟨outcome,moves⟩,same⟩ := counts
  refine ⟨⟨outcome,?_⟩,by rw [same,UInt64.add_zero]⟩
  intro other
  rw [moves other]
  cases other <;> rfl

def Quiet {P : Type} (handler : Option (P → Result Unit)) : Prop :=
  ∀ handle ∈ handler, ∀ pkt, handle pkt = .ok ()

namespace PacketManager

/-- No registered handler throws. -/
structure Quiet (manager : PacketManager) : Prop where
  auth : Packet.Quiet manager.m_auth_handler
  join : Packet.Quiet manager.m_join_handler
  rekey : Packet.Quiet manager.m_rekey_handler
  mtk : Packet.Quiet manager.m_mtk_handler
  handover : Packet.Quiet manager.m_handover_handler
  data : Packet.Quiet manager.m_data_handler

theorem refuse_counts (manager : PacketManager) (handed : Option AnyPacket) {failure : Failure}
    (reported : Reported failure) :
    Counts 0 manager.m_stats (manager.refuse handed failure).manager.m_stats := by
  cases reported with
  | crypto text =>
    refine .moved .hmac ?_ rfl
    intro other
    cases other <;> simp [refuse,count,PacketStats.counter]
  | openssl context =>
    refine .moved .hmac ?_ rfl
    intro other
    cases other <;> simp [refuse,count,PacketStats.counter]
  | serialization text =>
    refine .moved .format ?_ rfl
    intro other
    cases other <;> simp [refuse,count,PacketStats.counter]

theorem hand_counts {P : Type} (manager : PacketManager) {parsed : Result P}
    {received : PacketStats → PacketStats} {handler : Option (P → Result Unit)}
    {kind : P → AnyPacket} (throws : parsed.Throws Reported)
    (counted : ∀ stats, Counts 0 stats (received stats)) (quiet : Packet.Quiet handler) :
    Counts 0 manager.m_stats (manager.hand parsed received handler kind).manager.m_stats := by
  unfold hand
  cases parsed with
  | error failure => exact manager.refuse_counts none (throws failure rfl)
  | ok pkt =>
    cases handler with
    | none => exact counted manager.m_stats
    | some handle =>
      simp only [quiet handle rfl pkt]
      exact counted manager.m_stats

/-- Each call moves one counter, and the total if the type was recognised. -/
theorem dispatch_counts (crypto : Primitives) (wire : ByteBuffer) {manager : PacketManager}
    (quiet : manager.Quiet) :
    Counts (if peekType wire = .unknown then 0 else 1) manager.m_stats
      (manager.dispatch crypto wire).manager.m_stats := by
  by_cases unknown : peekType wire = .unknown
  · rw [if_pos unknown,dispatch,if_pos unknown]
    refine .moved .format ?_ rfl
    intro other
    cases other <;> simp [count,PacketStats.counter]
  obtain ⟨genuine,-⟩ := peekType_known unknown
  rw [if_neg unknown]
  -- the total is counted before the type is looked at
  apply Counts.after_total
  change Counts 0 (manager.count fun stats => { stats with rx_total := stats.rx_total+1 }).m_stats _
  unfold dispatch
  simp only [if_neg unknown]
  split_ifs
  · exact hand_counts _ (AuthPacket.deserialize_throws crypto _ genuine)
      (fun stats => .moved .auth (by intro other; cases other <;> simp [PacketStats.counter]) rfl)
      quiet.auth
  · exact hand_counts _ (JoinPacket.deserialize_throws crypto _ genuine)
      (fun stats => .moved .join (by intro other; cases other <;> simp [PacketStats.counter]) rfl)
      quiet.join
  · exact hand_counts _ (RekeyPacket.deserialize_throws crypto _ genuine)
      (fun stats => .moved .rekey (by intro other; cases other <;> simp [PacketStats.counter]) rfl)
      quiet.rekey
  · exact hand_counts _ (MtkPacket.deserialize_throws _ genuine)
      (fun stats => .moved .mtk (by intro other; cases other <;> simp [PacketStats.counter]) rfl)
      quiet.mtk
  · exact hand_counts _ (HandoverPacket.deserialize_throws crypto _ genuine)
      (fun stats => .moved .handover (by intro other; cases other <;> simp [PacketStats.counter]) rfl)
      quiet.handover
  · exact hand_counts _ (DataPacket.deserialize_throws crypto _ genuine)
      (fun stats => .moved .data (by intro other; cases other <;> simp [PacketStats.counter]) rfl)
      quiet.data
  · exact .moved .format (by intro other; cases other <;> simp [count,PacketStats.counter]) rfl

theorem dispatch_quiet (crypto : Primitives) (wire : ByteBuffer) {manager : PacketManager}
    (quiet : manager.Quiet) : (manager.dispatch crypto wire).manager.Quiet := by
  obtain ⟨stats,frame⟩ := manager.dispatch_frame crypto wire
  rw [frame]
  exact ⟨quiet.auth,quiet.join,quiet.rekey,quiet.mtk,quiet.handover,quiet.data⟩

section Registration

variable (manager : PacketManager)

def onAuth (h : Option (AuthPacket → Result Unit)) : PacketManager :=
  { manager with m_auth_handler := h }

def onJoin (h : Option (JoinPacket → Result Unit)) : PacketManager :=
  { manager with m_join_handler := h }

def onRekey (h : Option (RekeyPacket → Result Unit)) : PacketManager :=
  { manager with m_rekey_handler := h }

def onMtk (h : Option (MtkPacket → Result Unit)) : PacketManager :=
  { manager with m_mtk_handler := h }

def onHandover (h : Option (HandoverPacket → Result Unit)) : PacketManager :=
  { manager with m_handover_handler := h }

def onData (h : Option (DataPacket → Result Unit)) : PacketManager :=
  { manager with m_data_handler := h }

def updateHmacKey (key : HmacKey) : PacketManager := { manager with m_hmac_key := key }

def updateTek (tek : AesGcmKey) : PacketManager := { manager with m_tek := tek }

end Registration

end PacketManager

/-- What a node does with its manager between two looks at the statistics. -/
inductive Use where
  | dispatch (wire : ByteBuffer)
  | onAuth (h : Option (AuthPacket → Result Unit))
  | onJoin (h : Option (JoinPacket → Result Unit))
  | onRekey (h : Option (RekeyPacket → Result Unit))
  | onMtk (h : Option (MtkPacket → Result Unit))
  | onHandover (h : Option (HandoverPacket → Result Unit))
  | onData (h : Option (DataPacket → Result Unit))
  | updateHmacKey (key : HmacKey)
  | updateTek (tek : AesGcmKey)

namespace Use

/-- No handler that is registered throws. -/
def Quiet : Use → Prop
  | onAuth h => Packet.Quiet h
  | onJoin h => Packet.Quiet h
  | onRekey h => Packet.Quiet h
  | onMtk h => Packet.Quiet h
  | onHandover h => Packet.Quiet h
  | onData h => Packet.Quiet h
  | _ => True

def wire : Use → Option ByteBuffer
  | dispatch wire => some wire
  | _ => none

end Use

/-- The buffers of the calls of `Dispatch` among the uses. -/
def calls (uses : List Use) : List ByteBuffer := uses.filterMap Use.wire

namespace PacketManager

def apply (crypto : Primitives) (manager : PacketManager) : Use → PacketManager
  | .dispatch wire => (manager.dispatch crypto wire).manager
  | .onAuth h => manager.onAuth h
  | .onJoin h => manager.onJoin h
  | .onRekey h => manager.onRekey h
  | .onMtk h => manager.onMtk h
  | .onHandover h => manager.onHandover h
  | .onData h => manager.onData h
  | .updateHmacKey key => manager.updateHmacKey key
  | .updateTek tek => manager.updateTek tek

def run (crypto : Primitives) (manager : PacketManager) (uses : List Use) : PacketManager :=
  uses.foldl (apply crypto) manager

theorem apply_quiet (crypto : Primitives) {manager : PacketManager} {use : Use}
    (quiet : manager.Quiet) (quietly : use.Quiet) : (manager.apply crypto use).Quiet := by
  cases use with
  | dispatch wire => exact dispatch_quiet crypto wire quiet
  | onAuth h => exact { quiet with auth := quietly }
  | onJoin h => exact { quiet with join := quietly }
  | onRekey h => exact { quiet with rekey := quietly }
  | onMtk h => exact { quiet with mtk := quietly }
  | onHandover h => exact { quiet with handover := quietly }
  | onData h => exact { quiet with data := quietly }
  | updateHmacKey key => exact { quiet with }
  | updateTek tek => exact { quiet with }

theorem run_quiet (crypto : Primitives) {manager : PacketManager} {uses : List Use}
    (quiet : manager.Quiet) (quietly : ∀ use ∈ uses, use.Quiet) :
    (manager.run crypto uses).Quiet := by
  induction uses generalizing manager with
  | nil => exact quiet
  | cons use rest ih =>
    exact ih (apply_quiet crypto quiet (quietly use (.head rest)))
      fun later member => quietly later (.tail use member)

theorem apply_stats (crypto : Primitives) (manager : PacketManager) {use : Use}
    (other : use.wire = none) : (manager.apply crypto use).m_stats = manager.m_stats := by
  cases use with
  | dispatch wire => cases other
  | _ => rfl

end PacketManager

theorem Outcome.count_all (outcomes : List Outcome) :
    (all.map fun outcome => outcomes.count outcome).sum = outcomes.length := by
  induction outcomes with
  | nil => rfl
  | cons outcome rest ih =>
    rw [List.length_cons,← ih]
    cases outcome <;> simp [all] <;> omega

/-- The statistics after the given calls: every counter is the number of calls that moved it, in
64 bits. -/
structure Tallied (wires : List ByteBuffer) (stats : PacketStats) : Prop where
  counted : ∃ outcomes : List Outcome, outcomes.length = wires.length ∧
    ∀ outcome, stats.counter outcome = UInt64.ofNat (outcomes.count outcome)
  total : stats.rx_total =
    UInt64.ofNat (wires.countP fun wire => decide (peekType wire ≠ .unknown))

namespace Tallied

theorem fresh : Tallied [] {} where
  counted := ⟨[],rfl,fun outcome => by cases outcome <;> rfl⟩
  total := rfl

theorem snoc {wires : List ByteBuffer} {wire : ByteBuffer} {before after : PacketStats}
    (tallied : Tallied wires before)
    (counts : Counts (if peekType wire = .unknown then 0 else 1) before after) :
    Tallied (wires ++ [wire]) after := by
  obtain ⟨outcomes,size,counted⟩ := tallied.counted
  obtain ⟨outcome,moves⟩ := counts.one
  constructor
  · refine ⟨outcomes ++ [outcome],by simp [size],?_⟩
    intro other
    rw [moves other,counted other,List.count_append,UInt64.ofNat_add]
    congr 1
    rw [List.count_singleton]
    by_cases same : other = outcome
    · simp [same]
    · simp [same,Ne.symm same]
  · rw [counts.rx_total,tallied.total,List.countP_append,UInt64.ofNat_add]
    congr 1
    by_cases unknown : peekType wire = .unknown
    · simp [unknown]
    · simp [unknown]

theorem run {crypto : Primitives} {uses : List Use} {manager : PacketManager}
    {earlier : List ByteBuffer} (tallied : Tallied earlier manager.m_stats) (quiet : manager.Quiet)
    (quietly : ∀ use ∈ uses, use.Quiet) :
    Tallied (earlier ++ calls uses) (manager.run crypto uses).m_stats := by
  induction uses generalizing manager earlier with
  | nil => rwa [calls,List.filterMap_nil,List.append_nil]
  | cons use rest ih =>
    have next := PacketManager.apply_quiet crypto quiet (quietly use (.head rest))
    have later : ∀ use ∈ rest, use.Quiet := fun other member => quietly other (.tail use member)
    cases called : use.wire with
    | none =>
      rw [calls,List.filterMap_cons_none called]
      refine ih ?_ next later
      rwa [PacketManager.apply_stats crypto manager called]
    | some wire =>
      obtain rfl : use = .dispatch wire := by
        cases use <;> cases called
        rfl
      rw [calls,List.filterMap_cons_some called,List.append_cons]
      exact ih (tallied.snoc (PacketManager.dispatch_counts crypto wire quiet)) next later

end Tallied

/-- The statistics of a run add up. -/
structure Conserved (crypto : Primitives) (manager : PacketManager) (uses : List Use) : Prop where
  each : ∀ front wire rest, uses = front ++ .dispatch wire :: rest →
    Counts (if peekType wire = .unknown then 0 else 1) (manager.run crypto front).m_stats
      (manager.run crypto (front ++ [.dispatch wire])).m_stats
  sum : (manager.run crypto uses).m_stats.counted = UInt64.ofNat (calls uses).length
  total : (manager.run crypto uses).m_stats.rx_total = UInt64.ofNat ((calls uses).length-
    (calls uses).countP fun wire => decide (peekType wire = .unknown))
  exact_sum : (calls uses).length < 2^64 →
    (Outcome.all.map fun outcome => ((manager.run crypto uses).m_stats.counter outcome).toNat).sum =
      (calls uses).length
  exact_total : (calls uses).length < 2^64 → (manager.run crypto uses).m_stats.rx_total.toNat =
    (calls uses).length-(calls uses).countP fun wire => decide (peekType wire = .unknown)

theorem recognised_calls (wires : List ByteBuffer) :
    (wires.countP fun wire => decide (peekType wire ≠ .unknown)) =
      wires.length-wires.countP fun wire => decide (peekType wire = .unknown) := by
  have both := wires.length_eq_countP_add_countP fun wire => decide (peekType wire = .unknown)
  have same : (wires.countP fun wire => decide (peekType wire ≠ .unknown)) =
      wires.countP fun wire => decide ¬ decide (peekType wire = .unknown) = true := by
    simp only [decide_eq_true_eq,ne_eq]
  omega

/-- As long as no handler throws, every call is counted once, whatever the buffers hold. -/
theorem dispatch_statistics_conserved (crypto : Primitives) {manager : PacketManager}
    {uses : List Use} (fresh : manager.m_stats = {}) (quiet : manager.Quiet)
    (quietly : ∀ use ∈ uses, use.Quiet) : Conserved crypto manager uses := by
  have start : Tallied [] manager.m_stats := fresh ▸ Tallied.fresh
  have tallied : Tallied (calls uses) (manager.run crypto uses).m_stats := start.run quiet quietly
  obtain ⟨outcomes,size,counted⟩ := tallied.counted
  have sum_counts := Outcome.count_all outcomes
  refine ⟨?_,?_,?_,?_,?_⟩
  · intro front wire rest split
    have before : (manager.run crypto front).Quiet :=
      manager.run_quiet crypto quiet fun use member => quietly use (by simp [split,member])
    have counts := PacketManager.dispatch_counts crypto wire before
    rwa [PacketManager.run,PacketManager.run,List.foldl_append]
  · rw [← size,← sum_counts]
    simp only [PacketStats.counted,Outcome.all,List.map_cons,List.map_nil,List.sum_cons,List.sum_nil,
      Nat.add_zero,UInt64.ofNat_add,← counted,PacketStats.counter,UInt64.add_assoc]
  · rw [tallied.total,recognised_calls]
  · intro few
    rw [← size,← sum_counts]
    congr 1
    apply List.map_congr_left
    intro outcome _
    have below := outcomes.count_le_length (a := outcome)
    rw [counted outcome,UInt64.toNat_ofNat',Nat.mod_eq_of_lt (by omega)]
  · intro few
    have below := (calls uses).countP_le_length (p := fun wire => decide (peekType wire ≠ .unknown))
    rw [tallied.total,UInt64.toNat_ofNat',Nat.mod_eq_of_lt (by omega),recognised_calls]

/-- A registration, a request that reaches its handler, and a buffer of no known type. -/
theorem three_uses_conserved : Conserved dispatchCrypto openManager
    [.onData none,.dispatch (Hmac.appendHmac dispatchCrypto zeroKey requestBytes),.dispatch []] := by
  refine dispatch_statistics_conserved dispatchCrypto rfl ⟨?_,nofun,nofun,?_,nofun,nofun⟩ ?_
  · rintro _ ⟨⟩ pkt
    rfl
  · rintro _ ⟨⟩ pkt
    rfl
  · intro use member
    rcases List.mem_cons.mp member with rfl | member
    · exact nofun
    · rcases List.mem_cons.mp member with rfl | member
      · trivial
      · obtain rfl := List.mem_singleton.mp member
        trivial

end Packet
end UavFanet
