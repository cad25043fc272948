import UavFanet.JoinEvent
import UavFanet.PacketManager
import UavFanet.SkdcApp
import UavFanet.Library.Counters
import Mathlib.Data.List.Pairwise

/-! The sequence numbers that the nodes of a scenario put into their packets: which counter
each comes from, and when a receiver's replay cache takes all of them. -/
namespace UavFanet.Apps
open Library UavFanet.ByteUtils UavFanet.Packet UavFanet.Replay

structure Scenario where
  managers : Nat → PacketManager
  uavs : Nat → UavApplication
  skdcs : Nat → SkdcApplication

/-- The calls that build packets. The last three stand for what else happens to the objects:
it leaves their ids and their counters alone. -/
inductive Build where
  | makeAuthRequest (i : Nat) (draws : AuthDraws) (skdc_id cluster_id : UInt16)
  | makeJoinRequest (i : Nat) (draws : BuildDraws) (skdc_id cluster_id : UInt16) (uav_index : UInt32)
  | makeDataPacket (i : Nat) (draws : DataDraws) (skdc_id : UInt16) (data_seq : UInt32)
      (plaintext : ByteBuffer)
  | sendData (i : Nat) (draws : DataDraws) (payload : ByteBuffer)
  | broadcastMtk (c : Nat) (draws : BuildDraws)
  | buildJoinPacket (draws : BuildDraws) (uav_id uav_index cluster_id : UInt32)
  | managerChanges (i : Nat) (manager : PacketManager)
  | uavChanges (i : Nat) (app : UavApplication)
  | skdcChanges (c : Nat) (app : SkdcApplication)

inductive Counter where
  | manager (i : Nat)
  | uav (i : Nat)
  | skdc (c : Nat)
  deriving DecidableEq

namespace Build

/-- The header that a receiver reads from what was sent. -/
def sentHeader (sent : Result ByteBuffer) : Option BaseHeader :=
  match sent with
  | .ok wire => (readHeader wire).toOption
  | .error _ => none

def run (crypto : Primitives) (scenario : Scenario) : Build → Scenario × Option BaseHeader
  | makeAuthRequest i draws skdc_id cluster_id =>
    let (manager,sent) := (scenario.managers i).makeAuthRequest crypto draws skdc_id cluster_id
    ({ scenario with managers := Function.update scenario.managers i manager },sentHeader sent)
  | makeJoinRequest i draws skdc_id cluster_id uav_index =>
    let (manager,sent) :=
      (scenario.managers i).makeJoinRequest crypto draws skdc_id cluster_id uav_index
    ({ scenario with managers := Function.update scenario.managers i manager },sentHeader sent)
  | makeDataPacket i draws skdc_id data_seq plaintext =>
    let (manager,sent) :=
      (scenario.managers i).makeDataPacket crypto draws skdc_id data_seq plaintext
    ({ scenario with managers := Function.update scenario.managers i manager },sentHeader sent)
  | sendData i draws payload =>
    let (app,sent) := (scenario.uavs i).sendData crypto draws payload
    ({ scenario with uavs := Function.update scenario.uavs i app },
      sent.toOption.join.bind fun wire => sentHeader (.ok wire))
  | broadcastMtk c draws =>
    let (app,sent) := (scenario.skdcs c).broadcastMtk draws
    ({ scenario with skdcs := Function.update scenario.skdcs c app },
      sent.toOption.join.bind fun broadcast => sentHeader (.ok broadcast.wire))
  | buildJoinPacket draws uav_id uav_index cluster_id =>
    (scenario,
      (JoinEventManager.buildJoinPacket draws uav_id uav_index cluster_id).toOption.map (·.header))
  | managerChanges i manager =>
    ({ scenario with managers := Function.update scenario.managers i { manager with
        m_node_id := (scenario.managers i).m_node_id, m_seq := (scenario.managers i).m_seq } },none)
  | uavChanges i app =>
    ({ scenario with uavs := Function.update scenario.uavs i { app with
        m_uav_id := (scenario.uavs i).m_uav_id, m_seq := (scenario.uavs i).m_seq } },none)
  | skdcChanges c app =>
    ({ scenario with skdcs := Function.update scenario.skdcs c { app with
        node_id := (scenario.skdcs c).node_id, m_seq := (scenario.skdcs c).m_seq } },none)

/-- The counter that outlives the call and that its packet is numbered from. -/
def counter : Build → Option Counter
  | makeAuthRequest i _ _ _ => some (.manager i)
  | makeJoinRequest i _ _ _ _ => some (.manager i)
  | makeDataPacket i _ _ _ _ => some (.manager i)
  | sendData i _ _ => some (.uav i)
  | broadcastMtk c _ => some (.skdc c)
  | _ => none

/-- The id that the call puts into `src_node_id`. -/
def sender (scenario : Scenario) : Build → Option UInt16
  | makeAuthRequest i _ _ _ => some (scenario.managers i).m_node_id
  | makeJoinRequest i _ _ _ _ => some (scenario.managers i).m_node_id
  | makeDataPacket i _ _ _ _ => some (scenario.managers i).m_node_id
  | sendData i _ _ => some (UInt16.ofNat (scenario.uavs i).m_uav_id.toNat)
  | broadcastMtk c _ => some (UInt16.ofNat (scenario.skdcs c).node_id.toNat)
  | buildJoinPacket _ uav_id _ _ => some (UInt16.ofNat uav_id.toNat)
  | _ => none

end Build

namespace Scenario

def seq (scenario : Scenario) : Counter → SequenceCounter
  | .manager i => (scenario.managers i).m_seq
  | .uav i => (scenario.uavs i).m_seq
  | .skdc c => (scenario.skdcs c).m_seq

/-- The `src_node_id` of what is numbered from a counter. -/
def id (scenario : Scenario) : Counter → UInt16
  | .manager i => (scenario.managers i).m_node_id
  | .uav i => UInt16.ofNat (scenario.uavs i).m_uav_id.toNat
  | .skdc c => UInt16.ofNat (scenario.skdcs c).node_id.toNat

def value (scenario : Scenario) (counter : Counter) : Nat := (scenario.seq counter).m_counter.toNat

end Scenario

/-- What a builder does with the counter it is handed: leave it, or draw one number, which is
then the number of the packet if there is one. -/
structure Draws (sender : UInt16) (before after : SequenceCounter) (sent : Option BaseHeader) :
    Prop where
  moved : after = before ∨ after = before.next.2
  numbered : ∀ header, sent = some header → after = before.next.2 ∧
    header.magic = packetMagic ∧ header.src_node_id = sender ∧ header.sequence_num = before.m_counter

theorem Draws.none {sender : UInt16} {before after : SequenceCounter}
    (moved : after = before ∨ after = before.next.2) : Draws sender before after none :=
  ⟨moved,fun _ impossible => nomatch impossible⟩

section Builders

variable (seq : SequenceCounter)

theorem buildRequest_auth_draws (draws : AuthDraws) (uav_id skdc_id cluster_id : UInt16) :
    Draws uav_id seq (AuthPacket.buildRequest draws uav_id skdc_id cluster_id seq).2
      ((AuthPacket.buildRequest draws uav_id skdc_id cluster_id seq).1.toOption.map (·.header)) := by
  unfold AuthPacket.buildRequest ReplayToken.generate
  cases draws.token_nonce with
  | error failure => exact Draws.none (.inr rfl)
  | ok nonce =>
    refine ⟨.inr rfl,?_⟩
    intro header sent
    cases sent
    exact ⟨rfl,rfl,rfl,rfl⟩

theorem buildRequest_join_draws (draws : BuildDraws) (uav_id skdc_id cluster_id : UInt16)
    (uav_index : UInt32) :
    Draws uav_id seq (JoinPacket.buildRequest draws uav_id skdc_id cluster_id uav_index seq).2
      ((JoinPacket.buildRequest draws uav_id skdc_id cluster_id uav_index seq).1.toOption.map
        (·.header)) := by
  unfold JoinPacket.buildRequest JoinPacket.buildInternal ReplayToken.generate
  cases draws.body_nonce with
  | error failure => exact Draws.none (.inl rfl)
  | ok join_nonce =>
    cases draws.token_nonce with
    | error failure => exact Draws.none (.inr rfl)
    | ok nonce =>
      refine ⟨.inr rfl,?_⟩
      intro header sent
      cases sent
      exact ⟨rfl,rfl,rfl,rfl⟩

theorem build_data_draws (crypto : Primitives) (draws : DataDraws)
    (cluster_id uav_id skdc_id : UInt16) (data_seq : UInt32) (plaintext : ByteBuffer)
    (tek : AesGcmKey) : Draws uav_id seq
      (DataPacket.build crypto draws cluster_id uav_id skdc_id data_seq plaintext tek seq).2
      ((DataPacket.build crypto draws cluster_id uav_id skdc_id data_seq plaintext tek
        seq).1.toOption.map (·.header)) := by
  unfold DataPacket.build ReplayToken.generate
  cases AesGcm.encrypt crypto draws.iv tek plaintext (DataPacket.dataAad cluster_id uav_id) with
  | error failure => exact Draws.none (.inl rfl)
  | ok enc =>
    cases draws.token_nonce with
    | error failure => exact Draws.none (.inr rfl)
    | ok nonce =>
      refine ⟨.inr rfl,?_⟩
      intro header sent
      cases sent
      exact ⟨rfl,rfl,rfl,rfl⟩

theorem build_mtk_draws (draws : BuildDraws) (cluster_id : UInt32) (src_skdc : UInt16)
    (version : UInt32) (mtk n_group : Int) : Draws src_skdc seq
      (MtkPacket.build draws cluster_id src_skdc version mtk n_group seq).2
      ((MtkPacket.build draws cluster_id src_skdc version mtk n_group seq).1.toOption.map
        (·.header)) := by
  unfold MtkPacket.build ReplayToken.generate
  cases draws.body_nonce with
  | error failure => exact Draws.none (.inl rfl)
  | ok body_nonce =>
    cases draws.token_nonce with
    | error failure => exact Draws.none (.inr rfl)
    | ok nonce =>
      refine ⟨.inr rfl,?_⟩
      intro header sent
      simp only [bind,Except.bind,pure,Except.pure] at sent
      split at sent
      · cases sent
      · cases sent
        exact ⟨rfl,rfl,rfl,rfl⟩

end Builders

/-- A receiver reads the header that was built, whatever follows it on the wire. -/
theorem Draws.wire {sender : UInt16} {before after : SequenceCounter} {header : BaseHeader}
    (drawn : Draws sender before after (some header)) (rest : ByteBuffer) :
    Draws sender before after
      (Build.sentHeader (.ok (header.serialize ++ header.serializeNonce ++ rest))) := by
  have genuine := (drawn.numbered header rfl).2.1
  have read : Build.sentHeader (.ok (header.serialize ++ header.serializeNonce ++ rest)) =
      some header := by
    rw [Build.sentHeader,readHeader_serialize genuine]
    rfl
  rwa [read]

theorem Draws.tagged {sender : UInt16} {before after : SequenceCounter} {header : BaseHeader}
    (drawn : Draws sender before after (some header)) (crypto : Primitives) (key : HmacKey)
    (body : ByteBuffer) :
    Draws sender before after (Build.sentHeader
      (.ok (Hmac.appendHmac crypto key (header.serialize ++ header.serializeNonce ++ body)))) := by
  rw [Hmac.appendHmac,List.append_assoc]
  exact drawn.wire _

section Objects

variable (crypto : Primitives)

theorem makeAuthRequest_draws (draws : AuthDraws) (skdc_id cluster_id : UInt16)
    (manager : PacketManager) :
    (manager.makeAuthRequest crypto draws skdc_id cluster_id).1.m_node_id = manager.m_node_id ∧
      Draws manager.m_node_id manager.m_seq
        (manager.makeAuthRequest crypto draws skdc_id cluster_id).1.m_seq
        (Build.sentHeader (manager.makeAuthRequest crypto draws skdc_id cluster_id).2) := by
  have drawn := buildRequest_auth_draws manager.m_seq draws manager.m_node_id skdc_id cluster_id
  unfold PacketManager.makeAuthRequest
  cases outcome : AuthPacket.buildRequest draws manager.m_node_id skdc_id cluster_id manager.m_seq with
  | mk built seq =>
    rw [outcome] at drawn
    cases built with
    | error failure => exact ⟨rfl,drawn⟩
    | ok pkt =>
      have wire := drawn.tagged crypto manager.m_hmac_key pkt.body.serialize
      exact ⟨rfl,wire⟩

theorem makeJoinRequest_draws (draws : BuildDraws) (skdc_id cluster_id : UInt16)
    (uav_index : UInt32) (manager : PacketManager) :
    (manager.makeJoinRequest crypto draws skdc_id cluster_id uav_index).1.m_node_id =
        manager.m_node_id ∧
      Draws manager.m_node_id manager.m_seq
        (manager.makeJoinRequest crypto draws skdc_id cluster_id uav_index).1.m_seq
        (Build.sentHeader (manager.makeJoinRequest crypto draws skdc_id cluster_id uav_index).2) := by
  have drawn :=
    buildRequest_join_draws manager.m_seq draws manager.m_node_id skdc_id cluster_id uav_index
  unfold PacketManager.makeJoinRequest
  cases outcome : JoinPacket.buildRequest draws manager.m_node_id skdc_id cluster_id uav_index
      manager.m_seq with
  | mk built seq =>
    rw [outcome] at drawn
    cases built with
    | error failure => exact ⟨rfl,drawn⟩
    | ok pkt =>
      have wire := drawn.tagged crypto manager.m_hmac_key pkt.body.serialize
      exact ⟨rfl,wire⟩

theorem makeDataPacket_draws (draws : DataDraws) (skdc_id : UInt16) (data_seq : UInt32)
    (plaintext : ByteBuffer) (manager : PacketManager) :
    (manager.makeDataPacket crypto draws skdc_id data_seq plaintext).1.m_node_id =
        manager.m_node_id ∧
      Draws manager.m_node_id manager.m_seq
        (manager.makeDataPacket crypto draws skdc_id data_seq plaintext).1.m_seq
        (Build.sentHeader (manager.makeDataPacket crypto draws skdc_id data_seq plaintext).2) := by
  have drawn := build_data_draws manager.m_seq crypto draws manager.m_cluster_id manager.m_node_id
    skdc_id data_seq plaintext manager.m_tek
  unfold PacketManager.makeDataPacket
  cases outcome : DataPacket.build crypto draws manager.m_cluster_id manager.m_node_id skdc_id
      data_seq plaintext manager.m_tek manager.m_seq with
  | mk built seq =>
    rw [outcome] at drawn
    cases built with
    | error failure => exact ⟨rfl,drawn⟩
    | ok pkt =>
      have wire := drawn.tagged crypto manager.m_hmac_key pkt.body.serialize
      exact ⟨rfl,wire⟩

theorem sendData_draws (draws : DataDraws) (payload : ByteBuffer) (app : UavApplication) :
    (app.sendData crypto draws payload).1.m_uav_id = app.m_uav_id ∧
      Draws (UInt16.ofNat app.m_uav_id.toNat) app.m_seq (app.sendData crypto draws payload).1.m_seq
        ((app.sendData crypto draws payload).2.toOption.join.bind
          fun wire => Build.sentHeader (.ok wire)) := by
  unfold UavApplication.sendData
  split
  · exact ⟨rfl,Draws.none (.inl rfl)⟩
  split
  · exact ⟨rfl,Draws.none (.inl rfl)⟩
  have drawn := build_data_draws app.m_seq crypto draws (UInt16.ofNat app.m_cluster_id.toNat)
    (UInt16.ofNat app.m_uav_id.toNat) (UInt16.ofNat (app.m_cluster_id+100).toNat)
    (app.m_state.data_seq+1) payload app.m_state.current_tek
  simp only
  cases outcome : DataPacket.build crypto draws (UInt16.ofNat app.m_cluster_id.toNat)
      (UInt16.ofNat app.m_uav_id.toNat) (UInt16.ofNat (app.m_cluster_id+100).toNat)
      (app.m_state.data_seq+1) payload app.m_state.current_tek app.m_seq with
  | mk built seq =>
    rw [outcome] at drawn
    cases built with
    | error failure => exact ⟨rfl,drawn⟩
    | ok pkt =>
      have wire := drawn.tagged crypto app.m_state.hmac_key pkt.body.serialize
      simp only [Except.toOption,Option.join_some,Option.bind_some,DataPacket.serialize]
      exact ⟨trivial,wire⟩

theorem broadcastMtk_draws (draws : BuildDraws) (app : SkdcApplication) :
    (app.broadcastMtk draws).1.node_id = app.node_id ∧
      Draws (UInt16.ofNat app.node_id.toNat) app.m_seq (app.broadcastMtk draws).1.m_seq
        ((app.broadcastMtk draws).2.toOption.join.bind
          fun broadcast => Build.sentHeader (.ok broadcast.wire)) := by
  unfold SkdcApplication.broadcastMtk
  split
  · exact ⟨rfl,Draws.none (.inl rfl)⟩
  split
  · exact ⟨rfl,Draws.none (.inl rfl)⟩
  split
  · exact ⟨rfl,Draws.none (.inl rfl)⟩
  have drawn := build_mtk_draws app.m_seq draws app.m_cluster_id (UInt16.ofNat app.node_id.toNat)
    app.m_state.rekey_version app.m_state.mt_k app.m_state.n_group
  cases outcome : MtkPacket.build draws app.m_cluster_id (UInt16.ofNat app.node_id.toNat)
      app.m_state.rekey_version app.m_state.mt_k app.m_state.n_group app.m_seq with
  | mk built seq =>
    rw [outcome] at drawn
    cases built with
    | error failure => exact ⟨rfl,drawn⟩
    | ok pkt =>
      cases written : pkt.body.serialize with
      | error failure =>
        have unsent : pkt.serialize = .error failure := by
          rw [MtkPacket.serialize,written]
          rfl
        simp only [Result.ok_bind,unsent,Result.error_bind]
        exact ⟨trivial,Draws.none drawn.moved⟩
      | ok body =>
        have wire := drawn.wire (body ++ List.replicate 32 0)
        rw [← List.append_assoc] at wire
        simp only [Result.ok_bind,MtkPacket.serialize_body written,pure,Except.pure,
          Except.toOption,Option.join_some,Option.bind_some]
        exact ⟨trivial,wire⟩

end Objects

namespace Build

/-- What a call leaves of the counters and ids, and how the packet it builds is numbered. -/
structure Effect (before : Scenario) (call : Build) (result : Scenario × Option BaseHeader) :
    Prop where
  ids : ∀ c, result.1.id c = before.id c
  others : ∀ c, call.counter ≠ some c → result.1.seq c = before.seq c
  own : ∀ c, call.counter = some c → call.sender before = some (before.id c) ∧
    Draws (before.id c) (before.seq c) (result.1.seq c) result.2
  unshared : call.counter = none → ∀ header, result.2 = some header →
    call.sender before = some header.src_node_id ∧ header.sequence_num = 1

section Updates

variable {before after : Scenario} {call : Build} {sent : Option BaseHeader}

theorem Effect.put {own : Counter} {seq : SequenceCounter} (shared : call.counter = some own)
    (sender : call.sender before = some (before.id own)) (ids : ∀ c, after.id c = before.id c)
    (seqs : ∀ c, after.seq c = if c = own then seq else before.seq c)
    (drawn : Draws (before.id own) (before.seq own) seq sent) : Effect before call (after,sent) where
  ids := ids
  others c elsewhere := by
    have apart : c ≠ own := fun here => elsewhere (by rw [shared,here])
    rw [seqs,if_neg apart]
  own c mine := by
    obtain rfl : own = c := Option.some.inj (shared.symm.trans mine)
    rw [seqs,if_pos rfl]
    exact ⟨sender,drawn⟩
  unshared none_shared := by
    rw [shared] at none_shared
    cases none_shared

theorem Effect.change (unshared : call.counter = none) (ids : ∀ c, after.id c = before.id c)
    (seqs : ∀ c, after.seq c = before.seq c) : Effect before call (after,none) where
  ids := ids
  others c _ := seqs c
  own c mine := by
    rw [unshared] at mine
    cases mine
  unshared _ _ impossible := nomatch impossible

variable (scenario : Scenario) (i : Nat) (c : Counter)

theorem id_updateManager {manager : PacketManager}
    (same : manager.m_node_id = (scenario.managers i).m_node_id) :
    { scenario with managers := Function.update scenario.managers i manager }.id c =
      scenario.id c := by
  cases c with
  | manager other =>
    simp only [Scenario.id,Function.update_apply]
    split
    · rename_i here
      rw [here,same]
    · rfl
  | uav other => rfl
  | skdc other => rfl

theorem seq_updateManager (manager : PacketManager) :
    { scenario with managers := Function.update scenario.managers i manager }.seq c =
      if c = .manager i then manager.m_seq else scenario.seq c := by
  cases c with
  | manager other =>
    simp only [Scenario.seq,Function.update_apply,Counter.manager.injEq]
    split
    · rfl
    · rfl
  | uav other => rfl
  | skdc other => rfl

theorem id_updateUav {app : UavApplication} (same : app.m_uav_id = (scenario.uavs i).m_uav_id) :
    { scenario with uavs := Function.update scenario.uavs i app }.id c = scenario.id c := by
  cases c with
  | uav other =>
    simp only [Scenario.id,Function.update_apply]
    split
    · rename_i here
      rw [here,same]
    · rfl
  | manager other => rfl
  | skdc other => rfl

theorem seq_updateUav (app : UavApplication) :
    { scenario with uavs := Function.update scenario.uavs i app }.seq c =
      if c = .uav i then app.m_seq else scenario.seq c := by
  cases c with
  | uav other =>
    simp only [Scenario.seq,Function.update_apply,Counter.uav.injEq]
    split
    · rfl
    · rfl
  | manager other => rfl
  | skdc other => rfl

theorem id_updateSkdc {app : SkdcApplication} (same : app.node_id = (scenario.skdcs i).node_id) :
    { scenario with skdcs := Function.update scenario.skdcs i app }.id c = scenario.id c := by
  cases c with
  | skdc other =>
    simp only [Scenario.id,Function.update_apply]
    split
    · rename_i here
      rw [here,same]
    · rfl
  | manager other => rfl
  | uav other => rfl

theorem seq_updateSkdc (app : SkdcApplication) :
    { scenario with skdcs := Function.update scenario.skdcs i app }.seq c =
      if c = .skdc i then app.m_seq else scenario.seq c := by
  cases c with
  | skdc other =>
    simp only [Scenario.seq,Function.update_apply,Counter.skdc.injEq]
    split
    · rfl
    · rfl
  | manager other => rfl
  | uav other => rfl

end Updates

theorem run_effect (crypto : Primitives) (scenario : Scenario) (call : Build) :
    Effect scenario call (call.run crypto scenario) := by
  cases call with
  | makeAuthRequest i draws skdc_id cluster_id =>
    obtain ⟨same,drawn⟩ :=
      makeAuthRequest_draws crypto draws skdc_id cluster_id (scenario.managers i)
    exact Effect.put rfl rfl (id_updateManager scenario i · same) (seq_updateManager scenario i · _)
      drawn
  | makeJoinRequest i draws skdc_id cluster_id uav_index =>
    obtain ⟨same,drawn⟩ :=
      makeJoinRequest_draws crypto draws skdc_id cluster_id uav_index (scenario.managers i)
    exact Effect.put rfl rfl (id_updateManager scenario i · same) (seq_updateManager scenario i · _)
      drawn
  | makeDataPacket i draws skdc_id data_seq plaintext =>
    obtain ⟨same,drawn⟩ :=
      makeDataPacket_draws crypto draws skdc_id data_seq plaintext (scenario.managers i)
    exact Effect.put rfl rfl (id_updateManager scenario i · same) (seq_updateManager scenario i · _)
      drawn
  | sendData i draws payload =>
    obtain ⟨same,drawn⟩ := sendData_draws crypto draws payload (scenario.uavs i)
    exact Effect.put rfl rfl (id_updateUav scenario i · same) (seq_updateUav scenario i · _) drawn
  | broadcastMtk c draws =>
    obtain ⟨same,drawn⟩ := broadcastMtk_draws draws (scenario.skdcs c)
    exact Effect.put rfl rfl (id_updateSkdc scenario c · same) (seq_updateSkdc scenario c · _) drawn
  | buildJoinPacket draws uav_id uav_index cluster_id =>
    have drawn := buildRequest_join_draws {} draws (UInt16.ofNat uav_id.toNat)
      (UInt16.ofNat (cluster_id+1).toNat) (UInt16.ofNat cluster_id.toNat) uav_index
    refine ⟨fun _ => rfl,fun _ _ => rfl,fun _ impossible => (nomatch impossible),?_⟩
    intro _ header sent
    obtain ⟨-,-,sender,number⟩ := drawn.numbered header sent
    exact ⟨by rw [sender]; rfl,number⟩
  | managerChanges i manager =>
    refine Effect.change rfl (id_updateManager scenario i · rfl) ?_
    intro c
    rw [seq_updateManager]
    split
    · rename_i here
      rw [here]
      rfl
    · rfl
  | uavChanges i app =>
    refine Effect.change rfl (id_updateUav scenario i · rfl) ?_
    intro c
    rw [seq_updateUav]
    split
    · rename_i here
      rw [here]
      rfl
    · rfl
  | skdcChanges i app =>
    refine Effect.change rfl (id_updateSkdc scenario i · rfl) ?_
    intro c
    rw [seq_updateSkdc]
    split
    · rename_i here
      rw [here]
      rfl
    · rfl

theorem next_value {seq : SequenceCounter} (fits : seq.m_counter.toNat+1 < 2^64) :
    seq.next.2.m_counter.toNat = seq.m_counter.toNat+1 := by
  rw [SequenceCounter.next,UInt64.toNat_add]
  exact Nat.mod_eq_of_lt fits

theorem run_counts (crypto : Primitives) :
    Run.Counts (fun scenario call => call.run crypto scenario) counter Scenario.value
      (fun header => header.sequence_num.toNat) (2^64) where
  kept scenario call c elsewhere := by
    rw [Scenario.value,(run_effect crypto scenario call).others c elsewhere,Scenario.value]
  drawn scenario call c mine fits := by
    obtain ⟨-,drawn⟩ := (run_effect crypto scenario call).own c mine
    rcases drawn.moved with same | moved
    · exact .inl (by rw [Scenario.value,same,Scenario.value])
    · exact .inr (by rw [Scenario.value,moved,next_value fits,Scenario.value])
  numbered scenario call c header mine fits sent := by
    obtain ⟨-,drawn⟩ := (run_effect crypto scenario call).own c mine
    obtain ⟨moved,-,-,number⟩ := drawn.numbered header sent
    exact ⟨by rw [number,Scenario.value],by rw [Scenario.value,moved,next_value fits,Scenario.value]⟩

theorem sender_kept (crypto : Primitives) (scenario : Scenario) (call other : Build) :
    other.sender (call.run crypto scenario).1 = other.sender scenario := by
  have ids := (run_effect crypto scenario call).ids
  cases other with
  | makeAuthRequest i draws skdc_id cluster_id => exact congrArg some (ids (.manager i))
  | makeJoinRequest i draws skdc_id cluster_id uav_index => exact congrArg some (ids (.manager i))
  | makeDataPacket i draws skdc_id data_seq plaintext => exact congrArg some (ids (.manager i))
  | sendData i draws payload => exact congrArg some (ids (.uav i))
  | broadcastMtk c draws => exact congrArg some (ids (.skdc c))
  | buildJoinPacket draws uav_id uav_index cluster_id => rfl
  | managerChanges i manager => rfl
  | uavChanges i app => rfl
  | skdcChanges c app => rfl

theorem run_sender {crypto : Primitives} {scenario : Scenario} {call : Build} {header : BaseHeader}
    (sent : (call.run crypto scenario).2 = some header) :
    call.sender scenario = some header.src_node_id := by
  have effect := run_effect crypto scenario call
  cases shared : call.counter with
  | none => exact (effect.unshared shared header sent).1
  | some c =>
    obtain ⟨sender,drawn⟩ := effect.own c shared
    rw [sender,(drawn.numbered header sent).2.2.1]

end Build

/-- The packets of a run: the call that built each, and its header. -/
def built (crypto : Primitives) (scenario : Scenario) (calls : List Build) :
    List (Build × BaseHeader) :=
  Run.emitted (fun scenario call => Build.run crypto scenario call) scenario calls

theorem built_sender (crypto : Primitives) (calls : List Build) (scenario : Scenario) :
    ∀ made ∈ built crypto scenario calls, made.1.sender scenario = some made.2.src_node_id := by
  induction calls generalizing scenario with
  | nil =>
    intro made member
    cases member
  | cons call rest ih =>
    intro made member
    rcases List.mem_append.mp member with now | later
    · obtain ⟨header,sent,rfl⟩ : ∃ header, (call.run crypto scenario).2 = some header ∧
          (call,header) = made := by simpa using now
      exact Build.run_sender sent
    · rw [← Build.sender_kept crypto scenario call]
      exact ih _ made later

/-- No two packets carry one id and are numbered from different counters. The counter of
`BuildJoinPacket` is a different one each time. -/
def Separate (crypto : Primitives) (scenario : Scenario) (calls : List Build) : Prop :=
  (built crypto scenario calls).Pairwise fun first later =>
    first.2.src_node_id = later.2.src_node_id →
      first.1.counter = later.1.counter ∧ first.1.counter ≠ none

instance (crypto : Primitives) (scenario : Scenario) (calls : List Build) :
    Decidable (Separate crypto scenario calls) :=
  inferInstanceAs (Decidable (List.Pairwise _ _))

/-- Under each id the numbers grow. -/
def Increasing (headers : List BaseHeader) : Prop :=
  headers.Pairwise fun first later => first.src_node_id = later.src_node_id →
    first.sequence_num < later.sequence_num

instance (headers : List BaseHeader) : Decidable (Increasing headers) :=
  inferInstanceAs (Decidable (List.Pairwise _ _))

theorem built_increasing {crypto : Primitives} {scenario : Scenario} {calls : List Build}
    (separate : Separate crypto scenario calls)
    (fits : ∀ c, scenario.value c+Run.draws Build.counter c calls < 2^64) :
    Increasing ((built crypto scenario calls).map Prod.snd) := by
  rw [Increasing,List.pairwise_map]
  have numbers := (Build.run_counts crypto).increasing calls fits
  apply (numbers.and separate).imp
  rintro first later ⟨number,apart⟩ same
  obtain ⟨shared,kept⟩ := apart same
  obtain ⟨c,mine⟩ := Option.ne_none_iff_exists'.mp kept
  exact UInt64.lt_iff_toNat_lt.mpr (number c mine (shared ▸ mine))

/-- No call takes a number and then fails to build its packet. -/
def NoneLost (crypto : Primitives) : Scenario → List Build → Prop :=
  Run.Along (fun scenario call => Build.run crypto scenario call)
    (Run.LosesNone (fun scenario call => Build.run crypto scenario call) Build.counter Scenario.value)

theorem Build.sender_counter {call : Build} {c : Counter} (scenario : Scenario)
    (mine : call.counter = some c) : call.sender scenario = some (scenario.id c) := by
  cases call with
  | makeAuthRequest i draws skdc_id cluster_id => cases mine; rfl
  | makeJoinRequest i draws skdc_id cluster_id uav_index => cases mine; rfl
  | makeDataPacket i draws skdc_id data_seq plaintext => cases mine; rfl
  | sendData i draws payload => cases mine; rfl
  | broadcastMtk c draws => cases mine; rfl
  | buildJoinPacket draws uav_id uav_index cluster_id => cases mine
  | managerChanges i manager => cases mine
  | uavChanges i app => cases mine
  | skdcChanges c app => cases mine

theorem built_unshared (crypto : Primitives) (calls : List Build) (scenario : Scenario) :
    ∀ made ∈ built crypto scenario calls, made.1.counter = none → made.2.sequence_num = 1 := by
  induction calls generalizing scenario with
  | nil =>
    intro made member
    cases member
  | cons call rest ih =>
    intro made member unshared
    rcases List.mem_append.mp member with now | later
    · obtain ⟨header,sent,rfl⟩ : ∃ header, (call.run crypto scenario).2 = some header ∧
          (call,header) = made := by simpa using now
      exact ((Build.run_effect crypto scenario call).unshared unshared header sent).2
    · exact ih _ made later unshared

section Origins

variable {crypto : Primitives} {scenario : Scenario} {calls : List Build}
  (started : ∀ c, scenario.value c = 1)
  (fits : ∀ c, scenario.value c+Run.draws Build.counter c calls < 2^64)
include started fits

theorem built_positive {made : Build × BaseHeader} (member : made ∈ built crypto scenario calls) :
    1 ≤ made.2.sequence_num := by
  rw [UInt64.le_iff_toNat_le]
  cases shared : made.1.counter with
  | none => rw [built_unshared crypto calls scenario made member shared]
  | some c =>
    have least := ((Build.run_counts crypto).number_range calls (fits c) made member shared).1
    rw [started c] at least
    exact least

variable (kept : NoneLost crypto scenario calls)
include kept

/-- The first packet from a counter has number one, as has each from `BuildJoinPacket`. -/
theorem built_origin {made : Build × BaseHeader} (member : made ∈ built crypto scenario calls) :
    ∃ first ∈ built crypto scenario calls, first.2.sequence_num = 1 ∧
      first.2.src_node_id = made.2.src_node_id ∧ first.1.counter = made.1.counter := by
  cases shared : made.1.counter with
  | none => exact ⟨made,member,built_unshared crypto calls scenario made member shared,rfl,shared⟩
  | some c =>
    obtain ⟨first,first_member,first_mine,first_number⟩ :=
      (Build.run_counts crypto).origin calls (fits c) kept member shared
    have sender := built_sender crypto calls scenario made member
    have first_sender := built_sender crypto calls scenario first first_member
    rw [Build.sender_counter scenario shared] at sender
    rw [Build.sender_counter scenario first_mine] at first_sender
    refine ⟨first,first_member,?_,?_,first_mine⟩
    · rw [started c] at first_number
      exact UInt64.toNat_inj.mp first_number
    · exact Option.some.inj (first_sender.symm.trans sender)

/-- Two counters under one id both come to number one. -/
theorem separate_of_increasing
    (increasing : Increasing ((built crypto scenario calls).map Prod.snd)) :
    Separate crypto scenario calls := by
  rw [Increasing,List.pairwise_map] at increasing
  have unrepeated : ∀ first ∈ built crypto scenario calls, ∀ later ∈ built crypto scenario calls,
      first ≠ later → first.2.src_node_id = later.2.src_node_id →
        first.2.sequence_num ≠ later.2.sequence_num := by
    have symmetric : Std.Symm fun first later : Build × BaseHeader =>
        first.2.src_node_id = later.2.src_node_id → first.2.sequence_num ≠ later.2.sequence_num :=
      ⟨fun _ _ apart same => (apart same.symm).symm⟩
    have differ : (built crypto scenario calls).Pairwise fun first later =>
        first.2.src_node_id = later.2.src_node_id → first.2.sequence_num ≠ later.2.sequence_num :=
      increasing.imp fun grows same => UInt64.ne_of_lt (grows same)
    exact fun first first_made later later_made =>
      List.Pairwise.forall differ first_made later_made
  apply increasing.imp_of_mem
  intro first later first_made later_made grows same
  have positive := built_positive started fits first_made
  have shared : later.1.counter ≠ none := by
    intro unshared
    have one := built_unshared crypto calls scenario later later_made unshared
    have grown := grows same
    rw [one] at grown
    exact absurd grown (UInt64.not_lt.mpr positive)
  have together : first.1.counter = later.1.counter := by
    by_contra differ
    obtain ⟨one,one_made,one_number,one_id,one_counter⟩ :=
      built_origin started fits kept first_made
    obtain ⟨other,other_made,other_number,other_id,other_counter⟩ :=
      built_origin started fits kept later_made
    have apart : one ≠ other := by
      intro equal
      rw [← one_counter,← other_counter,equal] at differ
      exact differ rfl
    apply unrepeated one one_made other other_made apart
    · rw [one_id,other_id,same]
    · rw [one_number,other_number]
  exact ⟨together,together ▸ shared⟩

end Origins

end UavFanet.Apps
