import UavFanet.JoinEvent

/-! Sequences of `AuthenticateJoin` calls: which of them admit authentic and fresh packets only. -/
namespace UavFanet.Apps
open UavFanet.Packet UavFanet.Replay

/-- A packet of `BuildJoinPacket`, what becomes of it on the way, and the key it is checked with.
The key it was built under is an argument of `BuildJoinPacket` that leaves no trace in it. -/
structure JoinPresentation where
  own_key : HmacKey
  draws : BuildDraws
  uav_id : UInt32
  uav_index : UInt32
  cluster_id : UInt32
  built : JoinPacket
  produced : JoinEventManager.buildJoinPacket draws uav_id uav_index cluster_id = .ok built
  presented : JoinPacket
  hmac_key : HmacKey

namespace JoinPresentation

/-- Unaltered, and checked with the key it was built under. -/
structure Authentic (call : JoinPresentation) : Prop where
  unaltered : call.presented = call.built
  own : call.hmac_key = call.own_key

def accepted (crypto : Primitives) (call : JoinPresentation) : Bool :=
  JoinEventManager.authenticateJoin crypto call.presented call.hmac_key

end JoinPresentation

/-- Forged packets are rejected, an authentic one is accepted when it comes first, and none is
accepted twice. -/
structure AuthenticAndFresh (crypto : Primitives) (calls : List JoinPresentation) : Prop where
  forged : ∀ call ∈ calls, ¬ call.Authentic → call.accepted crypto = false
  genuine : ∀ front call rest, calls = front ++ call :: rest → call.Authentic →
    call.presented ∉ front.map (·.presented) → call.accepted crypto = true
  once : ((calls.filter (·.accepted crypto)).map (·.presented)).Nodup

/-- The check admits authentic and fresh packets only when it meets no others. -/
theorem admission_iff (crypto : Primitives) (calls : List JoinPresentation) :
    AuthenticAndFresh crypto calls ↔
      (∀ call ∈ calls, call.Authentic) ∧ (calls.map (·.presented)).Nodup := by
  have always : ∀ call : JoinPresentation, call.accepted crypto = true := by
    intro call
    exact JoinEventManager.authenticateJoin_true crypto call.presented call.hmac_key
  have kept : calls.filter (·.accepted crypto) = calls :=
    List.filter_eq_self.mpr (fun call _ => always call)
  constructor
  · intro admits
    refine ⟨?_,kept ▸ admits.once⟩
    intro call member
    by_contra forged
    have rejected := admits.forged call member forged
    rw [always call] at rejected
    cases rejected
  · intro ⟨authentic,fresh⟩
    refine ⟨?_,?_,?_⟩
    · intro call member forged
      exact absurd (authentic call member) forged
    · intro front call rest _ _ _
      exact always call
    · rw [kept]
      exact fresh

def sampleJoinPacketDraws : BuildDraws where
  body_us := 1700000000000000
  body_nonce := .ok (Vector.replicate 16 1)
  token_us := 1700000000000000
  token_nonce := .ok (Vector.replicate 16 2)

/-- What `BuildJoinPacket` makes of these draws for UAV 4 in cluster zero. -/
def sampleJoinPacket : JoinPacket where
  header := { BaseHeader.applyReplayToken (
      { packet_type := .joinPacket
        cluster_id := 0
        src_node_id := 4
        dst_node_id := 1
        src_type := .uav
        dst_type := .skdc
        flags := .replayProtected ||| .hmacPresent
        priority := .high } : BaseHeader)
      { timestamp_us := 1700000000000000, nonce := Vector.replicate 16 2, sequence_num := 1 } with
    payload_len := 56 }
  body := {
    join_type := .request
    uav_id := 4
    skdc_id := 1
    uav_index := 4
    identity := JoinPacket.identityOf 4 0
    join_nonce := Vector.replicate 16 1
    timestamp_us := 1700000000000000 }

theorem sampleJoinPacket_built :
    JoinEventManager.buildJoinPacket sampleJoinPacketDraws 4 4 0 = .ok sampleJoinPacket := by
  decide +kernel

/-- The packet was built under another key, and asks to join as UAV 5. -/
def alteredJoin : JoinPresentation where
  own_key := Vector.replicate 32 1
  draws := sampleJoinPacketDraws
  uav_id := 4
  uav_index := 4
  cluster_id := 0
  built := sampleJoinPacket
  produced := sampleJoinPacket_built
  presented := { sampleJoinPacket with body := { sampleJoinPacket.body with uav_id := 5 } }
  hmac_key := Vector.replicate 32 0

def honestJoin : JoinPresentation where
  own_key := Vector.replicate 32 1
  draws := sampleJoinPacketDraws
  uav_id := 4
  uav_index := 4
  cluster_id := 0
  built := sampleJoinPacket
  produced := sampleJoinPacket_built
  presented := sampleJoinPacket
  hmac_key := Vector.replicate 32 1

/-- Whatever the HMAC, the altered packet is admitted, and so is the authentic one when it comes
again. -/
theorem forged_and_replayed_admitted :
    (∀ crypto, alteredJoin.accepted crypto = true) ∧
    (∀ crypto, ¬ AuthenticAndFresh crypto [alteredJoin]) ∧
    (∀ crypto, ¬ AuthenticAndFresh crypto [honestJoin,honestJoin]) := by
  have admitted : ∀ (call : JoinPresentation) crypto, call.accepted crypto = true := by
    intro call crypto
    exact JoinEventManager.authenticateJoin_true crypto call.presented call.hmac_key
  refine ⟨admitted alteredJoin,?_,?_⟩
  · intro crypto admits
    have forged : ¬ alteredJoin.Authentic := by
      intro authentic
      exact absurd authentic.own (by decide)
    have rejected := admits.forged alteredJoin (List.mem_singleton_self _) forged
    rw [admitted alteredJoin crypto] at rejected
    cases rejected
  · intro crypto admits
    have once := admits.once
    simp [admitted honestJoin crypto] at once

end UavFanet.Apps
