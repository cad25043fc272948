import UavFanet.ControlPackets

/-! `JoinEventManager`: the packet with which a UAV asks to join, its authentication and the
records of the joins. -/
namespace UavFanet.Apps
open UavFanet.Packet UavFanet.Replay

structure JoinRecord where
  uav_id : UInt32 := 0
  uav_index : UInt32 := 0
  cluster_id : UInt32 := 0
  authenticated : Bool := false
  joined : Bool := false
  tek_received : Bool := false
  deriving DecidableEq,Repr

/-- No call reads the replay cache that the manager also has. -/
structure JoinEventManager where
  m_history : List JoinRecord := []
  m_total_joins : UInt64 := 0
  m_failed_joins : UInt64 := 0

namespace JoinEventManager

/-- The sequence counter is a local variable of the call. -/
def buildJoinPacket (draws : BuildDraws) (uav_id uav_index cluster_id : UInt32) : Result JoinPacket :=
  (JoinPacket.buildRequest draws (UInt16.ofNat uav_id.toNat) (UInt16.ofNat (cluster_id+1).toNat)
    (UInt16.ofNat cluster_id.toNat) uav_index {}).1

/-- The HMAC that is checked is the one that was just appended. -/
def authenticateJoin (crypto : Primitives) (pkt : JoinPacket) (hmac_key : HmacKey) : Bool :=
  let wire := Hmac.appendHmac crypto hmac_key pkt.serialize
  match Hmac.stripAndVerifyHmac crypto hmac_key wire with
  | .ok _ => true
  | .error _ => false

theorem authenticateJoin_true (crypto : Primitives) (pkt : JoinPacket) (hmac_key : HmacKey) :
    authenticateJoin crypto pkt hmac_key = true := by
  have long : ¬ (Hmac.appendHmac crypto hmac_key pkt.serialize).length < 32 := by
    rw [Hmac.length_appendHmac]
    omega
  simp only [authenticateJoin,Hmac.stripAndVerifyHmac,if_neg long,Hmac.take_appendHmac,
    Hmac.verify_appendHmac,if_true]

end JoinEventManager
end UavFanet.Apps
