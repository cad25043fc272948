import UavFanet.Types

/-! `MetricsFramework`: the security records, and the summary that `Finalize` makes of them. -/
namespace UavFanet.Metrics

def numClusters : Nat := 3

structure KeyEstabRecord (D : Type) where
  time_s : D
  uav_id : UInt32
  cluster_id : UInt32
  latency_ms : D
  success : Bool

structure RekeyRecord (D : Type) where
  time_s : D
  cluster_id : UInt32
  trigger : String
  latency_ms : D
  tek_version : UInt32
  members : UInt32
  msg_cost : D

structure AuthRecord (D : Type) where
  time_s : D
  uav_id : UInt32
  cluster_id : UInt32
  success : Bool
  failure_reason : String

structure ReplayRecord (D : Type) where
  time_s : D
  uav_id : UInt32
  seq_num : UInt32
  detected : Bool
  was_replay : Bool

structure SecrecyRecord (D : Type) where
  time_s : D
  cluster_id : UInt32
  tek_version : UInt32
  forward_ok : Bool
  backward_ok : Bool
  event_type : String

structure HealingRecord (D : Type) where
  trigger_time_s : D
  recovery_time_s : D
  uav_id : UInt32
  cluster_id : UInt32
  recovered : Bool
  event_type : String
  recovery_latency_ms : D

structure SecurityMetricsSummary (D : Type) [Zero D] where
  avg_key_estab_ms : D := 0
  max_key_estab_ms : D := 0
  total_key_estabs : UInt32 := 0
  avg_rekey_latency_ms : D := 0
  max_rekey_latency_ms : D := 0
  total_rekeys : UInt32 := 0
  rekeys_per_cluster : Vector UInt32 numClusters := Vector.replicate numClusters 0
  avg_rekey_msg_cost_bytes : D := 0
  auth_success_rate : D := 0
  auth_attempts : UInt32 := 0
  auth_successes : UInt32 := 0
  forward_secrecy_rate : D := 0
  backward_secrecy_rate : D := 0
  secrecy_checks : UInt32 := 0
  replay_detection_rate : D := 0
  replay_false_pos_rate : D := 0
  replay_attacks : UInt32 := 0
  replay_detected : UInt32 := 0
  avg_recovery_ms : D := 0
  healing_success_rate : D := 0
  healing_events : UInt32 := 0

structure FullMetricsSummary (D : Type) [Zero D] where
  security : SecurityMetricsSummary D := {}
  simulation_duration_s : D := 0
  seed : UInt32 := 0
  run_index : UInt32 := 0

structure MetricsFramework (D : Type) [Zero D] where
  m_seed : UInt32 := 42
  m_key_estab : List (KeyEstabRecord D) := []
  m_rekeys : List (RekeyRecord D) := []
  m_auth : List (AuthRecord D) := []
  m_secrecy : List (SecrecyRecord D) := []
  m_replay : List (ReplayRecord D) := []
  m_healing : List (HealingRecord D) := []
  m_summary : FullMetricsSummary D := {}

section Loops

variable {D : Type} [Zero D] [Add D] [LT D] [DecidableLT D]

structure KeyEstabLoop (D : Type) [Zero D] where
  sum : D := 0
  mx : D := 0

def KeyEstabLoop.step (loop : KeyEstabLoop D) (r : KeyEstabRecord D) : KeyEstabLoop D where
  sum := loop.sum+r.latency_ms
  mx := if r.latency_ms > loop.mx then r.latency_ms else loop.mx

/-- The counters of the clusters are those of the summary, counted on from what they are. -/
structure RekeyLoop (D : Type) [Zero D] where
  sum : D := 0
  mx : D := 0
  cost_sum : D := 0
  rekeys_per_cluster : Vector UInt32 numClusters

def RekeyLoop.step (loop : RekeyLoop D) (r : RekeyRecord D) : RekeyLoop D where
  sum := loop.sum+r.latency_ms
  mx := if r.latency_ms > loop.mx then r.latency_ms else loop.mx
  cost_sum := loop.cost_sum+r.msg_cost
  rekeys_per_cluster :=
    if known : r.cluster_id.toNat < numClusters then
      loop.rekeys_per_cluster.set r.cluster_id.toNat
        (loop.rekeys_per_cluster[r.cluster_id.toNat]+1)
    else loop.rekeys_per_cluster

structure SecrecyLoop where
  fwd : UInt32 := 0
  bwd : UInt32 := 0

def SecrecyLoop.step (loop : SecrecyLoop) (r : SecrecyRecord D) : SecrecyLoop where
  fwd := if r.forward_ok then loop.fwd+1 else loop.fwd
  bwd := if r.backward_ok then loop.bwd+1 else loop.bwd

structure ReplayLoop where
  tp : UInt32 := 0
  fp : UInt32 := 0
  fn : UInt32 := 0
  tn : UInt32 := 0

def ReplayLoop.step (loop : ReplayLoop) (r : ReplayRecord D) : ReplayLoop where
  tp := if r.was_replay && r.detected then loop.tp+1 else loop.tp
  fp := if !r.was_replay && r.detected then loop.fp+1 else loop.fp
  fn := if r.was_replay && !r.detected then loop.fn+1 else loop.fn
  tn := if !r.was_replay && !r.detected then loop.tn+1 else loop.tn

structure HealingLoop (D : Type) [Zero D] where
  sum : D := 0
  ok : UInt32 := 0

def HealingLoop.step (loop : HealingLoop D) (r : HealingRecord D) : HealingLoop D where
  sum := loop.sum+r.recovery_latency_ms
  ok := if r.recovered then loop.ok+1 else loop.ok

end Loops

namespace MetricsFramework

section Hooks

variable {D : Type} [Zero D]

def recordKeyEstablishment (now : D) (uav_id cluster_id : UInt32) (latency_ms : D) (success : Bool)
    (mf : MetricsFramework D) : MetricsFramework D :=
  let r := { time_s := now, uav_id, cluster_id, latency_ms, success }
  { mf with m_key_estab := mf.m_key_estab ++ [r] }

def recordRekey (now : D) (cluster_id : UInt32) (trigger : String) (latency_ms : D)
    (tek_version members : UInt32) (msg_cost_bytes : D) (mf : MetricsFramework D) :
    MetricsFramework D :=
  let r := {
    time_s := now, cluster_id, trigger, latency_ms, tek_version, members,
    msg_cost := msg_cost_bytes }
  { mf with m_rekeys := mf.m_rekeys ++ [r] }

def recordAuthAttempt (now : D) (uav_id cluster_id : UInt32) (success : Bool)
    (failure_reason : String) (mf : MetricsFramework D) : MetricsFramework D :=
  let r := { time_s := now, uav_id, cluster_id, success, failure_reason }
  { mf with m_auth := mf.m_auth ++ [r] }

def recordSecrecyCheck (now : D) (cluster_id tek_version : UInt32) (forward_ok backward_ok : Bool)
    (event_type : String) (mf : MetricsFramework D) : MetricsFramework D :=
  let r := { time_s := now, cluster_id, tek_version, forward_ok, backward_ok, event_type }
  { mf with m_secrecy := mf.m_secrecy ++ [r] }

def recordReplayDetection (now : D) (uav_id seq_num : UInt32) (detected was_actual_replay : Bool)
    (mf : MetricsFramework D) : MetricsFramework D :=
  let r := { time_s := now, uav_id, seq_num, detected, was_replay := was_actual_replay }
  { mf with m_replay := mf.m_replay ++ [r] }

def recordHealingAttempt [Sub D] [Mul D] [NatCast D] (now : D) (uav_id cluster_id : UInt32)
    (trigger_time_s : D) (recovered : Bool) (event_type : String) (mf : MetricsFramework D) :
    MetricsFramework D :=
  let r := {
    trigger_time_s, recovery_time_s := now, uav_id, cluster_id, recovered, event_type
    recovery_latency_ms := (now-trigger_time_s)*(1000 : Nat) }
  { mf with m_healing := mf.m_healing ++ [r] }

end Hooks

section Finalize

variable {D : Type} [Zero D] [Add D] [Div D] [NatCast D] [LT D] [DecidableLT D]

def ratio (part whole : UInt32) : D := (part.toNat : D)/(whole.toNat : D)

def finalizeKeyEstab (mf : MetricsFramework D) (S : SecurityMetricsSummary D) :
    SecurityMetricsSummary D :=
  if mf.m_key_estab.isEmpty then S
  else
    let loop := mf.m_key_estab.foldl KeyEstabLoop.step {}
    { S with
      avg_key_estab_ms := loop.sum/(mf.m_key_estab.length : D)
      max_key_estab_ms := loop.mx
      total_key_estabs := UInt32.ofNat mf.m_key_estab.length }

def finalizeRekeys (mf : MetricsFramework D) (S : SecurityMetricsSummary D) :
    SecurityMetricsSummary D :=
  if mf.m_rekeys.isEmpty then S
  else
    let loop := mf.m_rekeys.foldl RekeyLoop.step { rekeys_per_cluster := S.rekeys_per_cluster }
    { S with
      rekeys_per_cluster := loop.rekeys_per_cluster
      avg_rekey_latency_ms := loop.sum/(mf.m_rekeys.length : D)
      max_rekey_latency_ms := loop.mx
      total_rekeys := UInt32.ofNat mf.m_rekeys.length
      avg_rekey_msg_cost_bytes := loop.cost_sum/(mf.m_rekeys.length : D) }

def finalizeAuth (mf : MetricsFramework D) (S : SecurityMetricsSummary D) :
    SecurityMetricsSummary D :=
  if mf.m_auth.isEmpty then S
  else
    let ok : UInt32 := mf.m_auth.foldl (fun ok r => if r.success then ok+1 else ok) 0
    { S with
      auth_attempts := UInt32.ofNat mf.m_auth.length
      auth_successes := ok
      auth_success_rate := (ok.toNat : D)/(mf.m_auth.length : D) }

def finalizeSecrecy (mf : MetricsFramework D) (S : SecurityMetricsSummary D) :
    SecurityMetricsSummary D :=
  if mf.m_secrecy.isEmpty then S
  else
    let loop := mf.m_secrecy.foldl SecrecyLoop.step {}
    { S with
      secrecy_checks := UInt32.ofNat mf.m_secrecy.length
      forward_secrecy_rate := (loop.fwd.toNat : D)/(mf.m_secrecy.length : D)
      backward_secrecy_rate := (loop.bwd.toNat : D)/(mf.m_secrecy.length : D) }

def finalizeReplay (mf : MetricsFramework D) (S : SecurityMetricsSummary D) :
    SecurityMetricsSummary D :=
  if mf.m_replay.isEmpty then S
  else
    let loop := mf.m_replay.foldl ReplayLoop.step {}
    { S with
      replay_attacks := loop.tp+loop.fn
      replay_detected := loop.tp
      replay_detection_rate := if loop.tp+loop.fn ≠ 0 then ratio loop.tp (loop.tp+loop.fn) else 0
      replay_false_pos_rate := if loop.fp+loop.tn ≠ 0 then ratio loop.fp (loop.fp+loop.tn) else 0 }

def finalizeHealing (mf : MetricsFramework D) (S : SecurityMetricsSummary D) :
    SecurityMetricsSummary D :=
  if mf.m_healing.isEmpty then S
  else
    let loop := mf.m_healing.foldl HealingLoop.step {}
    { S with
      avg_recovery_ms := loop.sum/(mf.m_healing.length : D)
      healing_success_rate := (loop.ok.toNat : D)/(mf.m_healing.length : D)
      healing_events := UInt32.ofNat mf.m_healing.length }

/-- The security part of the summary, block by block. -/
def finalizeSecurity (mf : MetricsFramework D) : SecurityMetricsSummary D :=
  let S := mf.finalizeKeyEstab mf.m_summary.security
  let S := mf.finalizeRekeys S
  let S := mf.finalizeAuth S
  let S := mf.finalizeSecrecy S
  let S := mf.finalizeReplay S
  mf.finalizeHealing S

def finalize (sim_dur_s : D) (run_idx : UInt32) (mf : MetricsFramework D) : MetricsFramework D :=
  { mf with m_summary := {
      simulation_duration_s := sim_dur_s
      seed := mf.m_seed
      run_index := run_idx
      security := mf.finalizeSecurity } }

end Finalize

end MetricsFramework
end UavFanet.Metrics
