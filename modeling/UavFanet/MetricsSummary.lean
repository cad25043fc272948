import UavFanet.MetricsFramework
import Mathlib.Algebra.Order.Ring.Int
import Mathlib.Data.List.Induction

/-! When the integer counters of the security summary are the counts of the records. -/
namespace UavFanet.Metrics

/-- The integer counters of the summary. -/
@[ext] structure Counters where
  key_estabs : UInt32
  rekeys : UInt32
  per_cluster : Vector UInt32 numClusters
  attempts : UInt32
  successes : UInt32
  checks : UInt32
  attacks : UInt32
  detected : UInt32
  events : UInt32
  deriving DecidableEq,Repr

def SecurityMetricsSummary.counters {D : Type} [Zero D] (S : SecurityMetricsSummary D) : Counters where
  key_estabs := S.total_key_estabs
  rekeys := S.total_rekeys
  per_cluster := S.rekeys_per_cluster
  attempts := S.auth_attempts
  successes := S.auth_successes
  checks := S.secrecy_checks
  attacks := S.replay_attacks
  detected := S.replay_detected
  events := S.healing_events

/-- A counter that a loop raises at some of the records has counted them. -/
theorem foldl_counts {L R : Type} {step : L → R → L} {counter : L → UInt32} {p : R → Bool}
    (raised : ∀ loop r, counter (step loop r) = if p r then counter loop+1 else counter loop)
    (records : List R) (loop : L) :
    counter (records.foldl step loop) = counter loop+UInt32.ofNat (records.countP p) := by
  induction records generalizing loop with
  | nil => simp
  | cons r rest ih =>
    rw [List.foldl_cons,ih,raised]
    by_cases hit : p r = true
    · rw [if_pos hit,List.countP_cons_of_pos hit,UInt32.ofNat_add,UInt32.add_assoc,
        UInt32.add_comm 1]
      rfl
    · rw [if_neg hit,List.countP_cons_of_neg hit]

def RekeyRecord.of {D : Type} (c : Nat) (r : RekeyRecord D) : Bool := r.cluster_id.toNat = c

theorem RekeyLoop.per_cluster {D : Type} [Zero D] [Add D] [LT D] [DecidableLT D]
    (records : List (RekeyRecord D)) (loop : RekeyLoop D) (c : Fin numClusters) :
    (records.foldl RekeyLoop.step loop).rekeys_per_cluster[c] =
      loop.rekeys_per_cluster[c]+UInt32.ofNat (records.countP (RekeyRecord.of c)) := by
  refine @foldl_counts _ _ RekeyLoop.step (·.rekeys_per_cluster[c]) _ ?_ records loop
  intro loop r
  by_cases same : r.cluster_id.toNat = c
  · have known : r.cluster_id.toNat < numClusters := by omega
    simp [RekeyLoop.step,RekeyRecord.of,same]
  · simp only [RekeyLoop.step,RekeyRecord.of,same,decide_false]
    split
    · simp [same]
    · rfl

namespace MetricsFramework

theorem replay_attacks {D : Type} (records : List (ReplayRecord D)) :
    (records.countP fun r => r.was_replay && r.detected)+
      (records.countP fun r => r.was_replay && !r.detected) = records.countP (·.was_replay) := by
  induction records with
  | nil => rfl
  | cons r rest ih =>
    simp only [List.countP_cons]
    cases r.was_replay <;> cases r.detected <;> simp <;> omega

theorem cluster_sum {D : Type} (records : List (RekeyRecord D))
    (known : ∀ r ∈ records, r.cluster_id.toNat < numClusters) :
    records.countP (RekeyRecord.of 0)+records.countP (RekeyRecord.of 1)+
      records.countP (RekeyRecord.of 2) = records.length := by
  induction records with
  | nil => rfl
  | cons r rest ih =>
    have rest_known := ih fun later member => known later (.tail r member)
    have here := known r (.head rest)
    simp only [List.countP_cons,List.length_cons,RekeyRecord.of,decide_eq_true_eq]
    unfold numClusters at here
    split_ifs <;> omega

section Counters

variable {D : Type} [Zero D]

/-- The counts over all records, in 32 bits. -/
def counts (mf : MetricsFramework D) : Counters where
  key_estabs := UInt32.ofNat mf.m_key_estab.length
  rekeys := UInt32.ofNat mf.m_rekeys.length
  per_cluster := Vector.ofFn fun c => UInt32.ofNat (mf.m_rekeys.countP (RekeyRecord.of c))
  attempts := UInt32.ofNat mf.m_auth.length
  successes := UInt32.ofNat (mf.m_auth.countP (·.success))
  checks := UInt32.ofNat mf.m_secrecy.length
  attacks := UInt32.ofNat (mf.m_replay.countP (·.was_replay))
  detected := UInt32.ofNat (mf.m_replay.countP fun r => r.was_replay && r.detected)
  events := UInt32.ofNat mf.m_healing.length

/-- The counters of a block that `Finalize` skips are still zero. -/
structure Idle (mf : MetricsFramework D) : Prop where
  key_estabs : mf.m_key_estab = [] → mf.m_summary.security.total_key_estabs = 0
  rekeys : mf.m_rekeys = [] → mf.m_summary.security.total_rekeys = 0
  auth : mf.m_auth = [] →
    mf.m_summary.security.auth_attempts = 0 ∧ mf.m_summary.security.auth_successes = 0
  checks : mf.m_secrecy = [] → mf.m_summary.security.secrecy_checks = 0
  replay : mf.m_replay = [] →
    mf.m_summary.security.replay_attacks = 0 ∧ mf.m_summary.security.replay_detected = 0
  events : mf.m_healing = [] → mf.m_summary.security.healing_events = 0

def records (mf : MetricsFramework D) : Nat :=
  mf.m_key_estab.length+mf.m_rekeys.length+mf.m_auth.length+mf.m_secrecy.length+
    mf.m_replay.length+mf.m_healing.length

/-- No rekey was in one of the clusters that the summary counts. -/
def Unclustered (mf : MetricsFramework D) : Prop :=
  ∀ r ∈ mf.m_rekeys, numClusters ≤ r.cluster_id.toNat

theorem unclustered_iff {mf : MetricsFramework D} (few : mf.records < 2^32) :
    mf.Unclustered ↔
      ∀ c : Fin numClusters, UInt32.ofNat (mf.m_rekeys.countP (RekeyRecord.of c)) = 0 := by
  have small (c : Fin numClusters) : mf.m_rekeys.countP (RekeyRecord.of c) < 2^32 := by
    have below := mf.m_rekeys.countP_le_length (p := RekeyRecord.of c)
    unfold records at few
    omega
  constructor
  · intro unclustered c
    rw [List.countP_eq_zero.mpr]
    · rfl
    · intro r member
      have outside := unclustered r member
      have inside := c.isLt
      simp only [RekeyRecord.of,decide_eq_true_eq]
      omega
  · intro zero r member
    by_contra inside
    have none := congrArg UInt32.toNat (zero ⟨r.cluster_id.toNat,by omega⟩)
    rw [UInt32.toNat_ofNat',Nat.mod_eq_of_lt (small _)] at none
    exact absurd (by simp [RekeyRecord.of]) (List.countP_eq_zero.mp none r member)

/-- The integer counters of the summary are the counts of the records. -/
structure Counted (mf : MetricsFramework D) : Prop where
  key_estabs : mf.m_summary.security.total_key_estabs.toNat = mf.m_key_estab.length
  rekeys : mf.m_summary.security.total_rekeys.toNat = mf.m_rekeys.length
  per_cluster : ∀ c : Fin numClusters, mf.m_summary.security.rekeys_per_cluster[c].toNat =
    mf.m_rekeys.countP fun r => decide (r.cluster_id.toNat = c.val)
  cluster_sum : (∀ r ∈ mf.m_rekeys, r.cluster_id.toNat < numClusters) →
    (mf.m_summary.security.rekeys_per_cluster.toList.map UInt32.toNat).sum =
      mf.m_summary.security.total_rekeys.toNat
  attempts : mf.m_summary.security.auth_attempts.toNat = mf.m_auth.length
  successes : mf.m_summary.security.auth_successes.toNat = mf.m_auth.countP (·.success)
  checks : mf.m_summary.security.secrecy_checks.toNat = mf.m_secrecy.length
  attacks : mf.m_summary.security.replay_attacks.toNat = mf.m_replay.countP (·.was_replay)
  detected : mf.m_summary.security.replay_detected.toNat =
    mf.m_replay.countP fun r => r.was_replay && r.detected
  events : mf.m_summary.security.healing_events.toNat = mf.m_healing.length

theorem counts_per_cluster (mf : MetricsFramework D) (c : Fin numClusters) :
    mf.counts.per_cluster[c] = UInt32.ofNat (mf.m_rekeys.countP (RekeyRecord.of c)) := by
  simp [counts]

theorem rekeys_below (mf : MetricsFramework D) (p : RekeyRecord D → Bool) :
    mf.m_rekeys.countP p ≤ mf.records := by
  have below := mf.m_rekeys.countP_le_length (p := p)
  unfold records
  omega

theorem replay_below (mf : MetricsFramework D) (p : ReplayRecord D → Bool) :
    mf.m_replay.countP p ≤ mf.records := by
  have below := mf.m_replay.countP_le_length (p := p)
  unfold records
  omega

theorem Counted.counters {mf : MetricsFramework D} (counted : mf.Counted) :
    mf.m_summary.security.counters = mf.counts := by
  have narrow {counter : UInt32} {n : Nat} (same : counter.toNat = n) :
      counter = UInt32.ofNat n := by
    rw [← same,UInt32.ofNat_toNat]
  ext1
  · exact narrow counted.key_estabs
  · exact narrow counted.rekeys
  · apply Vector.ext
    intro c inside
    refine Eq.trans ?_ (mf.counts_per_cluster ⟨c,inside⟩).symm
    exact narrow (counted.per_cluster ⟨c,inside⟩)
  · exact narrow counted.attempts
  · exact narrow counted.successes
  · exact narrow counted.checks
  · exact narrow counted.attacks
  · exact narrow counted.detected
  · exact narrow counted.events

/-- If every rekey is of a counted cluster, the counters of the clusters add up to all. -/
theorem clusters_add_up {mf : MetricsFramework D}
    (clusters : ∀ c : Fin numClusters, mf.m_summary.security.rekeys_per_cluster[c].toNat =
      mf.m_rekeys.countP (RekeyRecord.of c))
    (known : ∀ r ∈ mf.m_rekeys, r.cluster_id.toNat < numClusters) :
    (mf.m_summary.security.rekeys_per_cluster.toList.map UInt32.toNat).sum =
      mf.m_rekeys.length := by
  have listed : mf.m_summary.security.rekeys_per_cluster.toList.map UInt32.toNat =
      List.ofFn fun c : Fin numClusters => mf.m_rekeys.countP (RekeyRecord.of c) := by
    apply List.ext_getElem
    · simp
    · intro c inside _
      simp only [List.length_map,Vector.length_toList] at inside
      simpa using clusters ⟨c,inside⟩
  rw [listed,← cluster_sum mf.m_rekeys known]
  simp [numClusters,List.ofFn_succ]
  omega

/-- Of so few records no count is cut off. -/
theorem counted_iff {mf : MetricsFramework D} (few : mf.records < 2^32) :
    mf.Counted ↔ mf.m_summary.security.counters = mf.counts := by
  refine ⟨Counted.counters,?_⟩
  intro same
  have read (counter : Counters → UInt32) {n : Nat} (below : n ≤ mf.records)
      (counted : counter mf.counts = UInt32.ofNat n) :
      (counter mf.m_summary.security.counters).toNat = n := by
    rw [same,counted,UInt32.toNat_ofNat',Nat.mod_eq_of_lt (by omega)]
  have clusters (c : Fin numClusters) : mf.m_summary.security.rekeys_per_cluster[c].toNat =
      mf.m_rekeys.countP (RekeyRecord.of c) :=
    read (fun counters => counters.per_cluster[c]) (mf.rekeys_below _) (mf.counts_per_cluster c)
  have total : mf.m_summary.security.total_rekeys.toNat = mf.m_rekeys.length :=
    read Counters.rekeys (by unfold records; omega) rfl
  have auth_below := mf.m_auth.countP_le_length (p := (·.success))
  constructor
  · exact read Counters.key_estabs (by unfold records; omega) rfl
  · exact total
  · exact clusters
  · exact fun known => (clusters_add_up clusters known).trans total.symm
  · exact read Counters.attempts (by unfold records; omega) rfl
  · exact read Counters.successes (by unfold records; omega) rfl
  · exact read Counters.checks (by unfold records; omega) rfl
  · exact read Counters.attacks (mf.replay_below _) rfl
  · exact read Counters.detected (mf.replay_below _) rfl
  · exact read Counters.events (by unfold records; omega) rfl

end Counters

section Blocks

variable {D : Type} [Zero D] [Div D] [NatCast D] (mf : MetricsFramework D)
  (S : SecurityMetricsSummary D)

theorem finalizeAuth_counters
    (idle : mf.m_auth = [] → S.auth_attempts = 0 ∧ S.auth_successes = 0) :
    (mf.finalizeAuth S).counters = { S.counters with
      attempts := mf.counts.attempts
      successes := mf.counts.successes } := by
  have counted := @foldl_counts _ _ _ id (fun r : AuthRecord D => r.success) (fun ok r => rfl)
    mf.m_auth 0
  unfold finalizeAuth
  cases records : mf.m_auth with
  | nil =>
    obtain ⟨attempts,successes⟩ := idle records
    simp [SecurityMetricsSummary.counters,counts,attempts,successes,records]
  | cons r rest =>
    rw [records] at counted
    simp [SecurityMetricsSummary.counters,counts,records] at counted ⊢
    exact counted

theorem finalizeSecrecy_counters (idle : mf.m_secrecy = [] → S.secrecy_checks = 0) :
    (mf.finalizeSecrecy S).counters = { S.counters with checks := mf.counts.checks } := by
  unfold finalizeSecrecy
  cases records : mf.m_secrecy with
  | nil => simp [SecurityMetricsSummary.counters,counts,idle records,records]
  | cons r rest => simp [SecurityMetricsSummary.counters,counts,records]

theorem finalizeReplay_counters
    (idle : mf.m_replay = [] → S.replay_attacks = 0 ∧ S.replay_detected = 0) :
    (mf.finalizeReplay S).counters = { S.counters with
      attacks := mf.counts.attacks
      detected := mf.counts.detected } := by
  have tp := @foldl_counts _ _ ReplayLoop.step ReplayLoop.tp
    (fun r : ReplayRecord D => r.was_replay && r.detected) (fun loop r => rfl) mf.m_replay {}
  have fn := @foldl_counts _ _ ReplayLoop.step ReplayLoop.fn
    (fun r : ReplayRecord D => r.was_replay && !r.detected) (fun loop r => rfl) mf.m_replay {}
  have attacks := congrArg UInt32.ofNat (replay_attacks mf.m_replay)
  rw [UInt32.ofNat_add] at attacks
  unfold finalizeReplay
  cases records : mf.m_replay with
  | nil =>
    obtain ⟨attacks,detected⟩ := idle records
    simp [SecurityMetricsSummary.counters,counts,attacks,detected,records]
  | cons r rest =>
    rw [records] at tp fn attacks
    simp only [List.isEmpty_cons,Bool.false_eq_true,if_false,SecurityMetricsSummary.counters,counts,
      records,tp,fn,UInt32.zero_add,attacks]

variable [Add D]

theorem finalizeHealing_counters (idle : mf.m_healing = [] → S.healing_events = 0) :
    (mf.finalizeHealing S).counters = { S.counters with events := mf.counts.events } := by
  unfold finalizeHealing
  cases records : mf.m_healing with
  | nil => simp [SecurityMetricsSummary.counters,counts,idle records,records]
  | cons r rest => simp [SecurityMetricsSummary.counters,counts,records]

variable [LT D] [DecidableLT D]

theorem finalizeKeyEstab_counters (idle : mf.m_key_estab = [] → S.total_key_estabs = 0) :
    (mf.finalizeKeyEstab S).counters = { S.counters with key_estabs := mf.counts.key_estabs } := by
  unfold finalizeKeyEstab
  cases records : mf.m_key_estab with
  | nil => simp [SecurityMetricsSummary.counters,counts,idle records,records]
  | cons r rest => simp [SecurityMetricsSummary.counters,counts,records]

/-- The counters of the clusters are not set, but counted on. -/
theorem finalizeRekeys_counters (idle : mf.m_rekeys = [] → S.total_rekeys = 0) :
    (mf.finalizeRekeys S).counters = { S.counters with
      rekeys := mf.counts.rekeys
      per_cluster := (mf.m_rekeys.foldl RekeyLoop.step
        { rekeys_per_cluster := S.counters.per_cluster }).rekeys_per_cluster } := by
  unfold finalizeRekeys
  cases records : mf.m_rekeys with
  | nil => simp [SecurityMetricsSummary.counters,counts,idle records,records]
  | cons r rest => simp [SecurityMetricsSummary.counters,counts,records]

/-- `Finalize` sets the counters to the counts, but for those of the clusters. -/
theorem finalizeSecurity_counters (idle : mf.Idle) : mf.finalizeSecurity.counters = { mf.counts with
    per_cluster := (mf.m_rekeys.foldl RekeyLoop.step
      { rekeys_per_cluster := mf.m_summary.security.rekeys_per_cluster }).rekeys_per_cluster } := by
  have key := mf.finalizeKeyEstab_counters mf.m_summary.security idle.key_estabs
  have rekeys := mf.finalizeRekeys_counters (mf.finalizeKeyEstab mf.m_summary.security) fun none =>
    (congrArg Counters.rekeys key).trans (idle.rekeys none)
  rw [key] at rekeys
  have auth := mf.finalizeAuth_counters _ fun none =>
    ⟨(congrArg Counters.attempts rekeys).trans (idle.auth none).1,
      (congrArg Counters.successes rekeys).trans (idle.auth none).2⟩
  rw [rekeys] at auth
  have secrecy := mf.finalizeSecrecy_counters _ fun none =>
    (congrArg Counters.checks auth).trans (idle.checks none)
  rw [auth] at secrecy
  have replay := mf.finalizeReplay_counters _ fun none =>
    ⟨(congrArg Counters.attacks secrecy).trans (idle.replay none).1,
      (congrArg Counters.detected secrecy).trans (idle.replay none).2⟩
  rw [secrecy] at replay
  have healing := mf.finalizeHealing_counters _ fun none =>
    (congrArg Counters.events replay).trans (idle.events none)
  rw [replay] at healing
  exact healing

/-- The counters after `Finalize` are the counts if and only if those of the clusters were zero
before. -/
theorem counters_finalize (idle : mf.Idle) : mf.finalizeSecurity.counters = mf.counts ↔
    ∀ c : Fin numClusters, mf.m_summary.security.rekeys_per_cluster[c] = 0 := by
  have counted (c : Fin numClusters) := RekeyLoop.per_cluster mf.m_rekeys
    { rekeys_per_cluster := mf.m_summary.security.rekeys_per_cluster } c
  rw [mf.finalizeSecurity_counters idle]
  constructor
  · intro same c
    have one := congrArg (fun counters : Counters => counters.per_cluster[c]) same
    simp only [counted,counts_per_cluster] at one
    exact UInt32.add_eq_right.mp one
  · intro zero
    ext1
    · rfl
    · rfl
    · apply Vector.ext
      intro c inside
      refine (counted ⟨c,inside⟩).trans ?_
      simp only [zero,UInt32.zero_add]
      exact (mf.counts_per_cluster ⟨c,inside⟩).symm
    all_goals rfl

/-- `Finalize` counts the rekeys of a cluster on from what its counter is. -/
theorem per_cluster_finalize (mf : MetricsFramework D) (sim_dur_s : D) (run_idx : UInt32)
    (c : Fin numClusters) (idle : mf.Idle) :
    (mf.finalize sim_dur_s run_idx).m_summary.security.rekeys_per_cluster[c] =
      mf.m_summary.security.rekeys_per_cluster[c]+
        UInt32.ofNat (mf.m_rekeys.countP (RekeyRecord.of c)) := by
  have same := congrArg (fun counters : Counters => counters.per_cluster[c])
    (mf.finalizeSecurity_counters idle)
  exact same.trans (RekeyLoop.per_cluster mf.m_rekeys _ c)

theorem counted_finalize {mf : MetricsFramework D} (idle : mf.Idle) (few : mf.records < 2^32)
    (sim_dur_s : D) (run_idx : UInt32) : (mf.finalize sim_dur_s run_idx).Counted ↔
      ∀ c : Fin numClusters, mf.m_summary.security.rekeys_per_cluster[c] = 0 :=
  (@counted_iff D _ (mf.finalize sim_dur_s run_idx) few).trans (mf.counters_finalize idle)

end Blocks

end MetricsFramework

/-- The calls that record something for the security summary, and `Finalize`. -/
inductive Call (D : Type) where
  | recordKeyEstablishment (now : D) (uav_id cluster_id : UInt32) (latency_ms : D) (success : Bool)
  | recordRekey (now : D) (cluster_id : UInt32) (trigger : String) (latency_ms : D)
    (tek_version members : UInt32) (msg_cost_bytes : D)
  | recordAuthAttempt (now : D) (uav_id cluster_id : UInt32) (success : Bool)
    (failure_reason : String)
  | recordSecrecyCheck (now : D) (cluster_id tek_version : UInt32) (forward_ok backward_ok : Bool)
    (event_type : String)
  | recordReplayDetection (now : D) (uav_id seq_num : UInt32) (detected was_actual_replay : Bool)
  | recordHealingAttempt (now : D) (uav_id cluster_id : UInt32) (trigger_time_s : D)
    (recovered : Bool) (event_type : String)
  | finalize (sim_dur_s : D) (run_idx : UInt32)

def Call.finalizes {D : Type} : Call D → Bool
  | finalize _ _ => true
  | _ => false

namespace MetricsFramework

variable {D : Type} [Zero D] [Add D] [Sub D] [Mul D] [Div D] [NatCast D] [LT D] [DecidableLT D]

def perform (mf : MetricsFramework D) : Call D → MetricsFramework D
  | .recordKeyEstablishment now uav_id cluster_id latency_ms success =>
    mf.recordKeyEstablishment now uav_id cluster_id latency_ms success
  | .recordRekey now cluster_id trigger latency_ms tek_version members msg_cost_bytes =>
    mf.recordRekey now cluster_id trigger latency_ms tek_version members msg_cost_bytes
  | .recordAuthAttempt now uav_id cluster_id success failure_reason =>
    mf.recordAuthAttempt now uav_id cluster_id success failure_reason
  | .recordSecrecyCheck now cluster_id tek_version forward_ok backward_ok event_type =>
    mf.recordSecrecyCheck now cluster_id tek_version forward_ok backward_ok event_type
  | .recordReplayDetection now uav_id seq_num detected was_actual_replay =>
    mf.recordReplayDetection now uav_id seq_num detected was_actual_replay
  | .recordHealingAttempt now uav_id cluster_id trigger_time_s recovered event_type =>
    mf.recordHealingAttempt now uav_id cluster_id trigger_time_s recovered event_type
  | .finalize sim_dur_s run_idx => mf.finalize sim_dur_s run_idx

/-- The calls on a framework that was just constructed. -/
def run (seed : UInt32) (calls : List (Call D)) : MetricsFramework D :=
  calls.foldl perform { m_seed := seed }

theorem run_snoc (seed : UInt32) (front : List (Call D)) (call : Call D) :
    run seed (front ++ [call]) = (run seed front).perform call := by
  rw [run,List.foldl_concat]
  rfl

theorem records_perform (mf : MetricsFramework D) (call : Call D) :
    (mf.perform call).records = mf.records+(if call.finalizes then 0 else 1) := by
  cases call <;> simp [perform,recordKeyEstablishment,recordRekey,recordAuthAttempt,
    recordSecrecyCheck,recordReplayDetection,recordHealingAttempt,finalize,records,Call.finalizes] <;>
    omega

theorem records_run (seed : UInt32) (calls : List (Call D)) :
    (run seed calls).records = calls.countP fun call => !call.finalizes := by
  induction calls using List.reverseRecOn with
  | nil => rfl
  | append_singleton front call ih =>
    rw [run_snoc,records_perform,ih,List.countP_append]
    cases final : call.finalizes <;> simp [final]

theorem perform_idle {mf : MetricsFramework D} (idle : mf.Idle) (call : Call D) :
    (mf.perform call).Idle := by
  cases call with
  | finalize sim_dur_s run_idx =>
    have same := mf.finalizeSecurity_counters idle
    constructor
    · intro (none : mf.m_key_estab = [])
      exact (congrArg Counters.key_estabs same).trans (by simp [counts,none])
    · intro (none : mf.m_rekeys = [])
      exact (congrArg Counters.rekeys same).trans (by simp [counts,none])
    · intro (none : mf.m_auth = [])
      exact ⟨(congrArg Counters.attempts same).trans (by simp [counts,none]),
        (congrArg Counters.successes same).trans (by simp [counts,none])⟩
    · intro (none : mf.m_secrecy = [])
      exact (congrArg Counters.checks same).trans (by simp [counts,none])
    · intro (none : mf.m_replay = [])
      exact ⟨(congrArg Counters.attacks same).trans (by simp [counts,none]),
        (congrArg Counters.detected same).trans (by simp [counts,none])⟩
    · intro (none : mf.m_healing = [])
      exact (congrArg Counters.events same).trans (by simp [counts,none])
  | recordKeyEstablishment now uav_id cluster_id latency_ms success =>
    exact { idle with key_estabs := by simp [perform,recordKeyEstablishment] }
  | recordRekey now cluster_id trigger latency_ms tek_version members msg_cost_bytes =>
    exact { idle with rekeys := by simp [perform,recordRekey] }
  | recordAuthAttempt now uav_id cluster_id success failure_reason =>
    exact { idle with auth := by simp [perform,recordAuthAttempt] }
  | recordSecrecyCheck now cluster_id tek_version forward_ok backward_ok event_type =>
    exact { idle with checks := by simp [perform,recordSecrecyCheck] }
  | recordReplayDetection now uav_id seq_num detected was_actual_replay =>
    exact { idle with replay := by simp [perform,recordReplayDetection] }
  | recordHealingAttempt now uav_id cluster_id trigger_time_s recovered event_type =>
    exact { idle with events := by simp [perform,recordHealingAttempt] }

theorem run_idle (seed : UInt32) (calls : List (Call D)) : (run seed calls).Idle := by
  induction calls using List.reverseRecOn with
  | nil => exact ⟨fun _ => rfl,fun _ => rfl,fun _ => ⟨rfl,rfl⟩,fun _ => rfl,fun _ => ⟨rfl,rfl⟩,
      fun _ => rfl⟩
  | append_singleton front call ih =>
    rw [run_snoc]
    exact perform_idle ih call

theorem per_cluster_perform (mf : MetricsFramework D) {call : Call D}
    (recording : call.finalizes = false) : (mf.perform call).m_summary = mf.m_summary := by
  cases call with
  | finalize sim_dur_s run_idx => cases recording
  | _ => rfl

/-- A `Finalize` that another one follows has no rekey of a cluster to count. -/
def FinalizedOnce (seed : UInt32) (calls : List (Call D)) : Prop :=
  ∀ front sim_dur_s run_idx rest, calls = front ++ .finalize sim_dur_s run_idx :: rest →
    (∃ call ∈ rest, call.finalizes = true) → (run seed front).Unclustered

/-- At every `Finalize` the counters of the clusters are zero. -/
def StartsAtZero (seed : UInt32) (calls : List (Call D)) : Prop :=
  ∀ front sim_dur_s run_idx rest, calls = front ++ .finalize sim_dur_s run_idx :: rest →
    ∀ c : Fin numClusters, (run seed front).m_summary.security.rekeys_per_cluster[c] = 0

theorem run_zero {seed : UInt32} {front : List (Call D)} (few : (run seed front).records < 2^32)
    (unclustered : ∀ earlier sim_dur_s run_idx rest,
      front = earlier ++ .finalize sim_dur_s run_idx :: rest → (run seed earlier).Unclustered)
    (c : Fin numClusters) : (run seed front).m_summary.security.rekeys_per_cluster[c] = 0 := by
  induction front using List.reverseRecOn with
  | nil => simp [run]
  | append_singleton front call ih =>
    rw [run_snoc] at few ⊢
    rw [records_perform] at few
    have before := ih (by omega) fun earlier sim_dur_s run_idx rest split =>
      unclustered earlier sim_dur_s run_idx (rest ++ [call]) (by rw [split]; simp)
    by_cases final : call.finalizes = true
    · cases call with
      | finalize sim_dur_s run_idx =>
        have none := (unclustered_iff (by omega)).mp (unclustered front sim_dur_s run_idx [] rfl) c
        rw [perform,per_cluster_finalize _ _ _ c (run_idle seed front),before,none]
        rfl
      | _ => cases final
    · rw [per_cluster_perform _ (by simpa using final)]
      exact before

/-- Up to the next `Finalize` the summary stays as it is. -/
theorem summary_until {seed : UInt32} {rest : List (Call D)}
    (later : ∃ call ∈ rest, call.finalizes = true) (front : List (Call D)) :
    ∃ between sim_dur_s run_idx last, rest = between ++ .finalize sim_dur_s run_idx :: last ∧
      (run seed (front ++ between)).m_summary = (run seed front).m_summary := by
  induction rest generalizing front with
  | nil => simp at later
  | cons call rest ih =>
    by_cases final : call.finalizes = true
    · cases call with
      | finalize sim_dur_s run_idx => exact ⟨[],sim_dur_s,run_idx,rest,rfl,by rw [List.append_nil]⟩
      | _ => cases final
    · have others : ∃ call ∈ rest, call.finalizes = true := by
        obtain ⟨other,member,finalizes⟩ := later
        rcases List.mem_cons.mp member with rfl | member
        · exact absurd finalizes final
        · exact ⟨other,member,finalizes⟩
      obtain ⟨between,sim_dur_s,run_idx,last,split,same⟩ := ih others (front ++ [call])
      refine ⟨call::between,sim_dur_s,run_idx,last,by rw [split]; rfl,?_⟩
      rw [List.append_cons,same,run_snoc,per_cluster_perform _ (by simpa using final)]

theorem startsAtZero_iff {seed : UInt32} {calls : List (Call D)}
    (few : (run seed calls).records < 2^32) :
    StartsAtZero seed calls ↔ FinalizedOnce seed calls := by
  have fewer (front rest : List (Call D)) (split : calls = front ++ rest) :
      (run seed front).records < 2^32 := by
    rw [records_run] at few ⊢
    rw [split,List.countP_append] at few
    omega
  constructor
  · intro starts front sim_dur_s run_idx rest split later
    obtain ⟨between,next_dur,next_idx,last,rfl,same⟩ :=
      @summary_until D _ _ _ _ _ _ _ _ seed rest later (front ++ [.finalize sim_dur_s run_idx])
    refine (unclustered_iff (fewer front _ split)).mpr fun c => ?_
    have before := starts front sim_dur_s run_idx _ split c
    have after := starts (front ++ [.finalize sim_dur_s run_idx] ++ between) next_dur next_idx last
      (by rw [split]; simp) c
    rw [same,run_snoc,perform,per_cluster_finalize _ _ _ c (run_idle seed front),before,
      UInt32.zero_add] at after
    exact after
  · intro once front sim_dur_s run_idx rest split
    refine run_zero (fewer front _ split) fun earlier first_dur first_idx between earlier_split => ?_
    refine once earlier first_dur first_idx (between ++ .finalize sim_dur_s run_idx :: rest) ?_ ?_
    · rw [split,earlier_split]
      simp
    · exact ⟨.finalize sim_dur_s run_idx,by simp,rfl⟩

/-- After each `Finalize` the counters are the counts over all records so far; and so a `Finalize`
right after another one changes none of them. -/
structure Summarised (seed : UInt32) (calls : List (Call D)) : Prop where
  counted : ∀ front sim_dur_s run_idx rest, calls = front ++ .finalize sim_dur_s run_idx :: rest →
    (run seed (front ++ [.finalize sim_dur_s run_idx])).Counted
  again : ∀ front first_dur first_idx sim_dur_s run_idx rest,
    calls = front ++ .finalize first_dur first_idx :: .finalize sim_dur_s run_idx :: rest →
    let first := run seed (front ++ [.finalize first_dur first_idx])
    let second := run seed (front ++ [.finalize first_dur first_idx,.finalize sim_dur_s run_idx])
    second.m_summary.security.counters = first.m_summary.security.counters

/-- The summary is one of the records as long as no `Finalize` follows one that had a rekey of a
cluster to count. -/
theorem summarised_iff {seed : UInt32} {calls : List (Call D)}
    (few : (calls.countP fun call => !call.finalizes) < 2^32) :
    Summarised seed calls ↔ FinalizedOnce seed calls := by
  rw [← records_run seed] at few
  rw [← startsAtZero_iff few]
  have fewer (front rest : List (Call D)) (split : calls = front ++ rest) :
      (run seed front).records < 2^32 := by
    rw [records_run] at few ⊢
    rw [split,List.countP_append] at few
    omega
  constructor
  · intro summarised front sim_dur_s run_idx rest split
    have counted := summarised.counted front sim_dur_s run_idx rest split
    rw [run_snoc] at counted
    exact (counted_finalize (run_idle seed front) (fewer front _ split) sim_dur_s run_idx).mp counted
  · intro starts
    have counters (front rest : List (Call D)) (sim_dur_s : D) (run_idx : UInt32)
        (split : calls = front ++ .finalize sim_dur_s run_idx :: rest) :
        ((run seed front).finalize sim_dur_s run_idx).m_summary.security.counters =
          (run seed front).counts :=
      ((run seed front).counters_finalize (run_idle seed front)).mpr
        (starts front sim_dur_s run_idx rest split)
    constructor
    · intro front sim_dur_s run_idx rest split
      rw [run_snoc]
      exact (counted_finalize (run_idle seed front) (fewer front _ split) sim_dur_s run_idx).mpr
        (starts front sim_dur_s run_idx rest split)
    · intro front first_dur first_idx sim_dur_s run_idx rest split
      simp only
      have first := counters front _ first_dur first_idx split
      have second := counters (front ++ [.finalize first_dur first_idx]) rest sim_dur_s run_idx
        (by rw [split]; simp)
      rw [List.append_cons,run_snoc]
      refine second.trans ?_
      rw [run_snoc]
      exact first.symm

/-- A rekey of the first cluster, and the summary of it. -/
def summarisedRekey : List (Call Int) :=
  [.recordRekey 1 0 "JOIN" 5 2 6 300,.finalize 10 0]

theorem summarised_rekey : Summarised 42 summarisedRekey := by
  refine (summarised_iff (by decide)).mpr ?_
  rintro (_ | ⟨first,_ | ⟨second,front⟩⟩) sim_dur_s run_idx rest split later
  · cases split
  · cases split
    simp at later
  · simp [summarisedRekey] at split

/-- With a second `Finalize` the one rekey is counted twice. -/
theorem rekey_counted_twice : ¬ Summarised 42 (summarisedRekey ++ [.finalize 10 0]) := by
  intro summarised
  have counted := summarised.counted summarisedRekey 10 0 [] rfl
  exact absurd (counted.per_cluster ⟨0,by decide⟩) (by decide)

end MetricsFramework
end UavFanet.Metrics
