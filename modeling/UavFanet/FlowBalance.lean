import Mathlib.Algebra.Order.Ring.Int
import Mathlib.Data.List.Nodup
import UavFanet.FlowMonitor

/-! Every packet that the monitor counts as sent is received, lost or still tracked. -/
namespace UavFanet.FlowMonitoring
open Library

def TrackedPacket.key (tracked : TrackedPacket) : UInt32 × UInt32 := (tracked.flowId,tracked.packetId)

namespace FlowMonitor

/-- How many packets of a flow are on their way. -/
def tracking (f : UInt32) (monitor : FlowMonitor) : Nat :=
  monitor.m_trackedPackets.countP (·.flowId = f)

/-- The packet whose drop an event reports. -/
def dropped : FlowEvent → Option Tag
  | .drop packet reason => if reason = .duplicate then none else packet.tag
  | .queueDrop packet => packet.tag
  | .queueDiscDrop packet => packet.tag
  | _ => none

/-- The drop of a packet of the flow that is not tracked (any more). -/
def strays (f : UInt32) (monitor : FlowMonitor) (event : FlowEvent) : Nat :=
  match dropped event with
  | none => 0
  | some tag =>
    if monitor.m_enabled = true ∧ tag.flowId = f ∧ monitor.find tag.flowId tag.packetId = none then 1
    else 0

/-- The numbers that the counters of 32 bits stand for. -/
structure Tally (stats : FlowStats) (sent received lost : Nat) : Prop where
  tx : stats.txPackets = .ofNat sent
  rx : stats.rxPackets = .ofNat received
  lost : stats.lostPackets = .ofNat lost

/-- After `n` events. -/
structure Balanced (n : Nat) (stray : UInt32 → Nat) (monitor : FlowMonitor) : Prop where
  unique : (monitor.m_trackedPackets.map TrackedPacket.key).Nodup
  known : ∀ tracked ∈ monitor.m_trackedPackets, monitor.m_flowStats[tracked.flowId]?.isSome
  numbered : ∀ tracked ∈ monitor.m_trackedPackets,
    tracked.flowId ≤ monitor.classifier.m_lastNewFlowId ∧
      tracked.packetId ≤ monitor.classifier.m_flowPktIdMap tracked.flowId
  mapped : ∀ flow ∈ monitor.classifier.m_flowMap, flow.2 ≤ monitor.classifier.m_lastNewFlowId
  few : monitor.classifier.m_lastNewFlowId.toNat ≤ n ∧
    ∀ f, (monitor.classifier.m_flowPktIdMap f).toNat ≤ n
  balance : ∀ f, ∃ sent received lost, Tally (monitor.getStatsForFlow f) sent received lost ∧
    sent+stray f = received+lost+monitor.tracking f ∧ stray f ≤ lost ∧ sent+stray f ≤ n

end FlowMonitor

namespace TrackedPacket

theorem named_iff {flowId packetId : UInt32} {tracked : TrackedPacket} :
    tracked.named flowId packetId = true ↔ tracked.key = (flowId,packetId) := by
  simp [named,key]

theorem forwarded_key (now : Int) (flowId packetId : UInt32) (tracked : TrackedPacket) :
    (tracked.forwarded now flowId packetId).key = tracked.key := by
  unfold forwarded
  split
  · rfl
  · rfl

theorem filter_named {list : List TrackedPacket} (unique : (list.map key).Nodup)
    (flowId packetId : UInt32) :
    list.filter (named flowId packetId) = (list.find? (named flowId packetId)).toList := by
  induction list with
  | nil => rfl
  | cons first rest ih =>
    rw [List.map_cons,List.nodup_cons] at unique
    rw [List.filter_cons,List.find?_cons]
    cases named : first.named flowId packetId with
    | false => exact ih unique.2
    | true =>
      have others : ∀ tracked ∈ rest, ¬ tracked.named flowId packetId = true := by
        intro tracked inside again
        refine unique.1 (List.mem_map.mpr ⟨tracked,inside,?_⟩)
        rw [named_iff.mp named,named_iff.mp again]
      rw [if_pos rfl,List.filter_eq_nil_iff.mpr others]
      rfl

end TrackedPacket

namespace FlowMonitor

variable {monitor : FlowMonitor} {flowId packetId f : UInt32}

theorem find_key {tracked : TrackedPacket} (found : monitor.find flowId packetId = some tracked) :
    tracked ∈ monitor.m_trackedPackets ∧ tracked.key = (flowId,packetId) :=
  ⟨List.mem_of_find?_eq_some found,TrackedPacket.named_iff.mp (List.find?_some found)⟩

theorem tracking_erase (flowId packetId f : UInt32)
    (unique : (monitor.m_trackedPackets.map TrackedPacket.key).Nodup) :
    monitor.tracking f = (monitor.erase flowId packetId).tracking f +
      (if flowId = f ∧ (monitor.find flowId packetId).isSome then 1 else 0) := by
  rw [tracking,List.countP_eq_countP_filter_add _ _ (TrackedPacket.named flowId packetId),
    TrackedPacket.filter_named unique,Nat.add_comm]
  refine congrArg₂ (· + ·) rfl ?_
  change List.countP _ (monitor.find flowId packetId).toList = _
  cases found : monitor.find flowId packetId with
  | none => simp
  | some tracked =>
    have same : tracked.flowId = flowId := congrArg Prod.fst (find_key found).2
    simp [List.countP_singleton,same]

theorem erase_stats : (monitor.erase flowId packetId).getStatsForFlow f = monitor.getStatsForFlow f :=
  rfl

theorem tracking_count {change : FlowStats → FlowStats} :
    ((monitor.count flowId change).erase flowId packetId).tracking f =
      (monitor.erase flowId packetId).tracking f := rfl

theorem mem_erase {tracked : TrackedPacket}
    (inside : tracked ∈ (monitor.erase flowId packetId).m_trackedPackets) :
    tracked ∈ monitor.m_trackedPackets :=
  (List.mem_filter.mp inside).1

theorem erase_absent (absent : monitor.find flowId packetId = none) :
    monitor.erase flowId packetId = monitor := by
  unfold erase
  rw [List.filter_eq_self.mpr]
  intro tracked inside
  rw [Bool.not_eq_true',Bool.eq_false_iff]
  exact List.find?_eq_none.mp absent tracked inside

theorem getStats_count {change : FlowStats → FlowStats} :
    (monitor.count flowId change).getStatsForFlow f =
      if flowId = f then change (monitor.getStatsForFlow f) else monitor.getStatsForFlow f := by
  rw [count,getStatsForFlow,Std.ExtTreeMap.getElem?_insert]
  by_cases same : flowId = f
  · simp [same]
  · simp [same,getStatsForFlow]

theorem known_count {change : FlowStats → FlowStats} (known : monitor.m_flowStats[f]?.isSome) :
    (monitor.count flowId change).m_flowStats[f]?.isSome := by
  rw [count,Std.ExtTreeMap.getElem?_insert]
  split
  · rfl
  · exact known

variable {n : Nat} {stray : UInt32 → Nat}

theorem Balanced.wait (balanced : Balanced n stray monitor) : Balanced (n+1) stray monitor := {
  balanced with
  few := ⟨Nat.le_succ_of_le balanced.few.1,fun f => Nat.le_succ_of_le (balanced.few.2 f)⟩
  balance := fun f =>
    have ⟨sent,received,lost,tally,even,low,high⟩ := balanced.balance f
    ⟨sent,received,lost,tally,even,low,Nat.le_succ_of_le high⟩ }

/-- What is left to show where the monitor only takes packets out. -/
theorem Balanced.taken {after : FlowMonitor} (balanced : Balanced n stray monitor)
    (classifier : after.classifier = monitor.classifier)
    (keys : (after.m_trackedPackets.map TrackedPacket.key).Sublist
      (monitor.m_trackedPackets.map TrackedPacket.key))
    (known : ∀ f : UInt32, monitor.m_flowStats[f]?.isSome → after.m_flowStats[f]?.isSome)
    {later : UInt32 → Nat} (balance : ∀ f, ∃ sent received lost,
      Tally (after.getStatsForFlow f) sent received lost ∧
        sent+later f = received+lost+after.tracking f ∧ later f ≤ lost ∧ sent+later f ≤ n+1) :
    Balanced (n+1) later after := by
  have before : ∀ tracked ∈ after.m_trackedPackets, ∃ old ∈ monitor.m_trackedPackets,
      old.flowId = tracked.flowId ∧ old.packetId = tracked.packetId := by
    intro tracked inside
    obtain ⟨old,there,same⟩ := List.mem_map.mp (keys.subset (List.mem_map_of_mem inside))
    exact ⟨old,there,congrArg Prod.fst same,congrArg Prod.snd same⟩
  refine ⟨balanced.unique.sublist keys,fun tracked inside => ?_,fun tracked inside => ?_,?_,?_,balance⟩
  · obtain ⟨old,there,flow,-⟩ := before tracked inside
    exact flow ▸ known _ (balanced.known old there)
  · obtain ⟨old,there,flow,packet⟩ := before tracked inside
    rw [classifier,← flow,← packet]
    exact balanced.numbered old there
  · rw [classifier]
    exact balanced.mapped
  · rw [classifier]
    exact balanced.wait.few

theorem reportForwarding_balanced (now : Int) (balanced : Balanced n stray monitor) :
    Balanced (n+1) stray (monitor.reportForwarding now flowId packetId) := by
  unfold reportForwarding
  split
  · exact balanced.wait
  · refine balanced.taken ?_ ?_ (fun f known => ?_) fun f => ?_
    · rfl
    · have same : TrackedPacket.key ∘ TrackedPacket.forwarded now flowId packetId = TrackedPacket.key :=
        funext fun tracked => tracked.forwarded_key now flowId packetId
      rw [List.map_map,same]
    · exact known
    · obtain ⟨sent,received,lost,tally,even,low,high⟩ := balanced.balance f
      refine ⟨sent,received,lost,tally,?_,low,Nat.le_succ_of_le high⟩
      rw [even,tracking,tracking,List.countP_map]
      refine congrArg (_ + ·) (List.countP_congr fun tracked _ => ?_)
      have flow := congrArg Prod.fst (tracked.forwarded_key now flowId packetId)
      simp only [TrackedPacket.key] at flow
      simp only [Function.comp,flow]

theorem reportLastRx_balanced (now : Int) (size : UInt32) (balanced : Balanced n stray monitor) :
    Balanced (n+1) stray (monitor.reportLastRx now flowId packetId size) := by
  unfold reportLastRx
  split
  · exact balanced.wait
  · split
    · exact balanced.wait
    · rename_i tracked found
      refine balanced.taken ?_ ?_ (fun f known => ?_) fun f => ?_
      · rfl
      · exact List.Sublist.map _ List.filter_sublist
      · exact known_count known
      obtain ⟨sent,received,lost,tally,even,low,high⟩ := balanced.balance f
      have taken := tracking_erase flowId packetId f balanced.unique
      rw [found] at taken
      rw [erase_stats,getStats_count,tracking_count]
      by_cases same : flowId = f
      · rw [if_pos ⟨same,rfl⟩] at taken
        rw [if_pos same]
        refine ⟨sent,received+1,lost,⟨tally.tx,?_,tally.lost⟩,by omega,low,by omega⟩
        rw [UInt32.ofNat_add,← tally.rx]
        rfl
      · rw [if_neg fun both => same both.1] at taken
        rw [if_neg same]
        exact ⟨sent,received,lost,tally,by omega,low,by omega⟩

theorem reportDrop_balanced (size : UInt32) (reason : Nat) (balanced : Balanced n stray monitor) :
    Balanced (n+1) (fun f => stray f + if monitor.m_enabled = true ∧ flowId = f ∧
      monitor.find flowId packetId = none then 1 else 0)
      (monitor.reportDrop flowId packetId size reason) := by
  unfold reportDrop
  split
  · rename_i disabled
    have off : ¬ monitor.m_enabled = true := by simpa using disabled
    simp only [off]
    exact balanced.wait
  · rename_i enabled
    have on : monitor.m_enabled = true := by simpa using enabled
    refine balanced.taken ?_ ?_ (fun f known => ?_) fun f => ?_
    · rfl
    · exact List.Sublist.map _ List.filter_sublist
    · exact known_count known
    obtain ⟨sent,received,lost,tally,even,low,high⟩ := balanced.balance f
    have taken := tracking_erase flowId packetId f balanced.unique
    rw [erase_stats,getStats_count,tracking_count]
    by_cases same : flowId = f
    · rw [if_pos same]
      refine ⟨sent,received,lost+1,⟨tally.tx,tally.rx,?_⟩,?_⟩
      · rw [UInt32.ofNat_add,← tally.lost]
        rfl
      · cases found : monitor.find flowId packetId with
        | none =>
          rw [found] at taken
          simp only [same,on,true_and,Option.isSome_none,Bool.false_eq_true,if_false,if_true] at taken ⊢
          omega
        | some tracked =>
          rw [found] at taken
          simp only [same,on,true_and,Option.isSome_some,if_true,reduceCtorEq,if_false] at taken ⊢
          omega
    · rw [if_neg same]
      rw [if_neg fun both => same both.1] at taken
      simp only [same,false_and,and_false,if_false,Nat.add_zero]
      exact ⟨sent,received,lost,tally,by omega,low,by omega⟩

/-- The loop over lost packets meets the record of each. -/
theorem foldlM_countLost {lost : List TrackedPacket}
    {stats : Std.ExtTreeMap UInt32 FlowStats compare}
    (known : ∀ tracked ∈ lost, stats[tracked.flowId]?.isSome) :
    ∃ after, lost.foldlM countLost stats = .ok after ∧ ∀ f : UInt32, after[f]? = stats[f]?.map fun flow =>
      { flow with lostPackets := flow.lostPackets+.ofNat (lost.countP (·.flowId = f)) } := by
  induction lost generalizing stats with
  | nil => exact ⟨stats,rfl,fun f => by simp⟩
  | cons tracked rest ih =>
    obtain ⟨flow,there⟩ := Option.isSome_iff_exists.mp (known tracked (List.mem_cons_self ..))
    have counted : countLost stats tracked = .ok (stats.insert tracked.flowId
        { flow with lostPackets := flow.lostPackets+1 }) := by
      rw [countLost,there]
    have still : ∀ other ∈ rest, (stats.insert tracked.flowId
        { flow with lostPackets := flow.lostPackets+1 })[other.flowId]?.isSome := by
      intro other inside
      rw [Std.ExtTreeMap.getElem?_insert]
      split
      · rfl
      · exact known other (List.mem_cons_of_mem tracked inside)
    obtain ⟨after,returned,counts⟩ := ih still
    refine ⟨after,?_,fun f => ?_⟩
    · rw [List.foldlM_cons,counted]
      exact returned
    · rw [counts,Std.ExtTreeMap.getElem?_insert,List.countP_cons]
      by_cases same : tracked.flowId = f
      · subst same
        have one : UInt32.ofNat 1 = 1 := rfl
        simp [there,UInt32.ofNat_add,one,UInt32.add_assoc,UInt32.add_comm]
      · simp [same]

theorem checkForLostPackets_balanced (now : Int) (balanced : Balanced n stray monitor) :
    ∃ after, monitor.checkForLostPackets now = .ok after ∧ Balanced (n+1) stray after := by
  obtain ⟨stats,returned,counts⟩ := @foldlM_countLost
    (monitor.m_trackedPackets.filter (monitor.stale now)) monitor.m_flowStats
    fun tracked inside => balanced.known tracked (List.mem_filter.mp inside).1
  refine ⟨_,by rw [checkForLostPackets,returned]; rfl,?_⟩
  refine balanced.taken ?_ ?_ (fun f known => ?_) fun f => ?_
  · rfl
  · exact List.Sublist.map _ List.filter_sublist
  · rw [counts f]
    simpa using known
  · obtain ⟨sent,received,lost,tally,even,low,high⟩ := balanced.balance f
    have parts := List.countP_eq_countP_filter_add monitor.m_trackedPackets
      (fun tracked => decide (tracked.flowId = f)) (monitor.stale now)
    rw [tracking,parts] at even
    refine ⟨sent,received,lost+(monitor.m_trackedPackets.filter (monitor.stale now)).countP
      (·.flowId = f),?_,?_,Nat.le_add_right_of_le low,Nat.le_succ_of_le high⟩
    · rw [getStatsForFlow] at tally
      rw [getStatsForFlow,counts f]
      cases there : monitor.m_flowStats[f]? with
      | some flow =>
        rw [there] at tally
        refine ⟨tally.tx,tally.rx,?_⟩
        rw [UInt32.ofNat_add,← tally.lost]
        rfl
      | none =>
        rw [there] at tally
        have nothing : (monitor.m_trackedPackets.filter (monitor.stale now)).countP
            (fun tracked => decide (tracked.flowId = f)) = 0 := by
          refine List.countP_eq_zero.mpr fun tracked inside same => ?_
          have known := balanced.known tracked (List.mem_filter.mp inside).1
          rw [of_decide_eq_true same,there] at known
          cases known
        rw [nothing]
        exact tally
    · rw [even,tracking]
      dsimp only
      omega

theorem toNat_succ {x : UInt32} (le : x.toNat ≤ n) (room : n+1 < 2^32) : (x+1).toNat = x.toNat+1 := by
  rw [UInt32.toNat_add]
  exact Nat.mod_eq_of_lt (by simp only [UInt32.reduceToNat]; omega)

/-- What the classifier hands out is new. -/
structure Fresh (n : Nat) (monitor : FlowMonitor) (classifier : FlowClassifier)
    (flowId packetId : UInt32) : Prop where
  new : monitor.find flowId packetId = none
  flow : flowId ≤ classifier.m_lastNewFlowId
  packet : packetId ≤ classifier.m_flowPktIdMap flowId
  numbered : ∀ tracked ∈ monitor.m_trackedPackets, tracked.flowId ≤ classifier.m_lastNewFlowId ∧
    tracked.packetId ≤ classifier.m_flowPktIdMap tracked.flowId
  mapped : ∀ flow ∈ classifier.m_flowMap, flow.2 ≤ classifier.m_lastNewFlowId
  few : classifier.m_lastNewFlowId.toNat ≤ n ∧ ∀ f, (classifier.m_flowPktIdMap f).toNat ≤ n

theorem find_none (absent : ∀ tracked ∈ monitor.m_trackedPackets, tracked.key ≠ (flowId,packetId)) :
    monitor.find flowId packetId = none :=
  List.find?_eq_none.mpr fun tracked inside named =>
    absent tracked inside (TrackedPacket.named_iff.mp named)

theorem classify_fresh (balanced : Balanced n stray monitor) (room : n+1 < 2^32) {packet : IpPacket}
    {classifier : FlowClassifier}
    (classified : monitor.classifier.classify packet = some ((flowId,packetId),classifier)) :
    Fresh (n+1) monitor classifier flowId packetId := by
  obtain ⟨tuple,-,classified⟩ := Option.map_eq_some_iff.mp classified
  have last := toNat_succ balanced.few.1 room
  split at classified
  · cases classified
    have later : ∀ f ≤ monitor.classifier.m_lastNewFlowId,
        f ≤ monitor.classifier.m_lastNewFlowId+1 ∧ f ≠ monitor.classifier.m_lastNewFlowId+1 := by
      intro f le
      rw [UInt32.le_iff_toNat_le] at le ⊢
      refine ⟨by omega,fun same => ?_⟩
      rw [same] at le
      omega
    refine ⟨find_none fun tracked inside same => ?_,UInt32.le_refl _,UInt32.zero_le,
      fun tracked inside => ?_,?_,?_,fun f => ?_⟩
    · exact (later _ (balanced.numbered tracked inside).1).2 (congrArg Prod.fst same)
    · obtain ⟨flow,packet⟩ := balanced.numbered tracked inside
      dsimp only
      rw [Function.update_of_ne (later _ flow).2]
      exact ⟨(later _ flow).1,packet⟩
    · refine List.forall_mem_cons.mpr ⟨UInt32.le_refl _,fun flow inside => ?_⟩
      exact (later _ (balanced.mapped flow inside)).1
    · dsimp only
      have := balanced.few.1
      omega
    · dsimp only
      rw [Function.update_apply]
      split
      · exact Nat.zero_le _
      · exact Nat.le_succ_of_le (balanced.few.2 f)
  · rename_i known
    cases classified
    have next := toNat_succ (balanced.few.2 flowId) room
    obtain ⟨entry,found,rfl⟩ := Option.map_eq_some_iff.mp known
    refine ⟨find_none fun tracked inside same => ?_,balanced.mapped entry (List.mem_of_find?_eq_some found),
      ?_,fun tracked inside => ?_,balanced.mapped,Nat.le_succ_of_le balanced.few.1,fun f => ?_⟩
    · have packet := (balanced.numbered tracked inside).2
      rw [TrackedPacket.key,Prod.mk.injEq] at same
      rw [same.1,same.2,UInt32.le_iff_toNat_le] at packet
      omega
    · dsimp only
      rw [Function.update_self]
      exact UInt32.le_refl _
    · obtain ⟨flow,packet⟩ := balanced.numbered tracked inside
      refine ⟨flow,?_⟩
      dsimp only
      rw [Function.update_apply]
      split
      · rename_i same
        rw [same,UInt32.le_iff_toNat_le] at packet
        rw [UInt32.le_iff_toNat_le]
        omega
      · exact packet
    · dsimp only
      rw [Function.update_apply]
      split
      · have := balanced.few.2 entry.2
        omega
      · exact Nat.le_succ_of_le (balanced.few.2 f)

theorem sendOutgoingLogger_balanced (balanced : Balanced n stray monitor) (room : n+1 < 2^32)
    (now : Int) (unicast : Bool) (packet : IpPacket) :
    Balanced (n+1) stray (monitor.sendOutgoingLogger now unicast packet).1 := by
  unfold sendOutgoingLogger
  split
  · exact balanced.wait
  split
  · exact balanced.wait
  rename_i flowId packetId classifier classified
  have fresh := classify_fresh balanced room classified
  unfold reportFirstTx
  split
  · exact { balanced with
      numbered := fresh.numbered
      mapped := fresh.mapped
      few := fresh.few
      balance := balanced.wait.balance }
  · have new : find flowId packetId { monitor with classifier } = none := fresh.new
    rw [erase_absent new]
    refine ⟨?_,?_,?_,fresh.mapped,fresh.few,fun f => ?_⟩
    · refine List.nodup_cons.mpr ⟨fun again => ?_,balanced.unique⟩
      obtain ⟨tracked,inside,same⟩ := List.mem_map.mp again
      exact List.find?_eq_none.mp fresh.new tracked inside (TrackedPacket.named_iff.mpr same)
    · refine List.forall_mem_cons.mpr ⟨?_,fun tracked inside => ?_⟩
      · rw [count,Std.ExtTreeMap.getElem?_insert_self]
        rfl
      · exact known_count (balanced.known tracked inside)
    · exact List.forall_mem_cons.mpr ⟨⟨fresh.flow,fresh.packet⟩,fresh.numbered⟩
    · obtain ⟨sent,received,lost,tally,even,low,high⟩ := balanced.balance f
      rw [getStats_count,tracking,count,List.countP_cons]
      dsimp only
      rw [tracking] at even
      by_cases same : flowId = f
      · rw [if_pos same]
        refine ⟨sent+1,received,lost,⟨?_,tally.rx,tally.lost⟩,?_,low,by omega⟩
        · rw [UInt32.ofNat_add,← tally.tx]
          rfl
        · simp only [same,decide_true,if_true]
          omega
      · rw [if_neg same]
        refine ⟨sent,received,lost,tally,?_,low,by omega⟩
        simp only [same,decide_false,Bool.false_eq_true,if_false]
        omega

theorem Balanced.same {later : UInt32 → Nat} (balanced : Balanced n stray monitor)
    (same : ∀ f, later f = stray f) : Balanced n later monitor :=
  (funext same : later = stray) ▸ balanced

theorem queueDropLogger_balanced (code : Nat) (packet : IpPacket) (balanced : Balanced n stray monitor)
    {event : FlowEvent} (reported : dropped event = packet.tag) :
    Balanced (n+1) (fun f => stray f+strays f monitor event) (monitor.queueDropLogger code packet) := by
  unfold queueDropLogger
  cases tagged : packet.tag with
  | none => exact balanced.wait.same fun f => by rw [strays,reported,tagged]; rfl
  | some tag =>
    refine (reportDrop_balanced tag.packetSize code balanced).same fun f => ?_
    rw [strays,reported,tagged]

/-- Only the drop of a duplicate stops the monitor. -/
theorem step_balanced (balanced : Balanced n stray monitor) (room : n+1 < 2^32) (event : FlowEvent) :
    (∃ after, monitor.step event = .ok after ∧
      Balanced (n+1) (fun f => stray f+strays f monitor event) after) ∨
    ∃ packet, event = .drop packet .duplicate := by
  cases event with
  | send now unicast packet =>
    exact .inl ⟨_,rfl,sendOutgoingLogger_balanced balanced room now unicast packet⟩
  | forward now packet =>
    refine .inl ⟨_,rfl,?_⟩
    unfold forwardLogger
    split
    · exact balanced.wait
    split
    · exact balanced.wait
    split
    · exact balanced.wait
    · exact reportForwarding_balanced now balanced
  | forwardUp now packet =>
    refine .inl ⟨_,rfl,?_⟩
    unfold forwardUpLogger
    split
    · exact balanced.wait
    split
    · exact balanced.wait
    · exact reportLastRx_balanced now packet.size balanced
  | drop packet reason =>
    by_cases duplicate : reason = .duplicate
    · exact .inr ⟨packet,duplicate ▸ rfl⟩
    have reported : dropped (.drop packet reason) = packet.tag := if_neg duplicate
    obtain ⟨code,coded⟩ : ∃ code, reason.code = .ok code := by
      cases reason with
      | duplicate => exact absurd rfl duplicate
      | _ => exact ⟨_,rfl⟩
    dsimp only [step]
    unfold dropLogger
    cases tagged : packet.tag with
    | none =>
      exact .inl ⟨_,rfl,balanced.wait.same fun f => by rw [strays,reported,tagged]; rfl⟩
    | some tag =>
      dsimp only
      rw [coded]
      refine .inl ⟨_,rfl,(reportDrop_balanced packet.size code balanced).same fun f => ?_⟩
      rw [strays,reported,tagged]
  | queueDrop packet => exact .inl ⟨_,rfl,queueDropLogger_balanced _ packet balanced rfl⟩
  | queueDiscDrop packet => exact .inl ⟨_,rfl,queueDropLogger_balanced _ packet balanced rfl⟩
  | check now => exact .inl (checkForLostPackets_balanced now balanced)
  | start =>
    refine .inl ⟨_,rfl,?_⟩
    exact { balanced.wait with unique := balanced.unique }
  | stop now =>
    dsimp only [step]
    unfold stopRightNow
    split
    · exact .inl ⟨_,rfl,balanced.wait⟩
    · exact .inl (checkForLostPackets_balanced now { balanced with unique := balanced.unique })

def run (monitor : FlowMonitor) (events : List FlowEvent) : Except String FlowMonitor :=
  events.foldlM step monitor

/-- The stray drops of a run. -/
def runStrays (f : UInt32) (monitor : FlowMonitor) : List FlowEvent → Nat
  | [] => 0
  | event :: rest =>
    strays f monitor event +
      match monitor.step event with
      | .error _ => 0
      | .ok next => runStrays f next rest

theorem run_balanced {events : List FlowEvent} (balanced : Balanced n stray monitor)
    (room : n+events.length < 2^32) :
    (∃ after, monitor.run events = .ok after ∧
      Balanced (n+events.length) (fun f => stray f+runStrays f monitor events) after) ∨
    ∃ packet, .drop packet .duplicate ∈ events := by
  induction events generalizing n stray monitor with
  | nil => exact .inl ⟨monitor,rfl,balanced⟩
  | cons event rest ih =>
    rw [List.length_cons] at room ⊢
    rcases step_balanced balanced (by omega) event with ⟨next,stepped,reached⟩ | ⟨packet,rfl⟩
    · rcases ih reached (by omega) with ⟨after,ran,last⟩ | ⟨packet,later⟩
      · refine .inl ⟨after,?_,?_⟩
        · rw [run,List.foldlM_cons,stepped]
          exact ran
        · rw [show n+(rest.length+1) = n+1+rest.length by omega]
          refine last.same fun f => ?_
          rw [runStrays,stepped]
          exact (Nat.add_assoc ..).symm
      · exact .inr ⟨packet,List.mem_cons_of_mem event later⟩
    · exact .inr ⟨packet,List.mem_cons_self ..⟩

theorem initial_balanced : Balanced 0 (fun _ => 0) {} := by
  refine ⟨List.nodup_nil,?_,?_,?_,⟨Nat.le_refl 0,fun f => Nat.le_refl 0⟩,fun f => ?_⟩
  · exact fun tracked none => nomatch none
  · exact fun tracked none => nomatch none
  · exact fun flow none => nomatch none
  · refine ⟨0,0,0,?_,rfl,Nat.le_refl 0,Nat.le_refl 0⟩
    rw [getStatsForFlow,Std.ExtTreeMap.getElem?_empty]
    exact ⟨rfl,rfl,rfl⟩

/-- A flow's sent packets are those received, those lost and those on their way, where each drop of
a packet that is not on its way is one loss too many. No more packets are received than sent. The
assertion of `CheckForLostPackets` never fails. -/
theorem packets_accounted {events : List FlowEvent} (few : events.length < 2^32)
    (distinct : ∀ packet, .drop packet .duplicate ∉ events) :
    ∃ monitor, run {} events = .ok monitor ∧ ∀ f,
      let stats := monitor.getStatsForFlow f
      stats.txPackets.toNat+runStrays f {} events =
          stats.rxPackets.toNat+stats.lostPackets.toNat+monitor.tracking f ∧
        stats.rxPackets.toNat+monitor.tracking f ≤ stats.txPackets.toNat := by
  have room : 0+events.length < 2^32 := by omega
  rcases run_balanced initial_balanced room with ⟨monitor,ran,balanced⟩ | ⟨packet,inside⟩
  · refine ⟨monitor,ran,fun f => ?_⟩
    obtain ⟨sent,received,lost,tally,even,low,high⟩ := balanced.balance f
    simp only [Nat.zero_add] at even low high
    dsimp only
    rw [tally.tx,tally.rx,tally.lost,UInt32.toNat_ofNat_of_lt' (by simp [UInt32.size]; omega),
      UInt32.toNat_ofNat_of_lt' (by simp [UInt32.size]; omega),
      UInt32.toNat_ofNat_of_lt' (by simp [UInt32.size]; omega)]
    omega
  · exact absurd inside (distinct packet)

/-- A first packet is received after three milliseconds, a second one is dropped. -/
theorem packets_accounted_two :
    let payload : List UInt8 := [0x23,0x28,0x23,0x29]
    let packet : IpPacket := { source := 0x0a010104, destination := 0x0a010101, protocol := 17, payload }
    let tag (packetId : UInt32) : Tag := {
      flowId := 1, packetId, packetSize := 24, src := packet.source, dst := packet.destination }
    ∃ monitor, run {} [.start,.send 0 true packet,.send 1000000 true packet,
        .forwardUp 3000000 { packet with tag := tag 0 },.queueDiscDrop { packet with tag := tag 1 }] =
        .ok monitor ∧
      (monitor.getStatsForFlow 1).rxPackets.toNat ≤ (monitor.getStatsForFlow 1).txPackets.toNat := by
  intro payload packet tag
  obtain ⟨monitor,ran,accounted⟩ := @packets_accounted
    [.start,.send 0 true packet,.send 1000000 true packet,
      .forwardUp 3000000 { packet with tag := tag 0 },.queueDiscDrop { packet with tag := tag 1 }]
    (by decide) (by simp)
  exact ⟨monitor,ran,Nat.le_trans (Nat.le_add_right ..) (accounted 1).2⟩

end FlowMonitor
end UavFanet.FlowMonitoring
