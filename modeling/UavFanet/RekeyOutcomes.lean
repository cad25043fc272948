import UavFanet.Library.Deadlines
import UavFanet.RekeyVersions

/-! What becomes of the rekeys of an SKDC: each is pending in `m_rekey_send_times` until the last
acknowledgement or its timeout closes it with a record. -/
namespace UavFanet.Apps
open Library SkdcCall

/-- What an SKDC keeps of its rekeys. -/
structure RekeyTables where
  send_times : Std.ExtTreeMap UInt32 Nat compare
  ack_map : Std.ExtTreeMap UInt32 Members compare
  timeouts : List (UInt32 × Nat)

namespace RekeyTables

def opened (tables : RekeyTables) (version : UInt32) (sim_now members : Nat) : RekeyTables where
  send_times := tables.send_times.insert version sim_now
  ack_map := tables.ack_map.insert version ∅
  timeouts := tables.timeouts ++ [(version,members)]

def closed (tables : RekeyTables) (version : UInt32) : RekeyTables := { tables with
  send_times := tables.send_times.erase version
  ack_map := tables.ack_map.erase version }

def expired (tables : RekeyTables) (ver : UInt32) (exp : Nat) : RekeyTables :=
  { tables.closed ver with timeouts := tables.timeouts.erase (ver,exp) }

/-- The rekeys without an outcome, and those whose timeout is still to run. -/
def ledger (tables : RekeyTables) : Deadlines.Ledger UInt32 where
  pending := {version | version ∈ tables.send_times}
  timers := (tables.timeouts : Multiset (UInt32 × Nat)).map Prod.fst

theorem ledger_opened (tables : RekeyTables) (version : UInt32) (sim_now members : Nat) :
    (tables.opened version sim_now members).ledger =
      ⟨insert version tables.ledger.pending,version ::ₘ tables.ledger.timers⟩ := by
  have pending : (tables.opened version sim_now members).ledger.pending =
      insert version tables.ledger.pending := by
    ext other
    simp [opened,ledger,Std.ExtTreeMap.mem_insert,eq_comm (a := other) (b := version)]
  have timers : (tables.opened version sim_now members).ledger.timers =
      version ::ₘ tables.ledger.timers := by
    simp only [opened,ledger,← Multiset.coe_add,Multiset.map_add,Multiset.coe_singleton,
      Multiset.map_singleton]
    rw [Multiset.add_comm,Multiset.singleton_add]
  rw [← pending,← timers]

theorem ledger_closed (tables : RekeyTables) (version : UInt32) : (tables.closed version).ledger =
    ⟨tables.ledger.pending \ {version},tables.ledger.timers⟩ := by
  have pending : (tables.closed version).ledger.pending = tables.ledger.pending \ {version} := by
    ext other
    simp [closed,ledger,Std.ExtTreeMap.mem_erase,and_comm,eq_comm (a := other) (b := version)]
  rw [← pending]
  rfl

theorem timers_erase {tables : RekeyTables} {ver : UInt32} {exp : Nat}
    (scheduled : (ver,exp) ∈ tables.timeouts) :
    ((tables.timeouts.erase (ver,exp) : List (UInt32 × Nat)) : Multiset (UInt32 × Nat)).map Prod.fst =
      tables.ledger.timers.erase ver := by
  have split : (tables.timeouts : Multiset (UInt32 × Nat)) =
      (ver,exp) ::ₘ (tables.timeouts.erase (ver,exp) : List (UInt32 × Nat)) :=
    Multiset.coe_eq_coe.mpr (List.perm_cons_erase scheduled)
  rw [ledger,split,Multiset.map_cons,Multiset.erase_cons_head]

theorem ledger_expired {tables : RekeyTables} {ver : UInt32} {exp : Nat}
    (scheduled : (ver,exp) ∈ tables.timeouts) : (tables.expired ver exp).ledger =
      ⟨tables.ledger.pending \ {ver},tables.ledger.timers.erase ver⟩ := by
  have pending : (tables.closed ver).ledger.pending = tables.ledger.pending \ {ver} := by
    rw [ledger_closed]
  rw [← pending,← timers_erase scheduled]
  rfl

end RekeyTables

namespace SkdcApplication

def tables (app : SkdcApplication) : RekeyTables where
  send_times := app.m_rekey_send_times
  ack_map := app.m_rekey_ack_map
  timeouts := app.rekey_timeouts

theorem broadcastMtk_tables (draws : Packet.BuildDraws) (app : SkdcApplication) :
    (app.broadcastMtk draws).1.tables = app.tables := by
  obtain ⟨seq,count,frame⟩ := broadcastMtk_frame draws app
  rw [frame]
  rfl

theorem triggerRekey_tables (crypto : Primitives) (draws : RekeyDraws) (app : SkdcApplication) :
    (app.triggerRekey crypto draws).1.tables = app.tables.opened (app.m_state.rekey_version+1)
      draws.sim_now (app.triggerRekey crypto draws).1.m_state.members.size := by
  obtain ⟨seq,count,frame⟩ := triggerRekey_frame crypto draws app
  rw [frame]
  rfl

theorem pending_iff {app : SkdcApplication} {version : UInt32} :
    version ∈ app.tables.ledger.pending ↔ ∃ send_time, app.m_rekey_send_times[version]? = some send_time := by
  rw [← Option.isSome_iff_exists]
  exact Std.ExtTreeMap.mem_iff_isSome_getElem?

section Closing

variable (sim_now : Nat) (uav_id tek_version : UInt32) (app : SkdcApplication)

/-- The UAVs that count as having acknowledged a version once one more does. -/
def acknowledgedWith : Members := (app.acknowledged tek_version).insert uav_id

/-- What an acknowledgement can do: nothing when its version is not pending, or be counted, or
close the version. -/
theorem onUavRekeyAck_cases :
    (tek_version ∉ app.tables.ledger.pending ∧
      app.onUavRekeyAck sim_now uav_id tek_version = (app,none)) ∨
    (tek_version ∈ app.tables.ledger.pending ∧
      app.m_state.members.size ≤ (app.acknowledgedWith uav_id tek_version).size ∧
      (app.onUavRekeyAck sim_now uav_id tek_version).1.tables = app.tables.closed tek_version ∧
      (app.onUavRekeyAck sim_now uav_id tek_version).1.m_state = app.m_state ∧
      ∃ record, (app.onUavRekeyAck sim_now uav_id tek_version).2 = some record ∧
        record.tek_version = tek_version) ∨
    (tek_version ∈ app.tables.ledger.pending ∧
      app.onUavRekeyAck sim_now uav_id tek_version = ({ app with
        m_rekey_ack_map := app.m_rekey_ack_map.insert tek_version
          (app.acknowledgedWith uav_id tek_version) },none)) := by
  rw [onUavRekeyAck]
  cases sent : app.m_rekey_send_times[tek_version]? with
  | none => exact .inl ⟨fun pending => by simpa [sent] using pending_iff.mp pending,rfl⟩
  | some send_time =>
    have pending : tek_version ∈ app.tables.ledger.pending := pending_iff.mpr ⟨send_time,sent⟩
    simp only
    split
    · rename_i enough
      exact .inr (.inl ⟨pending,enough,rfl,rfl,_,rfl,rfl⟩)
    · exact .inr (.inr ⟨pending,rfl⟩)

theorem rekeyTimeout_cases (ver : UInt32) (exp : Nat) :
    (ver ∉ app.tables.ledger.pending ∧ app.rekeyTimeout sim_now ver exp =
      ({ app with rekey_timeouts := app.rekey_timeouts.erase (ver,exp) },none)) ∨
    (ver ∈ app.tables.ledger.pending ∧
      (app.rekeyTimeout sim_now ver exp).1.tables = app.tables.expired ver exp ∧
      (app.rekeyTimeout sim_now ver exp).1.m_state = app.m_state ∧
      ∃ record, (app.rekeyTimeout sim_now ver exp).2 = some record ∧ record.tek_version = ver ∧
        record.status = .timeout) := by
  simp only [rekeyTimeout]
  cases sent : app.m_rekey_send_times[ver]? with
  | none => exact .inl ⟨fun pending => by simpa [sent] using pending_iff.mp pending,rfl⟩
  | some send_time => exact .inr ⟨pending_iff.mpr ⟨send_time,sent⟩,rfl,rfl,_,rfl,rfl,rfl⟩

end Closing
end SkdcApplication

namespace SkdcCall
open SkdcApplication

/-- The calls that may give a rekey its outcome. -/
def closes : SkdcCall → Bool
  | onUavRekeyAck _ _ _ => true
  | rekeyTimeout _ _ _ => true
  | _ => false

/-- `Simulator::Now` at a call that asks for it. -/
def sim_now : SkdcCall → Nat
  | triggerRekey draws => draws.sim_now
  | processJoin draws _ _ => draws.sim_now
  | processLeave draws _ => draws.sim_now
  | receiveKeyAck draws _ => draws.sim_now
  | onUavRekeyAck sim_now _ _ => sim_now
  | rekeyTimeout sim_now _ _ => sim_now
  | _ => 0

/-- Any other call opens a rekey, under the version it goes on to, or leaves the tables. -/
theorem perform_tables (crypto : Primitives) (app : SkdcApplication) {call : SkdcCall}
    (plain : call.closes = false) :
    (call.perform crypto app).1.tables =
      if call.rekeys crypto app then
        app.tables.opened (app.m_state.rekey_version+1) call.sim_now
          (call.perform crypto app).1.m_state.members.size
      else app.tables := by
  cases call with
  | triggerRekey draws => exact triggerRekey_tables crypto draws app
  | processJoin draws uav_id uav_index => exact triggerRekey_tables crypto draws _
  | processLeave draws uav_id => exact triggerRekey_tables crypto draws _
  | updateTek draws tek => exact broadcastMtk_tables draws _
  | periodicBroadcast draws => exact broadcastMtk_tables draws app
  | receiveFromKdc draws buf =>
    simp only [perform,SkdcApplication.receiveFromKdc,rekeys,keyChange,Bool.false_eq_true,if_false]
    split
    · rfl
    split
    · rfl
    split
    · rfl
    · exact broadcastMtk_tables draws app
  | receiveSlaveKeyFwd iv now_us buf =>
    simp only [perform,SkdcApplication.receiveSlaveKeyFwd,rekeys,keyChange,Bool.false_eq_true,
      if_false]
    split
    · rfl
    · rfl
    · split
      · rfl
      · rfl
  | receiveKeyAck draws buf =>
    simp only [perform,sent,receiveKeyAck_joining,rekeys,keyChange]
    cases joining crypto app buf with
    | none => rfl
    | some ack => exact triggerRekey_tables crypto draws _
  | receiveDataFromUav iv buf => rfl
  | onUavRekeyAck sim_now uav_id tek_version => cases plain
  | rekeyTimeout sim_now ver exp => cases plain

end SkdcCall

namespace SkdcApplication

/-- A call, with what it does to a rekey. A timeout runs as often as it was scheduled. -/
def observe (crypto : Primitives) (app : SkdcApplication) (call : SkdcCall) :
    SkdcApplication × Option (Deadlines.Note UInt32 RekeyRecord) :=
  match call with
  | .onUavRekeyAck sim_now uav_id tek_version =>
    let outcome := app.onUavRekeyAck sim_now uav_id tek_version
    (outcome.1,outcome.2.map (.settled tek_version))
  | .rekeyTimeout sim_now ver exp =>
    if (ver,exp) ∈ app.rekey_timeouts then
      let outcome := app.rekeyTimeout sim_now ver exp
      (outcome.1,some (.expired ver outcome.2))
    else (app,none)
  | call =>
    ((call.perform crypto app).1,
      if call.rekeys crypto app then some (.opened (app.m_state.rekey_version+1)) else none)

section Steps

variable (crypto : Primitives) (app : SkdcApplication)

theorem observe_plain {call : SkdcCall} (plain : call.closes = false) : observe crypto app call =
    ((call.perform crypto app).1,
      if call.rekeys crypto app then some (.opened (app.m_state.rekey_version+1)) else none) := by
  cases call with
  | onUavRekeyAck sim_now uav_id tek_version => cases plain
  | rekeyTimeout sim_now ver exp => cases plain
  | _ => rfl

theorem observe_follows (call : SkdcCall) :
    (observe crypto app call).2.elim ((observe crypto app call).1.tables.ledger = app.tables.ledger)
      fun note => Deadlines.Ledger.Step app.tables.ledger note
        (observe crypto app call).1.tables.ledger := by
  cases plain : call.closes with
  | false =>
    have after := perform_tables crypto app plain
    rw [observe_plain crypto app plain,after]
    by_cases counts : call.rekeys crypto app = true
    · rw [if_pos counts,if_pos counts,Option.elim_some,RekeyTables.ledger_opened]
      exact .opened _
    · rw [if_neg counts,if_neg counts]
      rfl
  | true =>
    cases call with
    | onUavRekeyAck sim_now uav_id tek_version =>
      rcases onUavRekeyAck_cases sim_now uav_id tek_version app with
        ⟨-,outcome⟩ | ⟨pending,-,after,-,record,made,-⟩ | ⟨-,outcome⟩
      · rw [observe,outcome]
        rfl
      · simp only [observe,made,after,RekeyTables.ledger_closed]
        exact .settled record pending
      · rw [observe,outcome]
        rfl
    | rekeyTimeout sim_now ver exp =>
      rw [observe]
      split
      · rename_i scheduled
        have due : ver ∈ (app.tables.timeouts : Multiset (UInt32 × Nat)).map Prod.fst :=
          Multiset.mem_map.mpr ⟨(ver,exp),scheduled,rfl⟩
        rcases rekeyTimeout_cases sim_now app ver exp with
          ⟨settled,outcome⟩ | ⟨pending,after,-,record,made,-,-⟩
        · have lapsed : (app.rekeyTimeout sim_now ver exp).1.tables.ledger =
              ⟨app.tables.ledger.pending,app.tables.ledger.timers.erase ver⟩ := by
            rw [outcome,← RekeyTables.timers_erase scheduled]
            rfl
          simp only [outcome] at lapsed ⊢
          rw [Option.elim_some,lapsed]
          exact .lapsed due settled
        · simp only [made]
          rw [Option.elim_some,after,RekeyTables.ledger_expired scheduled]
          exact .closed record due pending
      · rfl
    | _ => cases plain

theorem observe_outcome {call : SkdcCall} {note : Deadlines.Note UInt32 RekeyRecord}
    (noted : (observe crypto app call).2 = some note) {version : UInt32} {record : RekeyRecord}
    (outcome : note.outcome = some (version,record)) : record.tek_version = version := by
  cases plain : call.closes with
  | false =>
    rw [observe_plain crypto app plain] at noted
    split at noted
    · cases noted
      cases outcome
    · cases noted
  | true =>
    cases call with
    | onUavRekeyAck sim_now uav_id tek_version =>
      rw [observe] at noted
      rcases onUavRekeyAck_cases sim_now uav_id tek_version app with
        ⟨-,none_yet⟩ | ⟨-,-,-,-,made,written,about⟩ | ⟨-,none_yet⟩
      · rw [none_yet] at noted
        cases noted
      · simp only [written] at noted
        cases noted
        cases outcome
        exact about
      · rw [none_yet] at noted
        cases noted
    | rekeyTimeout sim_now ver exp =>
      rw [observe] at noted
      split at noted
      · rcases rekeyTimeout_cases sim_now app ver exp with
          ⟨-,none_left⟩ | ⟨-,-,-,made,written,about,-⟩
        · rw [none_left] at noted
          cases noted
          cases outcome
        · simp only [written] at noted
          cases noted
          cases outcome
          exact about
      · cases noted
    | _ => cases plain

/-- The version goes up with each rekey that is opened, which takes the new one. -/
theorem observe_version (call : SkdcCall) :
    ((observe crypto app call).2.bind Deadlines.Note.opening = some (app.m_state.rekey_version+1) ∧
      (observe crypto app call).1.m_state.rekey_version = app.m_state.rekey_version+1) ∨
    ((observe crypto app call).2.bind Deadlines.Note.opening = none ∧
      (observe crypto app call).1.m_state.rekey_version = app.m_state.rekey_version) := by
  cases plain : call.closes with
  | false =>
    have version := perform_rekey_version crypto app call
    rw [observe_plain crypto app plain]
    by_cases counts : call.rekeys crypto app = true
    · rw [if_pos counts] at version ⊢
      exact .inl ⟨rfl,version⟩
    · rw [if_neg counts] at version ⊢
      exact .inr ⟨rfl,version⟩
  | true =>
    cases call with
    | onUavRekeyAck sim_now uav_id tek_version =>
      rw [observe]
      rcases onUavRekeyAck_cases sim_now uav_id tek_version app with
        ⟨-,outcome⟩ | ⟨-,-,-,same,record,made,-⟩ | ⟨-,outcome⟩
      · rw [outcome]
        exact .inr ⟨rfl,rfl⟩
      · simp only [made,same]
        exact .inr ⟨rfl,trivial⟩
      · rw [outcome]
        exact .inr ⟨rfl,rfl⟩
    | rekeyTimeout sim_now ver exp =>
      rw [observe]
      split
      · rcases rekeyTimeout_cases sim_now app ver exp with ⟨-,outcome⟩ | ⟨-,-,same,record,made,-,-⟩
        · rw [outcome]
          exact .inr ⟨rfl,rfl⟩
        · simp only [made,same]
          exact .inr ⟨rfl,trivial⟩
      · exact .inr ⟨rfl,rfl⟩
    | _ => cases plain

end Steps

section Runs

variable (crypto : Primitives) (start : SkdcApplication) (calls : List SkdcCall)

def rekeyNotes : List (Deadlines.Note UInt32 RekeyRecord) :=
  Deadlines.notes (observe crypto) start calls

/-- The versions that a run triggers, the records that it writes, and the versions whose timeout
runs. -/
def triggered : List UInt32 := Deadlines.openings (rekeyNotes crypto start calls)

def records : List RekeyRecord := (Deadlines.outcomes (rekeyNotes crypto start calls)).map Prod.snd

def timedOut : List UInt32 := Deadlines.expiries (rekeyNotes crypto start calls)

theorem rekeyNotes_cons (call : SkdcCall) : rekeyNotes crypto start (call :: calls) =
    (observe crypto start call).2.toList ++ rekeyNotes crypto (observe crypto start call).1 calls :=
  Deadlines.notes_cons (observe crypto) start call calls

theorem triggered_versions : triggered crypto start calls =
    (List.range (triggered crypto start calls).length).map
      fun i => start.m_state.rekey_version+1+UInt32.ofNat i := by
  induction calls generalizing start with
  | nil => rfl
  | cons call calls ih =>
    have later := ih (observe crypto start call).1
    have front : triggered crypto start (call :: calls) =
        ((observe crypto start call).2.bind Deadlines.Note.opening).toList ++
          triggered crypto (observe crypto start call).1 calls := by
      rw [triggered,rekeyNotes_cons,Deadlines.openings,List.filterMap_append]
      cases (observe crypto start call).2 with
      | none => rfl
      | some note => simp [triggered,Deadlines.openings,List.filterMap_cons]; cases note.opening <;> rfl
    rcases observe_version crypto start call with ⟨opens,version⟩ | ⟨silent,version⟩
    · rw [front,opens,Option.toList_some,List.singleton_append,List.length_cons,
        List.range_succ_eq_map,List.map_cons,List.map_map]
      congr 1
      · exact (UInt32.add_zero _).symm
      · refine later.trans (List.map_congr_left fun i _ => ?_)
        have one : UInt32.ofNat 1 = 1 := rfl
        simp only [version,Function.comp_apply,Nat.succ_eq_add_one,UInt32.ofNat_add,one,
          UInt32.add_assoc]
        rw [UInt32.add_comm 1 (UInt32.ofNat i)]
    · rw [front,silent,Option.toList_none,List.nil_append,← version]
      exact later

theorem triggered_nodup (few : (triggered crypto start calls).length < 2^32) :
    (triggered crypto start calls).Nodup := by
  rw [triggered_versions]
  apply List.Nodup.map_on _ List.nodup_range
  intro i below j bound same
  have equal := congrArg UInt32.toNat ((UInt32.add_right_inj _).mp same)
  rw [List.mem_range] at below bound
  rwa [UInt32.toNat_ofNat_of_lt' (by rw [UInt32.size]; omega),
    UInt32.toNat_ofNat_of_lt' (by rw [UInt32.size]; omega)] at equal

theorem records_versions : (records crypto start calls).map (·.tek_version) =
    (Deadlines.outcomes (rekeyNotes crypto start calls)).map Prod.fst := by
  rw [records,List.map_map]
  apply List.map_congr_left
  rintro ⟨version,record⟩ member
  obtain ⟨note,noted,outcome⟩ := List.mem_filterMap.mp member
  obtain ⟨⟨app,noted_there⟩,made,rfl⟩ := List.mem_map.mp noted
  exact @Run.outputs_safe _ _ _ (observe crypto) (fun _ => True)
    (fun _ note => ∀ version record, note.outcome = some (version,record) →
      record.tek_version = version) (fun _ _ _ => trivial)
    (fun app call note _ noted _ _ => observe_outcome crypto app noted) start trivial calls
    app noted_there made version record outcome

end Runs

/-- No rekey has two outcomes, and each has one once its timeout has run, which it does or still
has to. -/
theorem rekeys_closed_once (crypto : Primitives) {start : SkdcApplication}
    (unopened : start.m_rekey_send_times = ∅) (unscheduled : start.rekey_timeouts = [])
    (calls : List SkdcCall) (few : (triggered crypto start calls).length < 2^32)
    (version : UInt32) :
    ((records crypto start calls).map (·.tek_version)).count version ≤ 1 ∧
    (version ∈ timedOut crypto start calls →
      ((records crypto start calls).map (·.tek_version)).count version = 1) ∧
    (version ∈ triggered crypto start calls → version ∈ timedOut crypto start calls ∨
      ∃ exp, (version,exp) ∈ (Run.final (observe crypto) start calls).rekey_timeouts) := by
  have initial : start.tables.ledger = ⟨∅,0⟩ := by
    simp [tables,RekeyTables.ledger,unopened,unscheduled]
  have empty : start.tables.ledger.Accounts ([] : List (Deadlines.Note UInt32 RekeyRecord)) := by
    rw [initial]
    exact .empty
  have opened_once := triggered_nodup crypto start calls few
  have accounts : (Run.final (observe crypto) start calls).tables.ledger.Accounts
      (rekeyNotes crypto start calls) :=
    @Deadlines.Ledger.Accounts.run _ _ _ _ _ (observe crypto) (fun app => app.tables.ledger)
      (observe_follows crypto) calls start [] empty opened_once
  rw [records_versions]
  obtain ⟨at_most,exactly⟩ := accounts.once opened_once version
  refine ⟨at_most,exactly,fun opened => ?_⟩
  rcases accounts.due opened with expired | set
  · exact .inl expired
  · have timers : version ∈ ((Run.final (observe crypto) start calls).rekey_timeouts :
        Multiset (UInt32 × Nat)).map Prod.fst := set
    obtain ⟨⟨_,exp⟩,scheduled,rfl⟩ := Multiset.mem_map.mp timers
    exact .inr ⟨exp,scheduled⟩

/-- Two rekeys: the first is acknowledged by all members before its timeout runs, and once more
after it; of the second only the timeout comes. -/
def sampleRekeys : List SkdcCall :=
  [.triggerRekey sampleRekeyDraws,.onUavRekeyAck 1 0 2,.onUavRekeyAck 1 1 2,.onUavRekeyAck 1 2 2,
    .triggerRekey sampleRekeyDraws,.onUavRekeyAck 2 3 2,.onUavRekeyAck 2 4 2,.onUavRekeyAck 2 5 2,
    .rekeyTimeout 5 2 6,.onUavRekeyAck 6 0 2,.rekeyTimeout 7 3 6]

theorem sampleRekeys_closed_once :
    (records rotationCrypto startedSkdc sampleRekeys).map (·.status) = [.ok,.timeout] ∧
    ((records rotationCrypto startedSkdc sampleRekeys).map (·.tek_version)).count 2 = 1 :=
  ⟨by decide +kernel,(rekeys_closed_once rotationCrypto rfl rfl sampleRekeys (by decide +kernel)
    2).2.1 (by decide +kernel)⟩

end SkdcApplication
end UavFanet.Apps
