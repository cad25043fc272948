import UavFanet.RekeyOutcomes
import UavFanet.SimulatorRuns
import Mathlib.Data.Multiset.Filter

/-! An SKDC on the simulator: the timeouts of its rekeys are events of the simulator, which handles
them among those of the rest of the program. -/
namespace UavFanet.Apps
open Library Ns3 SkdcCall

theorem erased_sent {send_times : Std.ExtTreeMap UInt32 Nat compare} {app : SkdcApplication}
    {version ver : UInt32} {send : Nat} (erased : app.m_rekey_send_times = send_times.erase version)
    (sent : app.m_rekey_send_times[ver]? = some send) : send_times[ver]? = some send := by
  rw [erased,Std.ExtTreeMap.getElem?_erase] at sent
  split at sent
  · cases sent
  · exact sent

/-- The same call when the simulator is at `now`. -/
def SkdcCall.atTime (now : Nat) : SkdcCall → SkdcCall
  | triggerRekey draws => triggerRekey { draws with sim_now := now }
  | processJoin draws uav_id uav_index => processJoin { draws with sim_now := now } uav_id uav_index
  | processLeave draws uav_id => processLeave { draws with sim_now := now } uav_id
  | receiveKeyAck draws buf => receiveKeyAck { draws with sim_now := now } buf
  | onUavRekeyAck _ uav_id tek_version => onUavRekeyAck now uav_id tek_version
  | rekeyTimeout _ ver exp => rekeyTimeout now ver exp
  | call => call

/-- A call that opens a rekey asks the simulator for the time. -/
theorem SkdcCall.rekeys_sim_now {crypto : Primitives} {app : SkdcApplication} {made : SkdcCall}
    {now : Nat} (rekeys : (made.atTime now).rekeys crypto app = true) :
    (made.atTime now).sim_now = now := by
  cases made with
  | triggerRekey | processJoin | processLeave | receiveKeyAck | onUavRekeyAck | rekeyTimeout => rfl
  | updateTek | receiveFromKdc | periodicBroadcast | receiveSlaveKeyFwd | receiveDataFromUav =>
    cases rekeys

theorem SkdcCall.atTime_ack {made : SkdcCall} {now sim_now : Nat} {uav_id version : UInt32}
    (same : made.atTime now = .onUavRekeyAck sim_now uav_id version) : sim_now = now := by
  cases made <;> cases same
  rfl

theorem SkdcCall.atTime_planned {made : SkdcCall}
    (planned : ∀ sim_now ver exp, made ≠ .rekeyTimeout sim_now ver exp) {now sim_now exp : Nat}
    {ver : UInt32} : made.atTime now ≠ .rekeyTimeout sim_now ver exp := by
  intro same
  cases made <;> cases same
  exact planned _ _ _ rfl

/-- What a call does to the tables of the rekeys, with the time it takes for a record. -/
inductive RekeyTables.Effect (tables : RekeyTables) (members : Nat) :
    SkdcCall → Option (Deadlines.Note UInt32 RekeyRecord) → RekeyTables → Prop
  | opened {call : SkdcCall} (version : UInt32) (plain : call.closes = false)
      (clock : ∀ (made : SkdcCall) (now : Nat), call = made.atTime now → call.sim_now = now) :
      Effect tables members call (some (.opened version))
        (tables.opened version call.sim_now members)
  | settled {sim_now : Nat} {uav_id version : UInt32} {record : RekeyRecord}
      (sent : tables.send_times[version]? = some record.send_time)
      (latency : record.latency = sim_now-record.send_time) (status : record.status = .ok) :
      Effect tables members (.onUavRekeyAck sim_now uav_id version)
        (some (.settled version record)) (tables.closed version)
  | closed {sim_now exp : Nat} {ver : UInt32} {record : RekeyRecord}
      (scheduled : (ver,exp) ∈ tables.timeouts)
      (sent : tables.send_times[ver]? = some record.send_time)
      (latency : record.latency = sim_now-record.send_time) (status : record.status = .timeout) :
      Effect tables members (.rekeyTimeout sim_now ver exp) (some (.expired ver (some record)))
        (tables.expired ver exp)
  | lapsed {sim_now exp : Nat} {ver : UInt32} (scheduled : (ver,exp) ∈ tables.timeouts) :
      Effect tables members (.rekeyTimeout sim_now ver exp) (some (.expired ver none))
        { tables with timeouts := tables.timeouts.erase (ver,exp) }
  | quiet {call : SkdcCall} (ack_map : Std.ExtTreeMap UInt32 Members compare)
      (unscheduled : ∀ sim_now ver exp, call = .rekeyTimeout sim_now ver exp →
        (ver,exp) ∉ tables.timeouts) :
      Effect tables members call none { tables with ack_map }

namespace SkdcApplication

theorem observe_effect (crypto : Primitives) (app : SkdcApplication) (call : SkdcCall) :
    app.tables.Effect (observe crypto app call).1.m_state.members.size call
      (observe crypto app call).2 (observe crypto app call).1.tables := by
  cases plain : call.closes with
  | false =>
    rw [observe_plain crypto app plain]
    have after := perform_tables crypto app plain
    split at after
    · rename_i counts
      simp only
      rw [after,if_pos counts]
      refine .opened _ plain fun made now same => ?_
      subst same
      exact rekeys_sim_now counts
    · rename_i counts
      simp only
      rw [after,if_neg counts]
      refine .quiet app.tables.ack_map fun sim_now ver exp same => ?_
      rw [same] at plain
      cases plain
  | true =>
    cases call with
    | onUavRekeyAck sim_now uav_id tek_version =>
      rw [observe,onUavRekeyAck]
      cases sent : app.m_rekey_send_times[tek_version]? with
      | none => exact .quiet _ (fun _ _ _ impossible => by cases impossible)
      | some send_time =>
        simp only
        split
        · exact .settled sent rfl rfl
        · exact .quiet _ (fun _ _ _ impossible => by cases impossible)
    | rekeyTimeout sim_now ver exp =>
      rw [observe]
      split
      · rename_i scheduled
        simp only [rekeyTimeout]
        cases sent : app.m_rekey_send_times[ver]? with
        | none => exact .lapsed scheduled
        | some send_time => exact .closed scheduled sent rfl rfl
      · rename_i unscheduled
        refine .quiet app.tables.ack_map fun _ _ _ same => ?_
        cases same
        exact unscheduled
    | _ => cases plain

end SkdcApplication

/-- The events that run code of the SKDC: the timeouts of its rekeys, and whatever calls it. -/
inductive SkdcEvent where
  | call (made : SkdcCall)
  | rekeyTimeout (ver : UInt32) (exp : Nat)

namespace SkdcEvent

instance : Inhabited SkdcEvent := ⟨rekeyTimeout 0 0⟩

def made (now : Nat) : SkdcEvent → SkdcCall
  | call made => made.atTime now
  | rekeyTimeout ver exp => .rekeyTimeout now ver exp

def timeout : SkdcEvent → Option (UInt32 × Nat)
  | call _ => none
  | rekeyTimeout ver exp => some (ver,exp)

end SkdcEvent

/-- `Seconds(5.0)`, in nanoseconds. -/
def rekeyDelay : UInt64 := 5000000000

/-- An SKDC, the simulator that it runs on, and the calls made to it so far. -/
structure SkdcSimulation (q : EventQueue (Event SkdcEvent)) where
  trace : SimulatorTrace q := {}
  app : SkdcApplication
  calls : List SkdcCall := []

/-- Some other part of the program has the SKDC called later on, or the next event is handled. -/
inductive SkdcAction where
  | plan (context : UInt32) (delay : UInt64) (made : SkdcCall)
  | processOneEvent

namespace SkdcSimulation

variable {q : EventQueue (Event SkdcEvent)}

/-- A rekey that is opened sets its timeout. -/
def arm (members : Nat) (trace : SimulatorTrace q) :
    Option (Deadlines.Note UInt32 RekeyRecord) → SimulatorTrace q
  | some (.opened version) =>
    (trace.step (.schedule rekeyDelay (.rekeyTimeout version members))).1
  | _ => trace

def handle (crypto : Primitives) (sim : SkdcSimulation q) : SkdcSimulation q :=
  let ev := sim.trace.sim.processOneEvent.2.1
  let call := ev.impl.made ev.key.m_ts.toNat
  let seen := SkdcApplication.observe crypto sim.app call
  { trace := arm seen.1.m_state.members.size (sim.trace.step .processOneEvent).1 seen.2
    app := seen.1
    calls := sim.calls ++ [call] }

def step (crypto : Primitives) (sim : SkdcSimulation q) : SkdcAction → SkdcSimulation q × Option Unit
  | .plan context delay made =>
    ({ sim with trace := (sim.trace.step (.scheduleWithContext context delay (.call made))).1 },none)
  | .processOneEvent => (sim.handle crypto,none)

/-- The timeouts are set by the SKDC alone, for which there is room at every event. -/
def Allowed (sim : SkdcSimulation q) : SkdcAction → Prop
  | .plan _ delay made => (∀ sim_now ver exp, made ≠ .rekeyTimeout sim_now ver exp) ∧
      sim.trace.Room delay
  | .processOneEvent => sim.trace.sim.isFinished = false ∧
      (sim.trace.step .processOneEvent).1.Room rekeyDelay

end SkdcSimulation

def RekeyRecord.Timely (record : RekeyRecord) : Prop :=
  (record.status = .timeout ∧ record.latency = rekeyDelay.toNat) ∨
    (record.status = .ok ∧ record.latency ≤ rekeyDelay.toNat)

section Timed

open SkdcApplication

/-- The simulator holds the timeouts of the SKDC, each at its time. -/
structure SkdcSimulation.Timed {q : EventQueue (Event SkdcEvent)} {removals : Prop}
    (crypto : Primitives) (start : SkdcApplication) (this : Schedules q removals)
    (sim : SkdcSimulation q) (entries : Multiset (Event SkdcEvent)) : Prop where
  accounts : sim.trace.Accounts this entries
  app : sim.app = Run.final (observe crypto) start sim.calls
  few : (triggered crypto start sim.calls).length ≤ sim.trace.history.scheduled.length
  timers : entries.filterMap (fun ev => ev.impl.timeout) = ↑sim.app.rekey_timeouts
  due : ∀ ev ∈ entries, ∀ ver exp send, ev.impl = .rekeyTimeout ver exp →
    sim.app.m_rekey_send_times[ver]? = some send → ev.key.m_ts.toNat = send+rekeyDelay.toNat
  planned : ∀ ev ∈ entries, ∀ made, ev.impl = .call made →
    ∀ sim_now ver exp, made ≠ .rekeyTimeout sim_now ver exp
  timely : ∀ record ∈ records crypto start sim.calls, record.Timely

variable {q : EventQueue (Event SkdcEvent)} {crypto : Primitives} {start : SkdcApplication}
  {removals : Prop} {this : Schedules q removals} {sim : SkdcSimulation q}
  {entries : Multiset (Event SkdcEvent)}

theorem rekeyNotes_snoc (crypto : Primitives) (start : SkdcApplication) (calls : List SkdcCall)
    (call : SkdcCall) : rekeyNotes crypto start (calls ++ [call]) = rekeyNotes crypto start calls ++
      (observe crypto (Run.final (observe crypto) start calls) call).2.toList :=
  Deadlines.notes_snoc (observe crypto) call calls start

theorem ledger_accounts (crypto : Primitives) (unopened : start.m_rekey_send_times = ∅)
    (unscheduled : start.rekey_timeouts = []) (calls : List SkdcCall)
    (few : (triggered crypto start calls).length < 2^32) :
    (Run.final (observe crypto) start calls).tables.ledger.Accounts (rekeyNotes crypto start calls) := by
  have initial : start.tables.ledger = ⟨∅,0⟩ := by
    simp [tables,RekeyTables.ledger,unopened,unscheduled]
  have empty : start.tables.ledger.Accounts ([] : List (Deadlines.Note UInt32 RekeyRecord)) := by
    rw [initial]
    exact .empty
  exact @Deadlines.Ledger.Accounts.run _ _ _ _ _ (observe crypto) (fun app => app.tables.ledger)
    (observe_follows crypto) calls start [] empty (triggered_nodup crypto start calls few)

namespace SkdcSimulation

theorem Timed.versions (timed : sim.Timed crypto start this entries) :
    (triggered crypto start sim.calls).length+4 < 2^32 := by
  have uid := timed.accounts.uid
  have bound := sim.trace.sim.m_uid.toNat_lt
  have few := timed.few
  omega

/-- A rekey that is pending has its timeout among the events to come. -/
theorem Timed.pending (timed : sim.Timed crypto start this entries)
    (unopened : start.m_rekey_send_times = ∅) (unscheduled : start.rekey_timeouts = [])
    {ver : UInt32} {send : Nat} (sent : sim.app.m_rekey_send_times[ver]? = some send) :
    ∃ ev ∈ entries, ev.key.m_ts.toNat = send+rekeyDelay.toNat := by
  have versions := timed.versions
  have ledger := ledger_accounts crypto unopened unscheduled sim.calls (by omega)
  rw [← timed.app] at ledger
  have open_request : ver ∈ sim.app.tables.ledger.pending := pending_iff.mpr ⟨send,sent⟩
  have opened := ledger.pending ver open_request
  have running := ledger.expired ver open_request
  have counted := ledger.timers ver
  have set : ver ∈ (↑sim.app.rekey_timeouts : Multiset (UInt32 × Nat)).map Prod.fst :=
    Multiset.count_pos.mp (show 0 < Multiset.count ver sim.app.tables.ledger.timers by omega)
  obtain ⟨⟨_,exp⟩,scheduled,rfl⟩ := Multiset.mem_map.mp set
  rw [← timed.timers,Multiset.mem_filterMap] at scheduled
  obtain ⟨ev,here,timeout⟩ := scheduled
  cases impl : ev.impl with
  | call made =>
    rw [impl] at timeout
    cases timeout
  | rekeyTimeout other count =>
    rw [impl] at timeout
    cases timeout
    exact ⟨ev,here,timed.due ev here _ _ send impl sent⟩

/-- A version that is opened has no timeout yet. -/
theorem Timed.fresh (timed : sim.Timed crypto start this entries)
    (unopened : start.m_rekey_send_times = ∅) (unscheduled : start.rekey_timeouts = [])
    {call : SkdcCall} {version : UInt32}
    (opens : (observe crypto sim.app call).2 = some (.opened version)) :
    ∀ ev ∈ entries, ∀ exp, ev.impl ≠ .rekeyTimeout version exp := by
  intro ev here exp impl
  have versions := timed.versions
  have more : triggered crypto start (sim.calls ++ [call]) =
      triggered crypto start sim.calls ++ [version] := by
    rw [triggered,triggered,rekeyNotes_snoc,← timed.app,opens,Deadlines.openings,
      List.filterMap_append]
    rfl
  have distinct := triggered_nodup crypto start (sim.calls ++ [call]) (by
    rw [more,List.length_append,List.length_singleton]
    omega)
  rw [more] at distinct
  have ledger := ledger_accounts crypto unopened unscheduled sim.calls (by omega)
  rw [← timed.app] at ledger
  have scheduled : (version,exp) ∈ (↑sim.app.rekey_timeouts : Multiset (UInt32 × Nat)) := by
    rw [← timed.timers]
    exact (Multiset.mem_filterMap _ _).mpr ⟨ev,here,by rw [impl]; rfl⟩
  have set : version ∈ sim.app.tables.ledger.timers := Multiset.mem_map.mpr ⟨_,scheduled,rfl⟩
  have counted := ledger.timers version
  have positive := Multiset.count_pos.mpr set
  have before : version ∈ triggered crypto start sim.calls :=
    List.count_pos_iff.mp (show 0 < (Deadlines.openings _).count version by omega)
  exact (List.nodup_append.mp distinct).2.2 version before version (List.mem_singleton_self _) rfl

/-- A call that opens nothing and closes timely. -/
theorem Timed.settle (timed : sim.Timed crypto start this entries)
    {ev : Event SkdcEvent} {rest : Multiset (Event SkdcEvent)} (split : entries = ev ::ₘ rest)
    {next : SimulatorTrace q} (after : next.Accounts this rest)
    (scheduled : next.history.scheduled = sim.trace.history.scheduled)
    {call : SkdcCall} {app : SkdcApplication} {note : Option (Deadlines.Note UInt32 RekeyRecord)}
    (seen : observe crypto sim.app call = (app,note))
    (silent : note.bind Deadlines.Note.opening = none)
    (timers : rest.filterMap (fun ev => ev.impl.timeout) = ↑app.rekey_timeouts)
    (fewer : ∀ (ver : UInt32) (send : Nat), app.m_rekey_send_times[ver]? = some send →
      sim.app.m_rekey_send_times[ver]? = some send)
    (timely : ∀ version record, note.bind Deadlines.Note.outcome = some (version,record) →
      record.Timely) :
    Timed crypto start this ⟨next,app,sim.calls ++ [call]⟩ rest where
  accounts := after
  app := by
    rw [Run.final_append,← timed.app,Run.final_cons,Run.final_nil,seen]
  few := by
    have quiet : triggered crypto start (sim.calls ++ [call]) = triggered crypto start sim.calls := by
      rw [triggered,triggered,rekeyNotes_snoc,← timed.app,seen,Deadlines.openings,
        List.filterMap_append]
      cases note with
      | none => exact List.append_nil _
      | some note =>
        rw [Option.bind_some] at silent
        simp [silent,Deadlines.openings]
    rw [quiet,scheduled]
    exact timed.few
  timers := timers
  due other member ver exp send impl sent :=
    timed.due other (split ▸ Multiset.mem_cons_of_mem member) ver exp send impl
      (fewer ver send sent)
  planned other member := timed.planned other (split ▸ Multiset.mem_cons_of_mem member)
  timely := by
    intro record written
    rw [records,rekeyNotes_snoc,← timed.app,seen,Deadlines.outcomes,List.filterMap_append,
      List.map_append,List.mem_append] at written
    rcases written with before | now
    · exact timed.timely record before
    · cases note with
      | none => cases now
      | some note =>
        cases outcome : note.outcome with
        | none => simp [outcome] at now
        | some pair =>
          obtain rfl : record = pair.2 := by simpa [outcome] using now
          exact timely pair.1 pair.2 outcome

/-- A call that opens a rekey, whose timeout is the next event to be scheduled. -/
theorem Timed.open_rekey (timed : sim.Timed crypto start this entries)
    (unopened : start.m_rekey_send_times = ∅) (unscheduled : start.rekey_timeouts = [])
    {ev : Event SkdcEvent} {rest : Multiset (Event SkdcEvent)} (split : entries = ev ::ₘ rest)
    {next : SimulatorTrace q} (after : next.Accounts this rest)
    (scheduled : next.history.scheduled = sim.trace.history.scheduled)
    (room : next.Room rekeyDelay)
    {call : SkdcCall} {app : SkdcApplication} {version : UInt32} {members : Nat}
    (seen : observe crypto sim.app call = (app,some (.opened version)))
    (made : app.tables = sim.app.tables.opened version next.sim.m_currentTs.toNat members)
    (timers : rest.filterMap (fun ev => ev.impl.timeout) = ↑sim.app.rekey_timeouts) :
    Timed crypto start this
      ⟨(next.step (.schedule rekeyDelay (.rekeyTimeout version members))).1,app,
        sim.calls ++ [call]⟩
      ((next.sim.schedule rekeyDelay (.rekeyTimeout version members)).1 ::ₘ rest) := by
  have fresh := timed.fresh unopened unscheduled (congrArg Prod.snd seen)
  have send_times : app.m_rekey_send_times =
      sim.app.m_rekey_send_times.insert version next.sim.m_currentTs.toNat :=
    congrArg RekeyTables.send_times made
  have timeouts : app.rekey_timeouts = sim.app.rekey_timeouts ++ [(version,members)] :=
    congrArg RekeyTables.timeouts made
  have notes : rekeyNotes crypto start (sim.calls ++ [call]) =
      rekeyNotes crypto start sim.calls ++ [.opened version] := by
    rw [rekeyNotes_snoc,← timed.app,seen]
    rfl
  constructor
  · exact after.insert room rfl rfl
  · rw [Run.final_append,← timed.app,Run.final_cons,Run.final_nil,seen]
  · have few := timed.few
    rw [triggered,Deadlines.openings] at few
    have grown : (next.step (.schedule rekeyDelay (.rekeyTimeout version members))).1.history.scheduled.length =
        sim.trace.history.scheduled.length+1 := by
      rw [← scheduled]
      exact List.length_append
    rw [triggered,notes,Deadlines.openings,List.filterMap_append,List.length_append,grown]
    exact Nat.add_le_add_right few 1
  · refine (Multiset.filterMap_cons_some (fun ev : Event SkdcEvent => ev.impl.timeout)
      (next.sim.schedule rekeyDelay (.rekeyTimeout version members)).1 rest rfl).trans ?_
    rw [timers,timeouts]
    exact Multiset.coe_eq_coe.mpr (List.perm_append_singleton _ _).symm
  · simp only [Multiset.forall_mem_cons]
    rw [send_times]
    constructor
    · intro ver exp send impl sent
      obtain ⟨rfl,-⟩ : version = ver ∧ members = exp := by
        cases impl
        exact ⟨rfl,rfl⟩
      rw [Std.ExtTreeMap.getElem?_insert_self] at sent
      cases sent
      change (rekeyDelay+next.sim.m_currentTs).toNat = _
      rw [UInt64.toNat_add,Nat.mod_eq_of_lt (room.ts.trans (by omega)),Nat.add_comm]
    · intro other member ver exp send impl sent
      have before : other ∈ entries := split ▸ Multiset.mem_cons_of_mem member
      have differs : version ≠ ver := by
        rintro rfl
        exact fresh other before exp impl
      refine timed.due other before ver exp send impl ?_
      rwa [Std.ExtTreeMap.getElem?_insert,if_neg (by simpa using differs)] at sent
  · simp only [Multiset.forall_mem_cons]
    exact ⟨fun made impl => (by cases impl),
      fun other member => timed.planned other (split ▸ Multiset.mem_cons_of_mem member)⟩
  · intro record written
    refine timed.timely record ?_
    rw [records,notes,Deadlines.outcomes,List.filterMap_append] at written
    simpa [records,Deadlines.outcomes,Deadlines.Note.outcome] using written

/-- The next event runs code of the SKDC, which keeps its timeouts in step with the simulator. -/
theorem Timed.handle (timed : sim.Timed crypto start this entries)
    (unopened : start.m_rekey_send_times = ∅) (unscheduled : start.rekey_timeouts = [])
    (unfinished : sim.trace.sim.isFinished = false)
    (room : (sim.trace.step .processOneEvent).1.Room rekeyDelay) :
    ∃ left, (sim.handle crypto).Timed crypto start this left := by
  obtain ⟨rest,first,after⟩ := timed.accounts.process (Bool.or_eq_false_iff.mp unfinished).1
  have arrived : (sim.trace.step .processOneEvent).1.sim.m_currentTs =
    sim.trace.sim.processOneEvent.2.1.key.m_ts := rfl
  have scheduled : (sim.trace.step .processOneEvent).1.history.scheduled =
    sim.trace.history.scheduled := rfl
  rw [SkdcSimulation.handle]
  change (sim.trace.step .processOneEvent).1.Accounts this rest at after
  generalize (sim.trace.step .processOneEvent).1 = next at *
  generalize sim.trace.sim.processOneEvent.2.1 = ev at *
  have split := first.split
  have here : ev ∈ entries := split ▸ Multiset.mem_cons_self ev rest
  have timers := timed.timers
  rw [split] at timers
  -- Only a timeout of the SKDC itself makes the call that closes a rekey as timed out.
  cases impl : ev.impl with
  | call made =>
    have planned := timed.planned ev here made impl
    rw [Multiset.filterMap_cons_none ev rest (by rw [impl]; rfl)] at timers
    obtain ⟨call,same⟩ : ∃ call, (SkdcEvent.call made).made ev.key.m_ts.toNat = call := ⟨_,rfl⟩
    have effect := observe_effect crypto sim.app call
    rw [same]
    obtain ⟨⟨app,note⟩,seen⟩ : ∃ outcome, observe crypto sim.app call = outcome := ⟨_,rfl⟩
    simp only [seen] at effect ⊢
    generalize tables_eq : app.tables = tables at effect
    cases effect with
    | opened version plain clock =>
      rw [clock made _ same.symm,← arrived] at tables_eq
      exact ⟨_,timed.open_rekey unopened unscheduled split after scheduled room seen tables_eq
        timers⟩
    | settled sent latency status =>
      obtain rfl := SkdcCall.atTime_ack same
      have timeouts : app.rekey_timeouts = sim.app.rekey_timeouts :=
        congrArg RekeyTables.timeouts tables_eq
      obtain ⟨other,coming,due⟩ := timed.pending unopened unscheduled sent
      have before := EventKey.ts_le (first.le other coming)
      refine ⟨rest,timed.settle split after scheduled seen rfl (timeouts ▸ timers) ?_ ?_⟩
      · exact fun ver send => erased_sent (congrArg RekeyTables.send_times tables_eq)
      · rintro _ _ ⟨⟩
        exact .inr ⟨status,by omega⟩
    | closed => exact absurd same (SkdcCall.atTime_planned planned)
    | lapsed => exact absurd same (SkdcCall.atTime_planned planned)
    | quiet ack_map =>
      have timeouts : app.rekey_timeouts = sim.app.rekey_timeouts :=
        congrArg RekeyTables.timeouts tables_eq
      have send_times : app.m_rekey_send_times = sim.app.m_rekey_send_times :=
        congrArg RekeyTables.send_times tables_eq
      refine ⟨rest,timed.settle split after scheduled seen rfl (timeouts ▸ timers) ?_ ?_⟩
      · exact fun ver send sent => send_times ▸ sent
      · rintro _ _ ⟨⟩
  | rekeyTimeout ver exp =>
    rw [Multiset.filterMap_cons_some (fun ev : Event SkdcEvent => ev.impl.timeout) ev rest
      (show _ = some (ver,exp) by rw [impl]; rfl)] at timers
    have effect := observe_effect crypto sim.app (.rekeyTimeout ev.key.m_ts.toNat ver exp)
    obtain ⟨⟨app,note⟩,seen⟩ : ∃ outcome,
      observe crypto sim.app (.rekeyTimeout ev.key.m_ts.toNat ver exp) = outcome := ⟨_,rfl⟩
    simp only [SkdcEvent.made,seen] at effect ⊢
    generalize tables_eq : app.tables = tables at effect
    have erased : rest.filterMap (fun ev => ev.impl.timeout) =
        ↑(sim.app.rekey_timeouts.erase (ver,exp)) := by
      have set : (ver,exp) ∈ sim.app.rekey_timeouts :=
        Multiset.mem_coe.mp (timers ▸ Multiset.mem_cons_self _ _)
      exact (Multiset.cons_inj_right _).mp
        (timers.trans (Multiset.coe_eq_coe.mpr (List.perm_cons_erase set)))
    cases effect with
    | opened version plain => cases plain
    | closed set sent latency status =>
      have timeouts : app.rekey_timeouts = sim.app.rekey_timeouts.erase (ver,exp) :=
        congrArg RekeyTables.timeouts tables_eq
      have due := timed.due ev here ver exp _ impl sent
      refine ⟨rest,timed.settle split after scheduled seen rfl (timeouts ▸ erased) ?_ ?_⟩
      · exact fun ver send => erased_sent (congrArg RekeyTables.send_times tables_eq)
      · rintro _ _ ⟨⟩
        exact .inl ⟨status,by omega⟩
    | lapsed set =>
      have timeouts : app.rekey_timeouts = sim.app.rekey_timeouts.erase (ver,exp) :=
        congrArg RekeyTables.timeouts tables_eq
      have send_times : app.m_rekey_send_times = sim.app.m_rekey_send_times :=
        congrArg RekeyTables.send_times tables_eq
      refine ⟨rest,timed.settle split after scheduled seen rfl (timeouts ▸ erased) ?_ ?_⟩
      · exact fun ver send sent => send_times ▸ sent
      · rintro _ _ ⟨⟩
    | quiet ack_map unset =>
      refine absurd ?_ (unset _ _ _ rfl)
      exact Multiset.mem_coe.mp (timers ▸ Multiset.mem_cons_self _ _)

theorem Timed.plan (timed : sim.Timed crypto start this entries)
    {delay : UInt64} (room : sim.trace.Room delay) (context : UInt32)
    {made : SkdcCall} (planned : ∀ sim_now ver exp, made ≠ .rekeyTimeout sim_now ver exp) :
    ∃ left, Timed crypto start this { sim with
      trace := (sim.trace.step (.scheduleWithContext context delay (.call made))).1 } left := by
  refine ⟨(sim.trace.sim.scheduleWithContext context delay (.call made)).1 ::ₘ entries,?_⟩
  exact { timed with
    accounts := timed.accounts.insert room rfl rfl
    few := timed.few.trans (by
      change _ ≤ (_ ++ [_]).length
      rw [List.length_append]
      omega)
    timers := (Multiset.filterMap_cons_none _ entries rfl).trans timed.timers
    due := Multiset.forall_mem_cons.mpr ⟨fun _ _ _ impl => (by cases impl),timed.due⟩
    planned := Multiset.forall_mem_cons.mpr ⟨by
      rintro _ ⟨⟩
      exact planned,timed.planned⟩ }

end SkdcSimulation

/-- The timeouts among the events to come are those of the SKDC, each five seconds after its rekey was
sent. A rekey times out then or is acknowledged by then, and when no event is left each has one
record. -/
theorem rekeys_timely (crypto : Primitives) {start : SkdcApplication}
    (unopened : start.m_rekey_send_times = ∅) (unscheduled : start.rekey_timeouts = [])
    (this : Schedules q removals) {actions : List SkdcAction}
    (allowed : Run.Along (SkdcSimulation.step crypto) SkdcSimulation.Allowed
      (⟨{},start,[]⟩ : SkdcSimulation q) actions) :
    let sim := Run.final (SkdcSimulation.step crypto) ⟨{},start,[]⟩ actions
    sim.app = Run.final (observe crypto) start sim.calls ∧
    (∃ entries, this.Holds sim.trace.sim.m_events entries ∧
      entries.filterMap (fun ev => ev.impl.timeout) = ↑sim.app.rekey_timeouts ∧
      ∀ ev ∈ entries, ∀ ver exp send, ev.impl = .rekeyTimeout ver exp →
        sim.app.m_rekey_send_times[ver]? = some send →
          ev.key.m_ts.toNat = send+rekeyDelay.toNat) ∧
    (∀ record ∈ records crypto start sim.calls, record.Timely) ∧
    (q.isEmpty sim.trace.sim.m_events = true → ∀ version ∈ triggered crypto start sim.calls,
      ((records crypto start sim.calls).map (·.tek_version)).count version = 1) := by
  intro sim
  have initial : SkdcSimulation.Timed crypto start this (⟨{},start,[]⟩ : SkdcSimulation q) 0 := {
    accounts := .start
    app := rfl
    few := Nat.le_refl 0
    timers := by rw [unscheduled]; rfl
    due := fun _ impossible => absurd impossible (Multiset.notMem_zero _)
    planned := fun _ impossible => absurd impossible (Multiset.notMem_zero _)
    timely := fun _ impossible => by cases impossible }
  obtain ⟨entries,timed⟩ : ∃ entries, sim.Timed crypto start this entries := by
    refine @Run.Along.invariant _ _ _ _ _ _ (fun sim => ∃ entries, sim.Timed crypto start this entries)
      _ allowed ?_ ⟨0,initial⟩
    rintro before action allowed ⟨entries,timed⟩
    cases action with
    | plan context delay made => exact timed.plan allowed.2 context allowed.1
    | processOneEvent => exact timed.handle unopened unscheduled allowed.1 allowed.2
  refine ⟨timed.app,⟨entries,timed.accounts.holds,timed.timers,timed.due⟩,timed.timely,
    fun finished version opened => ?_⟩
  have versions := timed.versions
  have few : (triggered crypto start sim.calls).length < 2^32 := by omega
  have ledger := ledger_accounts crypto unopened unscheduled sim.calls few
  rw [← timed.app] at ledger
  -- The timeouts that are still set are among the events to come, of which none is left.
  have none_left : sim.app.rekey_timeouts = [] := by
    have timers := timed.timers
    rw [(this.isEmpty timed.accounts.holds).mp finished] at timers
    exact (Multiset.coe_eq_zero _).mp timers.symm
  rw [records_versions]
  refine (ledger.once (triggered_nodup crypto start sim.calls few) version).2 ?_
  refine (ledger.due opened).resolve_right fun set => ?_
  rw [RekeyTables.ledger,tables,none_left] at set
  exact absurd set (Multiset.notMem_zero _)

/-- A rekey that nobody acknowledges. -/
theorem rekeys_timely_unacknowledged :
    let actions : List SkdcAction := [.plan 0 7 (.triggerRekey sampleRekeyDraws),.processOneEvent,
      .processOneEvent]
    let sim := Run.final (SkdcSimulation.step rotationCrypto)
      (⟨{},startedSkdc,[]⟩ : SkdcSimulation MapScheduler.queue) actions
    triggered rotationCrypto startedSkdc sim.calls = [2] ∧
      ((records rotationCrypto startedSkdc sim.calls).map (·.tek_version)).count 2 = 1 := by
  intro actions sim
  have allowed : Run.Along (SkdcSimulation.step rotationCrypto) SkdcSimulation.Allowed
      (⟨{},startedSkdc,[]⟩ : SkdcSimulation MapScheduler.queue) actions := by
    refine .cons ⟨?_,⟨by decide,by decide,by decide⟩⟩ (.cons ⟨rfl,?_⟩ (.cons ⟨rfl,?_⟩ .nil))
    · rintro _ _ _ ⟨⟩
    · exact ⟨by decide +kernel,by decide +kernel,by decide +kernel⟩
    · exact ⟨by decide +kernel,by decide +kernel,by decide +kernel⟩
  have opened : triggered rotationCrypto startedSkdc sim.calls = [2] := by decide +kernel
  refine ⟨opened,?_⟩
  refine (rekeys_timely rotationCrypto rfl rfl (MapScheduler.schedules True) allowed).2.2.2 rfl 2 ?_
  rw [opened]
  exact List.mem_singleton_self 2

end Timed
end UavFanet.Apps
