import UavFanet.EventSchedulers
import UavFanet.Library.Run

/-! `DefaultSimulatorImpl` over any of the schedulers, and the calls that a program makes to it. -/
namespace UavFanet.Ns3
open Library

variable {I : Type}

/-- None where there is no `EventImpl`. -/
abbrev EventId (I : Type) := Option (Event I)

/-- Each event comes with an `EventImpl` of its own, so `m_cancel` is known by the uid: `cancelled`
holds the uids of those where it is set. -/
structure SimulatorState where
  m_uid : UInt32 := 4
  m_currentUid : UInt32 := 0
  m_currentTs : UInt64 := 0
  m_currentContext : UInt32 := 0xffffffff
  m_eventCount : UInt64 := 0
  m_unscheduledEvents : Int32 := 0
  m_stop : Bool := false
  cancelled : List UInt32 := []

namespace SimulatorState

def isExpired (id : EventId I) (state : SimulatorState) : Bool :=
  match id with
  | none => true
  | some ev => ev.key.m_ts < state.m_currentTs ||
      (ev.key.m_ts == state.m_currentTs && ev.key.m_uid ≤ state.m_currentUid) ||
      state.cancelled.contains ev.key.m_uid

def getDelayLeft (id : EventId I) (state : SimulatorState) : UInt64 :=
  match id with
  | none => 0
  | some ev => if state.isExpired id then 0 else ev.key.m_ts-state.m_currentTs

end SimulatorState

structure DefaultSimulatorImpl (q : EventQueue (Event I)) extends SimulatorState where
  m_events : q.State := q.empty

namespace DefaultSimulatorImpl

variable {q : EventQueue (Event I)}

def insert (ev : Event I) (sim : DefaultSimulatorImpl q) : DefaultSimulatorImpl q := { sim with
  m_uid := sim.m_uid+1
  m_unscheduledEvents := sim.m_unscheduledEvents+1
  m_events := q.insert ev sim.m_events }

/-- What `Schedule` and `ScheduleWithContext` share. -/
def enter (context : UInt32) (ts : UInt64) (event : I) (sim : DefaultSimulatorImpl q) :
    Event I × DefaultSimulatorImpl q :=
  let ev : Event I := ⟨event,⟨ts,sim.m_uid,context⟩⟩
  (ev,sim.insert ev)

/-- A delay is not negative, so that the sum of times is that of their 64 bits. -/
def schedule (delay : UInt64) (event : I) (sim : DefaultSimulatorImpl q) :
    Event I × DefaultSimulatorImpl q :=
  enter sim.m_currentContext (delay+sim.m_currentTs) event sim

def scheduleWithContext (context : UInt32) (delay : UInt64) (event : I)
    (sim : DefaultSimulatorImpl q) : Event I × DefaultSimulatorImpl q :=
  enter context (delay+sim.m_currentTs) event sim

/-- With the event whose `EventImpl` is cancelled. -/
def cancel (id : EventId I) (sim : DefaultSimulatorImpl q) :
    DefaultSimulatorImpl q × Option (Event I) :=
  match id with
  | none => (sim,none)
  | some ev =>
    if sim.isExpired id then (sim,none)
    else ({ sim with cancelled := ev.uid :: sim.cancelled },some ev)

/-- With the event that is taken out of the event list. -/
def remove (id : EventId I) (sim : DefaultSimulatorImpl q) :
    DefaultSimulatorImpl q × Option (Event I) :=
  match id with
  | none => (sim,none)
  | some ev =>
    if sim.isExpired id then (sim,none)
    else ({ sim with
      m_events := q.remove ev sim.m_events
      cancelled := ev.uid :: sim.cancelled
      m_unscheduledEvents := sim.m_unscheduledEvents-1 },some ev)

/-- The event that is handled, and whether its `EventImpl` was invoked. -/
def processOneEvent (sim : DefaultSimulatorImpl q) : DefaultSimulatorImpl q × Event I × Bool :=
  let next := q.removeNext sim.m_events
  ({ sim with
    m_events := next.2
    m_unscheduledEvents := sim.m_unscheduledEvents-1
    m_eventCount := sim.m_eventCount+1
    m_currentTs := next.1.key.m_ts
    m_currentContext := next.1.key.m_context
    m_currentUid := next.1.key.m_uid },next.1,!sim.cancelled.contains next.1.uid)

def isFinished (sim : DefaultSimulatorImpl q) : Bool := q.isEmpty sim.m_events || sim.m_stop

end DefaultSimulatorImpl

/-- The calls to the simulator. `run` is what `Run` does before its loop, which handles the events
one by one. -/
inductive SimulatorCall (I : Type) where
  | schedule (delay : UInt64) (event : I)
  | scheduleWithContext (context : UInt32) (delay : UInt64) (event : I)
  | cancel (id : EventId I)
  | remove (id : EventId I)
  | isExpired (id : EventId I)
  | getDelayLeft (id : EventId I)
  | run
  | stop
  | processOneEvent

/-- What a call does to the events, or its answer. -/
inductive SimulatorNote (I : Type) where
  | scheduled (ev : Event I)
  | cancelled (ev : Event I)
  | removed (ev : Event I)
  | handled (ev : Event I) (invoked : Bool)
  | expired (answer : Bool)
  | delayLeft (ts : UInt64)
  deriving DecidableEq

namespace DefaultSimulatorImpl

variable {q : EventQueue (Event I)}

def perform (sim : DefaultSimulatorImpl q) :
    SimulatorCall I → DefaultSimulatorImpl q × Option (SimulatorNote I)
  | .schedule delay event =>
    ((sim.schedule delay event).2,some (.scheduled (sim.schedule delay event).1))
  | .scheduleWithContext context delay event =>
    ((sim.scheduleWithContext context delay event).2,
      some (.scheduled (sim.scheduleWithContext context delay event).1))
  | .cancel id => ((sim.cancel id).1,(sim.cancel id).2.map .cancelled)
  | .remove id => ((sim.remove id).1,(sim.remove id).2.map .removed)
  | .isExpired id => (sim,some (.expired (sim.isExpired id)))
  | .getDelayLeft id => (sim,some (.delayLeft (sim.getDelayLeft id)))
  | .run => ({ sim with m_stop := false },none)
  | .stop => ({ sim with m_stop := true },none)
  | .processOneEvent =>
    (sim.processOneEvent.1,some (.handled sim.processOneEvent.2.1 sim.processOneEvent.2.2))

end DefaultSimulatorImpl
end UavFanet.Ns3
