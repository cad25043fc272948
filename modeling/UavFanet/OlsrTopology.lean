import UavFanet.Olsr
import UavFanet.Library.PartialRuns
import Mathlib.Data.List.Induction
import Mathlib.Data.List.Nodup
import Mathlib.Tactic.Positivity

/-! What an OLSR router keeps of the TC messages that it hears, and for how long. -/
namespace UavFanet.Olsr
open Library.PartialRuns

/-- Times are in nanoseconds, in the range of `Time`: `DELAY` adds a microsecond. -/
def delay (now time : Int) : Int :=
  if time < now then 1000 else time-now+1000

/-- The first tuple that passes the test is changed in its place. -/
def modifyFirst {T : Type} (test : T → Bool) (change : T → T) : List T → List T
  | [] => []
  | tuple :: tuples =>
    if test tuple then change tuple :: tuples else tuple :: modifyFirst test change tuples

theorem mem_modifyFirst {T : Type} {test : T → Bool} {change : T → T} {tuples : List T} {t : T}
    (inside : t ∈ modifyFirst test change tuples) :
    t ∈ tuples ∨ ∃ s ∈ tuples, test s = true ∧ change s = t := by
  induction tuples with
  | nil => exact .inl inside
  | cons tuple tuples ih =>
    rw [modifyFirst] at inside
    by_cases passes : test tuple = true
    · rw [if_pos passes,List.mem_cons] at inside
      rcases inside with rfl | later
      · exact .inr ⟨tuple,List.mem_cons_self ..,passes,rfl⟩
      · exact .inl (List.mem_cons_of_mem _ later)
    · rw [if_neg passes,List.mem_cons] at inside
      rcases inside with rfl | later
      · exact .inl (List.mem_cons_self ..)
      · rcases ih later with kept | ⟨s,known,changed⟩
        · exact .inl (List.mem_cons_of_mem _ kept)
        · exact .inr ⟨s,List.mem_cons_of_mem _ known,changed⟩

theorem map_modifyFirst {T U : Type} {test : T → Bool} {change : T → T} {image : T → U}
    (same : ∀ t, image (change t) = image t) (tuples : List T) :
    (modifyFirst test change tuples).map image = tuples.map image := by
  induction tuples with
  | nil => rfl
  | cons tuple tuples ih =>
    rw [modifyFirst]
    split
    · rw [List.map_cons,List.map_cons,same]
    · rw [List.map_cons,List.map_cons,ih]

theorem mem_modifyFirst_of_mem {T : Type} {test : T → Bool} {change : T → T} {tuples : List T} {s : T}
    (inside : s ∈ tuples) :
    s ∈ modifyFirst test change tuples ∨ test s = true := by
  induction tuples with
  | nil => nomatch inside
  | cons tuple tuples ih =>
    rw [modifyFirst]
    split
    next passes =>
      rcases List.mem_cons.mp inside with rfl | later
      · exact .inr passes
      · exact .inl (List.mem_cons_of_mem _ later)
    · rcases List.mem_cons.mp inside with rfl | later
      · exact .inl (List.mem_cons_self ..)
      · exact (ih later).imp_left (List.mem_cons_of_mem _)

theorem modifyFirst_found {T : Type} {test : T → Bool} {change : T → T} {tuples : List T} {s : T}
    (found : tuples.find? test = some s) : change s ∈ modifyFirst test change tuples := by
  induction tuples with
  | nil => nomatch found
  | cons tuple tuples ih =>
    rw [List.find?_cons] at found
    rw [modifyFirst]
    split
    next passes =>
      rw [passes] at found
      cases found
      exact List.mem_cons_self ..
    next fails =>
      rw [Bool.eq_false_of_not_eq_true fails] at found
      exact List.mem_cons_of_mem _ (ih found)

section Pair
variable {T A B : Type} [DecidableEq A] [DecidableEq B] {first : T → A} {second : T → B}
  {a : A} {b : B} {tuples : List T} {t : T}

theorem find_pair_some (found : tuples.find? (fun s => first s == a && second s == b) = some t) :
    t ∈ tuples ∧ (first t,second t) = (a,b) := by
  have passes := List.find?_some found
  rw [Bool.and_eq_true,beq_iff_eq,beq_iff_eq] at passes
  exact ⟨List.mem_of_find?_eq_some found,Prod.ext passes.1 passes.2⟩

theorem find_pair_none (missing : tuples.find? (fun s => first s == a && second s == b) = none)
    (inside : t ∈ tuples) : (first t,second t) ≠ (a,b) := by
  intro named
  have fails := List.find?_eq_none.mp missing t inside
  rw [Bool.and_eq_true,beq_iff_eq,beq_iff_eq] at fails
  exact fails ⟨congrArg Prod.fst named,congrArg Prod.snd named⟩

end Pair

namespace OlsrState

def findLinkTuple (state : OlsrState) (ifaceAddr : UInt32) : Option LinkTuple :=
  state.linkSet.find? (·.neighborIfaceAddr == ifaceAddr)

/-- Only the first link from the address is looked at. -/
def findSymLinkTuple (state : OlsrState) (ifaceAddr : UInt32) (now : Int) : Option LinkTuple :=
  (state.findLinkTuple ifaceAddr).filter fun tuple => decide (tuple.symTime > now)

def findTopologyTuple (state : OlsrState) (destAddr lastAddr : UInt32) : Option TopologyTuple :=
  state.topologySet.find? fun tuple => tuple.destAddr == destAddr && tuple.lastAddr == lastAddr

def findNewerTopologyTuple (state : OlsrState) (lastAddr : UInt32) (ansn : UInt16) :
    Option TopologyTuple :=
  state.topologySet.find? fun tuple =>
    tuple.lastAddr == lastAddr && decide (tuple.sequenceNumber > ansn)

/-- The tuple that `findTopologyTuple` gives gets another time. -/
def renewTopologyTuple (state : OlsrState) (destAddr lastAddr : UInt32) (expirationTime : Int) :
    OlsrState :=
  let topologySet := modifyFirst
    (fun tuple => tuple.destAddr == destAddr && tuple.lastAddr == lastAddr)
    (fun tuple => { tuple with expirationTime }) state.topologySet
  { state with topologySet }

/-- The first tuple that equals it is erased, whatever its time. -/
def eraseTopologyTuple (state : OlsrState) (tuple : TopologyTuple) : OlsrState :=
  { state with topologySet := state.topologySet.eraseP fun it =>
      it.destAddr == tuple.destAddr && it.lastAddr == tuple.lastAddr &&
        it.sequenceNumber == tuple.sequenceNumber }

def eraseOlderTopologyTuples (state : OlsrState) (lastAddr : UInt32) (ansn : UInt16) : OlsrState :=
  { state with topologySet := state.topologySet.filter fun tuple =>
      !(tuple.lastAddr == lastAddr && decide (tuple.sequenceNumber < ansn)) }

def insertTopologyTuple (state : OlsrState) (tuple : TopologyTuple) : OlsrState :=
  { state with topologySet := state.topologySet ++ [tuple] }

end OlsrState

/-- A pending call of `TopologyTupleTimerExpire`. -/
structure TopologyTimer where
  time : Int
  destAddr : UInt32
  lastAddr : UInt32
deriving DecidableEq

/-- The state of a router at a time, and those of its `m_events` that are about its topology set. -/
structure TimedState where
  now : Int
  m_state : OlsrState
  m_events : List TopologyTimer := []

/-- Only a TC message has such a part. -/
def MessageHeader.getTc (msg : MessageHeader) : Option Tc :=
  match msg.m_message with
  | .tc tc => some tc
  | _ => none

namespace TimedState

def schedule (node : TimedState) (tuple : TopologyTuple) : TimedState :=
  { node with m_events := node.m_events ++
      [⟨node.now+delay node.now tuple.expirationTime,tuple.destAddr,tuple.lastAddr⟩] }

/-- One advertised neighbor of a TC message. -/
def advertise (msg : MessageHeader) (ansn : UInt16) (node : TimedState) (addr : UInt32) :
    TimedState :=
  let expirationTime := node.now+msg.getVTime
  match node.m_state.findTopologyTuple addr msg.m_originatorAddress with
  | some _ =>
    let m_state := node.m_state.renewTopologyTuple addr msg.m_originatorAddress expirationTime
    { node with m_state }
  | none =>
    let topologyTuple : TopologyTuple := ⟨addr,msg.m_originatorAddress,ansn,expirationTime⟩
    { node with m_state := node.m_state.insertTopologyTuple topologyTuple }.schedule topologyTuple

/-- The message comes over a symmetric link and no newer one of its originator is known. -/
def heeds (node : TimedState) (msg : MessageHeader) (tc : Tc) (senderIface : UInt32) : Bool :=
  (node.m_state.findSymLinkTuple senderIface node.now).isSome &&
    (node.m_state.findNewerTopologyTuple msg.m_originatorAddress tc.ansn).isNone

/-- A message without a TC part has no result. -/
def processTc (node : TimedState) (msg : MessageHeader) (senderIface : UInt32) :
    Option TimedState := do
  let tc ← msg.getTc
  if !node.heeds msg tc senderIface then return node
  let m_state := node.m_state.eraseOlderTopologyTuples msg.m_originatorAddress tc.ansn
  return tc.neighborAddresses.foldl (advertise msg tc.ansn) { node with m_state }

def topologyTupleTimerExpire (node : TimedState) (destAddr lastAddr : UInt32) : TimedState :=
  match node.m_state.findTopologyTuple destAddr lastAddr with
  | none => node
  | some tuple =>
    if tuple.expirationTime < node.now then
      { node with m_state := node.m_state.eraseTopologyTuple tuple }
    else node.schedule tuple

end TimedState

/-- What happens to a router. Nothing but TC messages and these timers writes the topology set. -/
inductive TopologyEvent where
  | wait (time : Int)
  | receive (msg : MessageHeader) (senderIface : UInt32)
  | expire (timer : TopologyTimer)
  | other (m_state : OlsrState)

namespace TimedState

/-- The time passes up to the next timer, which then expires before it passes on. -/
def step (node : TimedState) : TopologyEvent → Option TimedState
  | .wait time =>
    if node.now ≤ time ∧ ∀ timer ∈ node.m_events, time ≤ timer.time then
      some { node with now := time }
    else none
  | .receive msg senderIface => node.processTc msg senderIface
  | .expire timer =>
    if timer ∈ node.m_events ∧ timer.time = node.now then
      some ({ node with m_events := node.m_events.erase timer }.topologyTupleTimerExpire
        timer.destAddr timer.lastAddr)
    else none
  | .other m_state =>
    some { node with m_state := { m_state with topologySet := node.m_state.topologySet } }

def run (node : TimedState) (events : List TopologyEvent) : Option TimedState :=
  events.foldlM step node

end TimedState

/-- The router took the message in at that time of its run. -/
def Heeded (start : TimedState) (events : List TopologyEvent) (time : Int) (msg : MessageHeader)
    (tc : Tc) : Prop :=
  ∃ before senderIface after node, events = before ++ .receive msg senderIface :: after ∧
    start.run before = some node ∧ node.now = time ∧ msg.getTc = some tc ∧
    node.heeds msg tc senderIface = true

/-- The message tells of the tuple. -/
def Tells (msg : MessageHeader) (tc : Tc) (tuple : TopologyTuple) : Prop :=
  msg.m_originatorAddress = tuple.lastAddr ∧ tc.ansn = tuple.sequenceNumber ∧
    tuple.destAddr ∈ tc.neighborAddresses

def TopologyTuple.key (tuple : TopologyTuple) : UInt32 × UInt32 :=
  (tuple.destAddr,tuple.lastAddr)

/-- A message heard tells of the tuple and holds up to that time. -/
def Until (told : Int → MessageHeader → Tc → Prop) (tuple : TopologyTuple) (time : Int) : Prop :=
  ∃ heard msg tc, told heard msg tc ∧ Tells msg tc tuple ∧ time ≤ heard+msg.getVTime

structure Current (told : Int → MessageHeader → Tc → Prop) (node : TimedState) : Prop where
  unique : (node.m_state.topologySet.map TopologyTuple.key).Nodup
  fresh : ∀ s ∈ node.m_state.topologySet, ∀ t ∈ node.m_state.topologySet,
    s.lastAddr = t.lastAddr → s.sequenceNumber = t.sequenceNumber
  valid : ∀ t ∈ node.m_state.topologySet, Until told t t.expirationTime
  timed : ∀ t ∈ node.m_state.topologySet, ∃ timer ∈ node.m_events,
    (timer.destAddr,timer.lastAddr) = t.key ∧ Until told t (timer.time-1000)
  pending : ∀ timer ∈ node.m_events, node.now ≤ timer.time

variable {told : Int → MessageHeader → Tc → Prop} {node : TimedState}

theorem getVTime_nonneg (msg : MessageHeader) : 0 ≤ msg.getVTime := by
  rw [MessageHeader.getVTime,emfToSeconds]
  positivity

theorem delay_eq {now time : Int} (ahead : now ≤ time) : now+delay now time = time+1000 := by
  rw [delay,if_neg (by omega)]
  omega

theorem Until.imp {later : Int → MessageHeader → Tc → Prop} {t : TopologyTuple} {time : Int}
    (before : Until told t time) (more : ∀ heard msg tc, told heard msg tc → later heard msg tc) :
    Until later t time := by
  obtain ⟨heard,msg,tc,known,rest⟩ := before
  exact ⟨heard,msg,tc,more heard msg tc known,rest⟩

theorem Until.same {s t : TopologyTuple} {time : Int} (before : Until told s time) (key : s.key = t.key)
    (seq : s.sequenceNumber = t.sequenceNumber) : Until told t time := by
  obtain ⟨heard,msg,tc,known,⟨source,ansn,listed⟩,lasts⟩ := before
  refine ⟨heard,msg,tc,known,⟨source.trans (congrArg Prod.snd key),ansn.trans seq,?_⟩,lasts⟩
  rw [show t.destAddr = s.destAddr from (congrArg Prod.fst key).symm]
  exact listed

theorem Current.imp {later : Int → MessageHeader → Tc → Prop} (current : Current told node)
    (more : ∀ heard msg tc, told heard msg tc → later heard msg tc) : Current later node where
  unique := current.unique
  fresh := current.fresh
  valid t inside := (current.valid t inside).imp more
  timed t inside := by
    obtain ⟨timer,set,named,held⟩ := current.timed t inside
    exact ⟨timer,set,named,held.imp more⟩
  pending := current.pending

/-- Fewer tuples and the same timers. -/
theorem Current.part {m_state : OlsrState} (current : Current told node)
    (part : m_state.topologySet.Sublist node.m_state.topologySet) :
    Current told { node with m_state } where
  unique := current.unique.sublist (part.map _)
  fresh s inside t within := current.fresh s (part.subset inside) t (part.subset within)
  valid t inside := current.valid t (part.subset inside)
  timed t inside := current.timed t (part.subset inside)
  pending := current.pending

theorem findTopologyTuple_some {state : OlsrState} {destAddr lastAddr : UInt32} {tuple : TopologyTuple}
    (found : state.findTopologyTuple destAddr lastAddr = some tuple) :
    tuple ∈ state.topologySet ∧ tuple.key = (destAddr,lastAddr) :=
  find_pair_some found

theorem findTopologyTuple_none {state : OlsrState} {destAddr lastAddr : UInt32}
    (missing : state.findTopologyTuple destAddr lastAddr = none) {t : TopologyTuple}
    (inside : t ∈ state.topologySet) : t.key ≠ (destAddr,lastAddr) :=
  find_pair_none missing inside

theorem renewTopologyTuple_keys (state : OlsrState) (destAddr lastAddr : UInt32)
    (expirationTime : Int) :
    (state.renewTopologyTuple destAddr lastAddr expirationTime).topologySet.map TopologyTuple.key =
      state.topologySet.map TopologyTuple.key := by
  apply map_modifyFirst
  intro tuple
  rfl

theorem mem_renewTopologyTuple {state : OlsrState} {destAddr lastAddr : UInt32} {expirationTime : Int}
    {t : TopologyTuple}
    (inside : t ∈ (state.renewTopologyTuple destAddr lastAddr expirationTime).topologySet) :
    ∃ s ∈ state.topologySet, s.key = t.key ∧ s.sequenceNumber = t.sequenceNumber ∧
      (s = t ∨ s.key = (destAddr,lastAddr) ∧ t.expirationTime = expirationTime) := by
  rcases mem_modifyFirst inside with kept | ⟨s,known,passes,rfl⟩
  · exact ⟨t,kept,rfl,rfl,.inl rfl⟩
  · rw [Bool.and_eq_true,beq_iff_eq,beq_iff_eq] at passes
    exact ⟨s,known,rfl,rfl,.inr ⟨Prod.ext passes.1 passes.2,rfl⟩⟩

/-- While a TC message is taken in: what is known of its originator is as old as the message. -/
structure Taking (told : Int → MessageHeader → Tc → Prop) (now : Int) (msg : MessageHeader) (tc : Tc)
    (node : TimedState) : Prop where
  current : Current told node
  clock : node.now = now
  level : ∀ t ∈ node.m_state.topologySet,
    t.lastAddr = msg.m_originatorAddress → t.sequenceNumber = tc.ansn

section TakeIn
variable {now : Int} {msg : MessageHeader} {tc : Tc} {addr : UInt32}

theorem Taking.refresh (taking : Taking told now msg tc node) (heard : told now msg tc)
    (named : addr ∈ tc.neighborAddresses) :
    Taking told now msg tc { node with
      m_state := node.m_state.renewTopologyTuple addr msg.m_originatorAddress
        (now+msg.getVTime) } := by
  obtain ⟨current,clock,level⟩ := taking
  refine ⟨⟨?_,fun s inside t within apart => ?_,fun t inside => ?_,fun t inside => ?_,
    current.pending⟩,clock,fun t inside source => ?_⟩
  · rw [renewTopologyTuple_keys]
    exact current.unique
  · obtain ⟨s',known,key,seq,_⟩ := mem_renewTopologyTuple inside
    obtain ⟨t',known',key',seq',_⟩ := mem_renewTopologyTuple within
    rw [← seq,← seq']
    refine current.fresh s' known t' known' ?_
    exact (congrArg Prod.snd key).trans (apart.trans (congrArg Prod.snd key').symm)
  · obtain ⟨s,known,key,seq,kept | ⟨passes,renewed⟩⟩ := mem_renewTopologyTuple inside
    · rw [kept] at known
      exact current.valid t known
    · rw [key] at passes
      rw [renewed]
      refine ⟨now,msg,tc,heard,⟨(congrArg Prod.snd passes).symm,?_,?_⟩,Int.le_refl _⟩
      · rw [← seq]
        exact (level s known ((congrArg Prod.snd key).trans (congrArg Prod.snd passes))).symm
      · rw [show t.destAddr = addr from congrArg Prod.fst passes]
        exact named
  · obtain ⟨s,known,key,seq,_⟩ := mem_renewTopologyTuple inside
    obtain ⟨timer,set,due,held⟩ := current.timed s known
    exact ⟨timer,set,due.trans key,held.same key seq⟩
  · obtain ⟨s,known,key,seq,_⟩ := mem_renewTopologyTuple inside
    rw [← seq]
    exact level s known ((congrArg Prod.snd key).trans source)

theorem Taking.record (taking : Taking told now msg tc node) (heard : told now msg tc)
    (named : addr ∈ tc.neighborAddresses)
    (missing : ∀ t ∈ node.m_state.topologySet, t.key ≠ (addr,msg.m_originatorAddress)) :
    let tuple : TopologyTuple := ⟨addr,msg.m_originatorAddress,tc.ansn,now+msg.getVTime⟩
    Taking told now msg tc
      ({ node with m_state := node.m_state.insertTopologyTuple tuple }.schedule tuple) := by
  obtain ⟨current,clock,level⟩ := taking
  intro tuple
  have lasting := getVTime_nonneg msg
  have held : Until told tuple (now+msg.getVTime) :=
    ⟨now,msg,tc,heard,⟨rfl,rfl,named⟩,Int.le_refl _⟩
  have due : node.now+delay node.now tuple.expirationTime = now+msg.getVTime+1000 := by
    rw [clock]
    exact delay_eq (by change now ≤ now+msg.getVTime; omega)
  refine ⟨⟨?_,?_,?_,?_,?_⟩,clock,?_⟩ <;>
    simp only [TimedState.schedule,OlsrState.insertTopologyTuple,List.mem_append,
      List.mem_singleton,List.map_append,List.map_singleton]
  · rw [List.nodup_append]
    refine ⟨current.unique,List.nodup_singleton _,fun key inside other single => ?_⟩
    obtain ⟨t,known,rfl⟩ := List.mem_map.mp inside
    rw [List.mem_singleton.mp single]
    exact missing t known
  · rintro s (inside | rfl) t (within | rfl) apart
    · exact current.fresh s inside t within apart
    · exact level s inside apart
    · exact (level t within apart.symm).symm
    · rfl
  · rintro t (inside | rfl)
    · exact current.valid t inside
    · exact held
  · rintro t (inside | rfl)
    · obtain ⟨timer,set,rest⟩ := current.timed t inside
      exact ⟨timer,.inl set,rest⟩
    · refine ⟨_,.inr rfl,rfl,?_⟩
      dsimp only
      rw [due,Int.add_sub_cancel]
      exact held
  · rintro timer (set | rfl)
    · exact current.pending timer set
    · dsimp only
      rw [due,clock]
      omega
  · rintro t (inside | rfl) source
    · exact level t inside source
    · rfl

theorem Taking.advertise (taking : Taking told now msg tc node) (heard : told now msg tc)
    (named : addr ∈ tc.neighborAddresses) :
    Taking told now msg tc (node.advertise msg tc.ansn addr) := by
  obtain rfl := taking.clock
  rw [TimedState.advertise]
  split
  next found => exact taking.refresh heard named
  next missing => exact taking.record heard named fun t => findTopologyTuple_none missing

theorem processTc_cases {senderIface : UInt32} {next : TimedState}
    (processed : node.processTc msg senderIface = some next) :
    ∃ tc, msg.getTc = some tc ∧
      (node.heeds msg tc senderIface = false ∧ next = node ∨
        node.heeds msg tc senderIface = true ∧
          next = tc.neighborAddresses.foldl (TimedState.advertise msg tc.ansn) { node with
            m_state := node.m_state.eraseOlderTopologyTuples msg.m_originatorAddress tc.ansn }) := by
  rw [TimedState.processTc,Option.bind_eq_bind,Option.bind_eq_some_iff] at processed
  obtain ⟨tc,part,processed⟩ := processed
  refine ⟨tc,part,?_⟩
  split at processed
  next ignored =>
    cases processed
    exact .inl ⟨by simpa using ignored,rfl⟩
  next heeded =>
    cases processed
    exact .inr ⟨by simpa using heeded,rfl⟩

/-- Once the older tuples are erased, those of the originator are of the message's number. -/
theorem Current.taking {senderIface : UInt32} (current : Current told node)
    (heeded : node.heeds msg tc senderIface = true) :
    Taking told node.now msg tc { node with
      m_state := node.m_state.eraseOlderTopologyTuples msg.m_originatorAddress tc.ansn } := by
  rw [TimedState.heeds,Bool.and_eq_true,Option.isNone_iff_eq_none] at heeded
  refine ⟨current.part List.filter_sublist,rfl,fun t inside source => ?_⟩
  obtain ⟨before,kept⟩ := List.mem_filter.mp inside
  have older := List.find?_eq_none.mp heeded.2 t before
  simp only [source,beq_self_eq_true,Bool.true_and,Bool.not_eq_true',decide_eq_false_iff_not,
    decide_eq_true_eq,UInt16.not_lt,gt_iff_lt] at kept older
  exact UInt16.le_antisymm older kept

theorem Taking.foldl (taking : Taking told now msg tc node) (heard : told now msg tc)
    {addrs : List UInt32} (listed : ∀ addr ∈ addrs, addr ∈ tc.neighborAddresses) :
    Taking told now msg tc (addrs.foldl (TimedState.advertise msg tc.ansn) node) := by
  induction addrs generalizing node with
  | nil => exact taking
  | cons addr addrs ih =>
    exact ih (taking.advertise heard (listed addr (List.mem_cons_self ..)))
      fun a later => listed a (List.mem_cons_of_mem _ later)

theorem Current.processTc {senderIface : UInt32} {next : TimedState} (current : Current told node)
    (processed : node.processTc msg senderIface = some next)
    (heard : ∀ tc, msg.getTc = some tc → node.heeds msg tc senderIface = true →
      told node.now msg tc) : Current told next := by
  obtain ⟨tc,part,⟨_,rfl⟩ | ⟨heeded,rfl⟩⟩ := processTc_cases processed
  · exact current
  · exact ((current.taking heeded).foldl (heard tc part heeded) fun _ inside => inside).current

end TakeIn

/-- With one tuple of each key, none of the erased one's key is left. -/
theorem key_of_mem_eraseP {tuple t : TopologyTuple} {tuples : List TopologyTuple}
    (unique : (tuples.map TopologyTuple.key).Nodup) (known : tuple ∈ tuples)
    (left : t ∈ tuples.eraseP fun it => it.destAddr == tuple.destAddr &&
      it.lastAddr == tuple.lastAddr && it.sequenceNumber == tuple.sequenceNumber) :
    t.key ≠ tuple.key := by
  induction tuples with
  | nil => nomatch known
  | cons head tuples ih =>
    rw [List.map_cons,List.nodup_cons] at unique
    rw [List.eraseP_cons,cond_eq_ite] at left
    split at left
    next passes =>
      rw [Bool.and_eq_true,Bool.and_eq_true,beq_iff_eq,beq_iff_eq] at passes
      have named : head.key = tuple.key := Prod.ext passes.1.1 passes.1.2
      intro same
      exact unique.1 (List.mem_map.mpr ⟨t,left,same.trans named.symm⟩)
    next fails =>
      rcases List.mem_cons.mp known with rfl | earlier
      · simp at fails
      rcases List.mem_cons.mp left with rfl | left
      · intro same
        exact unique.1 (List.mem_map.mpr ⟨tuple,earlier,same.symm⟩)
      · exact ih unique.2 earlier left

/-- The timer that fires is not that of a tuple with another key. -/
theorem Current.other_timer (current : Current told node) {timer : TopologyTimer} {t : TopologyTuple}
    (inside : t ∈ node.m_state.topologySet) (apart : t.key ≠ (timer.destAddr,timer.lastAddr)) :
    ∃ other ∈ node.m_events.erase timer, (other.destAddr,other.lastAddr) = t.key ∧
      Until told t (other.time-1000) := by
  obtain ⟨other,set,named,held⟩ := current.timed t inside
  refine ⟨other,(List.mem_erase_of_ne ?_).mpr set,named,held⟩
  rintro rfl
  exact apart named.symm

theorem Current.expire (current : Current told node) (timer : TopologyTimer) :
    Current told ({ node with m_events := node.m_events.erase timer }.topologyTupleTimerExpire
      timer.destAddr timer.lastAddr) := by
  have pending : ∀ other ∈ node.m_events.erase timer, node.now ≤ other.time := fun other left =>
    current.pending other (List.mem_of_mem_erase left)
  rw [TimedState.topologyTupleTimerExpire]
  dsimp only
  split
  next missing =>
    exact ⟨current.unique,current.fresh,current.valid,
      fun t inside => current.other_timer inside (findTopologyTuple_none missing inside),pending⟩
  next tuple found =>
    obtain ⟨known,key⟩ := findTopologyTuple_some found
    split
    · have part : (node.m_state.eraseTopologyTuple tuple).topologySet.Sublist
          node.m_state.topologySet := List.eraseP_sublist
      refine ⟨current.unique.sublist (part.map _),
        fun s inside t within => current.fresh s (part.subset inside) t (part.subset within),
        fun t inside => current.valid t (part.subset inside),fun t inside => ?_,pending⟩
      refine current.other_timer (part.subset inside) ?_
      rw [← key]
      exact key_of_mem_eraseP current.unique known inside
    next lasting =>
      have due := delay_eq (Int.not_lt.mp lasting)
      refine ⟨current.unique,current.fresh,current.valid,fun t inside => ?_,fun other set => ?_⟩
      · by_cases same : t.key = tuple.key
        · obtain rfl := List.inj_on_of_nodup_map current.unique inside known same
          refine ⟨_,List.mem_append_right _ (List.mem_singleton_self _),rfl,?_⟩
          dsimp only
          rw [due,Int.add_sub_cancel]
          exact current.valid t inside
        · rw [key] at same
          obtain ⟨other,left,rest⟩ := current.other_timer inside same
          exact ⟨other,List.mem_append_left _ left,rest⟩
      · rcases List.mem_append.mp set with left | new
        · exact pending other left
        · rw [List.mem_singleton.mp new]
          change node.now ≤ node.now+delay node.now tuple.expirationTime
          omega

theorem Current.step {event : TopologyEvent} {next : TimedState} (current : Current told node)
    (stepped : node.step event = some next)
    (heard : ∀ msg senderIface tc, event = .receive msg senderIface → msg.getTc = some tc →
      node.heeds msg tc senderIface = true → told node.now msg tc) : Current told next := by
  cases event with
  | wait time =>
    rw [TimedState.step] at stepped
    split at stepped
    next passes =>
      cases stepped
      exact ⟨current.unique,current.fresh,current.valid,current.timed,passes.2⟩
    · cases stepped
  | receive msg senderIface =>
    exact current.processTc stepped fun tc => heard msg senderIface tc rfl
  | expire timer =>
    rw [TimedState.step] at stepped
    split at stepped
    · cases stepped
      exact current.expire timer
    · cases stepped
  | other m_state =>
    cases stepped
    exact ⟨current.unique,current.fresh,current.valid,current.timed,current.pending⟩

theorem Heeded.more {start : TimedState} {events : List TopologyEvent} {time : Int}
    {msg : MessageHeader} {tc : Tc} (event : TopologyEvent) (heeded : Heeded start events time msg tc) :
    Heeded start (events ++ [event]) time msg tc := by
  obtain ⟨before,senderIface,after,node,rfl,rest⟩ := heeded
  exact ⟨before,senderIface,after ++ [event],node,by rw [List.append_assoc,List.cons_append],rest⟩

theorem run_current {start : TimedState} (current : Current (Heeded start []) start)
    (events : List TopologyEvent) {node : TimedState} (ran : start.run events = some node) :
    Current (Heeded start events) node := by
  induction events using List.reverseRecOn generalizing node with
  | nil =>
    cases ran
    exact current
  | append_singleton events event ih =>
    obtain ⟨before,went,stepped⟩ := run_concat.mp ran
    refine ((ih went).imp fun _ _ _ => Heeded.more event).step stepped ?_
    rintro msg senderIface tc rfl part heeded
    exact ⟨events,senderIface,[],before,rfl,went,rfl,part,heeded⟩

theorem initial_current {m_state : OlsrState} (empty : m_state.topologySet = []) (now : Int) :
    Current told ⟨now,m_state,[]⟩ := by
  refine ⟨?_,?_,?_,?_,fun _ set => nomatch set⟩ <;> simp [empty]

/-- In every run a destination has one tuple for each router before it, and the tuples of one router
carry one sequence number. Each was told of in a message that the router took in and whose validity
time ran out at most a microsecond ago. -/
theorem topology_told {m_state : OlsrState} (empty : m_state.topologySet = []) {now : Int}
    {events : List TopologyEvent} {node : TimedState}
    (ran : TimedState.run ⟨now,m_state,[]⟩ events = some node) :
    (node.m_state.topologySet.map TopologyTuple.key).Nodup ∧
    (∀ s ∈ node.m_state.topologySet, ∀ t ∈ node.m_state.topologySet,
      s.lastAddr = t.lastAddr → s.sequenceNumber = t.sequenceNumber) ∧
    ∀ t ∈ node.m_state.topologySet,
      Until (Heeded ⟨now,m_state,[]⟩ events) t (node.now-1000) := by
  have current := run_current (initial_current empty now) events ran
  refine ⟨current.unique,current.fresh,fun t inside => ?_⟩
  obtain ⟨timer,set,_,heard,msg,tc,told,tells,lasts⟩ := current.timed t inside
  have ahead := current.pending timer set
  exact ⟨heard,msg,tc,told,tells,by omega⟩

/-- A second message of the originator replaces what its first one told of. -/
theorem topology_told_newer :
    let start : TimedState := ⟨0,{ linkSet := [⟨1,5,10^10,10^10⟩] },[]⟩
    let events : List TopologyEvent := [.receive ⟨0,7,255,0,0,.tc ⟨[8,9],3⟩⟩ 5,
      .wait 1000,.receive ⟨0,7,255,0,1,.tc ⟨[9],4⟩⟩ 5]
    ∃ node, start.run events = some node ∧
      node.m_state.topologySet = [⟨9,7,4,62501000⟩] ∧
      (node.m_state.topologySet.map TopologyTuple.key).Nodup ∧
      (∀ s ∈ node.m_state.topologySet, ∀ t ∈ node.m_state.topologySet,
        s.lastAddr = t.lastAddr → s.sequenceNumber = t.sequenceNumber) ∧
      ∀ t ∈ node.m_state.topologySet, Until (Heeded start events) t (node.now-1000) :=
  ⟨_,rfl,rfl,topology_told rfl rfl⟩

/-- The tuple of a destination, as a message of its originator left it. -/
def Recorded (msg : MessageHeader) (ansn : UInt16) (expirationTime : Int) (node : TimedState)
    (addr : UInt32) : Prop :=
  ∃ t ∈ node.m_state.topologySet, t.key = (addr,msg.m_originatorAddress) ∧
    t.sequenceNumber = ansn ∧ t.expirationTime = expirationTime

section Keep
variable {now expirationTime : Int} {msg : MessageHeader} {tc : Tc} {ansn : UInt16} {addr : UInt32}

theorem Recorded.kept {next : TimedState} (recorded : Recorded msg ansn expirationTime node addr)
    (kept : ∀ t ∈ node.m_state.topologySet, t.key = (addr,msg.m_originatorAddress) →
      t.expirationTime = expirationTime → t ∈ next.m_state.topologySet) :
    Recorded msg ansn expirationTime next addr := by
  obtain ⟨t,inside,key,rest⟩ := recorded
  exact ⟨t,kept t inside key rest.2,key,rest⟩

theorem advertise_kept (other : MessageHeader) (ansn : UInt16) (node : TimedState) (addr : UInt32)
    {t : TopologyTuple} (inside : t ∈ node.m_state.topologySet)
    (apart : t.key ≠ (addr,other.m_originatorAddress)) :
    t ∈ (node.advertise other ansn addr).m_state.topologySet := by
  rw [TimedState.advertise]
  split
  · rcases mem_modifyFirst_of_mem inside with kept | passes
    · exact kept
    · rw [Bool.and_eq_true,beq_iff_eq,beq_iff_eq] at passes
      exact absurd (Prod.ext passes.1 passes.2) apart
  · exact List.mem_append_left _ inside

theorem Taking.recorded (taking : Taking told now msg tc node) (addr : UInt32) :
    Recorded msg tc.ansn (now+msg.getVTime) (node.advertise msg tc.ansn addr) addr := by
  obtain rfl := taking.clock
  rw [TimedState.advertise]
  split
  next tuple found =>
    obtain ⟨known,key⟩ := findTopologyTuple_some found
    exact ⟨_,modifyFirst_found found,key,taking.level tuple known (congrArg Prod.snd key),rfl⟩
  · exact ⟨_,List.mem_append_right _ (List.mem_singleton_self _),rfl,rfl,rfl⟩

theorem Recorded.advertise (recorded : Recorded msg tc.ansn (now+msg.getVTime) node addr)
    (taking : Taking told now msg tc node) (other : UInt32) :
    Recorded msg tc.ansn (now+msg.getVTime) (node.advertise msg tc.ansn other) addr := by
  by_cases same : addr = other
  · rw [← same]
    exact taking.recorded addr
  · refine recorded.kept fun t inside key _ => advertise_kept msg tc.ansn node other inside ?_
    rw [key]
    exact fun equal => same (congrArg Prod.fst equal)

/-- After the advertised neighbors of a message each of them has its tuple. -/
theorem Taking.all_recorded (taking : Taking told now msg tc node) (heard : told now msg tc)
    (addrs : List UInt32) (listed : ∀ addr ∈ addrs, addr ∈ tc.neighborAddresses) :
    ∀ addr, (addr ∈ addrs ∨ Recorded msg tc.ansn (now+msg.getVTime) node addr) →
      Recorded msg tc.ansn (now+msg.getVTime)
        (addrs.foldl (TimedState.advertise msg tc.ansn) node) addr := by
  induction addrs generalizing node with
  | nil =>
    rintro addr (none | recorded)
    · nomatch none
    · exact recorded
  | cons first addrs ih =>
    intro addr known
    refine ih (taking.advertise heard (listed first (List.mem_cons_self ..)))
      (fun a later => listed a (List.mem_cons_of_mem _ later)) addr ?_
    rcases known with named | recorded
    · rcases List.mem_cons.mp named with rfl | later
      · exact .inr (taking.recorded addr)
      · exact .inl later
    · exact .inr (recorded.advertise taking first)

theorem foldl_advertise_kept (other : MessageHeader) (ansn : UInt16) (addrs : List UInt32)
    {node : TimedState} {t : TopologyTuple} (inside : t ∈ node.m_state.topologySet)
    (apart : t.lastAddr ≠ other.m_originatorAddress) :
    t ∈ (addrs.foldl (TimedState.advertise other ansn) node).m_state.topologySet := by
  induction addrs generalizing node with
  | nil => exact inside
  | cons addr addrs ih =>
    exact ih (advertise_kept other ansn node addr inside fun key => apart (congrArg Prod.snd key))

theorem foldl_advertise_now (other : MessageHeader) (ansn : UInt16) (addrs : List UInt32)
    (node : TimedState) : (addrs.foldl (TimedState.advertise other ansn) node).now = node.now := by
  induction addrs generalizing node with
  | nil => rfl
  | cons addr addrs ih =>
    rw [List.foldl_cons,ih,TimedState.advertise]
    split <;> rfl

end Keep

/-- A step does not turn the clock back. -/
theorem step_now {event : TopologyEvent} {next : TimedState} (stepped : node.step event = some next) :
    node.now ≤ next.now := by
  cases event with
  | wait time =>
    rw [TimedState.step] at stepped
    split at stepped
    next passes =>
      cases stepped
      exact passes.1
    · cases stepped
  | receive msg senderIface =>
    obtain ⟨tc,_,⟨_,rfl⟩ | ⟨_,rfl⟩⟩ := processTc_cases stepped
    · exact Int.le_refl _
    · rw [foldl_advertise_now]
  | expire timer =>
    rw [TimedState.step] at stepped
    split at stepped
    · cases stepped
      rw [TimedState.topologyTupleTimerExpire]
      dsimp only
      split
      · exact Int.le_refl _
      · split <;> exact Int.le_refl _
    · cases stepped
  | other m_state =>
    cases stepped
    exact Int.le_refl _

theorem run_now {events : List TopologyEvent} {last : TimedState} (ran : node.run events = some last) :
    node.now ≤ last.now :=
  @run_invariant _ _ _ _ _ (fun later => node.now ≤ later.now)
    (fun _ _ _ ahead stepped => Int.le_trans ahead (step_now stepped)) (Int.le_refl _) _ ran

section Keep
variable {expirationTime : Int} {msg : MessageHeader} {ansn : UInt16} {addr : UInt32}

/-- A tuple stays while its time has not run out and no message of its originator is taken in. -/
theorem Recorded.step {event : TopologyEvent} {next : TimedState} (current : Current told node)
    (recorded : Recorded msg ansn expirationTime node addr) (stepped : node.step event = some next)
    (lasting : next.now ≤ expirationTime)
    (only : ∀ other senderIface tc, event = .receive other senderIface → other.getTc = some tc →
      node.heeds other tc senderIface = true → other.m_originatorAddress ≠ msg.m_originatorAddress) :
    Recorded msg ansn expirationTime next addr := by
  have clock := step_now stepped
  refine recorded.kept fun t inside key time => ?_
  have source : t.lastAddr = msg.m_originatorAddress := congrArg Prod.snd key
  cases event with
  | wait time =>
    rw [TimedState.step] at stepped
    split at stepped
    · cases stepped
      exact inside
    · cases stepped
  | receive other senderIface =>
    obtain ⟨tc,part,⟨_,rfl⟩ | ⟨heeded,rfl⟩⟩ := processTc_cases stepped
    · exact inside
    · have apart : t.lastAddr ≠ other.m_originatorAddress := fun same =>
        only other senderIface tc rfl part heeded (same.symm.trans source)
      refine foldl_advertise_kept other tc.ansn tc.neighborAddresses ?_ apart
      refine List.mem_filter.mpr ⟨inside,?_⟩
      rw [beq_false_of_ne apart]
      rfl
  | expire timer =>
    rw [TimedState.step] at stepped
    split at stepped
    · cases stepped
      rw [TimedState.topologyTupleTimerExpire]
      dsimp only
      split
      · exact inside
      next tuple found =>
        split
        next late =>
          refine (List.mem_eraseP_of_neg ?_).mpr inside
          intro same
          rw [Bool.and_eq_true,Bool.and_eq_true,beq_iff_eq,beq_iff_eq] at same
          obtain rfl := List.inj_on_of_nodup_map current.unique inside
            (findTopologyTuple_some found).1 (Prod.ext same.1.1 same.1.2)
          omega
        · exact inside
    · cases stepped
  | other m_state =>
    cases stepped
    exact inside

theorem Recorded.run {events : List TopologyEvent} {last : TimedState} (current : Current told node)
    (told_all : ∀ heard msg tc, told heard msg tc)
    (recorded : Recorded msg ansn expirationTime node addr) (ran : node.run events = some last)
    (lasting : last.now ≤ expirationTime)
    (only : ∀ time other tc, Heeded node events time other tc →
      other.m_originatorAddress ≠ msg.m_originatorAddress) :
    Recorded msg ansn expirationTime last addr := by
  induction events generalizing node with
  | nil =>
    cases ran
    exact recorded
  | cons event events ih =>
    obtain ⟨next,stepped,ran⟩ := run_cons.mp ran
    refine ih (current.step stepped fun _ _ _ _ _ _ => told_all _ _ _) ?_ ran ?_
    · refine recorded.step current stepped (Int.le_trans (run_now ran) lasting) ?_
      rintro other senderIface tc rfl part heeded
      exact only node.now other tc ⟨[],senderIface,events,node,rfl,rfl,rfl,part,heeded⟩
    · rintro time other tc ⟨before,senderIface,after,reached,rfl,went,rest⟩
      refine only time other tc ⟨event :: before,senderIface,after,reached,rfl,?_,rest⟩
      exact run_cons.mpr ⟨next,stepped,went⟩

end Keep

/-- While the last message that was taken in of a router is valid, each neighbor that it advertised
has its tuple, under the message's sequence number. -/
theorem topology_kept {m_state : OlsrState} (empty : m_state.topologySet = []) {now : Int}
    {before after : List TopologyEvent} {node next last : TimedState} {msg : MessageHeader} {tc : Tc}
    {senderIface : UInt32} (ran : TimedState.run ⟨now,m_state,[]⟩ before = some node)
    (part : msg.getTc = some tc) (heeded : node.heeds msg tc senderIface = true)
    (stepped : node.step (.receive msg senderIface) = some next)
    (went : next.run after = some last)
    (only : ∀ time other otherTc, Heeded next after time other otherTc →
      other.m_originatorAddress ≠ msg.m_originatorAddress)
    (lasting : last.now ≤ node.now+msg.getVTime) :
    ∀ addr ∈ tc.neighborAddresses, ∃ t ∈ last.m_state.topologySet,
      t.key = (addr,msg.m_originatorAddress) ∧ t.sequenceNumber = tc.ansn := by
  intro addr named
  have current : Current (fun _ _ _ => True) node :=
    (run_current (initial_current empty now) before ran).imp fun _ _ _ _ => True.intro
  have reached := current.step stepped fun _ _ _ _ _ _ => True.intro
  obtain ⟨_,again,⟨ignored,_⟩ | ⟨_,rfl⟩⟩ := processTc_cases stepped <;>
    rw [part] at again <;> cases again
  · rw [heeded] at ignored
    cases ignored
  · have recorded := (current.taking heeded).all_recorded True.intro tc.neighborAddresses
      (fun _ inside => inside) addr (.inl named)
    obtain ⟨t,inside,key,seq,_⟩ := recorded.run reached (fun _ _ _ => True.intro) went lasting only
    exact ⟨t,inside,key,seq⟩

/-- Both neighbors of the message are still there after a microsecond. -/
theorem topology_kept_two :
    let start : TimedState := ⟨0,{ linkSet := [⟨1,5,10^10,10^10⟩] },[]⟩
    ∃ next last, start.step (.receive ⟨0,7,255,0,0,.tc ⟨[8,9],3⟩⟩ 5) = some next ∧
      next.run [.wait 1000] = some last ∧ last.now = 1000 ∧
      ∀ addr ∈ ([8,9] : List UInt32), ∃ t ∈ last.m_state.topologySet,
        t.key = (addr,7) ∧ t.sequenceNumber = 3 := by
  intro start
  have only : ∀ (next : TimedState) time other otherTc,
      Heeded next [.wait 1000] time other otherTc → other.m_originatorAddress ≠ 7 := by
    rintro next time other otherTc ⟨before,senderIface,after,node,cut,_⟩
    have inside : TopologyEvent.receive other senderIface ∈ [TopologyEvent.wait 1000] := by
      rw [cut]
      exact List.mem_append_right _ (List.mem_cons_self ..)
    cases List.mem_singleton.mp inside
  exact ⟨_,_,rfl,rfl,rfl,@topology_kept start.m_state rfl 0 [] [.wait 1000] start _ _
    ⟨0,7,255,0,0,.tc ⟨[8,9],3⟩⟩ ⟨[8,9],3⟩ 5 rfl rfl rfl rfl rfl (only _) (by decide)⟩

end UavFanet.Olsr
