import UavFanet.KeyAgreement
import UavFanet.RekeyAcks

/-! An SKDC with any number of UAVs, over an air that loses, repeats and reorders its broadcasts: how
the versions of the UAVs and the records of the SKDC go together. -/
namespace UavFanet.FleetRuns
open Library UavFanet.Packet UavFanet.Apps SkdcApplication
open UavFanet.KeyAgreement (maxDatagram CarriesToken)
open UavFanet.RekeyAcks (Pending)

/-- `air` lists every broadcast sent so far, and `taken` every UAV that has accepted the token of a
broadcast, with the version of that broadcast. -/
structure World where
  skdc : SkdcApplication
  uavs : UInt32 → UavApplication
  air : List ByteBuffer := []
  taken : List (UInt32 × UInt32) := []

inductive Event where
  | skdc (call : SkdcCall)
  /-- A UAV receives a broadcast: any of them, in any order, any number of times. -/
  | deliver (u : UInt32) (position sim_now : Nat)
  | sendData (u : UInt32) (draws : DataDraws) (payload : ByteBuffer)

def World.withUav (world : World) (u : UInt32) (app : UavApplication) : World := { world with
  uavs := fun other => if other = u then app else world.uavs other }

/-- The version of a broadcast whose token a UAV accepts. -/
def accepts (crypto : Primitives) (app : UavApplication) (wire : ByteBuffer) : Option UInt32 :=
  if UavApplication.accepted (app.receivePacket crypto wire).2 then
    (MtkPacket.deserializeNoHmac wire).toOption.map fun pkt => pkt.body.version
  else none

/-- An acknowledgement is a call that the UAV makes to the SKDC. -/
def receive (crypto : Primitives) (world : World) (u : UInt32) (sim_now : Nat) (wire : ByteBuffer) :
    World × Option RekeyRecord :=
  let outcome := (world.uavs u).receivePacket crypto wire
  let next := { world.withUav u outcome.1 with
    taken := world.taken ++
      ((accepts crypto (world.uavs u) wire).map fun version => (u,version)).toList }
  match outcome.2 with
  | .error _ => (next,none)
  | .ok reception =>
    match reception.ack with
    | none => (next,none)
    | some version =>
      let closing := world.skdc.onUavRekeyAck sim_now outcome.1.m_uav_id version
      ({ next with skdc := closing.1 },closing.2)

def step (crypto : Primitives) (world : World) : Event → World × Option RekeyRecord
  | .skdc (.onUavRekeyAck _ _ _) => (world,none)
  | .skdc (.rekeyTimeout sim_now ver exp) =>
    let outcome := world.skdc.observe crypto (.rekeyTimeout sim_now ver exp)
    ({ world with skdc := outcome.1 },outcome.2.bind fun note => note.outcome.map Prod.snd)
  | .skdc call =>
    let outcome := call.perform crypto world.skdc
    ({ world with
        skdc := outcome.1
        air := world.air ++ (outcome.2.map MtkBroadcast.wire).toList },none)
  | .deliver u position sim_now =>
    match world.air[position]? with
    | none => (world,none)
    | some wire =>
      if wire.length > maxDatagram then (world,none) else receive crypto world u sim_now wire
  | .sendData u draws payload =>
    (world.withUav u ((world.uavs u).sendData crypto draws payload).1,none)

/-- The versions do not run out. -/
def Few (crypto : Primitives) (world : World) : Event → Prop
  | .skdc call =>
    call.rekeys crypto world.skdc = true → world.skdc.m_state.rekey_version.toNat+1 < 2^32
  | _ => True

/-- The UAV has accepted a token of that version or of a later one, and has not gone back. -/
structure Accepted (world : World) (version u : UInt32) : Prop where
  taken : ∃ later, (u,later) ∈ world.taken ∧ version.toNat ≤ later.toNat
  reached : version.toNat ≤ (world.uavs u).m_state.rekey_version.toNat
  tek_valid : (world.uavs u).m_state.tek_valid = true

/-- No UAV is ahead of the SKDC or of a broadcast, and whoever counts as having acknowledged a
version has accepted it. -/
structure Consistent (world : World) : Prop where
  named : ∀ u, (world.uavs u).m_uav_id = u
  behind : ∀ u, (world.uavs u).m_state.rekey_version.toNat ≤ world.skdc.m_state.rekey_version.toNat
  air : ∀ wire ∈ world.air, wire.length ≤ maxDatagram → peekType wire = .mtkPacket ∧
    ∃ packet, MtkPacket.deserializeNoHmac wire = .ok packet ∧
      packet.body.version.toNat ≤ world.skdc.m_state.rekey_version.toNat
  counted : ∀ version, Pending world.skdc version → ∀ u ∈ world.skdc.acknowledged version,
    Accepted world version u

/-- What a broadcast does to a UAV: its version goes up or stays, and what it acknowledges it has
taken over. -/
structure Hears (before after : UavApplication) (version : UInt32) (result : Result Reception) :
    Prop where
  uav_id : after.m_uav_id = before.m_uav_id
  tek_valid : before.m_state.tek_valid = true → after.m_state.tek_valid = true
  reached : after.m_state.rekey_version = before.m_state.rekey_version ∨
    (before.m_state.rekey_version < version ∧ after.m_state.rekey_version = version)
  acknowledges : ∀ reception, result = .ok reception → ∀ told, reception.ack = some told →
    told = version ∧ reception.decrypted = some true ∧ after.m_state.rekey_version = version ∧
      after.m_state.tek_valid = true

section Uav

theorem Hears.ignored (app : UavApplication) (version : UInt32) : Hears app app version (.ok {}) where
  uav_id := rfl
  tek_valid := id
  reached := .inl rfl
  acknowledges _ same _ told := by
    cases same
    cases told

theorem processMtkPacket_hears {app : UavApplication} {wire : ByteBuffer} {pkt : MtkPacket}
    (parsed : MtkPacket.deserializeNoHmac wire = .ok pkt) :
    Hears app (app.processMtkPacket wire).1 pkt.body.version (app.processMtkPacket wire).2 := by
  rw [UavApplication.processMtkPacket,parsed]
  simp only [Result.caught]
  split
  · exact .ignored app _
  split
  · exact .ignored app _
  rename_i fresh
  have newer := UInt32.not_le.mp fresh
  split
  · exact ⟨rfl,id,.inr ⟨newer,rfl⟩,fun _ impossible => by cases impossible⟩
  · exact ⟨rfl,id,.inr ⟨newer,rfl⟩,fun _ same _ told => by cases same; cases told⟩
  · exact ⟨rfl,id,.inr ⟨newer,rfl⟩,fun _ same _ told => by cases same; cases told⟩
  · rename_i verified outcome
    have returned := Result.caught_some.mp outcome
    have version := UavApplication.decryptMtk_rekey_version returned
    have kept : verified.m_uav_id = app.m_uav_id ∧ verified.m_state.tek_valid = true := by
      obtain ⟨-,file,taken,-,rfl,⟨rfl,-⟩ | ⟨c,cl,sk,-,-,-,-,rfl⟩⟩ :=
        UavApplication.decryptMtk_some returned
      · exact ⟨rfl,rfl⟩
      · exact ⟨rfl,rfl⟩
    obtain ⟨uav_id,valid⟩ := kept
    refine ⟨uav_id,fun _ => valid,.inr ⟨newer,version⟩,fun _ same told acknowledged => ?_⟩
    cases same
    simp only at acknowledged
    split at acknowledged
    · cases acknowledged
      exact ⟨rfl,rfl,version,valid⟩
    · cases acknowledged

theorem sendData_frame (crypto : Primitives) (draws : DataDraws) (payload : ByteBuffer)
    (app : UavApplication) : (app.sendData crypto draws payload).1.m_uav_id = app.m_uav_id ∧
      (app.sendData crypto draws payload).1.m_state.tek_valid = app.m_state.tek_valid ∧
      (app.sendData crypto draws payload).1.m_state.rekey_version = app.m_state.rekey_version := by
  rw [UavApplication.sendData]
  split
  · exact ⟨rfl,rfl,rfl⟩
  split
  · exact ⟨rfl,rfl,rfl⟩
  simp only
  split
  · exact ⟨rfl,rfl,rfl⟩
  · exact ⟨rfl,rfl,rfl⟩

end Uav

section Steps

variable {crypto : Primitives} {world : World}

theorem withUav_self (u : UInt32) (app : UavApplication) : (world.withUav u app).uavs u = app :=
  if_pos rfl

theorem withUav_other {u other : UInt32} (differs : other ≠ u) (app : UavApplication) :
    (world.withUav u app).uavs other = world.uavs other := if_neg differs

/-- What a UAV has accepted it keeps, when its version does not go down. -/
theorem Accepted.withUav {version u other : UInt32} {app : UavApplication}
    (accepted : Accepted world version other) (taken : List (UInt32 × UInt32))
    (grows : (world.uavs u).m_state.rekey_version.toNat ≤ app.m_state.rekey_version.toNat)
    (tek_valid : (world.uavs u).m_state.tek_valid = true → app.m_state.tek_valid = true) :
    Accepted { world.withUav u app with taken := world.taken ++ taken } version other := by
  obtain ⟨later,there,above⟩ := accepted.taken
  refine ⟨⟨later,List.mem_append_left _ there,above⟩,?_,?_⟩
  · by_cases same : other = u
    · subst same
      simp only [withUav_self]
      exact accepted.reached.trans grows
    · simp only [withUav_other same]
      exact accepted.reached
  · by_cases same : other = u
    · subst same
      simp only [withUav_self]
      exact tek_valid accepted.tek_valid
    · simp only [withUav_other same]
      exact accepted.tek_valid

/-- What the SKDC does changes nothing of it. -/
theorem Accepted.skdc {version u : UInt32} (accepted : Accepted world version u)
    (skdc : SkdcApplication) (air : List ByteBuffer) :
    Accepted { world with skdc, air } version u :=
  ⟨accepted.taken,accepted.reached,accepted.tek_valid⟩

theorem Hears.grows {before after : UavApplication} {version : UInt32} {result : Result Reception}
    (hears : Hears before after version result) :
    before.m_state.rekey_version.toNat ≤ after.m_state.rekey_version.toNat := by
  rcases hears.reached with same | ⟨newer,reached⟩
  · rw [same]
  · rw [reached]
    exact le_of_lt (UInt32.lt_iff_toNat_lt.mp newer)

theorem version_grows {call : SkdcCall} (few : Few crypto world (.skdc call)) :
    world.skdc.m_state.rekey_version.toNat ≤
      (call.perform crypto world.skdc).1.m_state.rekey_version.toNat := by
  rw [SkdcCall.perform_rekey_version]
  split
  · rename_i counts
    have bound := few counts
    rw [UInt32.toNat_add,UInt32.toNat_one,Nat.mod_eq_of_lt bound]
    omega
  · exact le_refl _

theorem Consistent.call (consistent : Consistent world) {call : SkdcCall}
    (plain : call.closes = false) (few : Few crypto world (.skdc call)) :
    Consistent { world with
      skdc := (call.perform crypto world.skdc).1
      air := world.air ++ ((call.perform crypto world.skdc).2.map MtkBroadcast.wire).toList } where
  named := consistent.named
  behind u := (consistent.behind u).trans (version_grows few)
  air wire sent short := by
    rcases List.mem_append.mp sent with before | now
    · obtain ⟨kind,packet,parsed,version⟩ := consistent.air wire before short
      exact ⟨kind,packet,parsed,version.trans (version_grows few)⟩
    · obtain ⟨broadcast,made,rfl⟩ := Option.map_eq_some_iff.mp (Option.mem_toList.mp now)
      have announces := (SkdcCall.perform_effect crypto world.skdc call).announces broadcast made
      have carries : CarriesToken (call.perform crypto world.skdc).1.m_cluster_id
          (call.perform crypto world.skdc).1.m_state.mt_k broadcast.wire broadcast.packet :=
        ⟨announces.cluster,announces.mtk,announces.magic,announces.kind,announces.wire⟩
      obtain ⟨parsed,kind⟩ := carries.parsed short
      exact ⟨kind,broadcast.packet,parsed,le_of_eq (congrArg UInt32.toNat announces.version)⟩
  counted version pending u counted := by
    rcases RekeyAcks.pending_perform plain pending with ⟨before,same⟩ | empty
    · rw [same] at counted
      exact (consistent.counted version before u counted).skdc _ _
    · rw [empty] at counted
      exact absurd counted Std.ExtTreeSet.not_mem_empty

/-- A version that is closed is not pending any more. -/
theorem Consistent.closed (consistent : Consistent world) {after : SkdcApplication} {version : UInt32}
    (tables : after.tables.send_times = world.skdc.tables.send_times.erase version)
    (ack_map : after.tables.ack_map = world.skdc.tables.ack_map.erase version)
    (same : after.m_state = world.skdc.m_state) : Consistent { world with skdc := after } where
  named := consistent.named
  behind u := by rw [same]; exact consistent.behind u
  air := by rw [same]; exact consistent.air
  counted other pending u counted := by
    have send_times : after.m_rekey_send_times = world.skdc.m_rekey_send_times.erase version := tables
    have acks : after.m_rekey_ack_map = world.skdc.m_rekey_ack_map.erase version := ack_map
    rw [Pending,send_times,Std.ExtTreeMap.mem_erase] at pending
    rw [acknowledged,acks,Std.ExtTreeMap.getElem?_erase,if_neg pending.1] at counted
    exact (consistent.counted other pending.2 u counted).skdc _ _

theorem Consistent.timeout (consistent : Consistent world) (sim_now : Nat) (ver : UInt32) (exp : Nat) :
    Consistent { world with skdc := (world.skdc.rekeyTimeout sim_now ver exp).1 } := by
  rcases rekeyTimeout_cases sim_now world.skdc ver exp with ⟨-,outcome⟩ | ⟨-,after,same,-⟩
  · rw [outcome]
    exact ⟨consistent.named,consistent.behind,consistent.air,fun version pending u counted =>
      (consistent.counted version pending u counted).skdc _ _⟩
  · exact consistent.closed (congrArg RekeyTables.send_times after)
      (congrArg RekeyTables.ack_map after) same

theorem Consistent.withUav (consistent : Consistent world) {u : UInt32} {app : UavApplication}
    (taken : List (UInt32 × UInt32)) (uav_id : app.m_uav_id = (world.uavs u).m_uav_id)
    (grows : (world.uavs u).m_state.rekey_version.toNat ≤ app.m_state.rekey_version.toNat)
    (behind : app.m_state.rekey_version.toNat ≤ world.skdc.m_state.rekey_version.toNat)
    (tek_valid : (world.uavs u).m_state.tek_valid = true → app.m_state.tek_valid = true) :
    Consistent { world.withUav u app with taken := world.taken ++ taken } where
  named other := by
    by_cases same : other = u
    · subst same
      simp only [withUav_self,uav_id]
      exact consistent.named other
    · simp only [withUav_other same]
      exact consistent.named other
  behind other := by
    by_cases same : other = u
    · subst same
      simp only [withUav_self]
      exact behind
    · simp only [withUav_other same]
      exact consistent.behind other
  air := consistent.air
  counted version pending other counted :=
    (consistent.counted version pending other counted).withUav taken grows tek_valid

/-- As many UAVs as there are members have accepted a version. -/
def Spread (world : World) (version : UInt32) : Prop :=
  ∃ who : Members, world.skdc.m_state.members.size ≤ who.size ∧ ∀ u ∈ who, Accepted world version u

/-- An acknowledgement from a UAV that has accepted the version. -/
theorem Consistent.acknowledge (consistent : Consistent world) {u version : UInt32}
    (accepted : Accepted world version u) (sim_now : Nat) :
    let outcome := world.skdc.onUavRekeyAck sim_now u version
    Consistent { world with skdc := outcome.1 } ∧
      ∀ record, outcome.2 = some record → Spread { world with skdc := outcome.1 } record.tek_version := by
  have with_new : Pending world.skdc version →
      ∀ other ∈ world.skdc.acknowledgedWith u version, Accepted world version other := by
    intro pending other counted
    rw [acknowledgedWith,Std.ExtTreeSet.mem_insert,Std.compare_eq_iff_eq] at counted
    rcases counted with rfl | before
    · exact accepted
    · exact consistent.counted version pending other before
  rcases onUavRekeyAck_cases sim_now u version world.skdc with
    ⟨-,outcome⟩ | ⟨pending,enough,after,same,record,made,about⟩ | ⟨pending,outcome⟩
  · simp only [outcome]
    exact ⟨consistent,fun _ impossible => by cases impossible⟩
  · refine ⟨consistent.closed (congrArg RekeyTables.send_times after)
      (congrArg RekeyTables.ack_map after) same,fun written equal => ?_⟩
    obtain rfl : record = written := Option.some.inj (made.symm.trans equal)
    rw [about]
    refine ⟨world.skdc.acknowledgedWith u version,?_,fun other counted => ?_⟩
    · simp only [same]
      exact enough
    · exact (with_new pending other counted).skdc _ _
  · simp only [outcome]
    refine ⟨⟨consistent.named,consistent.behind,consistent.air,?_⟩,
      fun _ impossible => by cases impossible⟩
    intro other waiting uav counted
    rw [acknowledged,Std.ExtTreeMap.getElem?_insert] at counted
    split at counted
    · rename_i same
      obtain rfl : version = other := Std.compare_eq_iff_eq.mp same
      exact (with_new pending uav counted).skdc _ _
    · exact (consistent.counted other waiting uav counted).skdc _ _

theorem receivePacket_hears {app : UavApplication} {wire : ByteBuffer} {packet : MtkPacket}
    (kind : peekType wire = .mtkPacket) (parsed : MtkPacket.deserializeNoHmac wire = .ok packet) :
    Hears app (app.receivePacket crypto wire).1 packet.body.version
      (app.receivePacket crypto wire).2 := by
  rw [UavApplication.receivePacket]
  split
  · exact .ignored app _
  split
  · exact .ignored app _
  exact processMtkPacket_hears parsed

theorem Consistent.receive (consistent : Consistent world) {wire : ByteBuffer}
    (sent : wire ∈ world.air) (short : wire.length ≤ maxDatagram) (u : UInt32) (sim_now : Nat) :
    Consistent (receive crypto world u sim_now wire).1 ∧
      ∀ record, (receive crypto world u sim_now wire).2 = some record →
        Spread (receive crypto world u sim_now wire).1 record.tek_version := by
  obtain ⟨kind,packet,parsed,bound⟩ := consistent.air wire sent short
  have hears := @receivePacket_hears crypto (world.uavs u) wire packet kind parsed
  have behind : ((world.uavs u).receivePacket crypto wire).1.m_state.rekey_version.toNat ≤
      world.skdc.m_state.rekey_version.toNat := by
    rcases hears.reached with same | ⟨-,reached⟩
    · rw [same]
      exact consistent.behind u
    · rw [reached]
      exact bound
  have next := consistent.withUav ((accepts crypto (world.uavs u) wire).map fun version =>
    (u,version)).toList hears.uav_id hears.grows behind hears.tek_valid
  rw [FleetRuns.receive]
  cases result : ((world.uavs u).receivePacket crypto wire).2 with
  | error failure => exact ⟨next,fun _ impossible => by cases impossible⟩
  | ok reception =>
    cases told : reception.ack with
    | none =>
      simp only [told]
      exact ⟨next,fun _ impossible => by cases impossible⟩
    | some version =>
      obtain ⟨rfl,decrypted,reached,tek_valid⟩ := hears.acknowledges reception result version told
      have named : ((world.uavs u).receivePacket crypto wire).1.m_uav_id = u := by
        rw [hears.uav_id,consistent.named]
      have taken : accepts crypto (world.uavs u) wire = some packet.body.version := by
        simp [accepts,UavApplication.accepted,result,decrypted,parsed,Except.toOption]
      rw [taken] at next ⊢
      have accepted : Accepted { world.withUav u ((world.uavs u).receivePacket crypto wire).1 with
          taken := world.taken ++ [(u,packet.body.version)] } packet.body.version u := by
        refine ⟨⟨_,List.mem_append_right _ (List.mem_singleton_self _),le_refl _⟩,?_,?_⟩
        · simp only [withUav_self,reached]
          exact le_refl _
        · simp only [withUav_self]
          exact tek_valid
      simp only [told,named]
      exact next.acknowledge accepted sim_now

/-- Each step keeps the fleet consistent, and writes an `OK` record only of what has spread. -/
theorem Consistent.step (consistent : Consistent world) {event : Event}
    (few : Few crypto world event) : Consistent (step crypto world event).1 ∧
      ∀ record, (step crypto world event).2 = some record → record.status = .ok →
        Spread (step crypto world event).1 record.tek_version := by
  cases event with
  | skdc call =>
    cases plain : call.closes with
    | false =>
      have next := consistent.call plain few
      cases call with
      | onUavRekeyAck | rekeyTimeout => cases plain
      | _ => exact ⟨next,fun _ impossible => by cases impossible⟩
    | true =>
      cases call with
      | onUavRekeyAck sim_now uav_id tek_version =>
        exact ⟨consistent,fun _ impossible => by cases impossible⟩
      | rekeyTimeout sim_now ver exp =>
        simp only [FleetRuns.step,observe]
        split
        · refine ⟨consistent.timeout sim_now ver exp,fun record made ok => ?_⟩
          rcases rekeyTimeout_cases sim_now world.skdc ver exp with
            ⟨-,outcome⟩ | ⟨-,-,-,other,written,-,status⟩
          · simp [outcome,Deadlines.Note.outcome] at made
          · simp only [written,Option.bind_some,Deadlines.Note.outcome,Option.map_some] at made
            rw [← Option.some.inj made,status] at ok
            cases ok
        · exact ⟨consistent,fun _ impossible => by cases impossible⟩
      | _ => cases plain
  | deliver u position sim_now =>
    rw [FleetRuns.step]
    cases present : world.air[position]? with
    | none => exact ⟨consistent,fun _ impossible => by cases impossible⟩
    | some wire =>
      simp only
      split
      · exact ⟨consistent,fun _ impossible => by cases impossible⟩
      · rename_i short
        obtain ⟨next,spread⟩ := @Consistent.receive crypto world consistent wire
          (List.mem_of_getElem? present) (Nat.le_of_not_lt short) u sim_now
        exact ⟨next,fun record made _ => spread record made⟩
  | sendData u draws payload =>
    obtain ⟨uav_id,tek_valid,version⟩ := sendData_frame crypto draws payload (world.uavs u)
    have next := consistent.withUav [] uav_id (by rw [version])
      (by rw [version]; exact consistent.behind u) (fun valid => tek_valid.trans valid)
    rw [List.append_nil] at next
    exact ⟨next,fun _ impossible => by cases impossible⟩

theorem receive_uav (u : UInt32) (sim_now : Nat) (wire : ByteBuffer) :
    (receive crypto world u sim_now wire).1.uavs u =
      ((world.uavs u).receivePacket crypto wire).1 := by
  rw [FleetRuns.receive]
  split
  · exact withUav_self u _
  · split
    · exact withUav_self u _
    · exact withUav_self u _

/-- A rekey whose broadcast goes out brings its version to any UAV of the cluster. -/
theorem Consistent.reaches (consistent : Consistent world) {draws : RekeyDraws}
    (few : world.skdc.m_state.rekey_version.toNat+1 < 2^32) {broadcast : MtkBroadcast}
    (sent : ((SkdcCall.triggerRekey draws).perform crypto world.skdc).2 = some broadcast)
    (short : broadcast.wire.length ≤ maxDatagram) {u : UInt32}
    (mine : (world.uavs u).m_cluster_id = world.skdc.m_cluster_id) (sim_now : Nat) :
    ((Run.final (FleetRuns.step crypto) world
      [.skdc (.triggerRekey draws),.deliver u world.air.length sim_now]).uavs u).m_state.rekey_version =
        world.skdc.m_state.rekey_version+1 := by
  have effect := SkdcCall.perform_effect crypto world.skdc (.triggerRekey draws)
  have announces := effect.announces broadcast sent
  have version := SkdcCall.perform_rekey_version crypto world.skdc (.triggerRekey draws)
  rw [if_pos (show SkdcCall.rekeys crypto world.skdc (.triggerRekey draws) = true from rfl)] at version
  obtain ⟨bytes,written,whole⟩ := announces.wire
  obtain ⟨-,-,-,size⟩ := MtkPacket.serialize_ok written
  have long : 92 ≤ broadcast.wire.length := by
    rw [whole,List.length_append]
    omega
  have carries : CarriesToken world.skdc.m_cluster_id
      ((SkdcCall.triggerRekey draws).perform crypto world.skdc).1.m_state.mt_k broadcast.wire
      broadcast.packet :=
    ⟨announces.cluster.trans effect.cluster,announces.mtk,announces.magic,announces.kind,announces.wire⟩
  obtain ⟨parsed,kind⟩ := carries.parsed short
  have there : (world.air ++ [broadcast.wire])[world.air.length]? = some broadcast.wire := by simp
  rw [Run.final_cons,Run.final_cons,Run.final_nil]
  simp only [FleetRuns.step,sent,Option.map_some,Option.toList_some,there,if_neg (not_lt.mpr short)]
  rw [receive_uav,UavApplication.receivePacket,if_neg (by omega),if_neg (by omega),if_pos kind]
  have told : broadcast.packet.body.version = world.skdc.m_state.rekey_version+1 :=
    announces.version.trans version
  have newer : (world.uavs u).m_state.rekey_version.toNat < broadcast.packet.body.version.toNat := by
    have behind := consistent.behind u
    rw [told,UInt32.toNat_add,UInt32.toNat_one,Nat.mod_eq_of_lt few]
    omega
  have heard := UavApplication.processMtkPacket_hears parsed (carries.cluster.trans mine.symm) none
    zeroKey
  rw [Versions.Receiver.hear_fresh newer] at heard
  rw [← told]
  exact UInt32.toNat_inj.mp heard

end Steps

end UavFanet.FleetRuns
