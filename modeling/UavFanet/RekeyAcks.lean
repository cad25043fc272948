import Mathlib.Data.List.Perm.Subperm
import UavFanet.RekeyOutcomes
import UavFanet.UavRuns

/-! An SKDC and its UAVs with the acknowledgements of rekeys between them: what an `OK` record says
about who has acknowledged, and about what the senders decrypted. -/
namespace UavFanet.RekeyAcks
open Library UavFanet.Packet UavFanet.Apps SkdcApplication

/-- An acknowledgement, with the TEK that its sender then holds if `DecryptMtk` accepted the token of
the packet it answers. -/
structure SentAck where
  uav_id : UInt32
  tek_version : UInt32
  decrypted : Option AesGcmKey
  deriving DecidableEq,Repr

/-- `sent` lists every acknowledgement sent so far, `delivered` those that have reached the SKDC, as
often as they did, and `past` the last key that the SKDC held under each version it has left. -/
structure World where
  skdc : SkdcApplication
  uavs : UInt32 → UavApplication
  sent : List SentAck := []
  delivered : List SentAck := []
  past : UInt32 → Option AesGcmKey := fun _ => none

/-- The SKDC's key of a version. -/
def World.tekOf (world : World) (version : UInt32) : Option AesGcmKey :=
  if version = world.skdc.m_state.rekey_version then some world.skdc.m_state.current_tek
  else world.past version

inductive Event where
  | skdc (call : SkdcCall)
  | uav (u : UInt32) (event : UavEvent)
  /-- An acknowledgement reaches the SKDC: any of those sent, at any time, any number of times. -/
  | deliver (sim_now i : Nat)

def answer (crypto : Primitives) (app : UavApplication) : UavEvent → Option SentAck
  | .receivePacket buf =>
    let outcome := app.receivePacket crypto buf
    match outcome.2 with
    | .ok reception => reception.ack.map fun tek_version =>
        { uav_id := app.m_uav_id, tek_version
          decrypted := if reception.decrypted = some true then some outcome.1.m_state.current_tek
            else none }
    | .error _ => none
  | _ => none

/-- The keys that the SKDC has left behind after a call that it has not made yet. -/
def World.pastWith (world : World) : UInt32 → Option AesGcmKey :=
  Function.update world.past world.skdc.m_state.rekey_version (some world.skdc.m_state.current_tek)

def step (crypto : Primitives) (world : World) : Event → World × Option RekeyRecord
  -- Acknowledgements are those of the UAVs.
  | .skdc (.onUavRekeyAck _ _ _) => (world,none)
  | .skdc call =>
    let outcome := world.skdc.observe crypto call
    ({ world with skdc := outcome.1, past := world.pastWith },
      outcome.2.bind fun note => note.outcome.map Prod.snd)
  | .uav u event =>
    let app := world.uavs u
    ({ world with
        uavs := fun other =>
          if other = u then (KeyedUav.step crypto { app } event).1.app else world.uavs other
        sent := world.sent ++ (answer crypto app event).toList },none)
  | .deliver sim_now i =>
    match world.sent[i]? with
    | none => (world,none)
    | some ack =>
      let outcome := world.skdc.onUavRekeyAck sim_now ack.uav_id ack.tek_version
      ({ world with skdc := outcome.1, delivered := world.delivered ++ [ack] },outcome.2)

/-- All members have acknowledged a version, and whoever sent an acknowledgement of it had the SKDC's
key of the version from the token it answered. -/
structure Reached (world : World) (version : UInt32) : Prop where
  members : ∀ uav ∈ world.skdc.m_state.members,
    ∃ ack ∈ world.delivered, ack.uav_id = uav ∧ ack.tek_version = version
  decrypted : ∀ ack ∈ world.sent, ack.tek_version = version →
    ∃ tek, world.tekOf version = some tek ∧ ack.decrypted = some tek

/-- A step that writes an `OK` record leaves a world where its version has reached everyone. -/
def Truthful (crypto : Primitives) (world : World) (event : Event) : Prop :=
  ∀ record, (step crypto world event).2 = some record → record.status = .ok →
    Reached (step crypto world event).1 record.tek_version

def Pending (app : SkdcApplication) (version : UInt32) : Prop :=
  version ∈ app.m_rekey_send_times

/-- The version and the token of a packet that a UAV takes up. -/
inductive TakesUp (crypto : Primitives) (app : UavApplication) (buf : ByteBuffer) :
    UInt32 → Int → Prop where
  | mtk {pkt : MtkPacket} (kind : peekType buf = .mtkPacket)
      (parsed : MtkPacket.deserializeNoHmac buf = .ok pkt)
      (mine : pkt.body.cluster_id = app.m_cluster_id)
      (newer : app.m_state.rekey_version < pkt.body.version) :
      TakesUp crypto app buf pkt.body.version pkt.body.mtk
  | rekey {pkt : RekeyPacket} (kind : peekType buf = .rekeyPacket)
      (parsed : RekeyPacket.deserialize crypto buf app.m_state.hmac_key = .ok pkt)
      (mine : pkt.body.cluster_id = app.m_cluster_id) :
      TakesUp crypto app buf pkt.body.version pkt.body.mtk

/-- The TEK that a UAV has for a token that a slave key decrypts: its own for one of its cluster, and
that of the file for one of another cluster. -/
inductive TekFor (app : UavApplication) (mt_k : Int) : AesGcmKey → Prop where
  | own {file : CryptoParamsFile} {cluster : ClusterCryptoEntry} (params : app.m_params = some file)
      (found : file.getCluster app.m_cluster_id = some cluster)
      (decrypts : UavApplication.Decrypts cluster app.m_state.d_i app.m_state.n_i mt_k) :
      TekFor app mt_k app.m_state.current_tek
  | other {file : CryptoParamsFile} {c : UInt32} {cl : ClusterCryptoEntry} {sk : SlaveKeyEntry}
      (params : app.m_params = some file) (foreign : c ≠ app.m_cluster_id)
      (found : file.getCluster c = some cl) (slave : cl.getSlaveKey (app.m_uav_index%6) = some sk)
      (decrypts : UavApplication.Decrypts cl sk.d_i sk.n_i mt_k) : TekFor app mt_k cl.tek

/-- A `REKEY` packet for the cluster of a UAV brings a token it can decrypt. -/
def DecryptsRekey (crypto : Primitives) (app : UavApplication) (buf : ByteBuffer) : Prop :=
  peekType buf = .rekeyPacket →
    ∀ pkt, RekeyPacket.deserialize crypto buf app.m_state.hmac_key = .ok pkt →
      pkt.body.cluster_id = app.m_cluster_id →
        { app with m_rekey_count := app.m_rekey_count+1 }.decryptMtk pkt.body.mtk 0 ≠ .ok none

/-- The TEK that a UAV has for what it takes up is the SKDC's key of that version. -/
def SharesTek (crypto : Primitives) (world : World) (app : UavApplication) (buf : ByteBuffer) : Prop :=
  ∀ version mt_k tek, TakesUp crypto app buf version mt_k → TekFor app mt_k tek →
    world.tekOf version = some tek

/-- Who leaves has acknowledged no pending version. -/
def LeavesUncounted (world : World) : SkdcCall → Prop
  | .processLeave _ uav_id =>
    ∀ version, Pending world.skdc version → uav_id ∉ world.skdc.acknowledged version
  | _ => True

/-- A version that a UAV has acknowledged is given no other key. -/
def KeepsTold (crypto : Primitives) (world : World) (call : SkdcCall) : Prop :=
  match call.keyChange crypto world.skdc with
  | none => True
  | some (.install tek) =>
    (∃ ack ∈ world.sent, ack.tek_version = world.skdc.m_state.rekey_version) →
      tek = world.skdc.m_state.current_tek
  | some (.rotate _) => ∀ ack ∈ world.sent, ack.tek_version ≠ world.skdc.m_state.rekey_version+1

/-- Who leaves has acknowledged no pending version, who acknowledges one is a member, a token that is
acknowledged can be decrypted and comes with the TEK of its version, and that TEK stays. -/
def Orderly (crypto : Primitives) (world : World) : Event → Prop
  | .skdc call => LeavesUncounted world call ∧ KeepsTold crypto world call
  | .uav u (.receivePacket buf) => (world.uavs u).m_skdc_app = true →
    DecryptsRekey crypto (world.uavs u) buf ∧ SharesTek crypto world (world.uavs u) buf
  | .uav _ _ => True
  | .deliver _ i =>
    ∀ ack, world.sent[i]? = some ack → Pending world.skdc ack.tek_version →
      ack.uav_id ∈ world.skdc.m_state.members

/-- Whoever counts as having acknowledged a pending version is a member and has acknowledged it;
all acknowledgements come from UAVs with the key of the version. -/
structure Sound (world : World) : Prop where
  counted : ∀ version, Pending world.skdc version → ∀ uav ∈ world.skdc.acknowledged version,
    uav ∈ world.skdc.m_state.members ∧
      ∃ ack ∈ world.delivered, ack.uav_id = uav ∧ ack.tek_version = version
  decrypted : ∀ ack ∈ world.sent, ∃ tek, world.tekOf ack.tek_version = some tek ∧
    ack.decrypted = some tek

section Keys

variable {crypto : Primitives} {world : World}

theorem tekOf_pastWith {after : SkdcApplication} (same : after.m_state = world.skdc.m_state)
    (version : UInt32) :
    { world with skdc := after, past := world.pastWith }.tekOf version = world.tekOf version := by
  simp only [World.tekOf,same]
  split
  · rfl
  · rename_i differs
    exact Function.update_of_ne differs _ _

/-- What a call does to the keys of the versions leaves those that were acknowledged. -/
theorem tekOf_perform {call : SkdcCall} (keeps : KeepsTold crypto world call) {ack : SentAck}
    (told : ack ∈ world.sent) :
    { world with skdc := (call.perform crypto world.skdc).1, past := world.pastWith }.tekOf
      ack.tek_version = world.tekOf ack.tek_version := by
  have reached := (SkdcCall.perform_effect crypto world.skdc call).state
  unfold KeepsTold at keeps
  cases keys : call.keyChange crypto world.skdc with
  | none =>
    rw [keys] at reached
    simp only [World.tekOf,reached,SkdcState.withKeys,SkdcState.withMembers_rekey_version,
      SkdcState.withMembers_current_tek]
    split
    · rfl
    · rename_i differs
      exact Function.update_of_ne differs _ _
  | some change =>
    rw [keys] at reached keeps
    cases change with
    | install tek =>
      simp only [World.tekOf,reached,SkdcState.withKeys,SkdcState.withMembers_rekey_version]
      split
      · rename_i current
        rw [keeps ⟨ack,told,current⟩]
      · rename_i differs
        exact Function.update_of_ne differs _ _
    | rotate epoch_us =>
      simp only [World.tekOf,reached,SkdcState.withKeys,SkdcState.withMembers_rekey_version,
        if_neg (keeps ack told)]
      split
      · rename_i current
        rw [current]
        exact Function.update_self ..
      · rename_i differs
        exact Function.update_of_ne differs _ _

/-- The TEK that a UAV holds once `DecryptMtk` has accepted a token. -/
theorem decryptMtk_tekFor {app verified : UavApplication} {mt_k n_group : Int}
    (returned : app.decryptMtk mt_k n_group = .ok (some verified)) :
    verified.m_skdc_app = app.m_skdc_app ∧ TekFor app mt_k verified.m_state.current_tek := by
  obtain ⟨-,file,taken,params,rfl,outcome⟩ := UavApplication.decryptMtk_some returned
  rcases outcome with ⟨rfl,cluster,found,decrypts⟩ | ⟨c,cl,sk,foreign,found,slave,decrypts,rfl⟩
  · exact ⟨rfl,.own params found decrypts⟩
  · exact ⟨rfl,.other params foreign found slave decrypts⟩

theorem TekFor.counted {app : UavApplication} {version : UInt32} {count : UInt64} {mt_k : Int}
    {tek : AesGcmKey} (tekFor : TekFor { app with
      m_state := { app.m_state with rekey_version := version }, m_rekey_count := count } mt_k tek) :
    TekFor app mt_k tek := by
  cases tekFor with
  | own params found decrypts => exact .own params found decrypts
  | other params foreign found slave decrypts => exact .other params foreign found slave decrypts

end Keys

theorem mem_of_size_le {small large : Members} (inside : ∀ uav ∈ small, uav ∈ large)
    (size : large.size ≤ small.size) {uav : UInt32} (member : uav ∈ large) : uav ∈ small := by
  have within : small.toList ⊆ large.toList := by
    intro uav listed
    exact Std.ExtTreeSet.mem_toList.mpr (inside uav (Std.ExtTreeSet.mem_toList.mp listed))
  have same := ((nodup_toList small).subperm within).perm_of_length_le (by
    rw [Std.ExtTreeSet.length_toList,Std.ExtTreeSet.length_toList]
    exact size)
  exact Std.ExtTreeSet.mem_toList.mp (same.mem_iff.mpr (Std.ExtTreeSet.mem_toList.mpr member))

/-- What a UAV has done that acknowledges a version on a packet. -/
structure Answers (crypto : Primitives) (app : UavApplication) (buf : ByteBuffer)
    (after : UavApplication) (reception : Reception) (version : UInt32) : Prop where
  linked : app.m_skdc_app = true
  taken : ∃ mt_k, TakesUp crypto app buf version mt_k ∧
    (reception.decrypted = some true → TekFor app mt_k after.m_state.current_tek)
  decrypts : DecryptsRekey crypto app buf → reception.decrypted = some true

section Answers

variable {crypto : Primitives} {app after : UavApplication} {buf : ByteBuffer}
  {reception : Reception} {version : UInt32}

/-- A token in an `MTK` packet is acknowledged only when it was decrypted. -/
theorem processMtkPacket_ack (kind : peekType buf = .mtkPacket)
    (processed : app.processMtkPacket buf = (after,.ok reception))
    (acknowledged : reception.ack = some version) :
    Answers crypto app buf after reception version := by
  rw [UavApplication.processMtkPacket] at processed
  split at processed
  · cases processed
  · cases processed
    cases acknowledged
  · rename_i pkt parsed
    split at processed
    · cases processed
      cases acknowledged
    rename_i mine
    split at processed
    · cases processed
      cases acknowledged
    rename_i newer
    simp only at processed
    split at processed
    · cases processed
    · cases processed
      cases acknowledged
    · cases processed
      cases acknowledged
    · rename_i verified outcome
      cases processed
      simp only [Option.ite_none_right_eq_some,Option.some.injEq] at acknowledged
      obtain ⟨linked,rfl⟩ := acknowledged
      obtain ⟨same,tekFor⟩ := decryptMtk_tekFor (Result.caught_some.mp outcome)
      refine ⟨same.symm.trans linked,⟨pkt.body.mtk,?_,fun _ => tekFor.counted⟩,fun _ => rfl⟩
      exact .mtk kind (Result.caught_some.mp parsed) (not_not.mp mine) (UInt32.not_le.mp newer)

/-- A token in a `REKEY` packet is acknowledged whether or not it was decrypted. -/
theorem processRekeyPacket_ack (kind : peekType buf = .rekeyPacket)
    (processed : app.processRekeyPacket crypto buf = (after,.ok reception))
    (acknowledged : reception.ack = some version) :
    Answers crypto app buf after reception version := by
  rw [UavApplication.processRekeyPacket] at processed
  split at processed
  · cases processed
  · cases processed
    cases acknowledged
  · rename_i pkt parsed
    split at processed
    · cases processed
      cases acknowledged
    rename_i mine
    simp only at processed
    split at processed
    · cases processed
    · cases processed
      cases acknowledged
    · rename_i decrypted outcome
      cases processed
      simp only [Option.ite_none_right_eq_some,Option.some.injEq] at acknowledged
      obtain ⟨linked,rfl⟩ := acknowledged
      have returned := Result.caught_some.mp outcome
      refine ⟨linked,⟨pkt.body.mtk,.rekey kind (Result.caught_some.mp parsed) (not_not.mp mine),?_⟩,?_⟩
      · intro verified
        cases decrypted with
        | none => cases verified
        | some taken => exact (decryptMtk_tekFor returned).2.counted
      · intro decrypts
        cases decrypted with
        | none =>
          exact absurd returned (decrypts kind pkt (Result.caught_some.mp parsed) (not_not.mp mine))
        | some taken => rfl

theorem receivePacket_ack (received : app.receivePacket crypto buf = (after,.ok reception))
    (acknowledged : reception.ack = some version) :
    Answers crypto app buf after reception version := by
  rw [UavApplication.receivePacket] at received
  split at received
  · cases received
    cases acknowledged
  split at received
  · cases received
    cases acknowledged
  split at received
  · exact processMtkPacket_ack ‹_› received acknowledged
  split at received
  · exact processRekeyPacket_ack ‹_› received acknowledged
  · cases received
    cases acknowledged

theorem answer_receivePacket {event : UavEvent} {ack : SentAck}
    (sent : answer crypto app event = some ack) :
    ∃ buf after reception, event = .receivePacket buf ∧
      app.receivePacket crypto buf = (after,.ok reception) ∧ reception.ack = some ack.tek_version ∧
      ack.decrypted = if reception.decrypted = some true then some after.m_state.current_tek
        else none := by
  cases event with
  | receivePacket buf =>
    rw [answer] at sent
    split at sent
    · rename_i reception received
      obtain ⟨version,acknowledged,rfl⟩ := Option.map_eq_some_iff.mp sent
      exact ⟨buf,_,reception,rfl,Prod.ext rfl received,acknowledged,rfl⟩
    · cases sent
  | initializeSlaveKey => cases sent
  | receiveJoinAccept now_us buf => cases sent
  | updateSlaveKey blob new_cluster new_index => cases sent
  | sendData draws payload => cases sent

/-- Where what is taken up can be decrypted and comes with the key of its version, every
acknowledgement tells of that key. -/
theorem answer_decrypted {world : World} {u : UInt32} {event : UavEvent} {ack : SentAck}
    (sent : answer crypto (world.uavs u) event = some ack)
    (orderly : Orderly crypto world (.uav u event)) :
    ∃ tek, world.tekOf ack.tek_version = some tek ∧ ack.decrypted = some tek := by
  obtain ⟨buf,after,reception,rfl,received,acknowledged,told⟩ := answer_receivePacket sent
  have answers := receivePacket_ack received acknowledged
  obtain ⟨decrypts,shares⟩ := orderly answers.linked
  have decrypted := answers.decrypts decrypts
  obtain ⟨mt_k,takes,tekFor⟩ := answers.taken
  rw [if_pos decrypted] at told
  exact ⟨_,shares _ _ _ takes (tekFor decrypted),told⟩

end Answers

section Steps

variable {crypto : Primitives} {world : World}

theorem pending_perform {app : SkdcApplication} {call : SkdcCall} (plain : call.closes = false)
    {version : UInt32} (pending : Pending (call.perform crypto app).1 version) :
    (Pending app version ∧
      (call.perform crypto app).1.acknowledged version = app.acknowledged version) ∨
    (call.perform crypto app).1.acknowledged version = ∅ := by
  have after := SkdcCall.perform_tables crypto app plain
  have send_times := congrArg RekeyTables.send_times after
  have ack_map := congrArg RekeyTables.ack_map after
  unfold tables at send_times ack_map
  simp only at send_times ack_map
  rw [Pending,send_times] at pending
  rw [acknowledged,ack_map]
  by_cases counts : call.rekeys crypto app = true
  · rw [if_pos counts] at pending ⊢
    by_cases opened : app.m_state.rekey_version+1 = version
    · right
      simp [RekeyTables.opened,opened]
    · left
      have before : version ∈ app.m_rekey_send_times := by
        simpa [RekeyTables.opened,Std.ExtTreeMap.mem_insert,opened] using pending
      refine ⟨before,?_⟩
      simp [RekeyTables.opened,Std.ExtTreeMap.getElem?_insert,opened,acknowledged]
  · rw [if_neg counts] at pending ⊢
    exact .inl ⟨pending,rfl⟩

theorem memberChange_leave {app : SkdcApplication} {call : SkdcCall} {uav_id : UInt32}
    (leaves : call.memberChange crypto app = some (.leave uav_id)) :
    ∃ draws, call = .processLeave draws uav_id := by
  cases call with
  | processLeave draws left =>
    cases leaves
    exact ⟨draws,rfl⟩
  | receiveKeyAck draws buf =>
    obtain ⟨ack,-,joins⟩ := Option.map_eq_some_iff.mp leaves
    cases joins
  | _ => cases leaves

theorem mem_perform {app : SkdcApplication} {call : SkdcCall} {uav : UInt32}
    (member : uav ∈ app.m_state.members) (stays : ∀ draws, call ≠ .processLeave draws uav) :
    uav ∈ (call.perform crypto app).1.m_state.members := by
  have reached := congrArg SkdcState.members (SkdcCall.perform_effect crypto app call).state
  rw [SkdcState.withKeys_members] at reached
  rw [reached]
  cases changed : call.memberChange crypto app with
  | none => exact member
  | some change =>
    cases change with
    | join joined => exact Std.ExtTreeSet.mem_insert.mpr (.inr member)
    | leave left =>
      obtain ⟨draws,rfl⟩ := memberChange_leave changed
      have differs : left ≠ uav := by
        rintro rfl
        exact stays draws rfl
      simp [SkdcState.withMembers,Std.ExtTreeSet.mem_erase,differs,member]

theorem step_plain {call : SkdcCall} (plain : call.closes = false) :
    step crypto world (.skdc call) =
      ({ world with skdc := (call.perform crypto world.skdc).1, past := world.pastWith },none) := by
  have silent : ((observe crypto world.skdc call).2.bind fun note =>
      note.outcome.map Prod.snd) = none := by
    rw [observe_plain crypto world.skdc plain]
    by_cases counts : call.rekeys crypto world.skdc = true
    · rw [if_pos counts]
      rfl
    · rw [if_neg counts]
      rfl
  cases call with
  | onUavRekeyAck sim_now uav_id tek_version => cases plain
  | rekeyTimeout sim_now ver exp => cases plain
  | _ => exact Prod.ext rfl silent

theorem Sound.plain {call : SkdcCall} (sound : Sound world) (plain : call.closes = false)
    (orderly : Orderly crypto world (.skdc call)) :
    Sound { world with skdc := (call.perform crypto world.skdc).1, past := world.pastWith } where
  counted version pending uav acknowledged := by
    rcases pending_perform plain pending with ⟨before,same⟩ | empty
    · rw [same] at acknowledged
      obtain ⟨member,told⟩ := sound.counted version before uav acknowledged
      refine ⟨mem_perform member ?_,told⟩
      rintro draws rfl
      exact orderly.1 version before acknowledged
    · rw [empty] at acknowledged
      exact absurd acknowledged Std.ExtTreeSet.not_mem_empty
  decrypted ack sent := by
    rw [tekOf_perform orderly.2 sent]
    exact sound.decrypted ack sent

theorem Sound.closed {after : SkdcApplication} {version : UInt32} {delivered : List SentAck}
    {past : UInt32 → Option AesGcmKey} (sound : Sound world)
    (send_times : after.m_rekey_send_times = world.skdc.m_rekey_send_times.erase version)
    (ack_map : after.m_rekey_ack_map = world.skdc.m_rekey_ack_map.erase version)
    (same : after.m_state = world.skdc.m_state) (grows : world.delivered ⊆ delivered)
    (keys : { world with skdc := after, delivered, past }.tekOf = world.tekOf) :
    Sound { world with skdc := after, delivered, past } where
  counted other pending uav acknowledged := by
    rw [Pending,send_times,Std.ExtTreeMap.mem_erase] at pending
    obtain ⟨differs,before⟩ := pending
    rw [SkdcApplication.acknowledged,ack_map,Std.ExtTreeMap.getElem?_erase,if_neg differs]
      at acknowledged
    obtain ⟨member,ack,told,about⟩ := sound.counted other before uav acknowledged
    rw [same]
    exact ⟨member,ack,grows told,about⟩
  decrypted ack sent := by
    rw [keys]
    exact sound.decrypted ack sent

theorem Sound.waits {after : SkdcApplication} (sound : Sound world)
    (send_times : after.m_rekey_send_times = world.skdc.m_rekey_send_times)
    (ack_map : after.m_rekey_ack_map = world.skdc.m_rekey_ack_map)
    (same : after.m_state = world.skdc.m_state) :
    Sound { world with skdc := after, past := world.pastWith } where
  counted version pending uav acknowledged := by
    rw [Pending,send_times] at pending
    rw [SkdcApplication.acknowledged,ack_map] at acknowledged
    rw [same]
    exact sound.counted version pending uav acknowledged
  decrypted ack sent := by
    rw [tekOf_pastWith same]
    exact sound.decrypted ack sent

theorem Sound.told (sound : Sound world) (uavs : UInt32 → UavApplication) {told : List SentAck}
    (decrypted : ∀ ack ∈ told, ∃ tek, world.tekOf ack.tek_version = some tek ∧
      ack.decrypted = some tek) : Sound { world with uavs, sent := world.sent ++ told } where
  counted := sound.counted
  decrypted ack sent := by
    rcases List.mem_append.mp sent with before | now
    · exact sound.decrypted ack before
    · exact decrypted ack now

theorem Sound.timeout (sound : Sound world) (sim_now : Nat) (ver : UInt32) (exp : Nat) :
    Sound { world with skdc := (world.skdc.rekeyTimeout sim_now ver exp).1, past := world.pastWith } := by
  rcases rekeyTimeout_cases sim_now world.skdc ver exp with
    ⟨-,outcome⟩ | ⟨-,after,same,-⟩
  · rw [outcome]
    exact sound.waits rfl rfl rfl
  · exact sound.closed (congrArg RekeyTables.send_times after) (congrArg RekeyTables.ack_map after)
      same (List.Subset.refl _) (funext (tekOf_pastWith same))

/-- An acknowledgement that arrives is counted, or it closes its version: then all members have
acknowledged. -/
theorem Sound.deliver (sound : Sound world) (sim_now : Nat) {ack : SentAck}
    (from_member : Pending world.skdc ack.tek_version → ack.uav_id ∈ world.skdc.m_state.members) :
    let outcome := world.skdc.onUavRekeyAck sim_now ack.uav_id ack.tek_version
    let next : World := { world with skdc := outcome.1, delivered := world.delivered ++ [ack] }
    (∀ record, outcome.2 = some record → Reached next record.tek_version) ∧ Sound next := by
  have grows : world.delivered ⊆ world.delivered ++ [ack] := List.subset_append_left ..
  have with_new : Pending world.skdc ack.tek_version →
      ∀ uav ∈ world.skdc.acknowledgedWith ack.uav_id ack.tek_version,
        uav ∈ world.skdc.m_state.members ∧ ∃ told ∈ world.delivered ++ [ack],
          told.uav_id = uav ∧ told.tek_version = ack.tek_version := by
    intro pending uav counted
    rw [acknowledgedWith,Std.ExtTreeSet.mem_insert,Std.compare_eq_iff_eq] at counted
    rcases counted with rfl | before
    · exact ⟨from_member pending,ack,by simp,rfl,rfl⟩
    · obtain ⟨member,told,there,about⟩ := sound.counted _ pending uav before
      exact ⟨member,told,grows there,about⟩
  rcases onUavRekeyAck_cases sim_now ack.uav_id ack.tek_version world.skdc with
    ⟨-,outcome⟩ | ⟨pending,enough,after,same,record,made,about⟩ | ⟨pending,outcome⟩
  · simp only [outcome]
    refine ⟨by simp,?_,sound.decrypted⟩
    intro version pending uav counted
    obtain ⟨member,told,there,tells⟩ := sound.counted version pending uav counted
    exact ⟨member,told,grows there,tells⟩
  · have keys : ∀ version, { world with
        skdc := (world.skdc.onUavRekeyAck sim_now ack.uav_id ack.tek_version).1
        delivered := world.delivered ++ [ack] }.tekOf version = world.tekOf version := by
      intro version
      simp only [World.tekOf,same]
    refine ⟨?_,sound.closed (congrArg RekeyTables.send_times after)
      (congrArg RekeyTables.ack_map after) same grows (funext keys)⟩
    intro written equal
    obtain rfl : record = written := Option.some.inj (made.symm.trans equal)
    rw [about]
    constructor
    · intro uav member
      simp only [same] at member
      have counted := mem_of_size_le (fun uav counted => (with_new pending uav counted).1)
        enough member
      exact (with_new pending uav counted).2
    · intro told there about
      rw [keys,← about]
      exact sound.decrypted told there
  · simp only [outcome]
    refine ⟨by simp,?_,sound.decrypted⟩
    intro version waiting uav counted
    rw [SkdcApplication.acknowledged,Std.ExtTreeMap.getElem?_insert] at counted
    split at counted
    · rename_i same
      obtain rfl : ack.tek_version = version := Std.compare_eq_iff_eq.mp same
      exact with_new pending uav counted
    · obtain ⟨member,told,there,tells⟩ := sound.counted version waiting uav counted
      exact ⟨member,told,grows there,tells⟩

theorem Sound.step (sound : Sound world) {event : Event} (orderly : Orderly crypto world event) :
    Truthful crypto world event ∧ Sound (RekeyAcks.step crypto world event).1 := by
  cases event with
  | skdc call =>
    cases plain : call.closes with
    | false =>
      rw [Truthful,step_plain plain]
      exact ⟨by simp,sound.plain plain orderly⟩
    | true =>
      cases call with
      | onUavRekeyAck sim_now uav_id tek_version =>
        exact ⟨by simp [Truthful,RekeyAcks.step],sound⟩
      | rekeyTimeout sim_now ver exp =>
        have stepped : RekeyAcks.step crypto world (.skdc (.rekeyTimeout sim_now ver exp)) =
            ({ world with
                skdc := (world.skdc.observe crypto (.rekeyTimeout sim_now ver exp)).1
                past := world.pastWith },
              (world.skdc.observe crypto (.rekeyTimeout sim_now ver exp)).2.bind
                fun note => note.outcome.map Prod.snd) := rfl
        rw [Truthful,stepped,observe]
        split
        · refine ⟨?_,sound.timeout sim_now ver exp⟩
          intro record made ok
          rcases rekeyTimeout_cases sim_now world.skdc ver exp with
            ⟨-,outcome⟩ | ⟨-,-,-,other,written,-,status⟩
          · simp [outcome,Deadlines.Note.outcome] at made
          · simp only [written,Option.bind_some,Deadlines.Note.outcome,Option.map_some] at made
            rw [← Option.some.inj made,status] at ok
            cases ok
        · exact ⟨by simp,sound.waits rfl rfl rfl⟩
      | _ => cases plain
  | uav u event =>
    refine ⟨by simp [Truthful,RekeyAcks.step],sound.told _ ?_⟩
    intro ack now
    exact answer_decrypted (Option.mem_toList.mp now) orderly
  | deliver sim_now i =>
    rw [Truthful,RekeyAcks.step]
    cases present : world.sent[i]? with
    | none => exact ⟨by simp,sound⟩
    | some ack =>
      obtain ⟨reached,next⟩ := sound.deliver sim_now (orderly ack present)
      exact ⟨fun record made _ => reached record made,next⟩

end Steps

/-- In every run whose steps are orderly, an `OK` record is written only of a version that all
members acknowledged and that every sender decrypted. -/
theorem ok_reached_everyone (crypto : Primitives) {start : World}
    (unopened : start.skdc.m_rekey_send_times = ∅) (unsent : start.sent = []) (events : List Event)
    (orderly : Run.Along (step crypto) (Orderly crypto) start events) :
    Run.Along (step crypto) (Truthful crypto) start events := by
  apply orderly.imp fun world event sound allowed => Sound.step sound allowed
  constructor
  · intro version pending
    rw [Pending,unopened] at pending
    exact absurd pending Std.ExtTreeMap.not_mem_empty
  · rw [unsent]
    intro ack impossible
    cases impossible

def sampleUavs (u : UInt32) : UavApplication :=
  UavApplication.initializeSlaveKey
    { m_uav_id := u, m_uav_index := u, m_params := some sampleFile, m_skdc_app := true }

def loneWorld : World where
  skdc := { startedSkdc with m_state := { startedSkdc.m_state with members := Std.ExtTreeSet.ofList [1] compare } }
  uavs := sampleUavs

def broadcastBytes (outcome : SkdcApplication × Result (Option MtkBroadcast)) : ByteBuffer :=
  (outcome.2.toOption.join.map (·.wire)).getD []

def loneWire : ByteBuffer :=
  broadcastBytes ((loneWorld.skdc.triggerRekey rotationCrypto sampleRekeyDraws).1.updateTek
    samplePacketDraws loadedTek)

/-- The rotated key is replaced by the loaded one before the broadcast that is received. -/
def loneEvents : List Event :=
  [.skdc (.triggerRekey sampleRekeyDraws),.skdc (.updateTek samplePacketDraws loadedTek),
    .uav 1 (.receivePacket loneWire),.deliver 1 0]

/-- The world when UAV 1 receives the broadcast. -/
def loneUpdated : World := Run.final (step rotationCrypto) loneWorld
  [.skdc (.triggerRekey sampleRekeyDraws),.skdc (.updateTek samplePacketDraws loadedTek)]

theorem loneUpdated_shares : SharesTek rotationCrypto loneUpdated (loneUpdated.uavs 1) loneWire := by
  intro version mt_k tek takes tekFor
  have parsed : (MtkPacket.deserializeNoHmac loneWire).map (·.body.version) = .ok 2 := by
    decide +kernel
  have key : loneUpdated.tekOf 2 = some loadedTek := by decide +kernel
  have params : (loneUpdated.uavs 1).m_params = some sampleFile := by decide +kernel
  have current : (loneUpdated.uavs 1).m_state.current_tek = loadedTek := by decide +kernel
  obtain rfl : version = 2 := by
    cases takes with
    | mtk kind read mine newer => simpa [read,Except.map] using parsed
    | rekey kind read mine =>
      have other : peekType loneWire ≠ .rekeyPacket := by decide +kernel
      exact absurd kind other
  rw [key]
  cases tekFor with
  | own loaded found decrypts => rw [current]
  | @other file c cl sk loaded foreign found slave decrypts =>
    cases loaded.symm.trans params
    have own : (loneUpdated.uavs 1).m_cluster_id = 0 := by decide +kernel
    have here : cl.cluster_id = c := by simpa using List.find?_some found
    obtain rfl := List.mem_singleton.mp (List.mem_of_find?_eq_some found)
    exact absurd (here.symm.trans own.symm) foreign

theorem lone_ok_reached :
    (Run.outputs (step rotationCrypto) loneWorld loneEvents).map
      (fun output => (output.2.tek_version,output.2.status)) = [(2,.ok)] ∧
    (Run.final (step rotationCrypto) loneWorld loneEvents).sent =
      [{ uav_id := 1, tek_version := 2, decrypted := some loadedTek }] ∧
    Run.Along (step rotationCrypto) (Truthful rotationCrypto) loneWorld loneEvents := by
  refine ⟨by decide +kernel,by decide +kernel,
    ok_reached_everyone rotationCrypto rfl rfl loneEvents ?_⟩
  refine Run.Along.cons ?_ (Run.Along.cons ?_ (Run.Along.cons ?_ (Run.Along.cons ?_ Run.Along.nil)))
  · exact ⟨trivial,fun ack impossible => nomatch impossible⟩
  · exact ⟨trivial,fun ⟨ack,impossible,_⟩ => nomatch impossible⟩
  · intro linked
    refine ⟨fun kind => ?_,loneUpdated_shares⟩
    have other : peekType loneWire ≠ .rekeyPacket := by decide +kernel
    exact absurd kind other
  · intro ack sent _
    have senders : (step rotationCrypto loneUpdated (.uav 1 (.receivePacket loneWire))).1.sent.map
        (·.uav_id) = [1] := by decide +kernel
    have member : 1 ∈ (step rotationCrypto loneUpdated
        (.uav 1 (.receivePacket loneWire))).1.skdc.m_state.members := by decide +kernel
    have sender : ack.uav_id ∈ [1] := by
      rw [← senders]
      exact List.mem_map_of_mem (List.mem_of_getElem? sent)
    rw [List.mem_singleton.mp sender]
    exact member

def fullWorld : World where
  skdc := startedSkdc
  uavs := sampleUavs

def departures : List Event := [0,1,2,3].map fun uav_id => .skdc (.processLeave sampleRekeyDraws uav_id)

def lastWire : ByteBuffer :=
  broadcastBytes ((Run.final (step rotationCrypto) fullWorld departures).skdc.processLeave
    rotationCrypto sampleRekeyDraws 4)

/-- All but UAV 5 leave, and UAV 1 answers the last broadcast: its acknowledgement alone is taken
for that of all members. -/
def departedEvents : List Event :=
  departures ++ [.skdc (.processLeave sampleRekeyDraws 4),.uav 1 (.receivePacket lastWire)]

def rotatedWire : ByteBuffer :=
  broadcastBytes (loneWorld.skdc.triggerRekey rotationCrypto sampleRekeyDraws)

/-- The only member answers the broadcast of a rekey, with the key that the SKDC has just replaced. -/
def rotatedEvents : List Event :=
  [.skdc (.triggerRekey sampleRekeyDraws),.uav 1 (.receivePacket rotatedWire)]

theorem departed_ack_ok :
    fullWorld.skdc.m_rekey_send_times = ∅ ∧ fullWorld.sent = [] ∧
    (¬ Run.Along (step rotationCrypto) (Truthful rotationCrypto) fullWorld
      (departedEvents ++ [.deliver 1 0])) ∧
    ¬ Run.Along (step rotationCrypto) (Truthful rotationCrypto) loneWorld
      (rotatedEvents ++ [.deliver 1 0]) := by
  refine ⟨rfl,rfl,?_,?_⟩
  · intro truthful
    have made : (step rotationCrypto (Run.final (step rotationCrypto) fullWorld departedEvents)
        (.deliver 1 0)).2.map (fun record => (record.tek_version,record.status)) = some (6,.ok) := by
      decide +kernel
    obtain ⟨record,written,told⟩ := Option.map_eq_some_iff.mp made
    have reached := truthful departedEvents (.deliver 1 0) [] rfl record written
      (congrArg Prod.snd told)
    obtain ⟨ack,there,about,-⟩ := reached.members 5 (by decide +kernel)
    have senders : (step rotationCrypto (Run.final (step rotationCrypto) fullWorld departedEvents)
        (.deliver 1 0)).1.delivered.map (·.uav_id) = [1] := by decide +kernel
    have sender := List.mem_map_of_mem (f := (·.uav_id)) there
    rw [senders,about] at sender
    exact absurd sender (by decide)
  · intro truthful
    have made : (step rotationCrypto (Run.final (step rotationCrypto) loneWorld rotatedEvents)
        (.deliver 1 0)).2.map (fun record => (record.tek_version,record.status)) = some (2,.ok) := by
      decide +kernel
    obtain ⟨record,written,told⟩ := Option.map_eq_some_iff.mp made
    obtain ⟨version,status⟩ := Prod.mk.inj told
    have reached := truthful rotatedEvents (.deliver 1 0) [] rfl record written status
    have sent : (step rotationCrypto (Run.final (step rotationCrypto) loneWorld rotatedEvents)
        (.deliver 1 0)).1.sent = [⟨1,2,some loadedTek⟩] := by decide +kernel
    have key : (step rotationCrypto (Run.final (step rotationCrypto) loneWorld rotatedEvents)
        (.deliver 1 0)).1.tekOf 2 = some rotatedOnce := by decide +kernel
    obtain ⟨tek,held,decrypted⟩ := reached.decrypted ⟨1,2,some loadedTek⟩
      (by rw [sent]; exact List.mem_singleton_self _) version.symm
    rw [version,key] at held
    cases held
    exact absurd decrypted (by decide)

end UavFanet.RekeyAcks
