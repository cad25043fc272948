import UavFanet.UavApp
import UavFanet.KeyAgreement

/-! Packets with tokens that do not parse or do not decrypt, and what they leave of a UAV's keys:
the version of a packet is taken over before its token is looked at. -/
namespace UavFanet.BadTokens
open UavFanet.Apps UavFanet.Packet

def keyState (app : UavApplication) : UInt32 × AesGcmKey × HmacKey × Bool :=
  (app.m_state.rekey_version,app.m_state.current_tek,app.m_state.hmac_key,app.m_state.tek_valid)

theorem keyState_version {left right : UavApplication} (same : keyState left = keyState right) :
    left.m_state.rekey_version = right.m_state.rekey_version := congrArg Prod.fst same

/-- The buffer does not parse, or its token does not decrypt to a usable TEK. -/
def Bad (app : UavApplication) (wire : ByteBuffer) : Prop :=
  ∀ pkt taken, MtkPacket.deserializeNoHmac wire = .ok pkt →
    app.decryptMtk pkt.body.mtk pkt.body.n_group ≠ .ok (some taken)

/-- The token in the buffer is decrypted and taken. -/
def Accepts (app : UavApplication) (wire : ByteBuffer) : Prop :=
  ∃ ack, (app.processMtkPacket wire).2 = .ok { decrypted := some true, ack }

/-- The buffer is a packet for the UAV's cluster with a version above the UAV's. -/
def Overtakes (app : UavApplication) (wire : ByteBuffer) : Prop :=
  ∃ pkt, MtkPacket.deserializeNoHmac wire = .ok pkt ∧ pkt.body.cluster_id = app.m_cluster_id ∧
    app.m_state.rekey_version < pkt.body.version

section Version

variable (version : UInt32) (app : UavApplication) (mt_k : Int)

theorem tryClusters_withVersion (file : CryptoParamsFile) (clusters : List UInt32) :
    UavApplication.tryClusters file mt_k (app.withVersion version) clusters =
      (UavApplication.tryClusters file mt_k app clusters).map (Option.map (.withVersion version)) := by
  induction clusters with
  | nil => rfl
  | cons c rest ih =>
    have same : (app.withVersion version).m_cluster_id = app.m_cluster_id := rfl
    have index : (app.withVersion version).m_uav_index = app.m_uav_index := rfl
    simp only [UavApplication.tryClusters,same,index]
    split
    · exact ih
    split
    · exact ih
    rename_i cl _
    split
    · exact ih
    rename_i sk _
    cases BigInt.modPow mt_k sk.d_i sk.n_i with
    | error failure => rfl
    | ok rec2 =>
      simp only [Result.ok_bind]
      cases UavApplication.matchesTek cl sk.n_i rec2 with
      | error failure => rfl
      | ok matched =>
        cases matched with
        | false => exact ih
        | true => rfl

/-- What a token that is taken does last. -/
def activated (app : UavApplication) : UavApplication := { app with
  m_state := { app.m_state with tek_valid := true }
  m_mtk_received := app.m_mtk_received+1 }

theorem activated_withVersion (outcome : Result (Option UavApplication)) :
    (outcome.map (Option.map (.withVersion version)) >>= fun taken => .ok (taken.map activated)) =
      (outcome >>= fun taken => .ok (taken.map activated)).map
        (Option.map (UavApplication.withVersion version)) := by
  cases outcome with
  | error failure => rfl
  | ok taken => cases taken <;> rfl

theorem decryptMtk_withVersion (n_group : Int) :
    (app.withVersion version).decryptMtk mt_k n_group =
      (app.decryptMtk mt_k n_group).map (Option.map (.withVersion version)) := by
  have keys : (app.withVersion version).m_state.d_i = app.m_state.d_i ∧
      (app.withVersion version).m_state.n_i = app.m_state.n_i := ⟨rfl,rfl⟩
  have params : (app.withVersion version).m_params = app.m_params := rfl
  have cluster : (app.withVersion version).m_cluster_id = app.m_cluster_id := rfl
  simp only [UavApplication.decryptMtk,UavApplication.verifyMtk,keys.1,keys.2,params,cluster]
  split
  · rfl
  cases BigInt.modPow mt_k app.m_state.d_i app.m_state.n_i with
  | error failure => rfl
  | ok recovered =>
    simp only [Result.ok_bind]
    cases app.m_params with
    | none => rfl
    | some file =>
      simp only [tryClusters_withVersion]
      cases file.getCluster app.m_cluster_id with
      | none =>
        simp only
        exact activated_withVersion version _
      | some entry =>
        simp only
        cases UavApplication.matchesTek entry app.m_state.n_i recovered with
        | error failure => rfl
        | ok own =>
          cases own with
          | false => exact activated_withVersion version _
          | true => rfl

end Version

section Packets

variable {app : UavApplication} {wire : ByteBuffer}

theorem not_parsed {failure : Failure} (refused : MtkPacket.deserializeNoHmac wire = .error failure) :
    (app.processMtkPacket wire).1 = app := by
  rw [UavApplication.processMtkPacket,refused]
  cases failure <;> rfl

/-- A bad buffer leaves everything, or takes over the version of the packet and nothing else. -/
theorem bad_effect (bad : Bad app wire) :
    (¬Overtakes app wire ∧ (app.processMtkPacket wire).1 = app) ∨
      Overtakes app wire ∧ ∃ version, app.m_state.rekey_version < version ∧
        (app.processMtkPacket wire).1 = app.withVersion version := by
  cases parsed : MtkPacket.deserializeNoHmac wire with
  | error failure =>
    refine .inl ⟨?_,not_parsed parsed⟩
    rintro ⟨pkt,same,-⟩
    rw [parsed] at same
    cases same
  | ok pkt =>
    have effect := UavApplication.processMtkPacket_parsed parsed app
    by_cases newer : pkt.body.cluster_id = app.m_cluster_id ∧
        app.m_state.rekey_version < pkt.body.version
    · refine .inr ⟨⟨pkt,parsed,newer⟩,pkt.body.version,newer.2,?_⟩
      rw [effect,if_pos newer,decryptMtk_withVersion]
      cases outcome : app.decryptMtk pkt.body.mtk pkt.body.n_group with
      | error failure => rfl
      | ok taken =>
        cases taken with
        | none => rfl
        | some taken => exact absurd outcome (bad pkt taken parsed)
    · refine .inl ⟨?_,by rw [effect,if_neg newer]⟩
      rintro ⟨other,same,own,above⟩
      rw [parsed] at same
      obtain rfl := Except.ok.inj same
      exact newer ⟨own,above⟩

theorem Accepts.overtakes (accepted : Accepts app wire) : Overtakes app wire := by
  obtain ⟨ack,accepted⟩ := accepted
  cases parsed : MtkPacket.deserializeNoHmac wire with
  | error failure =>
    rw [UavApplication.processMtkPacket,parsed] at accepted
    cases failure <;> simp [Result.caught] at accepted
  | ok pkt =>
    rw [UavApplication.processMtkPacket,parsed] at accepted
    simp only [Result.caught] at accepted
    split at accepted
    · simp at accepted
    rename_i own
    split at accepted
    · simp at accepted
    rename_i newer
    exact ⟨pkt,parsed,not_not.mp own,UInt32.not_le.mp newer⟩

/-- Key state and acceptance survive a bad buffer exactly where its packet is none for the UAV's
cluster with a version above the UAV's. -/
theorem intact_iff (bad : Bad app wire) :
    (keyState (app.processMtkPacket wire).1 = keyState app ∧
        ∀ genuine, Accepts app genuine → Accepts (app.processMtkPacket wire).1 genuine) ↔
      ¬Overtakes app wire := by
  obtain ⟨harmless,same⟩ | ⟨overtakes,version,above,same⟩ := bad_effect bad
  · rw [same]
    exact ⟨fun _ => harmless,fun _ => ⟨rfl,fun _ accepted => accepted⟩⟩
  · rw [same]
    refine ⟨fun kept => ?_,fun harmless => absurd overtakes harmless⟩
    have versions : version = app.m_state.rekey_version := keyState_version kept.1
    exact absurd above (versions ▸ UInt32.lt_irrefl _)

/-- Any number of such buffers leaves the UAV as it was. -/
theorem bad_run_intact {wires : List ByteBuffer}
    (each : ∀ wire ∈ wires, Bad app wire ∧ ¬Overtakes app wire) :
    wires.foldl (fun app wire => (app.processMtkPacket wire).1) app = app := by
  induction wires with
  | nil => rfl
  | cons wire wires ih =>
    obtain ⟨bad,harmless⟩ := each wire (by simp)
    obtain ⟨-,same⟩ | ⟨overtakes,-⟩ := bad_effect bad
    · rw [List.foldl_cons,same]
      exact ih (fun wire member => each wire (by simp [member]))
    · exact absurd overtakes harmless

theorem saturated_refuses (last : app.m_state.rekey_version = 0xFFFFFFFF) : ¬Accepts app wire := by
  intro accepted
  obtain ⟨pkt,-,-,above⟩ := accepted.overtakes
  have bound := pkt.body.version.toNat_lt
  rw [last,UInt32.lt_iff_toNat_lt] at above
  have limit : (0xFFFFFFFF : UInt32).toNat = 4294967295 := rfl
  omega

end Packets

def forgedPacket (version : UInt32) : MtkPacket where
  header := { packet_type := .mtkPacket }
  body := { version, mtk := 1, n_group := 1 }

/-- The last 32 bytes are not looked at. -/
def forgedWire (version : UInt32) : ByteBuffer :=
  (forgedPacket version).serialize.toOption.getD [] ++ List.replicate 32 0

def genuineWire : ByteBuffer :=
  match (startedSkdc.broadcastMtk samplePacketDraws).2 with
  | .ok (some broadcast) => broadcast.wire
  | _ => []

def joinedUav : UavApplication := KeyAgreement.idleUav.initializeSlaveKey

theorem forged_undecrypted : joinedUav.decryptMtk 1 1 = .ok none := by decide +kernel

theorem stale_forged_intact :
    keyState (joinedUav.processMtkPacket (forgedWire 0)).1 = keyState joinedUav ∧
      ∀ genuine, Accepts joinedUav genuine →
        Accepts (joinedUav.processMtkPacket (forgedWire 0)).1 genuine := by
  have parsed : MtkPacket.deserializeNoHmac (forgedWire 0) = .ok (forgedPacket 0) := by
    decide +kernel
  have bad : Bad joinedUav (forgedWire 0) := by
    intro pkt taken same decrypted
    obtain rfl := Except.ok.inj (parsed.symm.trans same)
    cases forged_undecrypted.symm.trans decrypted
  refine (intact_iff bad).mpr ?_
  rintro ⟨pkt,same,-,above⟩
  obtain rfl := Except.ok.inj (parsed.symm.trans same)
  exact absurd above (by decide +kernel)

/-- One forged packet with the last version, and no genuine packet is accepted any more. -/
theorem forged_version_locks_out :
    Bad joinedUav (forgedWire 0xFFFFFFFF) ∧
      keyState (joinedUav.processMtkPacket (forgedWire 0xFFFFFFFF)).1 ≠ keyState joinedUav ∧
      Accepts joinedUav genuineWire ∧
      ∀ genuine, ¬Accepts (joinedUav.processMtkPacket (forgedWire 0xFFFFFFFF)).1 genuine := by
  have parsed : MtkPacket.deserializeNoHmac (forgedWire 0xFFFFFFFF) =
      .ok (forgedPacket 0xFFFFFFFF) := by decide +kernel
  have version : (joinedUav.processMtkPacket (forgedWire 0xFFFFFFFF)).1.m_state.rekey_version =
      0xFFFFFFFF := by decide +kernel
  refine ⟨?_,?_,⟨none,by decide +kernel⟩,fun genuine => saturated_refuses version⟩
  · intro pkt taken same decrypted
    obtain rfl := Except.ok.inj (parsed.symm.trans same)
    cases forged_undecrypted.symm.trans decrypted
  · intro kept
    have unmoved := keyState_version kept
    rw [version] at unmoved
    exact absurd unmoved (by decide +kernel)

end UavFanet.BadTokens
