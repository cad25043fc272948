import UavFanet.Membership

/-! The TEKs of the manager as bytes and as integers, over every run of rotations, rekeys and
updates: when the two stay in step, and what each call does to the versions. -/
namespace UavFanet.Apps
open Library UavFanet.ByteUtils

inductive TekCall where
  | rotateOnLeave (draws : RotationDraws) (cluster_id : UInt32)
  | rotateOnTimer (draws : RotationDraws) (cluster_id : UInt32)
  | triggerRekey (draws : TekDraws) (cluster_id : UInt32) (reason : RekeyCause)
      (skdc : Option (Fin 3))
  | updateTek (now : UInt64) (cluster_id : UInt32) (new_tek : AesGcmKey) (version : UInt32)

namespace TekManager

/-- The integer beside each TEK is that of its bytes. -/
def InStep (mgr : TekManager) : Prop :=
  ∀ c, (mgr.m_teks c).tek_int = BigInt.fromBytes (mgr.m_teks c).tek.toList

section Records

variable {mgr : TekManager} {k : UInt32} {c : Fin 3}

theorem updateTek_same (slot : clusterSlot k = some c) (now : UInt64) (tek : AesGcmKey)
    (version : UInt32) : (mgr.updateTek now k tek version).m_teks c = { mgr.m_teks c with
      tek
      version
      valid := true
      created_at := now
      expires_at := now+tekLifetimeUs } := by
  simp only [updateTek,slot,Function.update_self]

theorem updateTek_other (apart : clusterSlot k ≠ some c) (now : UInt64) (tek : AesGcmKey)
    (version : UInt32) : (mgr.updateTek now k tek version).m_teks c = mgr.m_teks c := by
  unfold updateTek
  split
  · rfl
  · rename_i d slot
    apply Function.update_of_ne
    rintro rfl
    exact apart slot

theorem updateTek_twice (first second : UInt64) (tek : AesGcmKey) (version : UInt32) :
    (mgr.updateTek first k tek version).updateTek second k tek version =
      mgr.updateTek second k tek version := by
  unfold updateTek
  split
  · rfl
  · simp only [Function.update_self,Function.update_idem]

theorem getVersion_slot (slot : clusterSlot k = some c) :
    mgr.getVersion k = (mgr.m_teks c).version := by
  simp only [getVersion,slot]

theorem initializeTeks_inStep {file : CryptoParamsFile} {hmac_key : HmacKey}
    (integers : ∀ cl ∈ file.clusters, cl.tek_int = BigInt.fromBytes cl.tek.toList) (now : UInt64) :
    (initializeTeks now { m_params := some file, m_hmac_key := hmac_key }).InStep := by
  intro c
  simp only [initializeTeks]
  cases entry : file.clusters[c]? with
  | none => rfl
  | some cp => exact integers cp (List.mem_of_getElem? entry)

end Records
end TekManager

namespace Managers

theorem triggerRekey_tek (crypto : Primitives) (state : Managers) (draws : TekDraws) (k : UInt32)
    (reason : RekeyCause) (skdc : Option (Fin 3)) :
    ∃ now, (state.triggerRekey crypto draws k reason skdc).1.tek = state.tek.updateTek now k
      (deriveTek crypto (state.tek.getTek k) draws.ts draws.nonce) (state.tek.getVersion k+1) := by
  unfold triggerRekey
  cases slot : clusterSlot k with
  | none => exact ⟨0,by simp only [TekManager.updateTek,slot]⟩
  | some c =>
    dsimp only
    generalize deriveTek crypto (state.tek.getTek k) draws.ts draws.nonce = tek
    generalize state.tek.getVersion k+1 = version
    obtain ⟨dist,skdcs,frame⟩ := onTekRotated_frame draws.second_us draws.broadcast k tek version skdc
      { state with tek := state.tek.updateTek draws.update_us k tek version }
    have same := congrArg Managers.tek frame
    have once : ∃ now, (onTekRotated draws.second_us draws.broadcast k tek version skdc
        { state with tek := state.tek.updateTek draws.update_us k tek version }).1.tek =
          state.tek.updateTek now k tek version := by
      rw [same]
      dsimp only
      split
      · exact ⟨_,TekManager.updateTek_twice ..⟩
      · exact ⟨_,rfl⟩
    obtain ⟨now,once⟩ := once
    refine ⟨now,?_⟩
    split
    · rename_i reached failure rotated
      exact (congrArg (·.1.tek) rotated).symm.trans once
    · rename_i reached value rotated
      exact (congrArg (·.1.tek) rotated).symm.trans once

end Managers

namespace TekCall

def perform (crypto : Primitives) (state : Managers) : TekCall → Managers
  | rotateOnLeave draws k => { state with tek := state.tek.rotateOnLeave crypto draws k }
  | rotateOnTimer draws k => { state with tek := state.tek.rotateOnTimer crypto draws k }
  | triggerRekey draws k reason skdc => (state.triggerRekey crypto draws k reason skdc).1
  | updateTek now k new_tek version =>
    { state with tek := state.tek.updateTek now k new_tek version }

def step (crypto : Primitives) (state : Managers) (call : TekCall) : Managers × Option Unit :=
  (call.perform crypto state,none)

def cluster : TekCall → UInt32
  | rotateOnLeave _ k => k
  | rotateOnTimer _ k => k
  | triggerRekey _ k _ _ => k
  | updateTek _ k _ _ => k

/-- The key that a call puts beside the integer of the one before. -/
def installs (crypto : Primitives) (state : Managers) : TekCall → Option AesGcmKey
  | triggerRekey draws k _ _ =>
    some (Managers.deriveTek crypto (state.tek.getTek k) draws.ts draws.nonce)
  | updateTek _ _ new_tek _ => some new_tek
  | _ => none

/-- Every call but an update counts the version of its cluster on. -/
def counts : TekCall → Bool
  | updateTek _ _ _ _ => false
  | _ => true

structure Effect (crypto : Primitives) (state : Managers) (call : TekCall) : Prop where
  others : ∀ c, clusterSlot call.cluster ≠ some c →
    (call.perform crypto state).tek.m_teks c = state.tek.m_teks c
  rotated : call.installs crypto state = none → ∀ c, clusterSlot call.cluster = some c →
    ((call.perform crypto state).tek.m_teks c).tek_int =
      BigInt.fromBytes ((call.perform crypto state).tek.m_teks c).tek.toList
  installed : ∀ tek, call.installs crypto state = some tek → ∀ c, clusterSlot call.cluster = some c →
    ((call.perform crypto state).tek.m_teks c).tek = tek ∧
      ((call.perform crypto state).tek.m_teks c).tek_int = (state.tek.m_teks c).tek_int
  counted : call.counts = true → ∀ c, clusterSlot call.cluster = some c →
    ((call.perform crypto state).tek.m_teks c).version = (state.tek.m_teks c).version+1

section Effects

variable (crypto : Primitives) (state : Managers)

theorem doRotate_effect {call : TekCall} {draws : RotationDraws} {k : UInt32}
    (about : call.cluster = k) (rotates : call.installs crypto state = none)
    (performed : (call.perform crypto state).tek = state.tek.doRotate crypto draws k) :
    Effect crypto state call := by
  constructor
  · intro c apart
    rw [about] at apart
    rw [performed,TekManager.doRotate_other draws apart]
  · intro _ c slot
    rw [about] at slot
    simp only [performed,TekManager.doRotate,slot,Function.update_self]
  · intro tek impossible
    cases rotates.symm.trans impossible
  · intro _ c slot
    rw [about] at slot
    simp only [performed,TekManager.doRotate,slot,Function.update_self]

theorem effect (call : TekCall) : Effect crypto state call := by
  cases call with
  | rotateOnLeave draws k => exact doRotate_effect crypto state rfl rfl rfl
  | rotateOnTimer draws k => exact doRotate_effect crypto state rfl rfl rfl
  | updateTek now k new_tek version =>
    constructor
    · intro c apart
      exact TekManager.updateTek_other apart ..
    · intro impossible
      cases impossible
    · intro tek same c slot
      cases same
      simp only [perform,TekManager.updateTek_same (show clusterSlot k = some c from slot),and_self]
    · intro impossible
      cases impossible
  | triggerRekey draws k reason skdc =>
    obtain ⟨now,reached⟩ := state.triggerRekey_tek crypto draws k reason skdc
    constructor
    · intro c apart
      rw [perform,reached]
      exact TekManager.updateTek_other apart ..
    · intro impossible
      cases impossible
    · intro tek same c slot
      cases same
      rw [perform,reached,TekManager.updateTek_same (show clusterSlot k = some c from slot)]
      exact ⟨rfl,rfl⟩
    · intro _ c slot
      rw [perform,reached,TekManager.updateTek_same (show clusterSlot k = some c from slot),
        TekManager.getVersion_slot (show clusterSlot k = some c from slot)]

end Effects

/-- A call leaves bytes and integer in step if and only if a key that it installs is the one that
its cluster has. -/
theorem inStep_iff (crypto : Primitives) (state : Managers) (call : TekCall)
    (before : state.tek.InStep) : (call.perform crypto state).tek.InStep ↔
      ∀ tek, call.installs crypto state = some tek → ∀ c, clusterSlot call.cluster = some c →
        tek = (state.tek.m_teks c).tek := by
  have effect := call.effect crypto state
  constructor
  · intro after tek installs c slot
    obtain ⟨new_tek,kept⟩ := effect.installed tek installs c slot
    have same := after c
    rw [new_tek,kept,before c] at same
    have bytes : tek.toList = (state.tek.m_teks c).tek.toList := by
      apply BigEndian.decode_injective (by simp)
      exact (Int.ofNat.inj same).symm
    exact Vector.toList_inj.mp bytes
  · intro same c
    by_cases slot : clusterSlot call.cluster = some c
    · cases installs : call.installs crypto state with
      | none => exact effect.rotated installs c slot
      | some tek =>
        obtain ⟨new_tek,kept⟩ := effect.installed tek installs c slot
        rw [new_tek,kept,before c,same tek installs c slot]
    · rw [effect.others c slot]
      exact before c

/-- A rotation or rekey raises the version of its cluster by one, and leaves the other records. -/
structure Advances (crypto : Primitives) (state : Managers) (call : TekCall) : Prop where
  raised : call.counts = true → ∀ c, clusterSlot call.cluster = some c →
    ((call.perform crypto state).tek.m_teks c).version.toNat = (state.tek.m_teks c).version.toNat+1
  others : call.counts = true → ∀ c, clusterSlot call.cluster ≠ some c →
    (call.perform crypto state).tek.m_teks c = state.tek.m_teks c

theorem advances_iff (crypto : Primitives) (state : Managers) (call : TekCall) :
    Advances crypto state call ↔ (call.counts = true → ∀ c, clusterSlot call.cluster = some c →
      (state.tek.m_teks c).version ≠ 0xFFFFFFFF) := by
  have effect := call.effect crypto state
  have successor (version : UInt32) : (version+1).toNat = version.toNat+1 ↔ version ≠ 0xFFFFFFFF := by
    have bound := version.toNat_lt
    rw [UInt32.toNat_add,show (1 : UInt32).toNat = 1 from rfl,ne_eq,← UInt32.toNat_inj,
      show (0xFFFFFFFF : UInt32).toNat = 4294967295 from rfl]
    omega
  constructor
  · intro advances counts c slot
    have raised := advances.raised counts c slot
    rw [effect.counted counts c slot] at raised
    exact (successor _).mp raised
  · intro below
    constructor
    · intro counts c slot
      rw [effect.counted counts c slot]
      exact (successor _).mpr (below counts c slot)
    · intro _ c apart
      exact effect.others c apart

/-- An installed key is the one that the cluster has, and a version counted on is not the last. -/
structure Keeps (crypto : Primitives) (state : Managers) (call : TekCall) : Prop where
  key : ∀ tek, call.installs crypto state = some tek → ∀ c, clusterSlot call.cluster = some c →
    tek = (state.tek.m_teks c).tek
  version : call.counts = true → ∀ c, clusterSlot call.cluster = some c →
    (state.tek.m_teks c).version ≠ 0xFFFFFFFF

/-- From the initialised manager on, bytes and integers stay in step and versions advance by one
exactly as long as updates and rekeys leave the TEK as it is and no version is the last. -/
theorem integers_in_step_iff (crypto : Primitives) {file : CryptoParamsFile}
    (integers : ∀ cl ∈ file.clusters, cl.tek_int = BigInt.fromBytes cl.tek.toList) {now : UInt64}
    {hmac_key : HmacKey} {start : Managers} (started : start.tek =
      TekManager.initializeTeks now { m_params := some file, m_hmac_key := hmac_key })
    (calls : List TekCall) :
    (∀ front rest, calls = front ++ rest → (Run.final (step crypto) start front).tek.InStep) ∧
        Run.Along (step crypto) (Advances crypto) start calls ↔
      Run.Along (step crypto) (Keeps crypto) start calls := by
  have initial : start.tek.InStep := by
    rw [started]
    exact TekManager.initializeTeks_inStep integers now
  have always := @Run.always_iff _ _ _ (step crypto) (fun state => state.tek.InStep) _
    (inStep_iff crypto) start calls
  constructor
  · rintro ⟨inStep,advances⟩ front call rest split_calls
    have key := (always.mp inStep).2 front call rest split_calls
    have version := (advances_iff crypto _ call).mp (advances front call rest split_calls)
    exact ⟨key,version⟩
  · intro keeps
    refine ⟨always.mpr ⟨initial,?_⟩,?_⟩
    · intro front call rest split_calls
      exact (keeps front call rest split_calls).key
    · intro front call rest split_calls
      exact (advances_iff crypto _ call).mpr (keeps front call rest split_calls).version

end TekCall

theorem fleetFile_integers : ∀ cl ∈ fleetFile.clusters, cl.tek_int = BigInt.fromBytes cl.tek.toList := by
  decide +kernel

def sampleRotation : TekCall := .rotateOnTimer
  { ts := 1700000000000000, nonce := Vector.replicate 16 3, created_at := 1700000000000000 } 0

def sampleRekey : TekCall := .triggerRekey
  { ts := 1700000000000000, nonce := Vector.replicate 16 3, update_us := 1700000000000000
    second_us := 1700000000000000, broadcast := { packet := samplePacketDraws, now := 0 } }
  0 .periodic none

namespace TekCall

theorem rotation_in_step :
    (Run.final (step rotationCrypto) fleetManagers [sampleRotation]).tek.InStep ∧
    ((Run.final (step rotationCrypto) fleetManagers [sampleRotation]).tek.m_teks 0).version = 2 := by
  have keeps : Keeps rotationCrypto fleetManagers sampleRotation := by
    constructor
    · intro tek impossible
      cases impossible
    · intro _ c slot
      obtain rfl : 0 = c := Option.some.inj slot
      decide
  constructor
  · exact ((integers_in_step_iff rotationCrypto fleetFile_integers rfl [sampleRotation]).mpr
      (Run.Along.cons keeps Run.Along.nil)).1 [sampleRotation] [] rfl
  · rfl

/-- After a rekey the TEK is another one, and its integer that of the loaded one. -/
theorem rekey_out_of_step :
    (∀ cl ∈ fleetFile.clusters, cl.tek_int = BigInt.fromBytes cl.tek.toList) ∧
    ((Run.final (step rotationCrypto) fleetManagers [sampleRekey]).tek.m_teks 0).tek = zeroKey ∧
    ((Run.final (step rotationCrypto) fleetManagers [sampleRekey]).tek.m_teks 0).tek_int = 2 ∧
    ¬ (Run.final (step rotationCrypto) fleetManagers [sampleRekey]).tek.InStep := by
  have tek : ((Run.final (step rotationCrypto) fleetManagers [sampleRekey]).tek.m_teks 0).tek =
      zeroKey := by decide +kernel
  have tek_int : ((Run.final (step rotationCrypto) fleetManagers [sampleRekey]).tek.m_teks 0).tek_int =
      2 := by decide +kernel
  refine ⟨fleetFile_integers,tek,tek_int,?_⟩
  intro inStep
  have same := inStep 0
  rw [tek,tek_int] at same
  exact absurd same (by decide +kernel)

end TekCall
end UavFanet.Apps
