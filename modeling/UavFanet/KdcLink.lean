import UavFanet.SkdcRuns

/-! The KDC and one SKDC with the control packets between them: both renew the cluster's TEK,
and when they still hold the same one. -/
namespace UavFanet.Apps
open Library UavFanet.Packet

structure KdcLink where
  kdc : KdcApplication
  skdc : SkdcApplication
  control : List ByteBuffer := []

inductive LinkEvent where
  | kdcRekey (generated : Result AesGcmKey)
  | kdcSync
  | skdcRekey (draws : RekeyDraws)
  | deliver (draws : BuildDraws)

namespace KdcLink

def step (crypto : Primitives) (link : KdcLink) : LinkEvent → KdcLink × Option MtkBroadcast
  | .kdcRekey generated =>
    let (kdc,sent) := link.kdc.triggerRekey generated link.skdc.m_cluster_id
    ({ link with kdc, control := link.control ++ sent.toOption.join.toList },none)
  | .kdcSync =>
    let (kdc,sent) := link.kdc.sendTekToSkdc link.skdc.m_cluster_id
    ({ link with kdc, control := link.control ++ sent.toList },none)
  | .skdcRekey draws =>
    let (skdc,broadcast) := (SkdcCall.triggerRekey draws).perform crypto link.skdc
    ({ link with skdc },broadcast)
  | .deliver draws =>
    match link.control with
    | [] => (link,none)
    | buf :: control =>
      let (skdc,broadcast) := (SkdcCall.receiveFromKdc draws buf).perform crypto link.skdc
      ({ link with skdc, control },broadcast)

/-- What the KDC holds for the cluster is the SKDC's current TEK. -/
def Agrees (link : KdcLink) : Prop :=
  link.kdc.getTek link.skdc.m_cluster_id = link.skdc.m_state.current_tek

instance (link : KdcLink) : Decidable link.Agrees := inferInstanceAs (Decidable (_ = _))

/-- In every state of the run with no packet in flight the two sides agree. -/
def AgreesWhenQuiet (crypto : Primitives) (start : KdcLink) (events : List LinkEvent) : Prop :=
  ∀ front rest, events = front ++ rest → (Run.final (step crypto) start front).control = [] →
    (Run.final (step crypto) start front).Agrees

/-- A renewal on either side that leaves the key of that side as it is. -/
def Keeps (crypto : Primitives) (link : KdcLink) : LinkEvent → Prop
  | .kdcRekey generated => link.skdc.m_cluster_id.toNat < 3 →
      ∀ tek, generated = .ok tek → tek = link.kdc.getTek link.skdc.m_cluster_id
  | .skdcRekey draws =>
      SkdcApplication.rotatedTek crypto link.skdc.m_state draws.epoch_us = link.skdc.m_state.current_tek
  | _ => True

def KeepsKeys (crypto : Primitives) : KdcLink → List LinkEvent → Prop
  | _, [] => True
  | link, event :: rest => link.Keeps crypto event ∧ KeepsKeys crypto (link.step crypto event).1 rest

/-- All packets are delivered before a side renews its key again, and in the end. -/
def Prompt (crypto : Primitives) : KdcLink → List LinkEvent → Prop
  | link, [] => link.control = []
  | link, event :: rest =>
    (match event with
      | .kdcRekey _ | .skdcRekey _ => link.control = []
      | _ => True) ∧ Prompt crypto (link.step crypto event).1 rest

theorem initialized_agrees {kdc : KdcApplication} {skdc : SkdcApplication} {file : CryptoParamsFile}
    {cp : ClusterCryptoEntry} (known : skdc.m_cluster_id.toNat < 3)
    (kdc_params : kdc.m_params = some file) (skdc_params : skdc.m_params = some file)
    (position : file.clusters[skdc.m_cluster_id.toNat]? = some cp) (random_key : Result HmacKey) :
    ∃ started, skdc.initializeState random_key = .ok started ∧
      Agrees { kdc := kdc.initializeClusters, skdc := started } := by
  refine ⟨_,SkdcApplication.initializeState_loaded random_key skdc_params position,?_⟩
  have held : kdc.initializeClusters.getTek skdc.m_cluster_id = cp.tek := by
    have cluster : (kdc.initializeClusters.m_clusters.get ⟨skdc.m_cluster_id.toNat,known⟩) =
        KdcApplication.initializeCluster kdc.m_params ⟨skdc.m_cluster_id.toNat,known⟩
          (kdc.m_clusters.get ⟨skdc.m_cluster_id.toNat,known⟩) := Vector.getElem_mapFinIdx known
    rw [KdcApplication.getTek,dif_pos known,cluster,KdcApplication.initializeCluster,kdc_params,
      Option.bind_some]
    simp only [Fin.getElem?_fin,position]
  exact held

theorem step_cluster (crypto : Primitives) (link : KdcLink) (event : LinkEvent) :
    (link.step crypto event).1.skdc.m_cluster_id = link.skdc.m_cluster_id := by
  cases event with
  | kdcRekey generated => rfl
  | kdcSync => rfl
  | skdcRekey draws =>
    exact (SkdcCall.perform_effect crypto link.skdc (.triggerRekey draws)).cluster
  | deliver draws =>
    unfold step
    cases link.control with
    | nil => rfl
    | cons buf control =>
      exact (SkdcCall.perform_effect crypto link.skdc (.receiveFromKdc draws buf)).cluster

theorem receiveFromKdc_tek (crypto : Primitives) (skdc : SkdcApplication) (draws : BuildDraws)
    (buf : ByteBuffer) :
    ((SkdcCall.receiveFromKdc draws buf).perform crypto skdc).1.m_state.current_tek =
      skdc.m_state.current_tek := by
  rw [(SkdcCall.perform_effect crypto skdc (.receiveFromKdc draws buf)).state]
  rfl

theorem triggerRekey_tek (crypto : Primitives) (skdc : SkdcApplication) (draws : RekeyDraws) :
    ((SkdcCall.triggerRekey draws).perform crypto skdc).1.m_state.current_tek =
      SkdcApplication.rotatedTek crypto skdc.m_state draws.epoch_us := by
  rw [(SkdcCall.perform_effect crypto skdc (.triggerRekey draws)).state]
  rfl

theorem kdcSync_agrees (crypto : Primitives) (link : KdcLink) :
    (link.step crypto .kdcSync).1.Agrees ↔ link.Agrees := by
  have same : (link.kdc.sendTekToSkdc link.skdc.m_cluster_id).1.getTek link.skdc.m_cluster_id =
      link.kdc.getTek link.skdc.m_cluster_id := by
    rw [KdcApplication.getTek,KdcApplication.sendTekToSkdc_clusters,KdcApplication.getTek]
  unfold Agrees
  rw [link.step_cluster crypto .kdcSync]
  simp only [step,same]

theorem deliver_agrees (crypto : Primitives) (link : KdcLink) (draws : BuildDraws) :
    (link.step crypto (.deliver draws)).1.Agrees ↔ link.Agrees := by
  unfold Agrees
  rw [link.step_cluster crypto (.deliver draws)]
  simp only [step]
  cases link.control with
  | nil => rfl
  | cons buf control => simp only [receiveFromKdc_tek]

theorem step_agrees (crypto : Primitives) {link : KdcLink} (agrees : link.Agrees)
    (event : LinkEvent) : (link.step crypto event).1.Agrees ↔ link.Keeps crypto event := by
  have cluster := link.step_cluster crypto event
  cases event with
  | kdcRekey generated =>
    unfold Agrees at agrees ⊢
    rw [cluster]
    simp only [step,Keeps,KdcApplication.getTek_triggerRekey]
    by_cases known : link.skdc.m_cluster_id.toNat < 3
    · cases generated with
      | error failure => simp [known,agrees,Except.toOption]
      | ok tek => simp [known,agrees,Except.toOption]
    · simp [known,agrees]
  | kdcSync => simp only [kdcSync_agrees,Keeps,agrees]
  | skdcRekey draws =>
    unfold Agrees at agrees ⊢
    rw [cluster]
    simp only [step,Keeps,triggerRekey_tek,agrees]
    exact eq_comm
  | deliver draws => simp only [deliver_agrees,Keeps,agrees]

theorem step_keeps_agrees (crypto : Primitives) {link : KdcLink} {event : LinkEvent}
    (agrees : link.Agrees) (keeps : link.Keeps crypto event) :
    (link.step crypto event).1.Agrees := (step_agrees crypto agrees event).mpr keeps

theorem keepsKeys_agrees {crypto : Primitives} (front : List LinkEvent) {rest : List LinkEvent}
    {start : KdcLink} (agrees : start.Agrees) (keeps : KeepsKeys crypto start (front ++ rest)) :
    (Run.final (step crypto) start front).Agrees := by
  induction front generalizing start with
  | nil => exact agrees
  | cons event front ih =>
    obtain ⟨now,later⟩ := keeps
    exact ih (step_keeps_agrees crypto agrees now) later

section Quiet

variable {crypto : Primitives}

theorem AgreesWhenQuiet.later {start : KdcLink} {event : LinkEvent} {rest : List LinkEvent}
    (quiet : AgreesWhenQuiet crypto start (event :: rest)) :
    AgreesWhenQuiet crypto (start.step crypto event).1 rest := by
  intro front last split_rest
  exact quiet (event :: front) last (by rw [split_rest]; rfl)

/-- In a prompt run the keys do not change before the next quiet state. -/
theorem Prompt.agrees (events : List LinkEvent) {start : KdcLink}
    (prompt : Prompt crypto start events) (quiet : AgreesWhenQuiet crypto start events) :
    start.Agrees := by
  induction events generalizing start with
  | nil => exact quiet [] [] rfl prompt
  | cons event rest ih =>
    obtain ⟨now,later⟩ := prompt
    have next := ih later quiet.later
    cases event with
    | kdcRekey generated => exact quiet [] (.kdcRekey generated :: rest) rfl now
    | kdcSync => exact (start.kdcSync_agrees crypto).mp next
    | skdcRekey draws => exact quiet [] (.skdcRekey draws :: rest) rfl now
    | deliver draws => exact (start.deliver_agrees crypto draws).mp next

theorem Prompt.keepsKeys (events : List LinkEvent) {start : KdcLink}
    (prompt : Prompt crypto start events) (quiet : AgreesWhenQuiet crypto start events) :
    KeepsKeys crypto start events := by
  induction events generalizing start with
  | nil => trivial
  | cons event rest ih =>
    have agrees := prompt.agrees (event :: rest) quiet
    obtain ⟨-,later⟩ := prompt
    exact ⟨(step_agrees crypto agrees event).mp (later.agrees rest quiet.later),ih later quiet.later⟩

/-- Both sides keep agreeing as long as no renewal changes a key; where packets are delivered
before the next renewal, no longer. -/
theorem tek_agreement (crypto : Primitives) (start : KdcLink) (agrees : start.Agrees)
    (events : List LinkEvent) :
    (KeepsKeys crypto start events → AgreesWhenQuiet crypto start events) ∧
      (Prompt crypto start events → AgreesWhenQuiet crypto start events →
        KeepsKeys crypto start events) := by
  constructor
  · intro keeps front rest split_events _
    rw [split_events] at keeps
    exact keepsKeys_agrees front agrees keeps
  · intro prompt quiet
    exact prompt.keepsKeys events quiet

end Quiet

/-- Both sides right after they have loaded their keys from one file. -/
def sample : KdcLink where
  kdc := KdcApplication.initializeClusters
    { m_params := some sampleFile, m_socket := true, m_topo := true }
  skdc := startedSkdc

theorem sample_agrees : sample.Agrees := by decide +kernel

def syncEvents : List LinkEvent := [.kdcSync,.deliver samplePacketDraws]

theorem sync_agrees : AgreesWhenQuiet rotationCrypto sample syncEvents :=
  (tek_agreement rotationCrypto sample sample_agrees syncEvents).1 ⟨trivial,trivial,trivial⟩

def renewalEvents : List LinkEvent := [.kdcRekey (.ok rotatedOnce),.deliver samplePacketDraws]

theorem renewal_disagrees : ¬ AgreesWhenQuiet rotationCrypto sample renewalEvents := by
  intro quiet
  have delivered : (Run.final (step rotationCrypto) sample renewalEvents).control = [] := by
    decide +kernel
  have agrees := quiet renewalEvents [] (List.append_nil _).symm delivered
  exact absurd agrees (by decide +kernel)

end KdcLink
end UavFanet.Apps
