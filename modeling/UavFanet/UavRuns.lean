import UavFanet.Library.Run
import UavFanet.SkdcRuns
import UavFanet.UavApp

/-! What the packets and calls that reach a UAV leave of its keys, and when these are the keys
of its slot. -/
namespace UavFanet.Apps
open Library UavFanet.ByteUtils UavFanet.Packet UavFanet.Handover

/-- A UAV, with the token it last accepted under the keys it holds, and the key delivery after which
its TEK has not been valid yet, beside the UAV that it came to. -/
structure KeyedUav where
  app : UavApplication
  token : Option Int := none
  delivered : Option (UavApplication × JoinAccept) := none

inductive UavEvent where
  | initializeSlaveKey
  | receivePacket (buf : ByteBuffer)
  | receiveJoinAccept (now_us : UInt64) (buf : ByteBuffer)
  | updateSlaveKey (blob : SlaveKeyBlob) (new_cluster new_index : UInt32)
  | sendData (draws : DataDraws) (payload : ByteBuffer)

namespace UavApplication

def accepted (outcome : Result Reception) : Bool :=
  match outcome with
  | .ok reception => reception.decrypted == some true
  | .error _ => false

def acceptedToken (crypto : Primitives) (buf : ByteBuffer) (app : UavApplication) : Option Int :=
  if accepted (app.receivePacket crypto buf).2 then
    if peekType buf = .mtkPacket then
      (MtkPacket.deserializeNoHmac buf).toOption.map fun pkt => pkt.body.mtk
    else
      (RekeyPacket.deserialize crypto buf app.m_state.hmac_key).toOption.map fun pkt => pkt.body.mtk
  else none

/-- The key delivery that an event makes the UAV install. -/
def installs (crypto : Primitives) (app : UavApplication) : UavEvent → Option JoinAccept
  | .updateSlaveKey blob new_cluster new_index =>
    some { uav_id := app.m_uav_id, new_cluster, new_index, blob }
  | .receiveJoinAccept _ buf =>
    match parseJoinAccept crypto buf app.m_gk with
    | .ok (some accept) => if accept.uav_id = app.m_uav_id then some accept else none
    | _ => none
  | _ => none

end UavApplication

namespace KeyedUav
open UavApplication

def after (crypto : Primitives) (uav : KeyedUav) (event : UavEvent) (app : UavApplication)
    (token : Option Int) : KeyedUav where
  app := app
  token := token
  delivered :=
    if app.m_state.tek_valid then none
    else ((uav.app.installs crypto event).map fun accept => (uav.app,accept)).or uav.delivered

def step (crypto : Primitives) (uav : KeyedUav) (event : UavEvent) : KeyedUav × Option ByteBuffer :=
  match event with
  | .initializeSlaveKey => (uav.after crypto event uav.app.initializeSlaveKey none,none)
  | .receivePacket buf =>
    (uav.after crypto event (uav.app.receivePacket crypto buf).1
      ((uav.app.acceptedToken crypto buf).or uav.token),none)
  | .receiveJoinAccept now_us buf =>
    let outcome := uav.app.receiveJoinAccept crypto now_us buf
    (uav.after crypto event outcome.1
      (match uav.app.installs crypto event with
        | none => uav.token
        | some _ => none),
      outcome.2.toOption.join.map Prod.snd)
  | .updateSlaveKey blob new_cluster new_index =>
    (uav.after crypto event (uav.app.updateSlaveKey blob new_cluster new_index) none,none)
  | .sendData draws payload =>
    let outcome := uav.app.sendData crypto draws payload
    (uav.after crypto event outcome.1 uav.token,outcome.2.toOption.join)

abbrev final (crypto : Primitives) (start : KeyedUav) (events : List UavEvent) : KeyedUav :=
  Run.final (step crypto) start events

end KeyedUav

/-- The fields that the keys of a UAV depend on. -/
structure KeyFields where
  params : Option CryptoParamsFile
  cluster_id : UInt32
  uav_index : UInt32
  tek_valid : Bool
  d_i : Int
  n_i : Int
  e_i : Int
  current_tek : AesGcmKey
  hmac_key : HmacKey
  deriving DecidableEq

def UavApplication.keyFields (app : UavApplication) : KeyFields where
  params := app.m_params
  cluster_id := app.m_cluster_id
  uav_index := app.m_uav_index
  tek_valid := app.m_state.tek_valid
  d_i := app.m_state.d_i
  n_i := app.m_state.n_i
  e_i := app.m_state.e_i
  current_tek := app.m_state.current_tek
  hmac_key := app.m_state.hmac_key

namespace KeyFields

/-- The slave key of the UAV's slot, the TEK of its cluster, the HMAC key of that TEK, and a token,
if one was accepted, that the key decrypts to the TEK. -/
structure Hold (fields : KeyFields) (token : Option Int) (cluster : ClusterCryptoEntry)
    (sk : SlaveKeyEntry) : Prop where
  found : fields.params.bind (·.getCluster fields.cluster_id) = some cluster
  slave : cluster.getSlaveKey fields.uav_index = some sk
  d_i : fields.d_i = sk.d_i
  n_i : fields.n_i = sk.n_i
  e_i : fields.e_i = sk.e_i
  tek : fields.current_tek = cluster.tek
  hmac : fields.hmac_key = Hmac.keyFromAesKey fields.current_tek
  decrypts : ∀ mt_k, token = some mt_k →
    UavApplication.Decrypts cluster fields.d_i fields.n_i mt_k

def Right (fields : KeyFields) (token : Option Int) : Prop :=
  ∃ cluster sk, fields.Hold token cluster sk

/-- No slave key has been loaded yet. -/
structure Unkeyed (fields : KeyFields) : Prop where
  tek_valid : fields.tek_valid = false
  d_i : fields.d_i = 0

/-- How a token is accepted: for the own cluster, or with the key of another one. -/
inductive Accepts (before : KeyFields) (mt_k : Int) : KeyFields → Prop
  | own {cluster : ClusterCryptoEntry}
      (found : before.params.bind (·.getCluster before.cluster_id) = some cluster)
      (decrypts : UavApplication.Decrypts cluster before.d_i before.n_i mt_k) :
      Accepts before mt_k { before with tek_valid := true }
  | other {c : UInt32} {cl : ClusterCryptoEntry} {sk : SlaveKeyEntry}
      (foreign : c ≠ before.cluster_id)
      (found : before.params.bind (·.getCluster c) = some cl)
      (slave : cl.getSlaveKey (before.uav_index%6) = some sk)
      (decrypts : UavApplication.Decrypts cl sk.d_i sk.n_i mt_k) :
      Accepts before mt_k { before with
        cluster_id := c
        tek_valid := true
        d_i := sk.d_i
        n_i := sk.n_i
        e_i := sk.e_i
        current_tek := cl.tek
        hmac_key := Hmac.keyFromAesKey cl.tek }

end KeyFields

namespace UavApplication

variable {crypto : Primitives} {app : UavApplication}

theorem decryptMtk_accepts {verified : UavApplication} {mt_k n_group : Int}
    (returned : app.decryptMtk mt_k n_group = .ok (some verified)) :
    0 < app.m_state.d_i ∧ app.keyFields.Accepts mt_k verified.keyFields := by
  obtain ⟨loaded,file,taken,params,rfl,outcome⟩ := decryptMtk_some returned
  refine ⟨loaded,?_⟩
  rcases outcome with ⟨rfl,cluster,found,decrypts⟩ | ⟨c,cl,sk,foreign,found,slave,decrypts,rfl⟩
  · have own : taken.keyFields.params.bind (·.getCluster taken.m_cluster_id) = some cluster := by
      rw [keyFields,params]
      exact found
    exact .own own decrypts
  · have other : app.keyFields.params.bind (·.getCluster c) = some cl := by
      rw [keyFields,params]
      exact found
    exact .other foreign other slave decrypts

/-- What became of a token that came in a packet of its type. -/
structure Took (app : UavApplication) (parsed : Result Int)
    (outcome : UavApplication × Result Reception) : Prop where
  refused : accepted outcome.2 = false → outcome.1.keyFields = app.keyFields
  taken : accepted outcome.2 = true → ∃ mt_k, parsed = .ok mt_k ∧ 0 < app.m_state.d_i ∧
    app.keyFields.Accepts mt_k outcome.1.keyFields

theorem Took.unchanged {parsed : Result Int} {outcome : UavApplication × Result Reception}
    (same : outcome.1.keyFields = app.keyFields) (silent : accepted outcome.2 = false) :
    app.Took parsed outcome where
  refused _ := same
  taken sure := by
    rw [silent] at sure
    cases sure

theorem processMtkPacket_took (wire : ByteBuffer) (app : UavApplication) :
    app.Took ((MtkPacket.deserializeNoHmac wire).map fun pkt => pkt.body.mtk)
      (app.processMtkPacket wire) := by
  rw [processMtkPacket]
  split
  · exact .unchanged rfl rfl
  · exact .unchanged rfl rfl
  · rename_i pkt parsed
    split
    · exact .unchanged rfl rfl
    split
    · exact .unchanged rfl rfl
    simp only
    split
    · exact .unchanged rfl rfl
    · exact .unchanged rfl rfl
    · exact .unchanged rfl rfl
    · rename_i verified outcome
      obtain ⟨loaded,accepts⟩ := decryptMtk_accepts (Result.caught_some.mp outcome)
      constructor
      · intro refused
        cases refused
      · intro _
        exact ⟨pkt.body.mtk,by rw [Result.caught_some.mp parsed]; rfl,loaded,accepts⟩

theorem processRekeyPacket_took (wire : ByteBuffer) (app : UavApplication) :
    app.Took ((RekeyPacket.deserialize crypto wire app.m_state.hmac_key).map fun pkt => pkt.body.mtk)
      (app.processRekeyPacket crypto wire) := by
  rw [processRekeyPacket]
  split
  · exact .unchanged rfl rfl
  · exact .unchanged rfl rfl
  · rename_i pkt parsed
    split
    · exact .unchanged rfl rfl
    simp only
    split
    · exact .unchanged rfl rfl
    · exact .unchanged rfl rfl
    · rename_i decrypted outcome
      cases decrypted with
      | none => exact .unchanged rfl rfl
      | some verified =>
        obtain ⟨loaded,accepts⟩ := decryptMtk_accepts (Result.caught_some.mp outcome)
        constructor
        · intro refused
          cases refused
        · intro _
          exact ⟨pkt.body.mtk,by rw [Result.caught_some.mp parsed]; rfl,loaded,accepts⟩

def tokenIn (crypto : Primitives) (buf : ByteBuffer) (app : UavApplication) : Result Int :=
  if peekType buf = .mtkPacket then (MtkPacket.deserializeNoHmac buf).map fun pkt => pkt.body.mtk
  else (RekeyPacket.deserialize crypto buf app.m_state.hmac_key).map fun pkt => pkt.body.mtk

theorem acceptedToken_tokenIn (crypto : Primitives) (buf : ByteBuffer) (app : UavApplication) :
    app.acceptedToken crypto buf =
      if accepted (app.receivePacket crypto buf).2 then (app.tokenIn crypto buf).toOption else none := by
  have mapped {P : Type} (parsed : Result P) (token : P → Int) :
      parsed.toOption.map token = (parsed.map token).toOption := by
    cases parsed with
    | error failure => rfl
    | ok pkt => rfl
  rw [acceptedToken,tokenIn,mapped,mapped,apply_ite Except.toOption]

theorem receivePacket_took (crypto : Primitives) (buf : ByteBuffer) (app : UavApplication) :
    app.Took (app.tokenIn crypto buf) (app.receivePacket crypto buf) := by
  rw [receivePacket]
  split
  · exact .unchanged rfl rfl
  split
  · exact .unchanged rfl rfl
  split
  · rename_i mtk
    rw [tokenIn,if_pos mtk]
    exact processMtkPacket_took buf app
  · rename_i other
    rw [tokenIn,if_neg other]
    split
    · exact processRekeyPacket_took buf app
    · exact .unchanged rfl rfl

theorem receivePacket_effect (crypto : Primitives) (buf : ByteBuffer) (app : UavApplication) :
    (app.acceptedToken crypto buf = none ∧
      (app.receivePacket crypto buf).1.keyFields = app.keyFields) ∨
    ∃ mt_k, app.acceptedToken crypto buf = some mt_k ∧ 0 < app.m_state.d_i ∧
      app.keyFields.Accepts mt_k (app.receivePacket crypto buf).1.keyFields := by
  obtain ⟨refused,taken⟩ := receivePacket_took crypto buf app
  rw [acceptedToken_tokenIn]
  cases sure : accepted (app.receivePacket crypto buf).2 with
  | false => exact .inl ⟨rfl,refused sure⟩
  | true =>
    obtain ⟨mt_k,carried,loaded,accepts⟩ := taken sure
    exact .inr ⟨mt_k,by rw [carried]; rfl,loaded,accepts⟩

theorem receiveJoinAccept_app (crypto : Primitives) (now_us : UInt64) (buf : ByteBuffer)
    (app : UavApplication) :
    (app.receiveJoinAccept crypto now_us buf).1 =
      match app.installs crypto (.receiveJoinAccept now_us buf) with
      | none => app
      | some accept => app.updateSlaveKey accept.blob accept.new_cluster accept.new_index := by
  rw [receiveJoinAccept,installs]
  rcases parseJoinAccept crypto buf app.m_gk with failure | _ | accept
  · rfl
  · rfl
  · by_cases mine : accept.uav_id = app.m_uav_id
    · simp only [mine,ne_eq,not_true_eq_false,if_false,if_true]
    · simp only [mine,ne_eq,not_false_eq_true,if_false,if_true]

theorem sendData_keyFields (draws : DataDraws) (payload : ByteBuffer) (app : UavApplication) :
    (app.sendData crypto draws payload).1.keyFields = app.keyFields := by
  rw [sendData]
  split
  · rfl
  split
  · rfl
  simp only
  split
  · rfl
  · rfl

theorem initializeSlaveKey_keyFields (app : UavApplication) :
    app.initializeSlaveKey.keyFields = app.keyFields ∨
      app.initializeSlaveKey.m_state.tek_valid = true ∧
        app.initializeSlaveKey.keyFields.Right none := by
  rw [initializeSlaveKey]
  cases found : app.m_params.bind (fun file => file.getCluster app.m_cluster_id) with
  | none => exact .inl rfl
  | some cluster =>
    cases slave : cluster.getSlaveKey app.m_uav_index with
    | none => exact .inl (by simp only [slave])
    | some sk =>
      right
      simp only [slave]
      refine ⟨trivial,cluster,sk,found,slave,rfl,rfl,rfl,rfl,rfl,?_⟩
      intro mt_k absent
      cases absent

end UavApplication
end UavFanet.Apps
