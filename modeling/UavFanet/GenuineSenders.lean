import UavFanet.SequenceRuns

/-! A receiver's replay cache over the packets of honest nodes: numbers that grow under each
id are all accepted. -/
namespace UavFanet.Apps
open Library UavFanet.Packet UavFanet.Replay

/-- The clock readings with which a receiver checks one packet. -/
structure Delivery where
  header : BaseHeader
  wall : UInt64
  now_us : UInt64

def feed (cache : ReplayCache) : List Delivery → List ReplayCheckResult
  | [] => []
  | delivery :: rest =>
    let (result,cache) := checkAndRecord delivery.wall cache delivery.header.src_node_id.toUInt32
      delivery.header.extractReplayToken delivery.now_us
    result :: feed cache rest

def Delivery.Timely (max_skew_us : UInt64) (delivery : Delivery) : Prop :=
  checkTimestamp max_skew_us delivery.header.timestamp_us
    (checkTime delivery.wall delivery.now_us) = true

/-- A sender's state has not come up to a header yet, in number or in nonce. -/
structure Awaits (state : SenderState) (header : BaseHeader) : Prop where
  number : state.last_seq = 0 ∨ state.last_seq < header.sequence_num
  nonce : header.nonce = zeroNonce ∨ header.nonce ∉ state.nonce_cache

theorem Awaits.accepted {state : SenderState} {header : BaseHeader} {window_size : UInt32}
    (awaits : Awaits state header)
    (room : header.sequence_num.toNat+window_size.toNat < 2^64) :
    checkState window_size state header.extractReplayToken = .accepted := by
  rw [checkState_iff]
  refine ⟨checkNonce_iff.mpr awaits.nonce,?_⟩
  rcases awaits.number with empty | above
  · exact .inl empty
  · refine .inr ⟨?_,checkSequence_iff.mpr (.inl above)⟩
    have sum : (header.sequence_num+window_size.toUInt64).toNat =
        header.sequence_num.toNat+window_size.toNat := by
      rw [UInt64.toNat_add,UInt32.toNat_toUInt64]
      exact Nat.mod_eq_of_lt room
    have number := UInt64.lt_iff_toNat_lt.mp above
    show state.last_seq < header.sequence_num+window_size.toUInt64
    rw [UInt64.lt_iff_toNat_lt,sum]
    omega

theorem recordSequence_nonce_cache (state : SenderState) (seq : UInt64) :
    (recordSequence state seq).nonce_cache = state.nonce_cache := by
  simp only [recordSequence]
  split_ifs
  · rfl
  · rfl
  · rfl

theorem recordToken_nonce_cache (state : SenderState) (token : ReplayToken) (now_us : UInt64) :
    (recordToken state token now_us).nonce_cache =
      state.nonce_cache.set state.nonce_head token.nonce state.nonce_head.isLt :=
  recordSequence_nonce_cache (recordNonce state token.nonce) token.sequence_num

theorem Awaits.recorded {state : SenderState} {header later : BaseHeader} (now_us : UInt64)
    (awaits : Awaits state header) (awaits_later : Awaits state later)
    (grows : header.sequence_num < later.sequence_num) (differs : header.nonce ≠ later.nonce) :
    Awaits (recordToken state header.extractReplayToken now_us) later where
  number := by
    right
    rcases awaits.number with empty | above
    · by_cases start : header.sequence_num ≤ state.last_seq
      · rw [(recordToken_within now_us start).1,empty]
        exact UInt64.lt_of_le_of_lt UInt64.zero_le grows
      · rw [(recordToken_above now_us (UInt64.not_le.mp start)).1]
        exact grows
    · rw [(recordToken_above now_us above).1]
      exact grows
  nonce := by
    rcases awaits_later.nonce with zero | absent
    · exact .inl zero
    · right
      rw [recordToken_nonce_cache]
      intro present
      rcases Vector.mem_or_eq_of_mem_set present with cached | equal
      · exact absent cached
      · exact differs equal.symm

theorem Awaits.initial (header : BaseHeader) : Awaits {} header where
  number := .inl rfl
  nonce := by
    by_cases zero : header.nonce = zeroNonce
    · exact .inl zero
    · right
      intro present
      exact zero (Vector.eq_of_mem_replicate present)

theorem senderState_putSender (cache : ReplayCache) (sender_id other : UInt32) (state : SenderState) :
    senderState (putSender cache sender_id state) other =
      if sender_id = other then state else senderState cache other := by
  rw [senderState,getElem?_putSender]
  split
  · rfl
  · rfl

/-- One accepted packet leaves the cache waiting for all that come after it. -/
theorem feed_accepted (deliveries : List Delivery) (cache : ReplayCache)
    (increasing : Increasing (deliveries.map (·.header)))
    (nonces : (deliveries.map (·.header.nonce)).Nodup)
    (timely : ∀ delivery ∈ deliveries, delivery.Timely cache.m_max_skew_us)
    (room : ∀ delivery ∈ deliveries,
      delivery.header.sequence_num.toNat+cache.m_window_size.toNat < 2^64)
    (awaits : ∀ delivery ∈ deliveries,
      Awaits (senderState cache delivery.header.src_node_id.toUInt32) delivery.header) :
    ∀ result ∈ feed cache deliveries, result = .accepted := by
  induction deliveries generalizing cache with
  | nil =>
    intro result member
    cases member
  | cons delivery rest ih =>
    obtain ⟨grows,increasing_rest⟩ := List.pairwise_cons.mp increasing
    obtain ⟨fresh,nonces_rest⟩ := List.nodup_cons.mp nonces
    have accepted := (awaits delivery List.mem_cons_self).accepted (room delivery List.mem_cons_self)
    have on_time : checkTimestamp cache.m_max_skew_us delivery.header.extractReplayToken.timestamp_us
        (checkTime delivery.wall delivery.now_us) = true := timely delivery List.mem_cons_self
    have checked : checkAndRecord delivery.wall cache delivery.header.src_node_id.toUInt32
        delivery.header.extractReplayToken delivery.now_us = (.accepted,
          putSender cache delivery.header.src_node_id.toUInt32
            (recordToken (senderState cache delivery.header.src_node_id.toUInt32)
              delivery.header.extractReplayToken (checkTime delivery.wall delivery.now_us))) := by
      simp [checkAndRecord,doCheck,on_time,accepted]
    intro result member
    rw [feed,checked] at member
    rcases List.mem_cons.mp member with rfl | later
    · rfl
    apply ih _ increasing_rest nonces_rest ?_ ?_ ?_ result later
    · exact fun other inside => timely other (.tail _ inside)
    · exact fun other inside => room other (.tail _ inside)
    intro other inside
    have waiting := awaits other (.tail _ inside)
    rw [senderState_putSender]
    split
    · rename_i same
      rw [← same] at waiting
      apply (awaits delivery List.mem_cons_self).recorded _ waiting
      · exact grows other.header (List.mem_map_of_mem inside) (UInt16.toUInt32_inj.mp same)
      · intro equal
        exact fresh (List.mem_map.mpr ⟨other,inside,equal.symm⟩)
    · exact waiting

/-- Under each id the numbers grow, and every receiver with that window takes all packets, if
it checks them in order and in time. -/
structure NeverReplays (headers : List BaseHeader) (window_size : UInt32) : Prop where
  increasing : Increasing headers
  accepted : ∀ max_skew_us deliveries, deliveries.map Delivery.header = headers →
    (headers.map (·.nonce)).Nodup → (∀ delivery ∈ deliveries, delivery.Timely max_skew_us) →
    ∀ result ∈ feed (.new max_skew_us window_size) deliveries, result = .accepted

/-- No counter comes as near to its end as the receivers' window is wide. -/
def Room (scenario : Scenario) (calls : List Build) (window_size : UInt32) : Prop :=
  ∀ c, scenario.value c+Run.draws Build.counter c calls < 2^64 ∧
    scenario.value c+Run.draws Build.counter c calls+window_size.toNat ≤ 2^64

theorem built_room {crypto : Primitives} {scenario : Scenario} {calls : List Build}
    {window_size : UInt32} (room : Room scenario calls window_size) {made : Build × BaseHeader}
    (member : made ∈ built crypto scenario calls) :
    made.2.sequence_num.toNat+window_size.toNat < 2^64 := by
  cases shared : made.1.counter with
  | none =>
    have bound := window_size.toNat_lt
    rw [built_unshared crypto calls scenario made member shared,show (1 : UInt64).toNat = 1 from rfl]
    omega
  | some c =>
    obtain ⟨fits,window_fits⟩ := room c
    have most := ((Build.run_counts crypto).number_range calls fits made member shared).2
    omega

theorem separate_neverReplays {crypto : Primitives} {scenario : Scenario} {calls : List Build}
    {window_size : UInt32} (separate : Separate crypto scenario calls)
    (room : Room scenario calls window_size) :
    NeverReplays ((built crypto scenario calls).map Prod.snd) window_size where
  increasing := built_increasing separate fun c => (room c).1
  accepted max_skew_us deliveries delivered nonces timely := by
    have member {delivery : Delivery} (inside : delivery ∈ deliveries) :
        ∃ made ∈ built crypto scenario calls, made.2 = delivery.header := by
      have header_inside := List.mem_map_of_mem (f := Delivery.header) inside
      rw [delivered] at header_inside
      exact List.mem_map.mp header_inside
    apply feed_accepted deliveries
    · rw [delivered]
      exact built_increasing separate fun c => (room c).1
    · rw [← delivered,List.map_map] at nonces
      exact nonces
    · exact timely
    · intro delivery inside
      obtain ⟨made,made_inside,same⟩ := member inside
      rw [← same]
      exact built_room room made_inside
    · intro delivery _
      exact Awaits.initial _

/-- From a start on, packets that share an id only with packets from the same counter have growing
numbers that all receivers accept; where no number is lost, no others do. -/
theorem genuine_senders (crypto : Primitives) (scenario : Scenario) (calls : List Build)
    (window_size : UInt32) (started : ∀ c, scenario.value c = 1) :
    (Separate crypto scenario calls ∧ Room scenario calls window_size →
      NeverReplays ((built crypto scenario calls).map Prod.snd) window_size) ∧
    (NoneLost crypto scenario calls → Room scenario calls window_size →
      NeverReplays ((built crypto scenario calls).map Prod.snd) window_size →
        Separate crypto scenario calls) := by
  constructor
  · rintro ⟨separate,room⟩
    exact separate_neverReplays separate room
  · intro kept room fine
    exact separate_of_increasing started (fun c => (room c).1) kept fine.increasing

def idleScenario : Scenario where
  managers i := {
    m_node_id := UInt16.ofNat i, m_cluster_id := 0, m_hmac_key := zeroKey, m_tek := zeroKey }
  uavs i := { m_uav_id := UInt32.ofNat i }
  skdcs c := { node_id := UInt32.ofNat (c+1) }

def joinDraws (nonce : UInt8) : BuildDraws where
  body_us := 1700000000000000
  body_nonce := .ok (Vector.replicate 16 nonce)
  token_us := 1700000000000000
  token_nonce := .ok (Vector.replicate 16 nonce)

def silentCrypto : Primitives where
  sha256 _ := zeroKey
  hmacSha256 _ _ := zeroKey
  gcmEncrypt _ _ text _ := (text,Vector.replicate 16 0)
  gcmDecrypt _ _ _ _ _ := none

/-- UAVs 4 and 5 ask to join, one of them twice, from managers of their own. -/
def orderlyJoins : List Build :=
  [.makeJoinRequest 4 (joinDraws 1) 1 0 4,.makeJoinRequest 5 (joinDraws 2) 1 0 5,
    .makeJoinRequest 4 (joinDraws 3) 1 0 4]

theorem idleScenario_started (c : Counter) : idleScenario.value c = 1 := by
  cases c with
  | manager i => rfl
  | uav i => rfl
  | skdc c => rfl

theorem orderlyJoins_accepted :
    NeverReplays ((built silentCrypto idleScenario orderlyJoins).map Prod.snd) 64 := by
  have separate : Separate silentCrypto idleScenario orderlyJoins := by
    decide +kernel
  have room : Room idleScenario orderlyJoins 64 := by
    intro c
    have few : Run.draws Build.counter c orderlyJoins ≤ 3 := List.countP_le_length
    rw [idleScenario_started,show (64 : UInt32).toNat = 64 from rfl]
    omega
  exact (genuine_senders silentCrypto idleScenario orderlyJoins 64 idleScenario_started).1
    ⟨separate,room⟩

/-- UAV 4 asks to join twice, as the join manager writes it. -/
def repeatedJoins : List Build :=
  [.buildJoinPacket (joinDraws 1) 4 4 0,.buildJoinPacket (joinDraws 2) 4 4 0]

theorem repeatedJoins_replay :
    ¬ NeverReplays ((built silentCrypto idleScenario repeatedJoins).map Prod.snd) 64 := by
  intro fine
  exact absurd fine.increasing (by decide)

end UavFanet.Apps
