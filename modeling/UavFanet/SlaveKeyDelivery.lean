import UavFanet.GeneratedKeys
import UavFanet.GroupTokens
import UavFanet.SkdcHandovers
import UavFanet.UavApp

/-! The way of a slave key from the KDC to a UAV that changes its cluster: five numbers of any size
in fields of 256 bytes. -/
namespace UavFanet.SlaveKeyDelivery
open Library UavFanet.ByteUtils UavFanet.Apps UavFanet.Handover UavFanet.CrtManager

/-- The numbers of an entry that a handover delivers. -/
def delivered (sk : SlaveKeyEntry) : List Int := [sk.d_i,sk.n_i,sk.e_i,sk.Mi,sk.Ni]

def denoted (blob : SlaveKeyBlob) : List Int :=
  [blob.d_i_bytes,blob.n_i_bytes,blob.e_i_bytes,blob.Mi_bytes,blob.Ni_bytes].map BigInt.fromBytes

def Fits (sk : SlaveKeyEntry) : Prop := ∀ v ∈ delivered sk, v < 256^256

section Field

/-- The bytes that the hexadecimal digits of a number make, two to a byte. -/
def byteCount (n : Nat) : Nat := ((Nat.toDigits 16 n).length+1)/2

theorem byteCount_le {n width : Nat} (positive : 0 < width) :
    byteCount n ≤ width ↔ n < 256^width := by
  have digits := Nat.length_toDigits_le_iff (b := 16) (n := n) (k := 2*width) (by omega) (by omega)
  rw [Nat.pow_mul] at digits
  rw [← show 16^2 = 256 from rfl,← digits,byteCount]
  omega

/-- A number of up to 256 bytes stands at the right end of its field. Of a longer one the field
has the first bytes, which denote less. -/
theorem decode_writeField (n : Nat) :
    BigEndian.decode (SlaveKeyBlob.writeField (BigEndian.encode (byteCount n) n)) = n ↔
      n < 256^256 := by
  have some_digit : 0 < (Nat.toDigits 16 n).length := Nat.length_toDigits_pos
  have room : n < 256^byteCount n := (byteCount_le (by rw [byteCount]; omega)).mp le_rfl
  have limit : byteCount n ≤ 256 ↔ n < 256^256 := byteCount_le (by omega)
  rw [← limit]
  generalize byteCount n = bytes at room limit
  rw [SlaveKeyBlob.writeField,BigEndian.decode_padded]
  by_cases short : bytes ≤ 256
  · rw [List.take_of_length_le (by simpa using short),BigEndian.decode_encode,
      Nat.mod_eq_of_lt room]
    simpa using short
  · obtain ⟨extra,split⟩ := Nat.exists_eq_add_of_le (Nat.le_of_not_le short)
    rw [split,BigEndian.take_encode,BigEndian.decode_encode,← split]
    simp only [short,iff_false]
    intro same
    have cut : n/256^extra%256^256 < 256^256 := Nat.mod_lt _ (by positivity)
    rw [same] at cut
    exact short (limit.mpr cut)

/-- The bytes of a number that is not negative, and what the field denotes. -/
theorem hexBytes_field {v : Int} (natural : 0 ≤ v) :
    ∃ bytes, KdcApplication.hexBytes v = .ok bytes ∧
      (BigInt.fromBytes (SlaveKeyBlob.writeField bytes) = v ↔ v < 256^256) := by
  obtain ⟨n,rfl⟩ := Int.eq_ofNat_of_zero_le natural
  refine ⟨_,if_neg (by omega),?_⟩
  have field := decode_writeField n
  rw [BigInt.fromBytes,Int.toNat_natCast]
  exact_mod_cast field

end Field

/-- No delivered number is negative. -/
def Natural (sk : SlaveKeyEntry) : Prop := ∀ v ∈ delivered sk, 0 ≤ v

theorem natural_iff (sk : SlaveKeyEntry) : Natural sk ↔
    0 ≤ sk.d_i ∧ 0 ≤ sk.n_i ∧ 0 ≤ sk.e_i ∧ 0 ≤ sk.Mi ∧ 0 ≤ sk.Ni := by
  simp [Natural,delivered]

section Application

variable {rng : Nat → List UInt64} {prime_pairs : List (Int × Int)}

theorem modPow_natural {base exp modulus r : Int} (natural : 0 ≤ base)
    (raised : BigInt.modPow base exp modulus = .ok r) : 0 ≤ r := by
  unfold BigInt.modPow at raised
  split at raised
  · cases raised
  split at raised
  · cases raised
  · rw [← Except.ok.inj raised]
    exact Int.tmod_nonneg _ (pow_nonneg natural _)

theorem modInverse_natural {a m r : Int} (inverted : BigInt.modInverse a m = .ok r) : 0 ≤ r := by
  unfold BigInt.modInverse at inverted
  split at inverted
  · cases inverted
  · rename_i large
    simp only at inverted
    split at inverted
    · cases inverted
    · rw [BigInt.mod_positive (by omega)] at inverted
      rw [← Except.ok.inj inverted]
      exact Int.emod_nonneg _ (by omega)

theorem half_natural {p : Int} (above : 1 < p) : 0 ≤ BigInt.computeX p := by
  rw [BigInt.computeX,Int.tdiv_eq_ediv_of_nonneg (by omega)]
  omega

theorem slaveKey_natural {position : Nat} {draws : List UInt64} {p q : Int} {sk : SlaveKeyEntry}
    (p_above : 1 < p) (q_above : 1 < q) (produced : slaveKey position draws p q = .ok sk) :
    Natural sk ∧ sk.xy_i = BigInt.computeX p*BigInt.computeY q := by
  obtain ⟨e,drawn,produced⟩ := Result.bind_ok.mp produced
  obtain ⟨d,raised,produced⟩ := Result.bind_ok.mp produced
  obtain ⟨draw,-,rfl,-⟩ := KeyGroup.drawExponent_ok drawn
  have exponent : 0 ≤ BigInt.generateEi draw := by
    simp only [BigInt.generateEi]
    omega
  cases produced
  exact ⟨(natural_iff _).mpr ⟨modPow_natural exponent raised,by positivity,exponent,le_rfl,le_rfl⟩,rfl⟩

theorem slaveKeys_natural {position : Nat} {generated : List SlaveKeyEntry}
    (above : ∀ pair ∈ prime_pairs, 1 < pair.1 ∧ 1 < pair.2)
    (ok : slaveKeys rng position prime_pairs = .ok generated) :
    (∀ sk ∈ generated, Natural sk) ∧ generated.map (·.xy_i) =
      prime_pairs.map (fun pair => BigInt.computeX pair.1*BigInt.computeY pair.2) := by
  induction prime_pairs generalizing position generated with
  | nil =>
    cases ok
    simp
  | cons pair prime_pairs ih =>
    obtain ⟨sk,produced,ok⟩ := Result.bind_ok.mp ok
    obtain ⟨rest,generates,ok⟩ := Result.bind_ok.mp ok
    cases ok
    obtain ⟨p_above,q_above⟩ := above pair (by simp)
    obtain ⟨natural,product⟩ := slaveKey_natural p_above q_above produced
    obtain ⟨others,products⟩ := ih (fun pair member => above pair (by simp [member])) generates
    exact ⟨List.forall_mem_cons.mpr ⟨natural,others⟩,by simp [product,products]⟩

/-- The basis keeps the other numbers, and its cofactors grow with the total. -/
theorem withBases_natural {n_total : Int} (total : 0 ≤ n_total) {slaves based : List SlaveKeyEntry}
    (natural : ∀ sk ∈ slaves, Natural sk ∧ 0 ≤ sk.xy_i) (ok : withBases n_total slaves = .ok based) :
    ∀ sk ∈ based, Natural sk ∧ sk.xy_i ∈ slaves.map (·.xy_i) ∧ sk.Mi = n_total.tdiv sk.xy_i := by
  induction slaves generalizing based with
  | nil =>
    cases ok
    simp
  | cons sk slaves ih =>
    obtain ⟨filled,produced,ok⟩ := Result.bind_ok.mp ok
    obtain ⟨rest,fills,ok⟩ := Result.bind_ok.mp ok
    cases ok
    obtain ⟨numbers,modulus⟩ := natural sk (by simp)
    obtain ⟨Mi,divided,produced⟩ := Result.bind_ok.mp produced
    obtain ⟨Ni,inverted,produced⟩ := Result.bind_ok.mp produced
    cases produced
    have quotient : Mi = n_total.tdiv sk.xy_i := by
      unfold BigInt.divide at divided
      split at divided
      · cases divided
      · exact (Except.ok.inj divided).symm
    obtain ⟨d_i,n_i,e_i,-,-⟩ := (natural_iff sk).mp numbers
    refine List.forall_mem_cons.mpr ⟨⟨(natural_iff _).mpr ⟨d_i,n_i,e_i,?_,?_⟩,by simp,quotient⟩,?_⟩
    · rw [quotient]
      exact Int.tdiv_nonneg total modulus
    · exact modInverse_natural inverted
    · intro other inside
      obtain ⟨rest_natural,listed,rest_quotient⟩ :=
        ih (fun sk member => natural sk (by simp [member])) fills other inside
      exact ⟨rest_natural,List.mem_cons_of_mem _ listed,rest_quotient⟩

theorem mKeyGen_natural {mkg : MKeyGenResult}
    (above : ∀ pair ∈ prime_pairs, 1 < pair.1 ∧ 1 < pair.2)
    (ok : mKeyGen rng prime_pairs = .ok mkg) : ∀ sk ∈ mkg.slaves, Natural sk ∧
      sk.xy_i ∈ prime_pairs.map (fun pair => BigInt.computeX pair.1*BigInt.computeY pair.2) ∧
      sk.Mi = (prime_pairs.map (fun pair => BigInt.computeX pair.1*BigInt.computeY pair.2)).prod.tdiv
        sk.xy_i := by
  obtain ⟨generated,generates,ok⟩ := Result.bind_ok.mp ok
  obtain ⟨slaves,bases,ok⟩ := Result.bind_ok.mp ok
  obtain ⟨eM,-,ok⟩ := Result.bind_ok.mp ok
  cases ok
  obtain ⟨natural,products⟩ := slaveKeys_natural above generates
  have halves : ∀ xy ∈ generated.map (·.xy_i), 0 ≤ xy := by
    intro xy found
    rw [products] at found
    obtain ⟨pair,member,rfl⟩ := List.mem_map.mp found
    obtain ⟨p_above,q_above⟩ := above pair member
    exact mul_nonneg (half_natural p_above) (half_natural q_above)
  rw [← products]
  exact withBases_natural (List.prod_nonneg halves)
    (fun sk member => ⟨natural sk member,halves _ (List.mem_map_of_mem member)⟩) bases

end Application

section Script
open MkeMgkm

variable {primes : List (Int × Int)}

theorem findE_positive {x y e : Int} {draws rest : List (BitVec 512)}
    (found : findE x y draws = .ok (e,rest)) : 0 < e := by
  induction draws with
  | nil => cases found
  | cons k draws ih =>
    simp only [findE] at found
    split at found
    · cases found
      omega
    · exact ih found

theorem keyPair_natural {index p q : Int} {draws rest : List (BitVec 512)} {slave : Slave}
    (p_above : 1 < p) (q_above : 1 < q) (paired : keyPair index p q draws = .ok (slave,rest)) :
    0 ≤ slave.n_i ∧ 0 ≤ slave.e_i ∧ 0 ≤ slave.xy_i ∧ slave.Paired := by
  have sound := (keyPair_ok paired).2
  obtain ⟨⟨e,others⟩,found,paired⟩ := Result.bind_ok.mp paired
  obtain ⟨d,-,paired⟩ := Result.bind_ok.mp paired
  cases paired
  have modulus : 0 < p*q := by positivity
  exact ⟨modulus.le,(findE_positive found).le,sound.halves modulus,sound⟩

theorem keyPairs_natural {index : Int} {draws : List (BitVec 512)} {slaves : List Slave}
    (above : ∀ pair ∈ primes, 1 < pair.1 ∧ 1 < pair.2)
    (paired : keyPairs index primes draws = .ok slaves) :
    ∀ slave ∈ slaves, 0 ≤ slave.n_i ∧ 0 ≤ slave.e_i ∧ 0 ≤ slave.xy_i ∧ slave.Paired := by
  induction primes generalizing index draws slaves with
  | nil =>
    obtain rfl : [] = slaves := Except.ok.inj paired
    simp
  | cons pair primes ih =>
    obtain ⟨⟨slave,rest⟩,first,paired⟩ := Result.bind_ok.mp paired
    obtain ⟨others,tail,paired⟩ := Result.bind_ok.mp paired
    obtain rfl : slave::others = slaves := Except.ok.inj paired
    obtain ⟨p_above,q_above⟩ := above pair (by simp)
    exact List.forall_mem_cons.mpr ⟨keyPair_natural p_above q_above first,
      ih (fun pair member => above pair (by simp [member])) tail⟩

theorem inverse_natural {a m r : Int} (positive : 0 < m) (inverted : inverse a m = .ok r) :
    0 ≤ r := by
  unfold inverse at inverted
  simp only at inverted
  split at inverted
  · cases inverted
  · obtain ⟨-,rfl⟩ := floorMod_ok.mp inverted
    exact Int.fmod_nonneg_of_pos _ positive

theorem script_natural {draws : List (BitVec 512)} {mkg : Mkg}
    (above : ∀ pair ∈ primes, 1 < pair.1 ∧ 1 < pair.2)
    (generated : MkeMgkm.mKeyGen primes draws = .ok mkg) : ∀ slave ∈ mkg.slaves,
      0 ≤ slave.d_i ∧ 0 ≤ slave.n_i ∧ 0 ≤ slave.e_i ∧ 0 ≤ slave.Mi ∧ 0 ≤ slave.Ni := by
  obtain ⟨pairs,paired,generated⟩ := Result.bind_ok.mp generated
  obtain ⟨slaves,filled,generated⟩ := Result.bind_ok.mp generated
  obtain ⟨eM,-,generated⟩ := Result.bind_ok.mp generated
  obtain rfl := Except.ok.inj generated
  have natural := keyPairs_natural above paired
  have total : 0 ≤ (pairs.map (·.xy_i)).prod := by
    refine List.prod_nonneg ?_
    intro xy found
    obtain ⟨pair,member,rfl⟩ := List.mem_map.mp found
    exact (natural pair member).2.2.1
  intro slave inside
  obtain ⟨pair,member,computed⟩ := (Result.mapM_mem filled).2 slave inside
  obtain ⟨n_i,e_i,xy_i,sound⟩ := natural pair member
  obtain ⟨Mi,divided,computed⟩ := Result.bind_ok.mp computed
  obtain ⟨Ni,inverted,computed⟩ := Result.bind_ok.mp computed
  obtain rfl := Except.ok.inj computed
  obtain ⟨nonzero,rfl⟩ := floorDiv_ok.mp divided
  have positive : 0 < pair.xy_i := by omega
  exact ⟨sound.inverse positive,n_i,e_i,Int.fdiv_nonneg total xy_i,
    inverse_natural positive inverted⟩

end Script

/-- The entries that the application or the script makes of pairs of primes. -/
inductive Produced (sk : SlaveKeyEntry) : Prop where
  | application {rng : Nat → List UInt64} {prime_pairs : List (Int × Int)} {mkg : MKeyGenResult}
      (above : ∀ pair ∈ prime_pairs, 1 < pair.1 ∧ 1 < pair.2)
      (ok : mKeyGen rng prime_pairs = .ok mkg) (member : sk ∈ mkg.slaves)
  | script {draws : List (BitVec 512)} {primes : List (Int × Int)} {mkg : MkeMgkm.Mkg}
      {slave : MkeMgkm.Slave} (above : ∀ pair ∈ primes, 1 < pair.1 ∧ 1 < pair.2)
      (ok : MkeMgkm.mKeyGen primes draws = .ok mkg) (member : slave ∈ mkg.slaves)
      (written : delivered sk = [slave.d_i,slave.n_i,slave.e_i,slave.Mi,slave.Ni])

theorem Produced.natural {sk : SlaveKeyEntry} (produced : Produced sk) : Natural sk := by
  cases produced with
  | application above ok member => exact (mKeyGen_natural above ok sk member).1
  | script above ok member written =>
    rw [Natural,written]
    simpa using script_natural above ok _ member

/-- The KDC has what it needs to forward an entry to the SKDC of a cluster. -/
structure Forwards (kdc : KdcApplication) (uav_id new_cluster : UInt32) (sk : SlaveKeyEntry) :
    Prop where
  topology : kdc.m_topo = true
  socket : kdc.m_socket = true
  cluster : new_cluster < 3
  entry : ∃ params nc, kdc.m_params = some params ∧ params.uavs_per_cluster ≠ 0 ∧
    params.getCluster new_cluster = some nc ∧
    nc.getSlaveKey (uav_id%params.uavs_per_cluster) = some sk

def Installed (app : UavApplication) (sk : SlaveKeyEntry) : Prop :=
  app.m_state.d_i = sk.d_i ∧ app.m_state.n_i = sk.n_i ∧ app.m_state.e_i = sk.e_i

theorem forwardSlaveKey_blob (crypto : Primitives) {kdc : KdcApplication}
    {uav_id new_cluster : UInt32} {sk : SlaveKeyEntry}
    (forwards : Forwards kdc uav_id new_cluster sk) (natural : Natural sk) (iv : GcmIv)
    (old_index : UInt32) :
    ∃ forward blob, kdc.forwardSlaveKey crypto (.ok iv) uav_id new_cluster old_index =
        .ok (some forward) ∧
      buildSlaveFwd crypto (.ok iv) uav_id new_cluster blob kdc.m_gk = .ok forward.wire ∧
      (denoted blob.filled = delivered sk ↔ Fits sk) := by
  obtain ⟨topology,socket,cluster,params,nc,loaded,slots,found,slave⟩ := forwards
  obtain ⟨d_natural,n_natural,e_natural,M_natural,N_natural⟩ := (natural_iff sk).mp natural
  obtain ⟨d_i_bytes,d_i,d_field⟩ := hexBytes_field d_natural
  obtain ⟨n_i_bytes,n_i,n_field⟩ := hexBytes_field n_natural
  obtain ⟨e_i_bytes,e_i,e_field⟩ := hexBytes_field e_natural
  obtain ⟨Mi_bytes,Mi,M_field⟩ := hexBytes_field M_natural
  obtain ⟨Ni_bytes,Ni,N_field⟩ := hexBytes_field N_natural
  obtain ⟨rest,built⟩ := buildSlaveFwd_front crypto iv uav_id new_cluster
    { uav_index := uav_id%params.uavs_per_cluster, cluster_id := new_cluster, d_i_bytes, n_i_bytes
      e_i_bytes, Mi_bytes, Ni_bytes } kdc.m_gk
  refine ⟨{ uav_id, new_cluster, new_idx := uav_id%params.uavs_per_cluster, wire := _ },_,?_,
    built,?_⟩
  · simp only [KdcApplication.forwardSlaveKey,loaded,topology,Bool.not_true,Bool.false_eq_true,
      if_false,ge_iff_le,UInt32.not_le.mpr cluster,slots,found,slave,d_i,n_i,e_i,Mi,Ni,built,
      Result.ok_bind,socket,if_true]
    rfl
  · simp only [denoted,delivered,Fits,SlaveKeyBlob.filled,List.map_cons,List.map_nil,
      List.cons.injEq,and_true,List.forall_mem_cons,List.not_mem_nil,false_implies,implies_true,
      d_field,n_field,e_field,M_field,N_field]

/-- The KDC forwards every entry, and its blob reaches the UAV. -/
theorem delivery {crypto : Primitives} (inverts : Inverts crypto) {kdc : KdcApplication}
    {uav_id new_cluster : UInt32} {sk : SlaveKeyEntry}
    (forwards : Forwards kdc uav_id new_cluster sk) (natural : Natural sk) (iv iv' : GcmIv)
    (now_us : UInt64) (old_index : UInt32) :
    ∃ forward fwd wire accept,
      kdc.forwardSlaveKey crypto (.ok iv) uav_id new_cluster old_index = .ok (some forward) ∧
      parseSlaveFwd crypto forward.wire kdc.m_gk = .ok (some fwd) ∧
      buildJoinAccept crypto (.ok iv') now_us fwd.uav_id fwd.new_cluster fwd.blob.uav_index fwd.blob
        kdc.m_gk = .ok wire ∧
      parseJoinAccept crypto wire kdc.m_gk = .ok (some accept) ∧
      (denoted accept.blob = delivered sk ↔ Fits sk) := by
  obtain ⟨forward,blob,forwarded,built,faithful⟩ :=
    forwardSlaveKey_blob crypto forwards natural iv old_index
  have received := parseSlaveFwd_buildSlaveFwd inverts built
  obtain ⟨rest,accepting⟩ := buildJoinAccept_front crypto iv' uav_id new_cluster blob.filled
    kdc.m_gk now_us blob.filled.uav_index
  have accepted := parseJoinAccept_buildJoinAccept inverts accepting
  refine ⟨forward,_,_,_,forwarded,received,accepting,accepted,?_⟩
  simpa only [SlaveKeyBlob.filled_filled] using faithful

theorem installed_of_denoted {blob : SlaveKeyBlob} {sk : SlaveKeyEntry}
    (same : denoted blob = delivered sk) (new_cluster new_index : UInt32) (app : UavApplication) :
    Installed (app.updateSlaveKey blob new_cluster new_index) sk := by
  simp only [denoted,delivered,List.map_cons,List.map_nil,List.cons.injEq,and_true] at same
  obtain ⟨d_i,n_i,e_i,-,-⟩ := same
  exact ⟨d_i,n_i,e_i⟩

/-- No number is refused. The five arrive, and the UAV installs those of the entry, exactly where
each of them fits 256 bytes. -/
theorem delivery_faithful_iff {crypto : Primitives} (inverts : Inverts crypto)
    {kdc : KdcApplication} {uav_id new_cluster : UInt32} {sk : SlaveKeyEntry}
    (forwards : Forwards kdc uav_id new_cluster sk) (produced : Produced sk)
    (iv iv' : GcmIv) (now_us : UInt64) (old_index : UInt32) :
    ∃ forward fwd wire accept,
      kdc.forwardSlaveKey crypto (.ok iv) uav_id new_cluster old_index = .ok (some forward) ∧
      parseSlaveFwd crypto forward.wire kdc.m_gk = .ok (some fwd) ∧
      buildJoinAccept crypto (.ok iv') now_us fwd.uav_id fwd.new_cluster fwd.blob.uav_index fwd.blob
        kdc.m_gk = .ok wire ∧
      parseJoinAccept crypto wire kdc.m_gk = .ok (some accept) ∧
      ((denoted accept.blob = delivered sk ∧ ∀ app : UavApplication,
          Installed (app.updateSlaveKey accept.blob accept.new_cluster accept.new_index) sk) ↔
        Fits sk) := by
  obtain ⟨forward,fwd,wire,accept,forwarded,received,accepting,accepted,faithful⟩ :=
    delivery inverts forwards produced.natural iv iv' now_us old_index
  refine ⟨forward,fwd,wire,accept,forwarded,received,accepting,accepted,?_⟩
  rw [← faithful]
  exact ⟨And.left,fun same => ⟨same,installed_of_denoted same _ _⟩⟩

def fleetKdc : KdcApplication := { m_params := some fleetFile, m_topo := true, m_socket := true }

theorem fleet_delivery_faithful : ∃ sk, sampleEntry.getSlaveKey 4 = some sk ∧
    ∃ forward fwd wire accept,
      fleetKdc.forwardSlaveKey handoverCrypto (.ok (Vector.replicate 12 0)) 10 0 3 =
        .ok (some forward) ∧
      parseSlaveFwd handoverCrypto forward.wire zeroKey = .ok (some fwd) ∧
      buildJoinAccept handoverCrypto (.ok (Vector.replicate 12 1)) 0 fwd.uav_id fwd.new_cluster
        fwd.blob.uav_index fwd.blob zeroKey = .ok wire ∧
      parseJoinAccept handoverCrypto wire zeroKey = .ok (some accept) ∧
      denoted accept.blob = delivered sk := by
  have entry : sampleEntry.getSlaveKey 4 = some (sampleEntry.slave_keys[4]) := by decide +kernel
  have forwards : Forwards fleetKdc 10 0 (sampleEntry.slave_keys[4]) :=
    ⟨rfl,rfl,by decide,fleetFile,sampleEntry,rfl,by decide,by decide +kernel,entry⟩
  have produced : Produced (sampleEntry.slave_keys[4]) :=
    .application (by decide) MulticastManager.sampleEntry_generated (List.getElem_mem _)
  obtain ⟨forward,fwd,wire,accept,forwarded,received,accepting,accepted,faithful⟩ :=
    delivery_faithful_iff handoverCrypto_inverts forwards produced (Vector.replicate 12 0)
      (Vector.replicate 12 1) 0 3
  have fits : Fits (sampleEntry.slave_keys[4]) := by
    unfold Fits
    decide +kernel
  exact ⟨_,entry,forward,fwd,wire,accept,forwarded,received,accepting,accepted,(faithful.mpr fits).1⟩

section Large

def manyHalves : List Nat :=
  [33119,33179,33191,33461,33479,33521,33569,33623,33713,33749,33773,33809,33941,34253,34283,
   34319,34439,34631,34883,34913,34949,35069,35081,35099,35111,35291,35573,35831,35933,35993,
   35999,36083,36191,36251,36353,36383,36479,36563,36629,36761,36791,36821,36923,36929,37013,
   37049,37139,37181,37253,37379,37619,37853,37871,37991,38039,38183,38189,38201,38231,38303,
   38333,38453,38459,38501,38639,38669,38723,38861,38873,38891,38933,39089,39233,39239,39419,
   39443,39521,39551,39569,39659,39779,39953,39971,39983,39989,40193,40283,40343,40559,40763,
   40823,40853,40949,41081,41231,41243,41381,41399,41603,41609,41621,41669,41729,41969,42023,
   42071,42089,42131,42221,42359,42473,42611,42719,42743,42821,42923,43013,43313,43391,43541,
   43649,43661,43691,43721,43793,43943,44111,44129,44189,44249,44273,44501,44543,44651,44699,
   44729,44879,44909]

def pairUp : List Nat → List (Int × Int)
  | x::y::rest => (2*x+1,2*y+1)::pairUp rest
  | _ => []

def manyPairs : List (Int × Int) := pairUp manyHalves

/-- Below the square of 300 a number without a divisor up to 299 is prime. -/
theorem prime_of_coprime {n : Nat} (large : 299 < n) (small : n < 300*300)
    (coprime : n.Coprime (Nat.factorial 299)) : n.Prime := by
  by_contra composite
  have square := Nat.minFac_sq_le_self (by omega) composite
  have prime := Nat.minFac_prime (n := n) (by omega)
  have bound : n.minFac ≤ 299 := by nlinarith
  have divides := Nat.dvd_gcd n.minFac_dvd (Nat.dvd_factorial prime.pos bound)
  rw [coprime] at divides
  exact prime.one_lt.ne' (Nat.dvd_one.mp divides)

theorem manyHalves_safe {x : Nat} (member : x ∈ manyHalves) : KeyGroup.SafePrime (2*x+1 : Nat) := by
  have sizes : ∀ x ∈ manyHalves, 299 < x ∧ x < 44999 := by decide +kernel
  have coprime : (manyHalves.map (fun x => x*(2*x+1))).prod.Coprime (Nat.factorial 299) := by
    decide +kernel
  obtain ⟨large,small⟩ := sizes x member
  have own := coprime.coprime_dvd_left
    (List.dvd_prod (List.mem_map_of_mem (f := fun x => x*(2*x+1)) member))
  refine .of_natural (by omega) (prime_of_coprime (by omega) (by omega) own.coprime_mul_left) ?_
  rw [Nat.add_sub_cancel,Nat.mul_div_cancel_left x (by omega)]
  exact prime_of_coprime large (by omega) own.coprime_mul_right

theorem mem_pairUp (halves : List Nat) : ∀ pair ∈ pairUp halves,
    ∃ x ∈ halves, ∃ y ∈ halves, pair = (((2*x+1 : Nat) : Int),((2*y+1 : Nat) : Int)) := by
  fun_induction pairUp halves with
  | case1 x y rest ih =>
    refine List.forall_mem_cons.mpr ⟨⟨x,by simp,y,by simp,by push_cast; rfl⟩,?_⟩
    intro pair member
    obtain ⟨u,u_member,v,v_member,same⟩ := ih pair member
    exact ⟨u,by simp [u_member],v,by simp [v_member],same⟩
  | case2 => simp

theorem pairUp_sublist (halves : List Nat) :
    ((pairUp halves).flatMap (fun pair => [pair.1,pair.2])).Sublist
      (halves.map (fun x : Nat => 2*(x : Int)+1)) := by
  fun_induction pairUp halves with
  | case1 x y rest ih => exact (ih.cons_cons _).cons_cons _
  | case2 => exact List.nil_sublist _

theorem manyPairs_safe : KeyGroup.SafePairs manyPairs where
  safe := by
    intro pair member
    obtain ⟨x,x_member,y,y_member,rfl⟩ := mem_pairUp manyHalves pair member
    exact ⟨manyHalves_safe x_member,manyHalves_safe y_member⟩
  distinct := by
    have increasing : manyHalves.IsChain (· < ·) := by decide +kernel
    have halves : manyHalves.Nodup :=
      (List.isChain_iff_pairwise.mp increasing).imp (fun below => below.ne)
    refine (halves.map ?_).sublist (pairUp_sublist manyHalves)
    intro x y same
    simpa using same

/-- Every draw gives `e = 5`. -/
def manyDraws : Nat → List UInt64 := fun _ => [0]

theorem manyPairs_generate : ∃ mkg, mKeyGen manyDraws manyPairs = .ok mkg := by
  refine KeyGroup.mKeyGen_total manyPairs_safe ?_
  have admitted : ∀ pair ∈ manyPairs,
      BigInt.gcd (BigInt.generateEi 0) (BigInt.computeX pair.1*BigInt.computeY pair.2) = 1 := by
    decide +kernel
  intro i p q found
  exact ⟨0,by simp [manyDraws],admitted (p,q) (List.mem_of_getElem? found)⟩

def manyKdc (slave_keys : List SlaveKeyEntry) : KdcApplication := { fleetKdc with
  m_params := some { fleetFile with
    uavs_per_cluster := 69, clusters := [{ sampleEntry with slave_keys }] } }

/-- In a cluster of 69 slaves with 17-bit primes, no cofactor fits. -/
theorem many_unfit {mkg : MKeyGenResult} (ok : mKeyGen manyDraws manyPairs = .ok mkg)
    {sk : SlaveKeyEntry} (member : sk ∈ mkg.slaves) : Natural sk ∧ ¬Fits sk := by
  have above : ∀ pair ∈ manyPairs, 1 < pair.1 ∧ 1 < pair.2 := by decide +kernel
  have large : ∀ xy ∈ manyPairs.map (fun pair => BigInt.computeX pair.1*BigInt.computeY pair.2),
      256^256 ≤ (manyPairs.map
        (fun pair => BigInt.computeX pair.1*BigInt.computeY pair.2)).prod.tdiv xy := by
    decide +kernel
  obtain ⟨natural,modulus,cofactor⟩ := mKeyGen_natural above ok sk member
  refine ⟨natural,fun fits => ?_⟩
  have small := fits sk.Mi (by simp [delivered])
  have bound := large sk.xy_i modulus
  rw [← cofactor] at bound
  exact absurd small (not_lt.mpr bound)

theorem many_entry {mkg : MKeyGenResult} (ok : mKeyGen manyDraws manyPairs = .ok mkg) :
    ∃ sk ∈ mkg.slaves, Forwards (manyKdc mkg.slaves) 0 0 sk := by
  have indices := (KeyGroup.mKeyGen_ok manyPairs_safe ok).2.2
  cases slaves : mkg.slaves with
  | nil => simp [slaves,show manyPairs.length = 69 from rfl] at indices
  | cons sk rest =>
    have first : sk.uav_index = 0 := by
      rw [slaves,show manyPairs.length = 69 from rfl,List.range_succ_eq_map] at indices
      exact (List.cons.inj indices).1
    have slots : (69 : UInt32) ≠ 0 := by decide
    refine ⟨sk,by simp,rfl,rfl,by decide,_,_,rfl,slots,rfl,?_⟩
    simp [ClusterCryptoEntry.getSlaveKey,first]

/-- Its blob is forwarded and accepted, and denotes other numbers. -/
theorem large_cluster_altered :
    ∃ mkg sk forward fwd wire accept, mKeyGen manyDraws manyPairs = .ok mkg ∧ sk ∈ mkg.slaves ∧
      (manyKdc mkg.slaves).forwardSlaveKey handoverCrypto (.ok (Vector.replicate 12 0)) 0 0 0 =
        .ok (some forward) ∧
      parseSlaveFwd handoverCrypto forward.wire zeroKey = .ok (some fwd) ∧
      buildJoinAccept handoverCrypto (.ok (Vector.replicate 12 1)) 0 fwd.uav_id fwd.new_cluster
        fwd.blob.uav_index fwd.blob zeroKey = .ok wire ∧
      parseJoinAccept handoverCrypto wire zeroKey = .ok (some accept) ∧
      denoted accept.blob ≠ delivered sk := by
  obtain ⟨mkg,ok⟩ := manyPairs_generate
  obtain ⟨sk,member,forwards⟩ := many_entry ok
  obtain ⟨natural,unfit⟩ := many_unfit ok member
  obtain ⟨forward,fwd,wire,accept,forwarded,received,accepting,accepted,faithful⟩ :=
    delivery handoverCrypto_inverts forwards natural (Vector.replicate 12 0)
      (Vector.replicate 12 1) 0 0
  exact ⟨mkg,sk,forward,fwd,wire,accept,ok,member,forwarded,received,accepting,accepted,
    fun same => unfit (faithful.mp same)⟩

end Large

end UavFanet.SlaveKeyDelivery
