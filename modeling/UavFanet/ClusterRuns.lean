import UavFanet.MemberUpdates

/-! Runs of `ProcessJoin` and `ProcessLeave` calls on the cluster table: what one
call does to one cluster, and what then holds after every run. -/
namespace UavFanet.ClusterRuns
open Library UavFanet.BigInt UavFanet.CrtManager UavFanet.KeyGroup UavFanet.TokenGeneration
open UavFanet.MemberUpdates

inductive ClusterCall where
  | join (cluster_id index : UInt32)
  | leave (cluster_id index : UInt32) (nonce : Result Nonce128) (now_us : UInt64)

def ClusterCall.cluster_id : ClusterCall → UInt32
  | .join cluster_id _ => cluster_id
  | .leave cluster_id _ _ _ => cluster_id

def call (crypto : Primitives) (clusters : Clusters) : ClusterCall → Clusters × Result MTokenResult
  | .join cluster_id index => processJoin clusters cluster_id index
  | .leave cluster_id index nonce now_us =>
    processLeave crypto nonce now_us clusters cluster_id index

def runCalls (crypto : Primitives) (clusters : Clusters) (calls : List ClusterCall) : Clusters :=
  calls.foldl (fun clusters op => (call crypto clusters op).1) clusters

inductive Effect (crypto : Primitives) (c : UInt32) (cs : ClusterState) :
    ClusterCall → ClusterState → Result MTokenResult → Prop
  | elsewhere {op : ClusterCall} {outcome : Result MTokenResult} (other : op.cluster_id ≠ c) :
      Effect crypto c cs op cs outcome
  | joinRefused {index : UInt32} {failure : Failure}
      (refused : joKeyUpdate cs.mkg cs.mtoken index = .error failure) :
      Effect crypto c cs (.join c index) cs (.error failure)
  | joined {index : UInt32} {mtoken : MTokenResult}
      (updated : joKeyUpdate cs.mkg cs.mtoken index = .ok mtoken) :
      Effect crypto c cs (.join c index) { cs with mtoken, rekey_count := cs.rekey_count+1 }
        (.ok mtoken)
  | leaveRefused {index : UInt32} {nonce : Result Nonce128} {now_us : UInt64} {failure : Failure}
      (refused : leKeyUpdate cs.mkg cs.mtoken index = .error failure) :
      Effect crypto c cs (.leave c index nonce now_us) cs (.error failure)
  | leaveInterrupted {index : UInt32} {now_us : UInt64} {failure : Failure} {mtoken : MTokenResult}
      (updated : leKeyUpdate cs.mkg cs.mtoken index = .ok mtoken) :
      Effect crypto c cs (.leave c index (.error failure) now_us) { cs with mtoken } (.error failure)
  | left {index : UInt32} {nonce : Nonce128} {now_us : UInt64} {mtoken : MTokenResult}
      (updated : leKeyUpdate cs.mkg cs.mtoken index = .ok mtoken) :
      Effect crypto c cs (.leave c index (.ok nonce) now_us)
        { cs with
          mtoken, tek := rotateTek crypto cs.tek now_us nonce, rekey_count := cs.rekey_count+1 }
        (.ok mtoken)

variable {c : UInt32} {cs : ClusterState} {clusters : Clusters}

theorem getElem?_replaced (found : clusters[c.toNat]? = some cs) (other : ClusterState) :
    (clusters.set c.toNat other)[c.toNat]? = some other := by
  obtain ⟨bound,_⟩ := List.getElem?_eq_some_iff.mp found
  simp [bound]

theorem getElem?_elsewhere {d : UInt32} (apart : d ≠ c) (other : ClusterState) :
    (clusters.set d.toNat other)[c.toNat]? = clusters[c.toNat]? :=
  List.getElem?_set_ne (fun same => apart (UInt32.toNat_inj.mp same))

theorem call_effect (crypto : Primitives) (found : clusters[c.toNat]? = some cs)
    (op : ClusterCall) :
    ∃ cs', (call crypto clusters op).1[c.toNat]? = some cs' ∧
      Effect crypto c cs op cs' (call crypto clusters op).2 := by
  have located : getClusterState clusters c = .ok cs := by rw [getClusterState,found]
  cases op with
  | join d index =>
    by_cases here : d = c
    · subst here
      cases updated : joKeyUpdate cs.mkg cs.mtoken index with
      | error failure =>
        simp only [call,processJoin,located,updated]
        exact ⟨cs,found,.joinRefused updated⟩
      | ok mtoken =>
        simp only [call,processJoin,located,updated]
        exact ⟨_,getElem?_replaced found _,.joined updated⟩
    · refine ⟨cs,?_,.elsewhere here⟩
      simp only [call,processJoin]
      split
      · exact found
      · split
        · exact found
        · rwa [getElem?_elsewhere here]
  | leave d index nonce now_us =>
    by_cases here : d = c
    · subst here
      cases updated : leKeyUpdate cs.mkg cs.mtoken index with
      | error failure =>
        simp only [call,processLeave,located,updated]
        exact ⟨cs,found,.leaveRefused updated⟩
      | ok mtoken =>
        cases nonce with
        | error failure =>
          simp only [call,processLeave,located,updated]
          exact ⟨_,getElem?_replaced found _,.leaveInterrupted updated⟩
        | ok nonce =>
          simp only [call,processLeave,located,updated]
          exact ⟨_,getElem?_replaced found _,.left updated⟩
    · refine ⟨cs,?_,.elsewhere here⟩
      simp only [call,processLeave]
      split
      · exact found
      · split
        · exact found
        · split <;> rwa [getElem?_elsewhere here]

/-- The members of cluster `c` after a call: calls that name no slave throw. -/
def membersOf (mkg : MKeyGenResult) (c : UInt32) (members : List UInt32) (op : ClusterCall) :
    List UInt32 :=
  match op with
  | .join d index =>
    if d = c ∧ (findSlave mkg index).isSome then members ++ [index] else members
  | .leave d index _ _ =>
    if d = c ∧ (findSlave mkg index).isSome then members.filter (· != index) else members

/-- No slave joins that is a member, and none leaves that is not. -/
def Orderly (mkg : MKeyGenResult) (c : UInt32) (members : List UInt32) : ClusterCall → Prop
  | .join d index => d = c → (findSlave mkg index).isSome → index ∉ members
  | .leave d index _ _ => d = c → (findSlave mkg index).isSome → index ∈ members

def AllOrderly (mkg : MKeyGenResult) (c : UInt32) : List UInt32 → List ClusterCall → Prop
  | _, [] => True
  | members, op::calls =>
    Orderly mkg c members op ∧ AllOrderly mkg c (membersOf mkg c members op) calls

/-- Members recover the secret; the exponent carries nothing of the other slaves. -/
structure Consistent (T : Int) (cs : ClusterState) : Prop where
  members : ∀ sk ∈ cs.mkg.slaves, sk.uav_index ∈ cs.mtoken.user_indices →
    slaveDecrypt sk cs.mtoken.MT_K = .ok (T%sk.n_i)
  outsiders : ∀ sk ∈ cs.mkg.slaves, sk.uav_index ∉ cs.mtoken.user_indices →
    sk.xy_i ∣ cs.mtoken.e_MK

theorem Consistent.ofToken (master : MasterKey cs.mkg) {members : List UInt32} {T : Int}
    (nonneg : 0 ≤ T) (token : TokenFor cs.mkg members T cs.mtoken) : Consistent T cs where
  members sk member inside :=
    slaveDecrypt_token master nonneg token member (token.users ▸ inside)
  outsiders sk member outside := by
    have residue := token.exponent.residue sk member
    rw [token.users] at outside
    rw [if_neg (by simpa using outside)] at residue
    exact Int.modEq_zero_iff_dvd.mp residue

private theorem joKeyUpdate_step {mkg : MKeyGenResult} (master : MasterKey mkg)
    (distinct : (mkg.slaves.map (·.uav_index)).Nodup) {members : List UInt32} {T : Int}
    {current : MTokenResult} (token : TokenFor mkg members T current) {index : UInt32}
    (outside : (findSlave mkg index).isSome → index ∉ members) :
    (findSlave mkg index = none ∧ ∃ failure, joKeyUpdate mkg current index = .error failure) ∨
      ((findSlave mkg index).isSome ∧ ∃ mt, joKeyUpdate mkg current index = .ok mt ∧
        TokenFor mkg (members ++ [index]) T mt) := by
  cases found : findSlave mkg index with
  | none => exact .inl ⟨rfl,_,by rw [joKeyUpdate,found]⟩
  | some sk =>
    obtain ⟨member,rfl⟩ := findSlave_some found
    exact .inr ⟨rfl,joKeyUpdate_ok master distinct token member (outside (by simp [found]))⟩

private theorem leKeyUpdate_step {mkg : MKeyGenResult} (master : MasterKey mkg)
    (distinct : (mkg.slaves.map (·.uav_index)).Nodup) {members : List UInt32} {T : Int}
    {current : MTokenResult} (token : TokenFor mkg members T current) {index : UInt32}
    (inside : (findSlave mkg index).isSome → index ∈ members) :
    (findSlave mkg index = none ∧ ∃ failure, leKeyUpdate mkg current index = .error failure) ∨
      ((findSlave mkg index).isSome ∧ ∃ mt, leKeyUpdate mkg current index = .ok mt ∧
        TokenFor mkg (members.filter (· != index)) T mt) := by
  cases found : findSlave mkg index with
  | none => exact .inl ⟨rfl,_,by rw [leKeyUpdate,found]⟩
  | some sk =>
    obtain ⟨member,rfl⟩ := findSlave_some found
    exact .inr ⟨rfl,leKeyUpdate_ok master distinct token member (inside (by simp [found]))⟩

variable {crypto : Primitives}

theorem effect_token {mkg : MKeyGenResult} (master : MasterKey mkg)
    (distinct : (mkg.slaves.map (·.uav_index)).Nodup) {members : List UInt32} {T : Int}
    (same : cs.mkg = mkg) (token : TokenFor mkg members T cs.mtoken) {op : ClusterCall}
    (orderly : Orderly mkg c members op) {cs' : ClusterState} {outcome : Result MTokenResult}
    (effect : Effect crypto c cs op cs' outcome) :
    cs'.mkg = mkg ∧ TokenFor mkg (membersOf mkg c members op) T cs'.mtoken := by
  subst same
  cases effect with
  | elsewhere other =>
    refine ⟨rfl,?_⟩
    cases op with
    | join d index =>
      have apart : d ≠ c := other
      simpa [membersOf,apart] using token
    | leave d index nonce now_us =>
      have apart : d ≠ c := other
      simpa [membersOf,apart] using token
  | joinRefused refused =>
    rcases joKeyUpdate_step master distinct token (orderly rfl) with ⟨none,_⟩ | ⟨_,mt,updated,_⟩
    · exact ⟨rfl,by simpa [membersOf,none] using token⟩
    · simp [refused] at updated
  | joined updated =>
    rcases joKeyUpdate_step master distinct token (orderly rfl) with
      ⟨_,failure,refused⟩ | ⟨some,mt,produced,token'⟩
    · simp [refused] at updated
    · rw [updated,Except.ok.injEq] at produced
      subst produced
      exact ⟨rfl,by simpa [membersOf,some] using token'⟩
  | leaveRefused refused =>
    rcases leKeyUpdate_step master distinct token (orderly rfl) with ⟨none,_⟩ | ⟨_,mt,updated,_⟩
    · exact ⟨rfl,by simpa [membersOf,none] using token⟩
    · simp [refused] at updated
  | leaveInterrupted updated | left updated =>
    rcases leKeyUpdate_step master distinct token (orderly rfl) with
      ⟨_,failure,refused⟩ | ⟨some,mt,produced,token'⟩
    · simp [refused] at updated
    · rw [updated,Except.ok.injEq] at produced
      subst produced
      exact ⟨rfl,by simpa [membersOf,some] using token'⟩

theorem runCalls_token (crypto : Primitives) {mkg : MKeyGenResult} (master : MasterKey mkg)
    (distinct : (mkg.slaves.map (·.uav_index)).Nodup) {T : Int} {calls : List ClusterCall}
    {members : List UInt32} (found : clusters[c.toNat]? = some cs) (same : cs.mkg = mkg)
    (token : TokenFor mkg members T cs.mtoken) (orderly : AllOrderly mkg c members calls) :
    ∃ cs', (runCalls crypto clusters calls)[c.toNat]? = some cs' ∧ cs'.mkg = mkg ∧
      TokenFor mkg (calls.foldl (membersOf mkg c) members) T cs'.mtoken := by
  -- Along the calls, with the members that the history asks for so far.
  induction calls generalizing clusters cs members with
  | nil => exact ⟨cs,found,same,token⟩
  | cons op calls ih =>
    obtain ⟨next,located,effect⟩ := call_effect crypto found op
    obtain ⟨same',token'⟩ := effect_token master distinct same token orderly.1 effect
    exact ih located same' token' orderly.2

/-- From a generated token every orderly run keeps the cluster consistent, and its user
list is the one that the history asks for. -/
theorem orderly_runs_consistent (cs : ClusterState) {rng : Nat → List UInt64} {prime_pairs : List (Int × Int)}
    (pairs : SafePairs prime_pairs) (generated : mKeyGen rng prime_pairs = .ok cs.mkg)
    (distinct : (cs.mkg.slaves.map (·.uav_index)).Nodup) (S₀ : List UInt32) {T : Int}
    (nonneg : 0 ≤ T) (cluster_id : UInt32)
    (started : mTokenGen cs.mkg S₀ T cluster_id = .ok cs.mtoken)
    (found : clusters[c.toNat]? = some cs) (calls : List ClusterCall)
    (orderly : AllOrderly cs.mkg c S₀ calls) :
    ∃ cs', (runCalls crypto clusters calls)[c.toNat]? = some cs' ∧ Consistent T cs' ∧
      cs'.mtoken.user_indices = calls.foldl (membersOf cs.mkg c) S₀ := by
  have master := (mKeyGen_ok pairs generated).1
  obtain ⟨mt,produced,token⟩ := mTokenGen_ok master S₀ T cluster_id
  rw [started,Except.ok.injEq] at produced
  subst produced
  obtain ⟨cs',reached,same,token'⟩ :=
    runCalls_token crypto master distinct found rfl token orderly
  refine ⟨cs',reached,?_,token'.users⟩
  rw [← same] at master token'
  exact .ofToken master nonneg token'

def sampleTek : AesGcmKey := ⟨#[0,0,0,0,0,0,0,0,0,0,0,0,0,0,0,0,0,0,0,0,0,0,0,0,0,0,0,0,0,0,0,2],rfl⟩

def sampleNonce : Nonce128 := ⟨#[0,1,2,3,4,5,6,7,8,9,10,11,12,13,14,15],rfl⟩

/-- The SHA-256 digest of the one rotation below; elsewhere a digest that never starts
with the byte its message starts with. The other primitives are not called. -/
def sampleCrypto : Primitives where
  sha256 message :=
    if message = sampleTek.toList ++ (sampleTek.toList ++ BigEndian.encode 8 1700000000000000 ++
        sampleNonce.toList) then
      ⟨#[6,60,89,168,111,68,54,144,28,92,48,129,11,60,29,172,25,170,104,88,142,157,248,145,175,10,
        130,23,105,83,218,112],rfl⟩
    else Vector.replicate 32 (message.headD 0+1)
  hmacSha256 _ _ := Vector.replicate 32 0
  gcmEncrypt _ _ text _ := (text,Vector.replicate 16 0)
  gcmDecrypt _ _ _ _ _ := none

def twoCluster : ClusterState where
  cluster_id := 0
  mkg := twoSlaves
  mtoken := { MT_K := 27057, e_MK := 14173, T := 2, N_group := 83237, user_indices := [0,1],
              cluster_id := 0, version := 1 }
  tek := sampleTek
  rekey_count := 0
  initialized := true

theorem leave_and_rejoin_consistent :
    ∃ cs', (runCalls sampleCrypto [twoCluster]
        [.leave 0 1 (.ok sampleNonce) 1700000000000000,.join 0 1])[(0 : UInt32).toNat]? = some cs' ∧
      Consistent 2 cs' ∧ cs'.mtoken.user_indices = [0,1] :=
  orderly_runs_consistent twoCluster twoPairs_safe twoSlaves_generated (by decide) [0,1]
    (by decide) 0 (by decide +kernel) rfl _
    (by simp [AllOrderly,Orderly,membersOf,findSlave,twoCluster,twoSlaves])

/-- Joining the member with index 1 once more succeeds and doubles its share of the
exponent: it recovers 4 in place of the secret 2. -/
theorem duplicate_join_inconsistent :
    SafePairs twoPairs ∧ mKeyGen twoDraws twoPairs = .ok twoCluster.mkg ∧
    mTokenGen twoCluster.mkg [0,1] 2 0 = .ok twoCluster.mtoken ∧
    ∃ mtoken, processJoin [twoCluster] 0 1 =
        ([{ twoCluster with mtoken, rekey_count := 1 }],.ok mtoken) ∧
      ¬ Consistent 2 { twoCluster with mtoken, rekey_count := 1 } := by
  refine ⟨twoPairs_safe,twoSlaves_generated,by decide +kernel,
    { MT_K := 31292, e_MK := 12913, T := 2, N_group := 83237, user_indices := [0,1,1],
      cluster_id := 0, version := 2 },by decide +kernel,?_⟩
  intro consistent
  have recovered := consistent.members twoSlaves.slaves[1] (by decide) (by decide)
  have actual : slaveDecrypt twoSlaves.slaves[1] 31292 = .ok 4 := by decide +kernel
  rw [actual] at recovered
  exact absurd recovered (by decide)

def AllSucceed (crypto : Primitives) : Clusters → List ClusterCall → Prop
  | _, [] => True
  | clusters, op::calls =>
    (∃ mtoken, (call crypto clusters op).2 = .ok mtoken) ∧
      AllSucceed crypto (call crypto clusters op).1 calls

def IsJoin : ClusterCall → Prop
  | .join _ _ => True
  | .leave _ _ _ _ => False

def SecretChange (crypto : Primitives) (before after : ClusterState) : ClusterCall → Prop
  | .join _ _ => after.tek = before.tek ∧ after.mtoken.T = before.mtoken.T
  | .leave _ _ nonce now_us => ∃ drawn, nonce = .ok drawn ∧
      after.tek = rotateTek crypto before.tek now_us drawn ∧ after.tek ≠ before.tek

private theorem updatedToken_secret {mkg : MKeyGenResult} {current mt : MTokenResult}
    {exponent : Int} {members : List UInt32}
    (updated : updatedToken mkg current exponent members = .ok mt) : mt.T = current.T := by
  obtain ⟨e,_,updated⟩ := Result.bind_ok.mp updated
  obtain ⟨power,_,updated⟩ := Result.bind_ok.mp updated
  cases updated
  rfl

theorem joKeyUpdate_secret {mkg : MKeyGenResult} {current mt : MTokenResult} {index : UInt32}
    (updated : joKeyUpdate mkg current index = .ok mt) : mt.T = current.T := by
  unfold joKeyUpdate at updated
  split at updated
  · cases updated
  · exact updatedToken_secret updated

theorem effect_secret
    (fresh : ∀ tek timestamp_us nonce, rotateTek crypto tek timestamp_us nonce ≠ tek)
    {op : ClusterCall} (here : op.cluster_id = c) {cs' : ClusterState} {mtoken : MTokenResult}
    (effect : Effect crypto c cs op cs' (.ok mtoken)) : SecretChange crypto cs cs' op := by
  cases effect with
  | elsewhere other => exact absurd here other
  | joined updated => exact ⟨rfl,joKeyUpdate_secret updated⟩
  | left updated => exact ⟨_,rfl,rfl,fresh _ _ _⟩

theorem effect_join {op : ClusterCall} (join : IsJoin op) {cs' : ClusterState}
    {outcome : Result MTokenResult} (effect : Effect crypto c cs op cs' outcome) :
    cs'.tek = cs.tek ∧ cs'.mtoken.T = cs.mtoken.T := by
  cases effect with
  | elsewhere _ | joinRefused _ => exact ⟨rfl,rfl⟩
  | joined updated => exact ⟨rfl,joKeyUpdate_secret updated⟩
  | leaveRefused _ | leaveInterrupted _ | left _ => cases join

theorem runCalls_join {calls : List ClusterCall} (joins : ∀ op ∈ calls, IsJoin op)
    (found : clusters[c.toNat]? = some cs) {cs' : ClusterState}
    (reached : (runCalls crypto clusters calls)[c.toNat]? = some cs') :
    cs'.tek = cs.tek ∧ cs'.mtoken.T = cs.mtoken.T := by
  induction calls generalizing clusters cs with
  | nil =>
    have same : cs = cs' := Option.some.inj (found.symm.trans reached)
    subst same
    exact ⟨rfl,rfl⟩
  | cons op calls ih =>
    obtain ⟨next,located,effect⟩ := call_effect crypto found op
    obtain ⟨tek,secret⟩ := effect_join (joins op (by simp)) effect
    obtain ⟨tek',secret'⟩ := ih (fun op member => joins op (by simp [member])) located reached
    exact ⟨tek'.trans tek,secret'.trans secret⟩

theorem runCalls_concat (calls : List ClusterCall) (op : ClusterCall) :
    runCalls crypto clusters (calls ++ [op]) = (call crypto (runCalls crypto clusters calls) op).1 := by
  simp [runCalls]

theorem runCalls_found (crypto : Primitives) (calls : List ClusterCall) (found : clusters[c.toNat]? = some cs) :
    ∃ cs', (runCalls crypto clusters calls)[c.toNat]? = some cs' := by
  induction calls generalizing clusters cs with
  | nil => exact ⟨cs,found⟩
  | cons op calls ih =>
    obtain ⟨next,located,_⟩ := call_effect crypto found op
    exact ih located

theorem AllSucceed.last {calls : List ClusterCall} {op : ClusterCall}
    (succeed : AllSucceed crypto clusters (calls ++ [op])) :
    ∃ mtoken, (call crypto (runCalls crypto clusters calls) op).2 = .ok mtoken := by
  induction calls generalizing clusters with
  | nil => exact succeed.1
  | cons first calls ih => exact ih succeed.2

/-- Joins keep the TEK and the token secret, leaves replace the TEK, and until the first
leave the members recover the current TEK. -/
theorem leaves_rotate_joins_keep
    (fresh : ∀ tek timestamp_us nonce, rotateTek crypto tek timestamp_us nonce ≠ tek)
    (found : clusters[c.toNat]? = some cs) (secret : cs.mtoken.T = tekToBigInt cs.tek)
    (calls : List ClusterCall) (op : ClusterCall) (here : op.cluster_id = c)
    (succeed : AllSucceed crypto clusters (calls ++ [op])) :
    ∃ before after, (runCalls crypto clusters calls)[c.toNat]? = some before ∧
      (runCalls crypto clusters (calls ++ [op]))[c.toNat]? = some after ∧
      SecretChange crypto before after op ∧
      ((∀ earlier ∈ calls ++ [op], IsJoin earlier) →
        after.mtoken.T = tekToBigInt after.tek ∧
        ∀ S₀, MasterKey cs.mkg → (cs.mkg.slaves.map (·.uav_index)).Nodup →
          TokenFor cs.mkg S₀ cs.mtoken.T cs.mtoken → AllOrderly cs.mkg c S₀ (calls ++ [op]) →
          ∀ sk ∈ after.mkg.slaves, sk.uav_index ∈ after.mtoken.user_indices →
            slaveDecrypt sk after.mtoken.MT_K = .ok (tekToBigInt after.tek%sk.n_i)) := by
  obtain ⟨before,reached⟩ := runCalls_found crypto calls found
  obtain ⟨after,located,effect⟩ := call_effect crypto reached op
  obtain ⟨mtoken,returned⟩ := succeed.last
  rw [returned] at effect
  rw [← runCalls_concat] at located
  refine ⟨before,after,reached,located,effect_secret fresh here effect,?_⟩
  intro joins
  obtain ⟨tek,kept⟩ := runCalls_join joins found located
  have current : after.mtoken.T = tekToBigInt after.tek := by rw [kept,tek,secret]
  refine ⟨current,?_⟩
  intro S₀ master distinct token orderly
  obtain ⟨after',located',same,token'⟩ := runCalls_token crypto master distinct found rfl token orderly
  have unique : after = after' := Option.some.inj (located.symm.trans located')
  subst unique
  have nonneg : 0 ≤ cs.mtoken.T := by
    rw [secret]
    exact Int.natCast_nonneg _
  rw [← same] at master token'
  have consistent := Consistent.ofToken master nonneg token'
  rw [← current,kept]
  exact consistent.members

def soloCluster : ClusterState :=
  { twoCluster with mtoken := { MT_K := 30, e_MK := 253, T := 2, N_group := 77, user_indices := [0],
                                cluster_id := 0, version := 1 } }

theorem sampleCrypto_fresh (tek : AesGcmKey) (timestamp_us : UInt64) (nonce : Nonce128) :
    rotateTek sampleCrypto tek timestamp_us nonce ≠ tek := by
  intro same
  simp only [rotateTek,AesGcm.deriveKey,sampleCrypto] at same
  split at same
  · rename_i sampled
    have first := Vector.toList_inj.mp (List.append_inj sampled (by simp)).1
    rw [first] at same
    exact absurd same (by decide)
  · generalize start : (tek.toList ++ (tek.toList ++ BigEndian.encode 8 timestamp_us.toNat ++
      nonce.toList)).headD 0 = byte at same
    subst same
    simp [List.replicate_succ] at start

theorem join_then_leave_rotates :
    ∃ before after,
      (runCalls sampleCrypto [soloCluster] [.join 0 1])[(0 : UInt32).toNat]? = some before ∧
      (runCalls sampleCrypto [soloCluster]
        [.join 0 1,.leave 0 1 (.ok sampleNonce) 1700000000000000])[(0 : UInt32).toNat]? = some after ∧
      SecretChange sampleCrypto before after (.leave 0 1 (.ok sampleNonce) 1700000000000000) := by
  obtain ⟨before,after,reached,located,change,_⟩ := leaves_rotate_joins_keep sampleCrypto_fresh
    (show [soloCluster][(0 : UInt32).toNat]? = some soloCluster from rfl) (by decide)
    [.join 0 1] (.leave 0 1 (.ok sampleNonce) 1700000000000000) rfl
    ⟨⟨_,rfl⟩,⟨_,rfl⟩,trivial⟩
  exact ⟨before,after,reached,located,change⟩

/-- Admitting a second slave changes the token, but neither the secret nor the TEK. -/
theorem join_keeps_secret :
    soloCluster.mtoken.T = tekToBigInt soloCluster.tek ∧
    mTokenGen twoSlaves [0] 2 0 = .ok soloCluster.mtoken ∧
    ∃ mtoken, processJoin [soloCluster] 0 1 =
        ([{ soloCluster with mtoken, rekey_count := 1 }],.ok mtoken) ∧
      mtoken.user_indices = [0,1] ∧ mtoken.T = soloCluster.mtoken.T := by
  refine ⟨by decide,by decide +kernel,
    { MT_K := 27057, e_MK := 14173, T := 2, N_group := 83237, user_indices := [0,1],
      cluster_id := 0, version := 2 },by decide +kernel,rfl,rfl⟩

end UavFanet.ClusterRuns
