import UavFanet.ClusterRuns

/-! What a call of `ProcessJoin` or `ProcessLeave` that throws leaves of its cluster, and what one
that returns counts. -/
namespace UavFanet.AtomicUpdates
open Library UavFanet.BigInt UavFanet.CrtManager UavFanet.ClusterRuns

/-- Token, traffic key and count of updates. -/
def observed (cs : ClusterState) : MTokenResult × AesGcmKey × UInt32 :=
  (cs.mtoken,cs.tek,cs.rekey_count)

/-- A call that throws leaves the cluster alone, one that returns counts one update. -/
structure Atomic (before : Clusters) (c : UInt32) (after : Clusters)
    (outcome : Result MTokenResult) : Prop where
  thrown : outcome.caught = .ok none →
    after[c.toNat]?.map observed = before[c.toNat]?.map observed
  returned : ∀ mtoken, outcome = .ok mtoken → ∃ cs cs', before[c.toNat]? = some cs ∧
    after[c.toNat]? = some cs' ∧ cs'.mtoken.version.toNat = cs.mtoken.version.toNat+1 ∧
    cs'.rekey_count.toNat = cs.rekey_count.toNat+1

section Updates

/-- The remainder that `Mod` gives for a modulus other than zero. -/
def residue (a m : Int) : Int := if a.tmod m < 0 then a.tmod m+m else a.tmod m

/-- Up to three additions reach a number that is one modulo four, and the first one they reach is
not negative. -/
def Settles (n_total start : Int) : Prop :=
  ∃ k : Nat, k ≤ 3 ∧ (∀ j < k, (start+(j : Int)*n_total)%4 ≠ 1) ∧
    (start+(k : Int)*n_total)%4 = 1 ∧ 0 ≤ start+(k : Int)*n_total

theorem adjust_ok_iff {n start r : Int} : adjust n start = .ok r ↔
    ∃ k : Nat, k ≤ 3 ∧ (∀ j < k, (start+(j : Int)*n)%4 ≠ 1) ∧ (start+(k : Int)*n)%4 = 1 ∧
      start+(k : Int)*n = r := by
  have ends : adjust n start = .ok r ↔
      Loop.whileDo (fun e => e%4 != 1) (· + n) 3 start = some r := by
    rw [adjust]
    split
    · rename_i ended
      rw [ended,Except.ok.injEq,Option.some.injEq]
    · rename_i running
      rw [running]
      exact iff_of_false (by simp) (by simp)
  rw [ends,Loop.whileDo_eq_some]
  simp [add_right_iterate]

theorem reduceExponent_settles {n e : Int} : (∃ r, reduceExponent n e = .ok r ∧ 0 ≤ r) ↔
    n ≠ 0 ∧ Settles n (residue e n) := by
  by_cases zero : n = 0
  · simp [reduceExponent,mod,zero]
  · have reduced : reduceExponent n e = adjust n (residue e n) := by
      rw [reduceExponent,mod,if_neg zero]
      rfl
    rw [reduced,Settles]
    constructor
    · rintro ⟨r,adjusted,natural⟩
      obtain ⟨k,few,earlier,one,rfl⟩ := adjust_ok_iff.mp adjusted
      exact ⟨zero,k,few,earlier,one,natural⟩
    · rintro ⟨-,k,few,earlier,one,natural⟩
      exact ⟨_,adjust_ok_iff.mpr ⟨k,few,earlier,one,rfl⟩,natural⟩

theorem updatedToken_settles {mkg : MKeyGenResult} {current : MTokenResult} {exponent : Int}
    {user_indices : List UInt32} :
    (∃ mt, updatedToken mkg current exponent user_indices = .ok mt) ↔
      mkg.n_total ≠ 0 ∧ Settles mkg.n_total (residue exponent mkg.n_total) ∧
        groupModulus mkg.slaves user_indices ≠ 0 := by
  rw [← and_assoc,← reduceExponent_settles]
  constructor
  · rintro ⟨mt,updated⟩
    obtain ⟨e_MK,reduced,updated⟩ := Result.bind_ok.mp updated
    obtain ⟨MT_K,power,-⟩ := Result.bind_ok.mp updated
    rw [modPow] at power
    split_ifs at power with zero negative
    exact ⟨⟨e_MK,reduced,by omega⟩,zero⟩
  · rintro ⟨⟨e_MK,reduced,natural⟩,nonzero⟩
    have power : modPow current.T e_MK (groupModulus mkg.slaves user_indices) =
        .ok ((current.T^e_MK.toNat).tmod (groupModulus mkg.slaves user_indices)) := by
      rw [modPow,if_neg nonzero,if_neg (by omega)]
    simp only [updatedToken,reduced,power,Result.ok_bind]
    exact ⟨_,rfl⟩

theorem updatedToken_version {mkg : MKeyGenResult} {current mt : MTokenResult} {exponent : Int}
    {user_indices : List UInt32}
    (updated : updatedToken mkg current exponent user_indices = .ok mt) :
    mt.version = current.version+1 := by
  obtain ⟨e_MK,-,updated⟩ := Result.bind_ok.mp updated
  obtain ⟨MT_K,-,updated⟩ := Result.bind_ok.mp updated
  cases updated
  rfl

end Updates

/-- The slave is known, neither modulus is zero, and the loop over the exponent ends. -/
def Accepted (cs : ClusterState) (index : UInt32) (exponent : SlaveKeyEntry → Int)
    (user_indices : List UInt32) : Prop :=
  ∃ sk, findSlave cs.mkg index = some sk ∧ cs.mkg.n_total ≠ 0 ∧
    Settles cs.mkg.n_total (residue (exponent sk) cs.mkg.n_total) ∧
    groupModulus cs.mkg.slaves user_indices ≠ 0

/-- Where the call gets past the update of the token, the generator does not throw, and the
counters do not wrap if the call returns. -/
def Uninterrupted (cs : ClusterState) : ClusterCall → Prop
  | .join _ index =>
    Accepted cs index (fun sk => cs.mtoken.e_MK+contribution sk)
      (cs.mtoken.user_indices ++ [index]) →
    cs.mtoken.version.toNat+1 < 2^32 ∧ cs.rekey_count.toNat+1 < 2^32
  | .leave _ index nonce _ =>
    Accepted cs index (fun sk => cs.mtoken.e_MK-contribution sk)
      (cs.mtoken.user_indices.filter (· != index)) →
    nonce.caught ≠ .ok none ∧ ∀ drawn, nonce = .ok drawn →
      cs.mtoken.version.toNat+1 < 2^32 ∧ cs.rekey_count.toNat+1 < 2^32

theorem joKeyUpdate_accepted {cs : ClusterState} {index : UInt32} :
    (∃ mt, joKeyUpdate cs.mkg cs.mtoken index = .ok mt) ↔
      Accepted cs index (fun sk => cs.mtoken.e_MK+contribution sk)
        (cs.mtoken.user_indices ++ [index]) := by
  cases found : findSlave cs.mkg index with
  | none => simp [joKeyUpdate,Accepted,found]
  | some sk => simp [joKeyUpdate,Accepted,found,updatedToken_settles]

theorem leKeyUpdate_accepted {cs : ClusterState} {index : UInt32} :
    (∃ mt, leKeyUpdate cs.mkg cs.mtoken index = .ok mt) ↔
      Accepted cs index (fun sk => cs.mtoken.e_MK-contribution sk)
        (cs.mtoken.user_indices.filter (· != index)) := by
  cases found : findSlave cs.mkg index with
  | none => simp [leKeyUpdate,Accepted,found]
  | some sk => simp [leKeyUpdate,Accepted,found,updatedToken_settles]

theorem joKeyUpdate_version {mkg : MKeyGenResult} {current mt : MTokenResult} {index : UInt32}
    (updated : joKeyUpdate mkg current index = .ok mt) : mt.version = current.version+1 := by
  rw [joKeyUpdate] at updated
  split at updated
  · cases updated
  · exact updatedToken_version updated

theorem leKeyUpdate_version {mkg : MKeyGenResult} {current mt : MTokenResult} {index : UInt32}
    (updated : leKeyUpdate mkg current index = .ok mt) : mt.version = current.version+1 := by
  rw [leKeyUpdate] at updated
  split at updated
  · cases updated
  · exact updatedToken_version updated

theorem counted_iff (v : UInt32) : (v+1).toNat = v.toNat+1 ↔ v.toNat+1 < 2^32 := by
  have range := v.toNat_lt
  rw [UInt32.toNat_add,UInt32.toNat_one]
  omega

/-- Which exceptions can be caught does not depend on what the call would have returned. -/
theorem caught_error_iff {α β : Type} (failure : Failure) :
    Result.caught (.error failure : Result α) = .ok none ↔
      Result.caught (.error failure : Result β) = .ok none := by
  cases failure <;> simp [Result.caught]

theorem atomic_kept {before after : Clusters} {c : UInt32} {failure : Failure}
    (kept : after[c.toNat]?.map observed = before[c.toNat]?.map observed) :
    Atomic before c after (.error failure) where
  thrown _ := kept
  returned _ impossible := by cases impossible

section Counting

variable {before after : Clusters} {c : UInt32} {cs cs' : ClusterState}
variable (found : before[c.toNat]? = some cs) (reached : after[c.toNat]? = some cs')
include found reached

theorem atomic_counted_iff {mtoken : MTokenResult}
    (version : cs'.mtoken.version = cs.mtoken.version+1)
    (rekey_count : cs'.rekey_count = cs.rekey_count+1) : Atomic before c after (.ok mtoken) ↔
      cs.mtoken.version.toNat+1 < 2^32 ∧ cs.rekey_count.toNat+1 < 2^32 := by
  rw [← counted_iff,← counted_iff,← version,← rekey_count]
  constructor
  · intro atomic
    obtain ⟨was,became,was_found,became_reached,counted⟩ := atomic.returned mtoken rfl
    obtain rfl : cs = was := Option.some.inj (found.symm.trans was_found)
    obtain rfl : cs' = became := Option.some.inj (reached.symm.trans became_reached)
    exact counted
  · intro counted
    refine ⟨?_,fun _ _ => ⟨cs,cs',found,reached,counted⟩⟩
    intro impossible
    cases impossible

/-- The token that the interrupted call has left differs in its version. -/
theorem atomic_interrupted_iff {failure : Failure}
    (version : cs'.mtoken.version = cs.mtoken.version+1) :
    Atomic before c after (.error failure) ↔
      Result.caught (.error failure : Result MTokenResult) ≠ .ok none := by
  constructor
  · intro atomic thrown
    have kept := atomic.thrown thrown
    rw [found,reached,Option.map_some,Option.map_some,Option.some.injEq] at kept
    have same := congrArg (fun seen => seen.1.version) kept
    simp only [observed,version] at same
    have moved := congrArg UInt32.toNat same
    have range := cs.mtoken.version.toNat_lt
    rw [UInt32.toNat_add,UInt32.toNat_one] at moved
    omega
  · intro running
    refine ⟨fun thrown => absurd thrown running,?_⟩
    intro _ impossible
    cases impossible

end Counting

theorem effect_atomic_iff {crypto : Primitives} {before after : Clusters} {cs cs' : ClusterState}
    {op : ClusterCall} {outcome : Result MTokenResult}
    (found : before[op.cluster_id.toNat]? = some cs)
    (reached : after[op.cluster_id.toNat]? = some cs')
    (effect : Effect crypto op.cluster_id cs op cs' outcome) :
    Atomic before op.cluster_id after outcome ↔ Uninterrupted cs op := by
  generalize c_eq : op.cluster_id = c at effect found reached ⊢
  cases effect with
  | elsewhere other => exact absurd c_eq other
  | @joinRefused index failure refused =>
    refine iff_of_true (atomic_kept (by rw [reached,found])) ?_
    intro accepted
    obtain ⟨mt,updated⟩ := joKeyUpdate_accepted.mpr accepted
    rw [refused] at updated
    cases updated
  | joined updated =>
    have accepted := joKeyUpdate_accepted.mp ⟨_,updated⟩
    rw [atomic_counted_iff found reached (joKeyUpdate_version updated) rfl,Uninterrupted]
    exact ⟨fun counted _ => counted,fun counted => counted accepted⟩
  | leaveRefused refused =>
    refine iff_of_true (atomic_kept (by rw [reached,found])) ?_
    intro accepted
    obtain ⟨mt,updated⟩ := leKeyUpdate_accepted.mpr accepted
    rw [refused] at updated
    cases updated
  | @leaveInterrupted index now_us failure mtoken updated =>
    have accepted := leKeyUpdate_accepted.mp ⟨_,updated⟩
    rw [atomic_interrupted_iff found reached (leKeyUpdate_version updated),Uninterrupted,ne_eq,
      caught_error_iff failure]
    constructor
    · intro running _
      exact ⟨running,fun _ impossible => by cases impossible⟩
    · intro uninterrupted
      exact (uninterrupted accepted).1
  | left updated =>
    have accepted := leKeyUpdate_accepted.mp ⟨_,updated⟩
    rw [atomic_counted_iff found reached (leKeyUpdate_version updated) rfl,Uninterrupted]
    constructor
    · intro counted _
      exact ⟨by simp [Result.caught],fun _ _ => counted⟩
    · intro counted
      exact (counted accepted).2 _ rfl

/-- A call is atomic if and only if the generator does not throw once the token is updated, and the
counters do not wrap. -/
theorem updates_atomic_iff (crypto : Primitives) (clusters : Clusters) (op : ClusterCall) :
    Atomic clusters op.cluster_id (call crypto clusters op).1 (call crypto clusters op).2 ↔
      ∀ cs, clusters[op.cluster_id.toNat]? = some cs → Uninterrupted cs op := by
  cases found : clusters[op.cluster_id.toNat]? with
  | none =>
    have unknown : call crypto clusters op = (clusters,.error (.invalidArgumentException
        ("CrtManager: invalid cluster_id " ++ toString op.cluster_id))) := by
      cases op with
      | join d index =>
        have missing : clusters[d.toNat]? = none := found
        simp [call,processJoin,getClusterState,missing,ClusterCall.cluster_id]
      | leave d index nonce now_us =>
        have missing : clusters[d.toNat]? = none := found
        simp [call,processLeave,getClusterState,missing,ClusterCall.cluster_id]
    rw [unknown]
    refine iff_of_true (atomic_kept rfl) ?_
    intro cs impossible
    cases impossible
  | some cs =>
    obtain ⟨cs',reached,effect⟩ := call_effect crypto found op
    rw [effect_atomic_iff found reached effect]
    constructor
    · rintro uninterrupted _ ⟨⟩
      exact uninterrupted
    · intro uninterrupted
      exact uninterrupted cs rfl

/-- Slave 1 has left the token, while the key it knows is still in place and nothing is counted. -/
theorem interrupted_leave_not_atomic :
    call sampleCrypto [twoCluster]
        (.leave 0 1 (.error (.opensslError "OpenSSLRand::FillBytes")) 1700000000000000) =
      ([{ twoCluster with mtoken := { soloCluster.mtoken with version := 2 } }],
        .error (.opensslError "OpenSSLRand::FillBytes")) ∧
    ¬ Atomic [twoCluster] 0
      [{ twoCluster with mtoken := { soloCluster.mtoken with version := 2 } }]
      (.error (.opensslError "OpenSSLRand::FillBytes")) := by
  refine ⟨by decide +kernel,?_⟩
  intro atomic
  exact absurd (atomic.thrown rfl) (by decide)

end UavFanet.AtomicUpdates
