import UavFanet.TokenGeneration

/-! Joins and leaves applied to a token lead to the token that fresh generation
gives for the resulting members, whatever the history. -/
namespace UavFanet.MemberUpdates
open Library UavFanet.BigInt UavFanet.CrtManager UavFanet.KeyGroup UavFanet.TokenGeneration

inductive MemberOp where
  | join (index : UInt32)
  | leave (index : UInt32)
  deriving DecidableEq,Repr

def updateToken (mkg : MKeyGenResult) (current : MTokenResult) : MemberOp → Result MTokenResult
  | .join index => joKeyUpdate mkg current index
  | .leave index => leKeyUpdate mkg current index

def runUpdates (mkg : MKeyGenResult) : MTokenResult → List MemberOp → Result MTokenResult
  | current, [] => .ok current
  | current, op::ops => do
    let next ← updateToken mkg current op
    runUpdates mkg next ops

def membersAfter (members : List UInt32) : MemberOp → List UInt32
  | .join index => members ++ [index]
  | .leave index => members.filter (· != index)

/-- A slave joins that is not a member, or a member leaves. -/
def Allowed (mkg : MKeyGenResult) (members : List UInt32) : MemberOp → Prop
  | .join index => (∃ sk ∈ mkg.slaves, sk.uav_index = index) ∧ index ∉ members
  | .leave index => (∃ sk ∈ mkg.slaves, sk.uav_index = index) ∧ index ∈ members

def AllAllowed (mkg : MKeyGenResult) : List UInt32 → List MemberOp → Prop
  | _, [] => True
  | members, op::ops => Allowed mkg members op ∧ AllAllowed mkg (membersAfter members op) ops

variable {mkg : MKeyGenResult}

theorem findSlave_index (distinct : (mkg.slaves.map (·.uav_index)).Nodup) {sk : SlaveKeyEntry}
    (member : sk ∈ mkg.slaves) : findSlave mkg sk.uav_index = some sk := by
  cases found : findSlave mkg sk.uav_index with
  | none => simpa using List.find?_eq_none.mp found sk member
  | some other =>
    have present := List.mem_of_find?_eq_some found
    have same : other.uav_index = sk.uav_index := by simpa using List.find?_some found
    rw [List.inj_on_of_nodup_map distinct present member same]

theorem findSlave_some {index : UInt32} {sk : SlaveKeyEntry}
    (found : findSlave mkg index = some sk) : sk ∈ mkg.slaves ∧ sk.uav_index = index :=
  ⟨List.mem_of_find?_eq_some found,by simpa using List.find?_some found⟩

theorem joKeyUpdate_slave {current mt : MTokenResult} {index : UInt32}
    (updated : joKeyUpdate mkg current index = .ok mt) :
    ∃ sk ∈ mkg.slaves, sk.uav_index = index := by
  unfold joKeyUpdate at updated
  split at updated
  · cases updated
  · rename_i sk found
    exact ⟨sk,findSlave_some found⟩

theorem leKeyUpdate_slave {current mt : MTokenResult} {index : UInt32}
    (updated : leKeyUpdate mkg current index = .ok mt) :
    ∃ sk ∈ mkg.slaves, sk.uav_index = index := by
  unfold leKeyUpdate at updated
  split at updated
  · cases updated
  · rename_i sk found
    exact ⟨sk,findSlave_some found⟩

/-- What an update makes of an exponent, whatever members the token had before. -/
structure Updated (mkg : MKeyGenResult) (exponent T : Int) (members : List UInt32)
    (mt : MTokenResult) : Prop where
  range : 0 ≤ mt.e_MK ∧ mt.e_MK < 4*mkg.n_total
  four : mt.e_MK%4 = 1
  residue : mt.e_MK ≡ exponent [ZMOD mkg.n_total]
  modulus : mt.N_group = groupModulus mkg.slaves members
  power : modPow T mt.e_MK mt.N_group = .ok mt.MT_K
  secret : mt.T = T
  users : mt.user_indices = members

theorem updatedToken_updated (master : MasterKey mkg) (current : MTokenResult) (exponent : Int)
    (members : List UInt32) : ∃ mt, updatedToken mkg current exponent members = .ok mt ∧
      Updated mkg exponent current.T members mt := by
  obtain ⟨positive,odd⟩ := total_ok master
  obtain ⟨e,reduced,low,high,four,residue⟩ := reduceExponent_ok exponent positive odd
  obtain ⟨power,powered⟩ := modPow_total current.T low (groupModulus_positive master members)
  refine ⟨{ current with
    MT_K := power, e_MK := e, N_group := groupModulus mkg.slaves members
    user_indices := members, version := current.version+1 },?_,
    ⟨low,high⟩,four,residue,rfl,powered,rfl,rfl⟩
  simp only [updatedToken,reduced,powered,Result.ok_bind]

theorem Updated.tokenFor (master : MasterKey mkg) {exponent T : Int} {members : List UInt32}
    {mt : MTokenResult} (updated : Updated mkg exponent T members mt)
    (residue : ∀ sk ∈ mkg.slaves,
      exponent ≡ (if inGroup members sk then sk.e_i else 0) [ZMOD sk.xy_i]) :
    TokenFor mkg members T mt where
  exponent := ⟨updated.range,updated.four,fun sk member =>
    (updated.residue.of_dvd (modulus_dvd_total master member)).trans (residue sk member)⟩
  modulus := updated.modulus
  power := updated.power
  secret := updated.secret
  users := updated.users

theorem joKeyUpdate_updated (master : MasterKey mkg) (distinct : (mkg.slaves.map (·.uav_index)).Nodup)
    (current : MTokenResult) {sk : SlaveKeyEntry} (member : sk ∈ mkg.slaves) :
    ∃ mt, joKeyUpdate mkg current sk.uav_index = .ok mt ∧ Updated mkg
      (current.e_MK+contribution sk) current.T (current.user_indices ++ [sk.uav_index]) mt := by
  rw [joKeyUpdate,findSlave_index distinct member]
  exact updatedToken_updated master current _ _

theorem leKeyUpdate_updated (master : MasterKey mkg) (distinct : (mkg.slaves.map (·.uav_index)).Nodup)
    (current : MTokenResult) {sk : SlaveKeyEntry} (member : sk ∈ mkg.slaves) :
    ∃ mt, leKeyUpdate mkg current sk.uav_index = .ok mt ∧ Updated mkg
      (current.e_MK-contribution sk) current.T (current.user_indices.filter (· != sk.uav_index)) mt := by
  rw [leKeyUpdate,findSlave_index distinct member]
  exact updatedToken_updated master current _ _

theorem joKeyUpdate_ok (master : MasterKey mkg) (distinct : (mkg.slaves.map (·.uav_index)).Nodup)
    {members : List UInt32} {T : Int} {current : MTokenResult}
    (token : TokenFor mkg members T current) {sk : SlaveKeyEntry} (member : sk ∈ mkg.slaves)
    (outside : sk.uav_index ∉ members) :
    ∃ mt, joKeyUpdate mkg current sk.uav_index = .ok mt ∧
      TokenFor mkg (members ++ [sk.uav_index]) T mt := by
  obtain ⟨mt,produced,updated⟩ := joKeyUpdate_updated master distinct current member
  rw [token.secret,token.users] at updated
  refine ⟨mt,produced,updated.tokenFor master ?_⟩
  intro other present
  have sum := (token.exponent.residue other present).add (master.based.contribution_residue member present)
  by_cases same : other = sk
  · subst same
    simpa [inGroup_iff,outside,-Bool.not_eq_true] using sum
  · have apart : other.uav_index ≠ sk.uav_index :=
      fun equal => same (List.inj_on_of_nodup_map distinct present member equal)
    simpa [inGroup,same,apart] using sum

theorem leKeyUpdate_ok (master : MasterKey mkg) (distinct : (mkg.slaves.map (·.uav_index)).Nodup)
    {members : List UInt32} {T : Int} {current : MTokenResult}
    (token : TokenFor mkg members T current) {sk : SlaveKeyEntry} (member : sk ∈ mkg.slaves)
    (inside : sk.uav_index ∈ members) :
    ∃ mt, leKeyUpdate mkg current sk.uav_index = .ok mt ∧
      TokenFor mkg (members.filter (· != sk.uav_index)) T mt := by
  obtain ⟨mt,produced,updated⟩ := leKeyUpdate_updated master distinct current member
  rw [token.secret,token.users] at updated
  refine ⟨mt,produced,updated.tokenFor master ?_⟩
  intro other present
  have difference :=
    (token.exponent.residue other present).sub (master.based.contribution_residue member present)
  by_cases same : other = sk
  · subst same
    simpa [inGroup,inside] using difference
  · have apart : other.uav_index ≠ sk.uav_index :=
      fun equal => same (List.inj_on_of_nodup_map distinct present member equal)
    simpa [inGroup,same,apart] using difference

theorem updateToken_ok (master : MasterKey mkg) (distinct : (mkg.slaves.map (·.uav_index)).Nodup)
    {members : List UInt32} {T : Int} {current : MTokenResult}
    (token : TokenFor mkg members T current) {op : MemberOp} (allowed : Allowed mkg members op) :
    ∃ mt, updateToken mkg current op = .ok mt ∧ TokenFor mkg (membersAfter members op) T mt := by
  cases op with
  | join index =>
    obtain ⟨⟨sk,member,rfl⟩,outside⟩ := allowed
    exact joKeyUpdate_ok master distinct token member outside
  | leave index =>
    obtain ⟨⟨sk,member,rfl⟩,inside⟩ := allowed
    exact leKeyUpdate_ok master distinct token member inside

theorem runUpdates_ok (master : MasterKey mkg) (distinct : (mkg.slaves.map (·.uav_index)).Nodup)
    {T : Int} {ops : List MemberOp} {members : List UInt32} {current : MTokenResult}
    (token : TokenFor mkg members T current) (allowed : AllAllowed mkg members ops) :
    ∃ mt, runUpdates mkg current ops = .ok mt ∧
      TokenFor mkg (ops.foldl membersAfter members) T mt := by
  induction ops generalizing members current with
  | nil => exact ⟨current,rfl,token⟩
  | cons op ops ih =>
    obtain ⟨next,updated,token'⟩ := updateToken_ok master distinct token allowed.1
    obtain ⟨mt,ran,final⟩ := ih token' allowed.2
    exact ⟨mt,by simp only [runUpdates,updated,Result.ok_bind,ran],final⟩

/-- Incremental updates equal regeneration: after every allowed history the token is the
one generated for the members it leaves, with the only exponent that such a token can have. -/
theorem updates_regenerate {rng : Nat → List UInt64} {prime_pairs : List (Int × Int)}
    (pairs : SafePairs prime_pairs) (generated : mKeyGen rng prime_pairs = .ok mkg)
    (distinct : (mkg.slaves.map (·.uav_index)).Nodup) (S₀ : List UInt32) (T : Int)
    (cluster_id : UInt32) (ops : List MemberOp) (allowed : AllAllowed mkg S₀ ops) :
    ∃ initial final fresh, mTokenGen mkg S₀ T cluster_id = .ok initial ∧
      runUpdates mkg initial ops = .ok final ∧
      mTokenGen mkg (ops.foldl membersAfter S₀) T cluster_id = .ok fresh ∧
      (final.e_MK = fresh.e_MK ∧ final.N_group = fresh.N_group ∧ final.MT_K = fresh.MT_K) ∧
      TokenExponent mkg (ops.foldl membersAfter S₀) final.e_MK ∧
      ∀ e, TokenExponent mkg (ops.foldl membersAfter S₀) e → e = final.e_MK := by
  have master := (mKeyGen_ok pairs generated).1
  obtain ⟨initial,started,token⟩ := mTokenGen_ok master S₀ T cluster_id
  obtain ⟨final,ran,reached⟩ := runUpdates_ok master distinct token allowed
  obtain ⟨fresh,made,expected⟩ := mTokenGen_ok master (ops.foldl membersAfter S₀) T cluster_id
  exact ⟨initial,final,fresh,started,ran,made,reached.unique master expected,reached.exponent,
    fun e other => other.unique master reached.exponent⟩

/-- Slave 1 joins slave 0, slave 0 leaves and comes back. -/
theorem three_updates_regenerate : ∃ initial final fresh,
    mTokenGen twoSlaves [0] 385 0 = .ok initial ∧
    runUpdates twoSlaves initial [.join 1,.leave 0,.join 0] = .ok final ∧
    mTokenGen twoSlaves [1,0] 385 0 = .ok fresh ∧
    (final.e_MK = fresh.e_MK ∧ final.N_group = fresh.N_group ∧ final.MT_K = fresh.MT_K) := by
  obtain ⟨initial,final,fresh,started,ran,made,same,_⟩ :=
    updates_regenerate twoPairs_safe twoSlaves_generated (by decide) [0] 385 0
      [.join 1,.leave 0,.join 0] (by simp [AllAllowed,Allowed,membersAfter,twoSlaves])
  exact ⟨initial,final,fresh,started,ran,made,same⟩

end UavFanet.MemberUpdates
