import UavFanet.CrtManager

/-! The script `mke_mgkm`: the key generation, tokens and updates that the generator of
parameter files runs on Python's integers. -/
namespace UavFanet.MkeMgkm

def zeroDivision : Failure :=
  .scriptException "ZeroDivisionError" "integer division or modulo by zero"

/-- `a // b`, which rounds down. -/
def floorDiv (a b : Int) : Result Int := if b = 0 then .error zeroDivision else .ok (a.fdiv b)

/-- `a % b`, with the sign of `b`. -/
def floorMod (a b : Int) : Result Int := if b = 0 then .error zeroDivision else .ok (a.fmod b)

/-- `pow(base, exp, modulus)`: a negative exponent takes the inverse of the base. -/
def pow (base exp modulus : Int) : Result Int :=
  if modulus = 0 then .error (.scriptException "ValueError" "pow() 3rd argument cannot be 0")
  else if exp < 0 ∧ modulus.natAbs ≠ 1 then
    if Int.gcd base modulus = 1 then .ok ((Int.gcdA base modulus.natAbs^exp.natAbs).fmod modulus)
    else .error (.scriptException "ValueError" "base is not invertible for the given modulus")
  else .ok ((base^exp.toNat).fmod modulus)

theorem fmod_negative (a : Int) {b : Int} (negative : b < 0) : b < a.fmod b ∧ a.fmod b ≤ 0 := by
  have mirrored := Int.neg_fmod_neg (-a) (-b)
  rw [neg_neg,neg_neg] at mirrored
  have low := Int.fmod_nonneg_of_pos (-a) (show 0 < -b by omega)
  have high := Int.fmod_lt_of_pos (-a) (show 0 < -b by omega)
  omega

theorem natAbs_fmod_lt (a : Int) {b : Int} (nonzero : b ≠ 0) : (a.fmod b).natAbs < b.natAbs := by
  rcases lt_or_gt_of_ne nonzero with negative | positive
  · have mirrored := fmod_negative a negative
    omega
  · have low := Int.fmod_nonneg_of_pos a positive
    have high := Int.fmod_lt_of_pos a positive
    omega

def egcd (a b : Int) : Int × Int × Int :=
  if b = 0 then (a,1,0)
  else
    let (g,x1,y1) := egcd b (a.fmod b)
    (g,y1,x1-a.fdiv b*y1)
termination_by b.natAbs
decreasing_by exact natAbs_fmod_lt a ‹_›

def inverse (a m : Int) : Result Int :=
  let (g,x,_) := egcd a m
  if g ≠ 1 then .error (.scriptException "Exception" "Inverse doesn't exist")
  else floorMod x m

/-- `while True` over the outputs of `random.getrandbits(512)`. -/
def findE (x y : Int) : List (BitVec 512) → Result (Int × List (BitVec 512))
  | [] => .error .drawsExhausted
  | k::draws =>
    let e : Int := 4*k.toNat+1
    if Int.gcd e (x*y) = 1 then .ok (e,draws) else findE x y draws

def computeD (e x y : Int) : Result Int := pow e (2*(x-1)*(y-1)-1) (4*x*y)

/-- `e = e % n_total` and `while e % 4 != 1: e += n_total`. -/
def reduce (n_total e : Int) : Result Int := do
  let reduced ← floorMod e n_total
  CrtManager.adjust n_total reduced

structure Slave where
  index : Int
  e_i : Int
  d_i : Int
  n_i : Int
  x_i : Int
  y_i : Int
  Mi : Int
  Ni : Int
  xy_i : Int
  p_i : Int
  q_i : Int
  deriving DecidableEq,Repr

def Slave.share (slave : Slave) : Int := slave.e_i*slave.Mi*slave.Ni

structure Mkg where
  eM : Int
  n_total : Int
  N_global : Int
  slaves : List Slave
  deriving DecidableEq,Repr

/-- One pass of the first loop of `MKeyGen`: `Mi` and `Ni` come later. -/
def keyPair (index : Int) (p q : Int) (draws : List (BitVec 512)) :
    Result (Slave × List (BitVec 512)) := do
  let x := (p-1).fdiv 2
  let y := (q-1).fdiv 2
  let (e,draws) ← findE x y draws
  let d ← computeD e x y
  return ({ index, e_i := e, d_i := d, n_i := p*q, x_i := x, y_i := y, Mi := 0, Ni := 0
            xy_i := x*y, p_i := p, q_i := q },draws)

def keyPairs (index : Int) : List (Int × Int) → List (BitVec 512) → Result (List Slave)
  | [],_ => .ok []
  | (p,q)::primes,draws => do
    let (slave,draws) ← keyPair index p q draws
    let slaves ← keyPairs (index+1) primes draws
    return slave::slaves

def coefficients (n_total : Int) (slave : Slave) : Result Slave := do
  let Mi ← floorDiv n_total slave.xy_i
  let Ni ← inverse Mi slave.xy_i
  return { slave with Mi, Ni }

/-- `compute_eM_n` computes the same coefficients that its caller computes again. -/
def mKeyGen (primes : List (Int × Int)) (draws : List (BitVec 512)) : Result Mkg := do
  let pairs ← keyPairs 0 primes draws
  let n_total := (pairs.map (·.xy_i)).prod
  let slaves ← pairs.mapM (coefficients n_total)
  let eM ← reduce n_total (slaves.map Slave.share).sum
  return { eM, n_total, N_global := (slaves.map (·.n_i)).prod, slaves }

structure Mtoken where
  MT_K : Int
  e_MK : Int
  N_group : Int
  message : Int
  user_indices : List Int
  deriving DecidableEq,Repr

/-- The slaves whose index is among those of the group. -/
def Mkg.group (mkg : Mkg) (user_indices : List Int) : List Slave :=
  mkg.slaves.filter (·.index ∈ user_indices)

/-- What the three token functions share, from the exponent before its reduction on. -/
def token (mkg : Mkg) (user_indices : List Int) (message e_MK : Int) : Result Mtoken := do
  let e_MK ← reduce mkg.n_total e_MK
  let N_group := ((mkg.group user_indices).map (·.n_i)).prod
  let MT_K ← pow message e_MK N_group
  return { MT_K, e_MK, N_group, message, user_indices }

def mTokenGen (mkg : Mkg) (user_indices : List Int) (message : Int) : Result Mtoken :=
  token mkg user_indices message
    (mkg.eM-((mkg.slaves.filter (·.index ∉ user_indices)).map Slave.share).sum)

def indexError : Failure := .scriptException "IndexError" "list index out of range"

/-- `slaves[position]` for a position that is not negative. -/
def slaveAt (mkg : Mkg) (position : Nat) : Result Slave :=
  match mkg.slaves[position]? with
  | some slave => .ok slave
  | none => .error indexError

def joKeyUpdate (mkg : Mkg) (mtoken : Mtoken) (join_index : Nat) : Result Mtoken := do
  let join_slave ← slaveAt mkg join_index
  token mkg (mtoken.user_indices ++ [(join_index : Int)]) mtoken.message
    (mtoken.e_MK+join_slave.share)

def leKeyUpdate (mkg : Mkg) (mtoken : Mtoken) (leave_index : Nat) : Result Mtoken := do
  let leave_slave ← slaveAt mkg leave_index
  token mkg (mtoken.user_indices.filter (· ≠ (leave_index : Int))) mtoken.message
    (mtoken.e_MK-leave_slave.share)

def slaveDecrypt (slave : Slave) (MT_K : Int) : Result Int := pow MT_K slave.d_i slave.n_i

def recovers (mtoken : Mtoken) (slave : Slave) : Result Bool := do
  let recovered ← slaveDecrypt slave mtoken.MT_K
  let expected ← floorMod mtoken.message slave.n_i
  return recovered = expected

/-- The first component: whether there are no errors. -/
def verifyMtoken (mkg : Mkg) (mtoken : Mtoken) : Result Bool := do
  let verdicts ← (mkg.group mtoken.user_indices).mapM (recovers mtoken)
  return verdicts.all (·)

end UavFanet.MkeMgkm
