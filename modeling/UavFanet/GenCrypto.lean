import UavFanet.CryptoParamsLoader
import UavFanet.MkeMgkm

/-! The scripts `gen_crypto`, which writes a parameter file, and `verify_crypto`, which checks
one. -/
namespace UavFanet

namespace GenCrypto
open Library MkeMgkm

structure Args where
  clusters : Int := 3
  uavs_per_cluster : Int := 6
  seed : Int := 42

/-- What `random` yields after a seed, and `secrets` while a cluster is generated. -/
structure Draws where
  getrandbits : Int → List (BitVec 512)
  token_bytes : Nat → List Key256

/-- `items[start:stop]`. -/
def slice {α : Type} (items : List α) (start stop : Int) : List α :=
  let position (i : Int) : Nat := if i < 0 then (i+items.length).toNat else i.toNat
  (items.take (position stop)).drop (position start)

/-- The pool is the script's constant `SAFE_PRIME_POOL`. -/
def getSequentialBatch (pool : List (Int × Int)) (n offset : Int) : Result (List (Int × Int)) :=
  if offset+n > pool.length then
    .error (.scriptException "ValueError" ("Not enough primes: need " ++ toString (offset+n) ++
      ", have " ++ toString pool.length))
  else .ok (slice pool offset (offset+n))

def range (n : Int) : List Nat := List.range n.toNat

/-- The `while True` of `make_tek_int`. -/
def drawTekInt (min_ni : Int) : List Key256 → Result Int
  | [] => .error .drawsExhausted
  | bytes::draws => do
    let tek_i ← floorMod (BigEndian.decode bytes.toList) min_ni
    if tek_i > 1 then return tek_i else drawTekInt min_ni draws

def makeTekInt (mkg : Mkg) (draws : List Key256) : Result Int :=
  match (mkg.slaves.map (·.n_i)).min? with
  | none => .error (.scriptException "ValueError" "min() iterable argument is empty")
  | some min_ni => drawTekInt min_ni draws

/-- `format(n, '064x')`. -/
def format064x (n : Nat) : String := String.ofList ((Nat.toDigits 16 n).leftpad 64 '0')

def exit : Failure := .scriptException "SystemExit" "1"

/-- The texts go on with the list of errors. -/
def verifyJoinLeave (mkg : Mkg) (mtoken : Mtoken) : Result Unit := do
  let after_leave ← leKeyUpdate mkg mtoken 0
  if !(← verifyMtoken mkg after_leave) then
    .error (.scriptException "RuntimeError" "LeKeyUpdate failed: ")
  let after_join ← joKeyUpdate mkg after_leave 0
  if !(← verifyMtoken mkg after_join) then
    .error (.scriptException "RuntimeError" "JoKeyUpdate failed: ")

/-- What `main` keeps of a cluster. -/
structure Generated where
  mkg : Mkg
  tek_int : Int
  all_indices : List Int
  mtoken : Mtoken

/-- The body of the loop over the clusters, up to the dictionaries. -/
def generateCluster (args : Args) (all_primes : List (Int × Int)) (draws : Draws) (c : Nat) :
    Result Generated := do
  let start := c*args.uavs_per_cluster
  let primes := slice all_primes start (start+args.uavs_per_cluster)
  let mkg ← mKeyGen primes (draws.getrandbits (args.seed+c*1000))
  let tek_int ← makeTekInt mkg (draws.token_bytes c)
  let all_indices := (range args.uavs_per_cluster).map Int.ofNat
  let mtoken ← mTokenGen mkg all_indices tek_int
  if !(← verifyMtoken mkg mtoken) then .error exit
  return { mkg, tek_int, all_indices, mtoken }

/-- `str(n)`. -/
def str (n : Int) : Json := .string (toString n)

def slaveJson (args : Args) (c : Nat) (slave : Slave) (i : Nat) : Json := .object [
  ("uav_index",.int i),
  ("uav_id",.int (c*args.uavs_per_cluster+i)),
  ("e_i",str slave.e_i),
  ("d_i",str slave.d_i),
  ("n_i",str slave.n_i),
  ("x_i",str slave.x_i),
  ("y_i",str slave.y_i),
  ("Mi",str slave.Mi),
  ("Ni",str slave.Ni),
  ("xy_i",str slave.xy_i),
  ("p_i",str slave.p_i),
  ("q_i",str slave.q_i)]

def clusterJson (args : Args) (generated : Generated) (c : Nat) : Json := .object [
  ("cluster_id",.int c),
  ("skdc_id",.int c),
  ("num_uavs",.int args.uavs_per_cluster),
  ("eM",str generated.mkg.eM),
  ("n_total",str generated.mkg.n_total),
  ("N_global",str generated.mkg.N_global),
  ("N_group",str generated.mtoken.N_group),
  ("tek_hex",.string (format064x (generated.tek_int%2^256).toNat)),
  ("tek_int",str generated.tek_int),
  ("MT_K",str generated.mtoken.MT_K),
  ("e_MK",str generated.mtoken.e_MK),
  ("user_indices",.array (generated.all_indices.map Json.int)),
  ("slave_keys",.array (generated.mkg.slaves.mapIdx fun i slave => slaveJson args c slave i))]

/-- The second loop of `main`: what was written is read back, and a `RuntimeError` ends the
script. -/
def verifyCluster (generated : Generated) : Result Unit := do
  let mtoken ← mTokenGen generated.mkg generated.all_indices generated.tek_int
  match verifyJoinLeave generated.mkg mtoken with
  | .error (.scriptException "RuntimeError" _) => .error exit
  | outcome => outcome

/-- `main` up to the file. The comment and the time it took, which no reader of the file looks
at, are left out. -/
def writeParameters (pool : List (Int × Int)) (draws : Draws) (args : Args) : Result Json := do
  let total_uavs := args.clusters*args.uavs_per_cluster
  let all_primes ← getSequentialBatch pool total_uavs 0
  let clusters ← (range args.clusters).mapM (generateCluster args all_primes draws)
  forM clusters verifyCluster
  return .object [
    ("scheme",.string "MKE-MGKM"),
    ("num_clusters",.int args.clusters),
    ("uavs_per_cluster",.int args.uavs_per_cluster),
    ("total_uavs",.int total_uavs),
    ("seed",.int args.seed),
    ("clusters",.array (clusters.mapIdx fun c generated => clusterJson args generated c))]

end GenCrypto

namespace VerifyCrypto
open MkeMgkm

def typeError (text : String) : Failure := .scriptException "TypeError" text

/-- `j[key]`. -/
def subscript (key : String) : Json → Result Json
  | .object fields =>
    match Json.field key fields with
    | some value => .ok value
    | none => .error (.scriptException "KeyError" key)
  | .array _ => .error (typeError "list indices must be integers or slices, not str")
  | .string _ => .error (typeError "string indices must be integers, not 'str'")
  | _ => .error (typeError "object is not subscriptable")

/-- What `for` runs over. -/
def iterate : Json → Result (List Json)
  | .array elements => .ok elements
  | .object fields => .ok (fields.map fun (key,_) => .string key)
  | .string text => .ok (text.toList.map fun c => .string (String.singleton c))
  | _ => .error (typeError "object is not iterable")

/-- Digits after the first, with single underscores between them. -/
def moreDigits (n : Nat) : List Char → Option Nat
  | [] => some n
  | '_'::c::rest => if c.isDigit then moreDigits (10*n+(c.toNat-48)) rest else none
  | c::rest => if c.isDigit then moreDigits (10*n+(c.toNat-48)) rest else none

def unsigned : List Char → Option Nat
  | c::rest => if c.isDigit then moreDigits (c.toNat-48) rest else none
  | [] => none

def signed : List Char → Option Int
  | '-'::rest => (unsigned rest).map fun (n : Nat) => -(n : Int)
  | '+'::rest => (unsigned rest).map fun (n : Nat) => (n : Int)
  | text => (unsigned text).map fun (n : Nat) => (n : Int)

def blank (c : Char) : Bool :=
  c = ' ' || (9 ≤ c.toNat && c.toNat ≤ 13) || (28 ≤ c.toNat && c.toNat ≤ 31)

/-- `text.strip()`. -/
def strip (text : List Char) : List Char :=
  ((text.dropWhile blank).reverse.dropWhile blank).reverse

/-- `int(j)`. Blanks and digits other than those of ASCII are left out. -/
def int : Json → Result Int
  | .int value => .ok value
  | .bool value => .ok (if value then 1 else 0)
  | .string text =>
    match signed (strip text.toList) with
    | some n => .ok n
    | none => .error (.scriptException "ValueError" "invalid literal for int() with base 10: ")
  | _ => .error (typeError "int() argument must be a string, a bytes-like object or a real number")

def integer (key : String) (j : Json) : Result Int := do int (← subscript key j)

/-- The body of the loop over the slave keys: whether the slave recovers the secret. -/
def verifySlave (MT_K T : Int) (sk : Json) : Result Bool := do
  let _uav_id ← subscript "uav_id" sk
  let d_i ← integer "d_i" sk
  let n_i ← integer "n_i" sk
  let recovered ← pow MT_K d_i n_i
  let T_mod ← floorMod T n_i
  return recovered = T_mod

def verifyCluster (cluster : Json) : Result (List Bool) := do
  let _cid ← subscript "cluster_id" cluster
  let MT_K ← integer "MT_K" cluster
  let T ← integer "T" cluster
  let slave_keys ← iterate (← subscript "slave_keys" cluster)
  slave_keys.mapM (verifySlave MT_K T)

/-- `verify_file` after `json.load`. -/
def verifyFile (data : Json) : Result Bool := do
  let _scheme ← subscript "scheme" data
  let _num_clusters ← subscript "num_clusters" data
  let _total_uavs ← subscript "total_uavs" data
  let clusters ← iterate (← subscript "clusters" data)
  let verdicts ← clusters.mapM verifyCluster
  let total_fail := verdicts.flatten.count false
  return total_fail = 0

end VerifyCrypto
end UavFanet
