import UavFanet.ByteUtils
import UavFanet.CryptoParams
import UavFanet.Json

/-! `CryptoParamsLoader`: from the document of a parameter file to the records, and the checks
that a file has to pass. -/
namespace UavFanet
open UavFanet.ByteUtils UavFanet.Result

namespace CryptoParamsLoader

/-- The bytes of a `std::string`. -/
def bytes (text : String) : ByteBuffer := text.toList.flatMap String.utf8EncodeChar

def digitValue (c : Char) : Option Nat :=
  if '0' ≤ c ∧ c ≤ '9' then some (c.toNat-48)
  else if 'a' ≤ c ∧ c ≤ 'f' then some (c.toNat-87)
  else if 'A' ≤ c ∧ c ≤ 'F' then some (c.toNat-55)
  else none

def digits (base : Nat) (text : List Char) : Option Nat :=
  text.foldlM
    (fun n c => (digitValue c).bind fun d => if d < base then some (base*n+d) else none) 0

/-- The constructor of `cpp_int`: hexadecimal after `0x`, octal after any other leading zero. -/
def magnitude : List Char → Option Nat
  | '0'::x::rest => if x = 'x' ∨ x = 'X' then digits 16 rest else digits 8 (x::rest)
  | text => digits 10 text

def cppInt : List Char → Option Int
  | '-'::rest => (magnitude rest).map fun n => -n
  | text => (magnitude text).map fun n => n

/-- The text of the second exception goes on with that of `cpp_int`. -/
def fromDecString (s : String) : Result Int :=
  if s.isEmpty then .error (.cryptoException "FromDecString: empty string")
  else
    match cppInt s.toList with
    | some n => .ok n
    | none => .error (.cryptoException "FromDecString: parse error: ")

def hexDigit (b : UInt8) : Option UInt8 :=
  if 48 ≤ b ∧ b ≤ 57 then some (b-48)
  else if 97 ≤ b ∧ b ≤ 102 then some (b-87)
  else if 65 ≤ b ∧ b ≤ 70 then some (b-55)
  else none

/-- `std::stoul` in base 16 of two bytes, cast to one. A blank or a sign may come first, and a
second byte that is no digit ends the number. -/
def hexByte (high low : UInt8) : Result UInt8 :=
  match hexDigit high,hexDigit low with
  | some h,some l => .ok (16*h+l)
  | some h,none => .ok h
  | none,some l =>
    if high = 32 ∨ 9 ≤ high ∧ high ≤ 13 ∨ high = 43 then .ok l
    else if high = 45 then .ok (-l)
    else .error (.standardException "stoul")
  | none,none => .error (.standardException "stoul")

def hexBytes : ByteBuffer → Result ByteBuffer
  | high::low::rest => do
    let byte ← hexByte high low
    let bytes ← hexBytes rest
    return byte::bytes
  | _ => .ok []

def hexToAesKey (hex : String) : Result AesGcmKey := do
  if (bytes hex).length ≠ 64 then
    .error (.cryptoException
      ("HexToAesKey: expected 64 hex chars, got " ++ toString (bytes hex).length))
  let key ← hexBytes (bytes hex)
  readArray 32 key 0

def number (key : String) (j : Json) : Result UInt32 := do (← j.atKey key).getU32

def decimal (key : String) (j : Json) : Result Int := do fromDecString (← (← j.atKey key).getString)

/-- Zero is what a `cpp_int` starts with. -/
def decimalIfContained (key : String) (j : Json) : Result Int :=
  if j.contains key then decimal key j else .ok 0

def parseSlaveKey (skj : Json) : Result SlaveKeyEntry := do
  let uav_index ← number "uav_index" skj
  let uav_id ← number "uav_id" skj
  let e_i ← decimal "e_i" skj
  let d_i ← decimal "d_i" skj
  let n_i ← decimal "n_i" skj
  let x_i ← decimal "x_i" skj
  let y_i ← decimal "y_i" skj
  let Mi ← decimal "Mi" skj
  let Ni ← decimal "Ni" skj
  let xy_i ← decimal "xy_i" skj
  let p_i ← decimal "p_i" skj
  let q_i ← decimal "q_i" skj
  return { uav_index, uav_id, e_i, d_i, n_i, x_i, y_i, Mi, Ni, xy_i, p_i, q_i }

/-- The body of the loop over the clusters. -/
def parseCluster (cj : Json) : Result ClusterCryptoEntry := do
  let cluster_id ← number "cluster_id" cj
  let skdc_id ← number "skdc_id" cj
  let num_uavs ← number "num_uavs" cj
  let eM ← decimal "eM" cj
  let n_total ← decimal "n_total" cj
  let tek_int ← if cj.contains "tek_int" then decimal "tek_int" cj else decimalIfContained "T" cj
  let MT_K ← decimal "MT_K" cj
  let e_MK ← decimal "e_MK" cj
  let N_global ← decimalIfContained "N_global" cj
  let N_group ← decimalIfContained "N_group" cj
  let tek_hex ← (← cj.atKey "tek_hex").getString
  let tek ← hexToAesKey tek_hex
  let user_indices ← (← cj.atKey "user_indices").items.mapM Json.getU32
  let slave_keys ← (← cj.atKey "slave_keys").items.mapM parseSlaveKey
  return { cluster_id, skdc_id, num_uavs, eM, n_total, N_global, N_group, tek, tek_int, MT_K, e_MK,
           user_indices, slave_keys, tek_hex }

/-- `ParseJson` after `json::parse`. -/
def parseJson (j : Json) : Result CryptoParamsFile := do
  let scheme ← (← j.atKey "scheme").getString
  let global_key_hex ← j.value Json.getString "global_bootstrap_key"
    (String.ofList (List.replicate 64 '0'))
  let num_clusters ← number "num_clusters" j
  let uavs_per_cluster ← number "uavs_per_cluster" j
  let total_uavs ← number "total_uavs" j
  let seed ← j.value Json.getU32 "seed" 42
  let clusters ← (← j.atKey "clusters").items.mapM parseCluster
  return { num_clusters, uavs_per_cluster, total_uavs, clusters, scheme, global_key_hex, seed }

def clusterText (c : ClusterCryptoEntry) (complaint : String) : String :=
  "CryptoParamsLoader: cluster " ++ toString c.cluster_id ++ complaint

def validateSlaveKey (c : ClusterCryptoEntry) (sk : SlaveKeyEntry) : Result Unit :=
  throwIf (sk.n_i ≤ 0 ∨ sk.d_i ≤ 0)
    (.cryptoException (clusterText c (" UAV " ++ toString sk.uav_id ++ " invalid slave key")))

def validateCluster (c : ClusterCryptoEntry) : Result Unit := do
  throwIf (c.slave_keys.length ≠ c.num_uavs.toNat)
    (.configException (clusterText c " slave key count mismatch"))
  throwIf (c.eM ≤ 0) (.cryptoException (clusterText c " eM is zero or negative"))
  throwIf (c.MT_K ≤ 0) (.cryptoException (clusterText c " MT_K is zero or negative"))
  throwIf ((bytes c.tek_hex).length ≠ 64)
    (.cryptoException (clusterText c " tek_hex wrong length"))
  forM c.slave_keys (validateSlaveKey c)

def validateOrThrow (params : CryptoParamsFile) : Result Unit := do
  throwIf (params.scheme.isEmpty) (.configException "CryptoParamsLoader: missing scheme")
  throwIf (params.num_clusters = 0) (.configException "CryptoParamsLoader: num_clusters == 0")
  throwIf (params.uavs_per_cluster = 0)
    (.configException "CryptoParamsLoader: uavs_per_cluster == 0")
  throwIf (params.clusters.length ≠ params.num_clusters.toNat)
    (.configException ("CryptoParamsLoader: cluster count mismatch: expected " ++
      toString params.num_clusters ++ " got " ++ toString params.clusters.length))
  forM params.clusters validateCluster

/-- `LoadFromString` after `json::parse`. -/
def loadFromString (j : Json) : Result CryptoParamsFile := do
  let params ← parseJson j
  validateOrThrow params
  return params

/-- What the checks ask of a cluster. -/
structure AcceptedCluster (c : ClusterCryptoEntry) : Prop where
  counted : c.slave_keys.length = c.num_uavs.toNat
  exponent : 0 < c.eM
  token : 0 < c.MT_K
  hex : (bytes c.tek_hex).length = 64
  slaves : ∀ sk ∈ c.slave_keys, 0 < sk.n_i ∧ 0 < sk.d_i

theorem validateSlaveKey_ok {c : ClusterCryptoEntry} {sk : SlaveKeyEntry} :
    validateSlaveKey c sk = .ok () ↔ 0 < sk.n_i ∧ 0 < sk.d_i := by
  rw [validateSlaveKey,throwIf_ok]
  omega

theorem validateCluster_ok {c : ClusterCryptoEntry} :
    validateCluster c = .ok () ↔ AcceptedCluster c := by
  simp only [validateCluster,bind_ok_unit,throwIf_ok,forM_ok,validateSlaveKey_ok,not_le,not_not]
  constructor
  · intro ⟨counted,exponent,token,hex,slaves⟩
    exact ⟨counted,exponent,token,hex,slaves⟩
  · intro ⟨counted,exponent,token,hex,slaves⟩
    exact ⟨counted,exponent,token,hex,slaves⟩

/-- What the checks ask of a file. -/
structure Accepted (params : CryptoParamsFile) : Prop where
  scheme : params.scheme.isEmpty = false
  clusters : params.num_clusters ≠ 0
  uavs : params.uavs_per_cluster ≠ 0
  counted : params.clusters.length = params.num_clusters.toNat
  each : ∀ c ∈ params.clusters, AcceptedCluster c

theorem validateOrThrow_ok {params : CryptoParamsFile} :
    validateOrThrow params = .ok () ↔ Accepted params := by
  simp only [validateOrThrow,bind_ok_unit,throwIf_ok,forM_ok,validateCluster_ok,
    Bool.not_eq_true,not_not]
  constructor
  · intro ⟨scheme,clusters,uavs,counted,each⟩
    exact ⟨scheme,clusters,uavs,counted,each⟩
  · intro ⟨scheme,clusters,uavs,counted,each⟩
    exact ⟨scheme,clusters,uavs,counted,each⟩

end CryptoParamsLoader
end UavFanet
