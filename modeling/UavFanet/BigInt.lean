import UavFanet.Library.BigEndian
import UavFanet.Types
import Mathlib.Data.Int.GCD
import Mathlib.Data.Int.ModEq
import Mathlib.Tactic.Ring
import Mathlib.Tactic.Linarith

/-! `BigIntOps`: truncated division, modular powers and inverses, the parameter
formulas of key generation and the byte form of integers (`cpp_int` is `Int`). -/
namespace UavFanet.BigInt
open Library

/-- `a / b` of `cpp_int`, which truncates towards zero. -/
def divide (a b : Int) : Result Int :=
  if b = 0 then .error .divisionByZero else .ok (a.tdiv b)

def mod (a m : Int) : Result Int :=
  if m = 0 then .error .divisionByZero
  else
    let result := a.tmod m
    .ok (if result < 0 then result+m else result)

/-- `powm` is exact: a truncated remainder of the whole power. -/
def modPow (base exp modulus : Int) : Result Int :=
  if modulus = 0 then .error (.cryptoException "ModPow: modulus is zero")
  else if exp < 0 then .error (.cryptoException "ModPow: negative exponent")
  else .ok ((base^exp.toNat).tmod modulus)

def inverseLoop (old_r r old_s s : Int) : Int × Int :=
  if r = 0 then (old_r,old_s)
  else inverseLoop r (old_r-old_r.tdiv r*r) s (old_s-old_r.tdiv r*s)
termination_by r.natAbs
decreasing_by
  rename_i nonzero
  have remainder : old_r-old_r.tdiv r*r = old_r.tmod r := by
    rw [Int.tmod_def,Int.mul_comm r]
  rw [remainder,Int.natAbs_tmod]
  exact Nat.mod_lt _ (Int.natAbs_pos.mpr nonzero)

def modInverse (a m : Int) : Result Int :=
  if m ≤ 1 then .error (.cryptoException "ModInverse: modulus must be > 1")
  else
    let (old_r,old_s) := inverseLoop a m 1 0
    if old_r ≠ 1 then .error (.cryptoException "ModInverse: gcd != 1, inverse does not exist")
    else mod old_s m

def gcd (a b : Int) : Int := Int.gcd a b

/-- The two nested loops over the moduli, one gcd for each pair. -/
def pairwiseCoprime : List Int → Bool
  | [] => true
  | modulus :: moduli => moduli.all (fun other => gcd modulus other = 1) && pairwiseCoprime moduli

def crtTerm (M remainder modulus : Int) : Result Int := do
  let Mi ← divide M modulus
  let yi ← modInverse Mi modulus
  .ok (remainder*Mi*yi)

def crtSum (M result : Int) : List (Int × Int) → Result Int
  | [] => .ok result
  | (remainder,modulus) :: rest => do
    let term ← crtTerm M remainder modulus
    crtSum M (result+term) rest

def crt (remainders moduli : List Int) : Result Int :=
  if remainders.length ≠ moduli.length then
    .error (.cryptoException "CRT: remainders and moduli must have same size")
  else if remainders.isEmpty then .error (.cryptoException "CRT: empty input")
  else if !pairwiseCoprime moduli then
    .error (.cryptoException "CRT: moduli are not pairwise coprime")
  else do
    let M := moduli.prod
    let result ← crtSum M 0 (remainders.zip moduli)
    mod result M

/-- `millerRabin` stands for Boost's `miller_rabin_test`, with the number of trials and the
generator it is called with. -/
def isProbablePrime (millerRabin : Int → Bool) (n : Int) : Bool :=
  if n < 2 then false
  else if n = 2 then true
  else if n = 3 then true
  else if n.tmod 2 = 0 then false
  else millerRabin n

def isSafePrime (millerRabin : Int → Bool) (p : Int) : Bool :=
  if !isProbablePrime millerRabin p then false
  else
    let q := (p-1).tdiv 2
    isProbablePrime millerRabin q

/-- One pass for each full word: `result <<= 64` and `result |= rng()`. -/
def randomWords : Nat → Nat → List UInt64 → Result (Nat × List UInt64)
  | 0, result, draws => .ok (result,draws)
  | _+1, _, [] => .error .drawsExhausted
  | full_words+1, result, draw :: draws =>
    randomWords full_words (result <<< 64 ||| draw.toNat) draws

def randomRest (rem_bits : UInt32) (result : Nat) (draws : List UInt64) :
    Result (Nat × List UInt64) :=
  if rem_bits = 0 then .ok (result,draws)
  else
    match draws with
    | [] => .error .drawsExhausted
    | draw :: draws =>
      .ok (result <<< rem_bits.toNat ||| (draw >>> (64-rem_bits.toUInt64)).toNat,draws)

def randomBits (bits : UInt32) (draws : List UInt64) : Result (Int × List UInt64) :=
  if bits = 0 then .ok (0,draws)
  else do
    let (result,draws) ← randomWords (bits/64).toNat 0 draws
    let (result,draws) ← randomRest (bits%64) result draws
    .ok (((result ||| 1 <<< (bits-1).toNat : Nat) : Int),draws)

/-- `do result = RandomBits(bits, rng) while (result >= upper_bound)`. An attempt that takes no
draw comes out the same every time. -/
def drawBelow (upper_bound : Int) (bits : UInt32) (draws : List UInt64) :
    Result (Int × List UInt64) :=
  match randomBits bits draws with
  | .error failure => .error failure
  | .ok (result,rest) =>
    if result ≥ upper_bound then
      if rest.length < draws.length then drawBelow upper_bound bits rest else .error .diverges
    else .ok (result,rest)
termination_by draws.length

/-- `msb(upper_bound) + 1`, cast to 32 bits. -/
def boundBits (upper_bound : Int) : UInt32 := UInt32.ofNat (upper_bound.toNat.log2+1)

def randomBelow (upper_bound : Int) (draws : List UInt64) : Result (Int × List UInt64) :=
  if upper_bound ≤ 0 then .error (.cryptoException "RandomBelow: upper_bound must be > 0")
  else drawBelow upper_bound (boundBits upper_bound) draws

def computeX (p : Int) : Int := (p-1).tdiv 2

def computeY (q : Int) : Int := (q-1).tdiv 2

def generateEi (draw : UInt64) : Int :=
  let R : Int := (draw.toNat : Int)+1
  4*R+1

def computeDi (e_i x_i y_i : Int) : Result Int :=
  modPow e_i (2*(x_i-1)*(y_i-1)-1) (4*x_i*y_i)

def toBytes (n : Int) (bytes : Nat) : Result ByteBuffer :=
  if n < 0 then .error (.cryptoException "ToBytes: negative BigInt cannot be serialised")
  else if n.toNat/256^bytes ≠ 0 then
    .error (.cryptoException ("ToBytes: BigInt does not fit in " ++ toString bytes ++ " bytes"))
  else .ok (BigEndian.encode bytes n.toNat)

def fromBytes (buf : ByteBuffer) : Int := BigEndian.decode buf

theorem mod_positive {a m : Int} (positive : 0 < m) : mod a m = .ok (a%m) := by
  have nonzero : m ≠ 0 := by omega
  have corrected : (if a.tmod m < 0 then a.tmod m+m else a.tmod m) = a%m := by
    rw [Int.tmod_eq_emod]
    have low := Int.emod_nonneg a nonzero
    have high := Int.emod_lt_of_pos a positive
    split_ifs <;> omega
  simp only [mod,nonzero,if_false,corrected]

theorem modPow_nonneg {base exp modulus : Int} (base0 : 0 ≤ base) (exp0 : 0 ≤ exp)
    (positive : 0 < modulus) : modPow base exp modulus = .ok (base^exp.toNat%modulus) := by
  have nonzero : modulus ≠ 0 := by omega
  simp only [modPow,nonzero,if_false,not_lt.mpr exp0,
    Int.tmod_eq_emod_of_nonneg (pow_nonneg base0 exp.toNat)]

theorem sub_tdiv_mul (a b : Int) : a-a.tdiv b*b = a.tmod b := by
  rw [Int.tmod_def,Int.mul_comm b]

theorem gcd_tmod (a b : Int) : Int.gcd b (a.tmod b) = Int.gcd a b := by
  rw [Int.gcd_eq_natAbs_gcd_natAbs,Int.gcd_eq_natAbs_gcd_natAbs,Int.natAbs_tmod,Nat.gcd_comm,
    ← Nat.gcd_rec,Nat.gcd_comm]

/-- Bézout: the loop keeps each remainder congruent to its coefficient times `a`,
and ends at the greatest common divisor of the two it started from, up to its sign. -/
theorem inverseLoop_spec {a m old_r r old_s s : Int}
    (old_ok : old_r ≡ old_s*a [ZMOD m]) (new_ok : r ≡ s*a [ZMOD m]) :
    (inverseLoop old_r r old_s s).1.natAbs = Int.gcd old_r r ∧
      (inverseLoop old_r r old_s s).1 ≡ (inverseLoop old_r r old_s s).2*a [ZMOD m] := by
  induction old_r, r, old_s, s using inverseLoop.induct with
  | case1 old_r old_s s =>
    rw [inverseLoop]
    simp only [if_true,Int.gcd_zero_right]
    exact ⟨trivial,old_ok⟩
  | case2 old_r r old_s s nonzero ih =>
    rw [inverseLoop]
    simp only [nonzero,if_false]
    have next : old_r-old_r.tdiv r*r ≡ (old_s-old_r.tdiv r*s)*a [ZMOD m] := by
      have scaled := old_ok.sub (new_ok.mul_left (old_r.tdiv r))
      rwa [← mul_assoc,← sub_mul] at scaled
    rw [← gcd_tmod old_r r,← sub_tdiv_mul]
    exact ih new_ok next

theorem inverseLoop_nonneg {old_r r old_s s : Int} (old0 : 0 ≤ old_r) (new0 : 0 ≤ r) :
    0 ≤ (inverseLoop old_r r old_s s).1 := by
  induction old_r, r, old_s, s using inverseLoop.induct with
  | case1 old_r old_s s =>
    rw [inverseLoop]
    exact old0
  | case2 old_r r old_s s nonzero ih =>
    rw [inverseLoop]
    simp only [nonzero,if_false]
    apply ih new0
    rw [sub_tdiv_mul,Int.tmod_eq_emod_of_nonneg old0]
    exact Int.emod_nonneg _ nonzero

theorem modInverse_spec (a m : Int) :
    (inverseLoop a m 1 0).1.natAbs = Int.gcd a m ∧
      (inverseLoop a m 1 0).1 ≡ (inverseLoop a m 1 0).2*a [ZMOD m] :=
  inverseLoop_spec (by rw [one_mul]) (by simp)

/-- The loop has to end at 1 itself; its coefficient is an inverse then. -/
theorem modInverse_of_one {a m : Int} (large : 1 < m) (one : (inverseLoop a m 1 0).1 = 1) :
    modInverse a m = .ok ((inverseLoop a m 1 0).2%m) ∧
      a*((inverseLoop a m 1 0).2%m) ≡ 1 [ZMOD m] := by
  have bezout := (modInverse_spec a m).2
  rw [one] at bezout
  constructor
  · simp only [modInverse,not_le.mpr large,if_false,one,ne_eq,not_true_eq_false,
      mod_positive (show 0 < m by omega)]
  · calc a*((inverseLoop a m 1 0).2%m) ≡ a*(inverseLoop a m 1 0).2 [ZMOD m] :=
          (Int.mod_modEq _ m).mul_left a
      _ = (inverseLoop a m 1 0).2*a := mul_comm _ _
      _ ≡ 1 [ZMOD m] := bezout.symm

theorem modInverse_coprime {a m : Int} (a0 : 0 ≤ a) (large : 1 < m) (coprime : Int.gcd a m = 1) :
    ∃ inverse, modInverse a m = .ok inverse ∧ a*inverse ≡ 1 [ZMOD m] := by
  have divisor := (modInverse_spec a m).1
  have natural : 0 ≤ (inverseLoop a m 1 0).1 := inverseLoop_nonneg a0 (by omega)
  exact ⟨_,modInverse_of_one large (by omega)⟩

theorem toBytes_fits {n : Nat} {bytes : Nat} (fits : n < 256^bytes) :
    toBytes n bytes = .ok (BigEndian.encode bytes n) := by
  simp [toBytes,Nat.div_eq_of_lt fits]

end UavFanet.BigInt
