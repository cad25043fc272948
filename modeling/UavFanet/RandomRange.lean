import UavFanet.BigInt

/-! `RandomBelow`: the numbers that some draws return, and whether the rejection loop can be left. -/
namespace UavFanet.BigInt

/-- What a generator of numbers below the bound is to do. -/
structure CoversRange (upper_bound : Int) : Prop where
  range : ∀ draws v rest, randomBelow upper_bound draws = .ok (v,rest) → 0 ≤ v ∧ v < upper_bound
  reached : ∀ v, 0 ≤ v → v < upper_bound →
    ∃ draws rest, randomBelow upper_bound draws = .ok (v,rest)
  escapes : ∀ draws, randomBelow upper_bound draws = .error .drawsExhausted →
    ∃ more v rest, randomBelow upper_bound (draws ++ more) = .ok (v,rest)

theorem randomWords_append {n result value : Nat} {draws rest : List UInt64}
    (read : randomWords n result draws = .ok (value,rest)) (more : List UInt64) :
    randomWords n result (draws ++ more) = .ok (value,rest ++ more) := by
  induction n generalizing result draws with
  | zero =>
    cases read
    rfl
  | succ n ih =>
    cases draws with
    | nil => cases read
    | cons draw draws => exact ih read

theorem randomWords_cases (n result : Nat) (draws : List UInt64) :
    (draws.length < n ∧ randomWords n result draws = .error .drawsExhausted) ∨
      n ≤ draws.length ∧ ∃ value, randomWords n result draws = .ok (value,draws.drop n) ∧
        value < (result+1)*2^(64*n) := by
  induction n generalizing result draws with
  | zero => exact .inr ⟨by omega,result,rfl,by simp⟩
  | succ n ih =>
    cases draws with
    | nil => exact .inl ⟨by simp,rfl⟩
    | cons draw draws =>
      rcases ih (result <<< 64 ||| draw.toNat) draws with ⟨short,ended⟩ | ⟨long,value,read,bound⟩
      · exact .inl ⟨by simpa using short,ended⟩
      · refine .inr ⟨by simpa using long,value,read,lt_of_lt_of_le bound ?_⟩
        have small := draw.toNat_lt
        rw [← Nat.shiftLeft_add_eq_or_of_lt small,Nat.shiftLeft_eq]
        calc (result*2^64+draw.toNat+1)*2^(64*n) ≤ ((result+1)*2^64)*2^(64*n) :=
              Nat.mul_le_mul_right _ (by omega)
          _ = (result+1)*2^(64*(n+1)) := by ring

theorem randomWords_reach (n result : Nat) {w : Nat} (fits : w < 2^(64*n)) :
    ∃ draws, randomWords n result draws = .ok (result*2^(64*n)+w,[]) := by
  induction n generalizing result w with
  | zero => exact ⟨[],by simp_all [randomWords]⟩
  | succ n ih =>
    have positive : 0 < 2^(64*n) := by positivity
    have top : w/2^(64*n) < 2^64 := by
      rw [Nat.div_lt_iff_lt_mul positive,← Nat.pow_add]
      exact lt_of_lt_of_eq fits (by ring)
    obtain ⟨draws,read⟩ := ih (result*2^64+w/2^(64*n)) (Nat.mod_lt w positive)
    refine ⟨UInt64.ofNat (w/2^(64*n)) :: draws,?_⟩
    have word : (UInt64.ofNat (w/2^(64*n))).toNat = w/2^(64*n) := UInt64.toNat_ofNat_of_lt' top
    have value : (result*2^64+w/2^(64*n))*2^(64*n)+w%2^(64*n) = result*2^(64*(n+1))+w := by
      have split := Nat.div_add_mod w (2^(64*n))
      calc (result*2^64+w/2^(64*n))*2^(64*n)+w%2^(64*n)
          = result*2^(64*(n+1))+(2^(64*n)*(w/2^(64*n))+w%2^(64*n)) := by ring
        _ = result*2^(64*(n+1))+w := by rw [split]
    rw [randomWords,word,← Nat.shiftLeft_add_eq_or_of_lt top,Nat.shiftLeft_eq,read,value]

section Rest

variable {rem_bits : UInt32} {result : Nat} {draws : List UInt64}

theorem randomRest_append {value : Nat} {rest : List UInt64}
    (read : randomRest rem_bits result draws = .ok (value,rest)) (more : List UInt64) :
    randomRest rem_bits result (draws ++ more) = .ok (value,rest ++ more) := by
  unfold randomRest at read ⊢
  split at read
  · rename_i whole
    rw [if_pos whole]
    cases read
    rfl
  · rename_i partly
    rw [if_neg partly]
    cases draws with
    | nil => cases read
    | cons draw draws =>
      cases read
      rfl

def restWords (rem_bits : UInt32) : Nat := if rem_bits = 0 then 0 else 1

theorem shifted_toNat (small : rem_bits.toNat < 64) (partly : rem_bits ≠ 0) (draw : UInt64) :
    (draw >>> (64-rem_bits.toUInt64)).toNat = draw.toNat/2^(64-rem_bits.toNat) := by
  have positive : rem_bits.toNat ≠ 0 := fun zero => partly (UInt32.toNat.inj zero)
  have width : (64-rem_bits.toUInt64).toNat = 64-rem_bits.toNat := by
    rw [UInt64.toNat_sub_of_le _ _ (UInt64.le_iff_toNat_le.mpr (by simp; omega))]
    simp
  rw [UInt64.toNat_shiftRight,width,Nat.mod_eq_of_lt (by omega),Nat.shiftRight_eq_div_pow]

theorem randomRest_cases (small : rem_bits.toNat < 64) (result : Nat) (draws : List UInt64) :
    (draws.length < restWords rem_bits ∧
        randomRest rem_bits result draws = .error .drawsExhausted) ∨
      restWords rem_bits ≤ draws.length ∧ ∃ value,
        randomRest rem_bits result draws = .ok (value,draws.drop (restWords rem_bits)) ∧
        value < (result+1)*2^rem_bits.toNat := by
  unfold randomRest restWords
  split
  · rename_i whole
    exact .inr ⟨by omega,result,rfl,by simp [whole]⟩
  · rename_i partly
    cases draws with
    | nil => exact .inl ⟨by simp,rfl⟩
    | cons draw draws =>
      refine .inr ⟨by simp,_,rfl,?_⟩
      have low : draw.toNat/2^(64-rem_bits.toNat) < 2^rem_bits.toNat := by
        rw [Nat.div_lt_iff_lt_mul (by positivity),← Nat.pow_add,
          show rem_bits.toNat+(64-rem_bits.toNat) = 64 by omega]
        exact draw.toNat_lt
      rw [shifted_toNat small partly,← Nat.shiftLeft_add_eq_or_of_lt low,Nat.shiftLeft_eq,
        Nat.add_mul,Nat.one_mul]
      exact Nat.add_lt_add_left low _

theorem randomRest_reach (small : rem_bits.toNat < 64) (result : Nat) {w : Nat}
    (fits : w < 2^rem_bits.toNat) :
    ∃ draws, randomRest rem_bits result draws = .ok (result*2^rem_bits.toNat+w,[]) := by
  by_cases whole : rem_bits = 0
  · subst whole
    exact ⟨[],by simp_all [randomRest]⟩
  · have split : 2^rem_bits.toNat*2^(64-rem_bits.toNat) = 2^64 := by
      rw [← Nat.pow_add]
      congr 1
      omega
    have top : w*2^(64-rem_bits.toNat) < 2^64 := by
      rw [← split]
      exact Nat.mul_lt_mul_of_pos_right fits (by positivity)
    refine ⟨[UInt64.ofNat (w*2^(64-rem_bits.toNat))],?_⟩
    have word : (UInt64.ofNat (w*2^(64-rem_bits.toNat)) >>> (64-rem_bits.toUInt64)).toNat = w := by
      rw [shifted_toNat small whole,UInt64.toNat_ofNat_of_lt' top]
      exact Nat.mul_div_cancel _ (by positivity)
    rw [randomRest,if_neg whole,word,← Nat.shiftLeft_add_eq_or_of_lt fits,Nat.shiftLeft_eq]

end Rest

section Bits

variable {bits : UInt32}

/-- How many draws an attempt takes. -/
def attemptWords (bits : UInt32) : Nat := (bits/64).toNat+restWords (bits%64)

theorem bits_split (bits : UInt32) : 64*(bits/64).toNat+(bits%64).toNat = bits.toNat := by
  simp only [UInt32.toNat_div,UInt32.toNat_mod,UInt32.reduceToNat]
  exact Nat.div_add_mod _ _

theorem rest_small (bits : UInt32) : (bits%64).toNat < 64 := by
  rw [UInt32.toNat_mod]
  exact Nat.mod_lt _ (by decide)

theorem attemptWords_pos (some_bits : bits ≠ 0) : 0 < attemptWords bits := by
  have positive : bits.toNat ≠ 0 := fun zero => some_bits (UInt32.toNat.inj zero)
  have split := bits_split bits
  unfold attemptWords restWords
  split
  · rename_i whole
    rw [whole] at split
    simp only [UInt32.toNat_zero] at split
    omega
  · omega

theorem pred_toNat (some_bits : bits ≠ 0) : (bits-1).toNat+1 = bits.toNat := by
  have positive : bits.toNat ≠ 0 := fun zero => some_bits (UInt32.toNat.inj zero)
  rw [UInt32.toNat_sub_of_le _ _ (UInt32.le_iff_toNat_le.mpr (by simp; omega))]
  simp only [UInt32.toNat_one]
  omega

theorem randomBits_append {draws rest : List UInt64} {value : Int}
    (read : randomBits bits draws = .ok (value,rest)) (more : List UInt64) :
    randomBits bits (draws ++ more) = .ok (value,rest ++ more) := by
  unfold randomBits at read ⊢
  split at read
  · rename_i none
    rw [if_pos none]
    cases read
    rfl
  · rename_i some_bits
    rw [if_neg some_bits]
    obtain ⟨⟨words,after⟩,full,read⟩ := Result.bind_ok.mp read
    obtain ⟨⟨result,left⟩,partly,read⟩ := Result.bind_ok.mp read
    cases read
    simp only [randomWords_append full more,randomRest_append partly more,Result.ok_bind]

/-- An attempt ends with the draws, or with a number of just that many bits. -/
theorem randomBits_cases (some_bits : bits ≠ 0) (draws : List UInt64) :
    (draws.length < attemptWords bits ∧ randomBits bits draws = .error .drawsExhausted) ∨
      attemptWords bits ≤ draws.length ∧ ∃ value : Nat,
        randomBits bits draws = .ok (value,draws.drop (attemptWords bits)) ∧
        2^(bits-1).toNat ≤ value ∧ value < 2^bits.toNat := by
  rw [randomBits,if_neg some_bits,attemptWords]
  rcases randomWords_cases (bits/64).toNat 0 draws with ⟨short,ended⟩ | ⟨long,words,full,bound⟩
  · exact .inl ⟨by omega,by rw [ended]; rfl⟩
  · rcases randomRest_cases (rest_small bits) words (draws.drop (bits/64).toNat) with
      ⟨short,ended⟩ | ⟨enough,value,partly,below⟩
    · rw [List.length_drop] at short
      exact .inl ⟨by omega,by simp only [full,ended,Result.ok_bind]; rfl⟩
    · rw [List.length_drop] at enough
      refine .inr ⟨by omega,value ||| 1 <<< (bits-1).toNat,?_,?_,?_⟩
      · simp only [full,partly,Result.ok_bind,List.drop_drop]
      · rw [Nat.shiftLeft_eq,Nat.one_mul]
        exact Nat.right_le_or
      · apply Nat.or_lt_two_pow
        · calc value < (words+1)*2^(bits%64).toNat := below
            _ ≤ 2^(64*(bits/64).toNat)*2^(bits%64).toNat :=
              Nat.mul_le_mul_right _ (by omega)
            _ = 2^bits.toNat := by rw [← Nat.pow_add,bits_split]
        · rw [Nat.shiftLeft_eq,Nat.one_mul]
          exact Nat.pow_lt_pow_right (by decide) (by have := pred_toNat some_bits; omega)

theorem randomBits_reach (some_bits : bits ≠ 0) {v : Nat} (top : 2^(bits-1).toNat ≤ v)
    (fits : v < 2^bits.toNat) : ∃ draws, randomBits bits draws = .ok (v,[]) := by
  have split : 2^(64*(bits/64).toNat)*2^(bits%64).toNat = 2^bits.toNat := by
    rw [← Nat.pow_add,bits_split]
  have low : v-2^(bits-1).toNat < 2^(bits-1).toNat := by
    rw [← pred_toNat some_bits,Nat.pow_succ] at fits
    omega
  have word : (v-2^(bits-1).toNat)/2^(bits%64).toNat < 2^(64*(bits/64).toNat) := by
    rw [Nat.div_lt_iff_lt_mul (by positivity),split]
    omega
  obtain ⟨draws,full⟩ := randomWords_reach (bits/64).toNat 0 word
  obtain ⟨rest,partly⟩ := randomRest_reach (rest_small bits)
    ((v-2^(bits-1).toNat)/2^(bits%64).toNat)
    (Nat.mod_lt (v-2^(bits-1).toNat) (show 0 < 2^(bits%64).toNat by positivity))
  refine ⟨draws ++ rest,?_⟩
  rw [randomBits,if_neg some_bits]
  rw [Nat.zero_mul,Nat.zero_add] at full
  rw [Nat.div_add_mod'] at partly
  have marked : v-2^(bits-1).toNat ||| 1 <<< (bits-1).toNat = v := by
    rw [Nat.or_comm,← Nat.shiftLeft_add_eq_or_of_lt low,Nat.shiftLeft_eq]
    omega
  simp only [randomWords_append full rest,List.nil_append,partly,Result.ok_bind,marked]

end Bits

/-- What `RandomBits` can return: a number with the top bit set, or nothing but zero for no bits. -/
def Drawn (bits : UInt32) (v : Int) : Prop :=
  (bits = 0 ∧ v = 0) ∨ (bits ≠ 0 ∧ 2^(bits-1).toNat ≤ v ∧ v < 2^bits.toNat)

theorem drawn_of_randomBits {bits : UInt32} {draws rest : List UInt64} {v : Int}
    (read : randomBits bits draws = .ok (v,rest)) : Drawn bits v := by
  by_cases none : bits = 0
  · rw [randomBits,if_pos none] at read
    cases read
    exact .inl ⟨none,rfl⟩
  · rcases randomBits_cases none draws with ⟨-,ended⟩ | ⟨-,value,returned,top,fits⟩
    · rw [ended] at read
      cases read
    · rw [returned] at read
      cases read
      exact .inr ⟨none,by exact_mod_cast top,by exact_mod_cast fits⟩

theorem Drawn.nonneg {bits : UInt32} {v : Int} (drawn : Drawn bits v) : 0 ≤ v := by
  rcases drawn with ⟨-,rfl⟩ | ⟨-,top,-⟩
  · exact le_refl 0
  · exact le_trans (by positivity) top

theorem Drawn.reach {bits : UInt32} {v : Int} (drawn : Drawn bits v) :
    ∃ draws, randomBits bits draws = .ok (v,[]) := by
  obtain ⟨n,rfl⟩ := Int.eq_ofNat_of_zero_le drawn.nonneg
  rcases drawn with ⟨none,zero⟩ | ⟨some_bits,top,fits⟩
  · rw [zero]
    exact ⟨[],by rw [randomBits,if_pos none]⟩
  · exact randomBits_reach some_bits (by exact_mod_cast top) (by exact_mod_cast fits)

section Below

variable {upper_bound v : Int} {bits : UInt32} {draws rest : List UInt64}

theorem drawBelow_accept (read : randomBits bits draws = .ok (v,rest)) (below : v < upper_bound) :
    drawBelow upper_bound bits draws = .ok (v,rest) := by
  rw [drawBelow,read]
  simp only [ge_iff_le,not_le.mpr below,if_false]

theorem drawBelow_retry (read : randomBits bits draws = .ok (v,rest)) (above : upper_bound ≤ v)
    (shorter : rest.length < draws.length) :
    drawBelow upper_bound bits draws = drawBelow upper_bound bits rest := by
  rw [drawBelow,read]
  simp only [ge_iff_le,above,if_true,shorter]

theorem drawBelow_drawn (read : drawBelow upper_bound bits draws = .ok (v,rest)) :
    Drawn bits v ∧ v < upper_bound := by
  induction draws using drawBelow.induct upper_bound bits with
  | case1 draws failure threw =>
    rw [drawBelow,threw] at read
    cases read
  | case2 draws value left attempt above shorter ih =>
    rw [drawBelow_retry attempt above shorter] at read
    exact ih read
  | case3 draws value left attempt above stuck =>
    rw [drawBelow,attempt] at read
    simp only [above,if_true,stuck,if_false] at read
    cases read
  | case4 draws value left attempt below =>
    rw [drawBelow_accept attempt (not_le.mp below)] at read
    cases read
    exact ⟨drawn_of_randomBits attempt,not_le.mp below⟩

theorem drawBelow_reached_iff :
    (∃ draws rest, drawBelow upper_bound bits draws = .ok (v,rest)) ↔
      Drawn bits v ∧ v < upper_bound := by
  constructor
  · rintro ⟨draws,rest,read⟩
    exact drawBelow_drawn read
  · rintro ⟨drawn,below⟩
    obtain ⟨draws,read⟩ := drawn.reach
    exact ⟨draws,[],drawBelow_accept read below⟩

/-- An attempt under way is finished with zeros; one that is rejected is followed by one that
is not. -/
theorem drawBelow_escape {target : Int} (drawn : Drawn bits target) (below : target < upper_bound)
    (draws : List UInt64) :
    ∃ more v rest, drawBelow upper_bound bits (draws ++ more) = .ok (v,rest) := by
  by_cases none : bits = 0
  · have read : randomBits bits (draws ++ []) = .ok (0,draws ++ []) := by
      rw [randomBits,if_pos none]
    refine ⟨[],0,draws ++ [],drawBelow_accept read ?_⟩
    have := drawn.nonneg
    omega
  · obtain ⟨words,hit⟩ := drawn.reach
    have enough := attemptWords_pos none
    induction length : draws.length using Nat.strong_induction_on generalizing draws with
    | h n ih =>
      rcases randomBits_cases none draws with ⟨short,-⟩ | ⟨long,value,read,-,-⟩
      · obtain ⟨padding,filled⟩ : ∃ padding : List UInt64,
            (draws ++ padding).length = attemptWords bits :=
          ⟨List.replicate (attemptWords bits-draws.length) 0,by simp; omega⟩
        rcases randomBits_cases none (draws ++ padding) with ⟨less,-⟩ | ⟨-,value,read,-,-⟩
        · omega
        · rw [← filled,List.drop_length] at read
          by_cases accepted : (value : Int) < upper_bound
          · exact ⟨padding,value,[],drawBelow_accept read accepted⟩
          · refine ⟨padding ++ words,target,[],?_⟩
            have again := randomBits_append read words
            have shorter : ([] ++ words).length < (draws ++ padding ++ words).length := by
              rw [List.nil_append,List.length_append,filled]
              omega
            rw [← List.append_assoc,drawBelow_retry again (not_lt.mp accepted) shorter]
            exact drawBelow_accept hit below
      · by_cases accepted : (value : Int) < upper_bound
        · exact ⟨[],value,_,by rw [List.append_nil]; exact drawBelow_accept read accepted⟩
        · have shorter : (draws.drop (attemptWords bits)).length < n := by
            rw [List.length_drop]
            omega
          obtain ⟨more,v,rest,later⟩ := ih _ shorter _ rfl
          refine ⟨more,v,rest,?_⟩
          rw [drawBelow_retry (randomBits_append read more) (not_lt.mp accepted)
            (by simp only [List.length_append]; omega)]
          exact later

theorem drawBelow_nil (some_bits : bits ≠ 0) :
    drawBelow upper_bound bits [] = .error .drawsExhausted := by
  rcases randomBits_cases some_bits [] with ⟨-,ended⟩ | ⟨long,-⟩
  · rw [drawBelow,ended]
  · have := attemptWords_pos some_bits
    simp only [List.length_nil] at long
    omega

theorem drawBelow_escapes_iff (positive : 0 < upper_bound) :
    (∀ draws, drawBelow upper_bound bits draws = .error .drawsExhausted →
      ∃ more v rest, drawBelow upper_bound bits (draws ++ more) = .ok (v,rest)) ↔
    ∃ v, Drawn bits v ∧ v < upper_bound := by
  constructor
  · intro escapes
    by_cases none : bits = 0
    · exact ⟨0,.inl ⟨none,rfl⟩,positive⟩
    · obtain ⟨more,v,rest,read⟩ := escapes [] (drawBelow_nil none)
      exact ⟨v,drawBelow_drawn read⟩
  · rintro ⟨target,drawn,below⟩ draws -
    exact drawBelow_escape drawn below draws

end Below

theorem randomBelow_positive {upper_bound : Int} (positive : 0 < upper_bound)
    (draws : List UInt64) :
    randomBelow upper_bound draws = drawBelow upper_bound (boundBits upper_bound) draws :=
  if_neg (not_le.mpr positive)

/-- Some number below the bound never comes: zero, where the top bit is set, and one, where there
are no bits at all. -/
theorem missed_value {upper_bound : Int} (positive : 0 < upper_bound) :
    ∃ v, 0 ≤ v ∧ v < upper_bound ∧ ¬ Drawn (boundBits upper_bound) v := by
  by_cases none : boundBits upper_bound = 0
  · have large : upper_bound ≠ 1 := by
      rintro rfl
      exact absurd none (by decide)
    refine ⟨1,by decide,by omega,?_⟩
    rintro (⟨-,zero⟩ | ⟨some_bits,-⟩)
    · cases zero
    · exact some_bits none
  · refine ⟨0,le_refl 0,positive,?_⟩
    rintro (⟨zero,-⟩ | ⟨-,top,-⟩)
    · exact none zero
    · exact absurd top (not_le.mpr (by positivity))

/-- `RandomBelow` stays in its range, but it never covers it: the numbers without the top bit of
the bound are missing, and where no number below the bound has it the loop has no way out. -/
theorem randomBelow_never_covers (upper_bound : Int) (positive : 0 < upper_bound) :
    ¬ CoversRange upper_bound ∧
    (∀ draws v rest, randomBelow upper_bound draws = .ok (v,rest) → 0 ≤ v ∧ v < upper_bound) ∧
    (∀ v, (∃ draws rest, randomBelow upper_bound draws = .ok (v,rest)) ↔
      Drawn (boundBits upper_bound) v ∧ v < upper_bound) ∧
    ((∀ draws, randomBelow upper_bound draws = .error .drawsExhausted →
        ∃ more v rest, randomBelow upper_bound (draws ++ more) = .ok (v,rest)) ↔
      ∃ v, Drawn (boundBits upper_bound) v ∧ v < upper_bound) := by
  simp only [randomBelow_positive positive,drawBelow_reached_iff,drawBelow_escapes_iff positive]
  refine ⟨?_,?_,fun _ => trivial,trivial⟩
  · intro covers
    obtain ⟨v,natural,below,missed⟩ := missed_value positive
    obtain ⟨draws,rest,read⟩ := covers.reached v natural below
    rw [randomBelow_positive positive] at read
    exact missed (drawBelow_drawn read).1
  · intro draws v rest read
    obtain ⟨drawn,below⟩ := drawBelow_drawn read
    exact ⟨drawn.nonneg,below⟩

/-- Below a power of two no number has as many bits as the power has. -/
theorem randomBelow_power {k : Nat} (small : k+1 < 2^32) (draws : List UInt64) (v : Int)
    (rest : List UInt64) : randomBelow (2^k) draws ≠ .ok (v,rest) := by
  intro read
  rw [randomBelow_positive (by positivity)] at read
  obtain ⟨drawn,below⟩ := drawBelow_drawn read
  have bits : (boundBits (2^k)).toNat = k+1 := by
    have power : ((2 : Int)^k).toNat = 2^k := by
      rw [show (2 : Int)^k = ((2^k : Nat) : Int) by push_cast; rfl,Int.toNat_natCast]
    rw [boundBits,power,Nat.log2_two_pow]
    exact UInt32.toNat_ofNat_of_lt' small
  rcases drawn with ⟨zero,-⟩ | ⟨some_bits,top,-⟩
  · rw [zero] at bits
    cases bits
  · have pred := pred_toNat some_bits
    rw [show (boundBits (2^k)-1).toNat = k by omega] at top
    omega

theorem randomBelow_never_covers_ten : ¬ CoversRange 10 :=
  (randomBelow_never_covers 10 (by decide)).1

/-- Below 4 there are four numbers, and `RandomBelow` returns none of them on any draws. -/
theorem randomBelow_four : (∀ draws v rest, randomBelow 4 draws ≠ .ok (v,rest)) ∧
    randomBelow 4 [] = .error .drawsExhausted ∧ ¬ CoversRange 4 := by
  have stuck : ∀ draws v rest, randomBelow 4 draws ≠ .ok (v,rest) :=
    fun draws v rest => randomBelow_power (k := 2) (by decide) draws v rest
  refine ⟨stuck,?_,fun covers => ?_⟩
  · rw [randomBelow_positive (by decide)]
    exact drawBelow_nil (by decide)
  · obtain ⟨draws,rest,read⟩ := covers.reached 3 (by decide) (by decide)
    exact stuck draws 3 rest read

end UavFanet.BigInt
