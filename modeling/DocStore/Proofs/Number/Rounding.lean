import DocStore.Number.Double
import Mathlib.Order.Compare
import Mathlib.Tactic.Ring

namespace DocStore

namespace Double

-- The whole number nearest to `num / den`, the even one of two.
def nearestQuotient (num den : Nat) : Nat :=
  if den < 2 * (num % den) ∨ (den = 2 * (num % den) ∧ num / den % 2 = 1) then num / den + 1
  else num / den

theorem nearestQuotient_mono {m n : Nat} (den : Nat) (h : m ≤ n) :
    nearestQuotient m den ≤ nearestQuotient n den := by
  have hdiv : m / den ≤ n / den := Nat.div_le_div_right h
  have hm := Nat.div_add_mod m den
  have hn := Nat.div_add_mod n den
  unfold nearestQuotient
  by_cases hq : m / den = n / den
  · -- of two numbers with one quotient the larger one has the larger rest
    have hrest : m % den ≤ n % den := by
      rw [hq] at hm
      omega
    rw [hq]
    split <;> split <;> omega
  · split <;> split <;> omega

-- Rounding misses by half a step at most.
theorem nearestQuotient_error (num : Nat) {den : Nat} (hden : 0 < den) :
    2 * num ≤ 2 * (nearestQuotient num den * den) + den ∧
      2 * (nearestQuotient num den * den) ≤ 2 * num + den := by
  have hnum := Nat.div_add_mod num den
  have hrest := Nat.mod_lt num hden
  have hnext : (num / den + 1) * den = num / den * den + den := Nat.succ_mul _ _
  rw [Nat.mul_comm] at hnum
  unfold nearestQuotient
  split <;> omega

theorem nearestQuotient_one (num : Nat) : nearestQuotient num 1 = num := by
  simp [nearestQuotient, Nat.mod_one]

-- The leading binary digits of a whole number, 53 of them, rounded.
def significand (n : Nat) : Nat :=
  if n.log2 ≤ 52 then n * 2 ^ (52 - n.log2) else nearestQuotient n (2 ^ (n.log2 - 52))

def wholePattern (n : Nat) : Nat := if n = 0 then 0 else (1022 + n.log2) * 2 ^ 52 + significand n

theorem significand_of_small {n : Nat} (h : n.log2 ≤ 52) : significand n = n * 2 ^ (52 - n.log2) := if_pos h

theorem significand_of_large {n : Nat} (h : 52 ≤ n.log2) :
    significand n = nearestQuotient n (2 ^ (n.log2 - 52)) := by
  unfold significand
  split
  · next hsmall =>
      have hexact : n.log2 - 52 = 0 ∧ 52 - n.log2 = 0 := by omega
      simp [hexact, nearestQuotient_one]
  · rfl

theorem nearestPattern_eq {n : Nat} (h : n ≠ 0) : nearestPattern 1074 n 1 = wholePattern n := by
  have hshift : 1074 + (n.log2 + 1) - 53 = 1022 + n.log2 := by omega
  have hup : 1074 - (1022 + n.log2) = 52 - n.log2 := by omega
  have hdown : 1022 + n.log2 - 1074 = n.log2 - 52 := by omega
  unfold nearestPattern wholePattern
  simp only [Nat.div_one, hshift, hup, hdown, Nat.one_mul, h, if_false]
  unfold significand
  by_cases hsmall : n.log2 ≤ 52
  · have hexact : n.log2 - 52 = 0 := by omega
    simp [hsmall, hexact, fractionBase, Nat.mod_one]
  · have hwhole : 52 - n.log2 = 0 := by omega
    simp only [hsmall, if_false, hwhole, Nat.pow_eq, Nat.pow_zero, Nat.mul_one]
    rfl

-- The first of the digits is a one, and rounding carries once at most.
theorem significand_bounds {n : Nat} (h : n ≠ 0) :
    2 ^ 52 ≤ significand n ∧ significand n ≤ 2 ^ 53 ∧ (n.log2 ≤ 52 → significand n < 2 ^ 53) := by
  have hlow : 2 ^ n.log2 ≤ n := Nat.log2_self_le h
  have hhigh : n < 2 ^ (n.log2 + 1) := Nat.lt_log2_self
  by_cases hsmall : n.log2 ≤ 52
  · have hunit : 0 < 2 ^ (52 - n.log2) := Nat.two_pow_pos _
    have hfirst : 2 ^ n.log2 * 2 ^ (52 - n.log2) = 2 ^ 52 := by
      rw [← Nat.pow_add]
      congr 1
      omega
    have hnext : 2 ^ (n.log2 + 1) * 2 ^ (52 - n.log2) = 2 ^ 53 := by
      rw [← Nat.pow_add]
      congr 1
      omega
    have hge := Nat.mul_le_mul_right (2 ^ (52 - n.log2)) hlow
    have hlt := Nat.mul_lt_mul_of_pos_right hhigh hunit
    rw [significand_of_small hsmall]
    omega
  · have hlarge : 52 ≤ n.log2 := by omega
    have hden : 0 < 2 ^ (n.log2 - 52) := Nat.two_pow_pos _
    have hquotient : 2 ^ 52 ≤ n / 2 ^ (n.log2 - 52) := by
      rw [Nat.le_div_iff_mul_le hden, ← Nat.pow_add]
      have hexp : 52 + (n.log2 - 52) = n.log2 := by omega
      rwa [hexp]
    have hquotient' : n / 2 ^ (n.log2 - 52) < 2 ^ 53 := by
      rw [Nat.div_lt_iff_lt_mul hden, ← Nat.pow_add]
      have hexp : 53 + (n.log2 - 52) = n.log2 + 1 := by omega
      rwa [hexp]
    rw [significand_of_large hlarge]
    unfold nearestQuotient
    split <;> omega

theorem log2_mono {m n : Nat} (hm : m ≠ 0) (h : m ≤ n) : m.log2 ≤ n.log2 := by
  have hn : n ≠ 0 := by omega
  exact (Nat.le_log2 hn).mpr ((Nat.log2_self_le hm).trans h)

theorem wholePattern_mono {m n : Nat} (h : m ≤ n) : wholePattern m ≤ wholePattern n := by
  by_cases hm : m = 0
  · simp [wholePattern, hm]
  have hn : n ≠ 0 := by omega
  have hlog := log2_mono hm h
  obtain ⟨_, hmhigh, _⟩ := significand_bounds hm
  obtain ⟨hnlow, _, _⟩ := significand_bounds hn
  simp only [wholePattern, hm, hn, if_false]
  by_cases hsame : m.log2 = n.log2
  · have hsignificand : significand m ≤ significand n := by
      unfold significand
      rw [hsame]
      split
      · exact Nat.mul_le_mul_right _ h
      · exact nearestQuotient_mono _ h
    rw [hsame]
    omega
  · omega

theorem wholePattern_lt {m n : Nat} (h : m < n) (hm : m < 2 ^ 53) : wholePattern m < wholePattern n := by
  have hn : n ≠ 0 := by omega
  obtain ⟨hnlow, _, _⟩ := significand_bounds hn
  by_cases hzero : m = 0
  · simp only [wholePattern, hzero, hn, if_true, if_false]
    omega
  have hsmall : m.log2 ≤ 52 := by
    have hlt := (Nat.log2_lt hzero).mpr hm
    omega
  have hlog := log2_mono hzero h.le
  have hmhigh := (significand_bounds hzero).2.2 hsmall
  simp only [wholePattern, hzero, hn, if_false]
  by_cases hsame : m.log2 = n.log2
  · have hsignificand : significand m < significand n := by
      rw [significand_of_small hsmall, significand_of_small (hsame ▸ hsmall), hsame]
      exact Nat.mul_lt_mul_of_pos_right h (Nat.two_pow_pos _)
    rw [hsame]
    omega
  · omega

-- What a whole number of more than 52 digits is rounded to.
def nearestWhole (n : Nat) : Nat := significand n * 2 ^ (n.log2 - 52)

theorem nearestWhole_error {n : Nat} (h : 52 ≤ n.log2) :
    2 * n ≤ 2 * nearestWhole n + 2 ^ (n.log2 - 52) ∧ 2 * nearestWhole n ≤ 2 * n + 2 ^ (n.log2 - 52) := by
  unfold nearestWhole
  rw [significand_of_large h]
  exact nearestQuotient_error n (Nat.two_pow_pos _)

-- A carry out of the digits leads to the least number that is one digit longer.
theorem nearestWhole_eq_of_wholePattern_eq {m n : Nat} (hm : m ≠ 0) (hn : n ≠ 0) (hlarge : 52 ≤ m.log2)
    (hle : m.log2 ≤ n.log2) (h : wholePattern m = wholePattern n) : nearestWhole m = nearestWhole n := by
  obtain ⟨hmlow, hmhigh, _⟩ := significand_bounds hm
  obtain ⟨hnlow, hnhigh, _⟩ := significand_bounds hn
  simp only [wholePattern, hm, hn, if_false] at h
  unfold nearestWhole
  by_cases hsame : m.log2 = n.log2
  · have hsignificand : significand m = significand n := by
      rw [hsame] at h
      omega
    rw [hsignificand, hsame]
  · have hnext : n.log2 = m.log2 + 1 := by omega
    have hcarry : significand m = 2 ^ 53 ∧ significand n = 2 ^ 52 := by omega
    have hexp : m.log2 + 1 - 52 = m.log2 - 52 + 1 := by omega
    rw [hcarry.1, hcarry.2, hnext, hexp, Nat.pow_succ]
    ring

-- Numbers of 64 bits with a sign that are rounded to one lie within one step.
theorem near_of_wholePattern_eq {m n : Nat} (hmn : m ≤ n) (hn : n ≤ 2 ^ 63)
    (h : wholePattern m = wholePattern n) : n ≤ m + 2 ^ 10 := by
  by_cases hm : m < 2 ^ 53
  · by_cases hlt : m < n
    · have hapart := wholePattern_lt hlt hm
      omega
    · omega
  have hmzero : m ≠ 0 := by omega
  have hnzero : n ≠ 0 := by omega
  have hlog := log2_mono hmzero hmn
  have hmlarge : 52 ≤ m.log2 := (Nat.le_log2 hmzero).mpr (by omega)
  have hwhole := nearestWhole_eq_of_wholePattern_eq hmzero hnzero hmlarge hlog h
  by_cases hlast : m < 2 ^ 63
  · have hmlog : m.log2 < 63 := (Nat.log2_lt hmzero).mpr hlast
    have hmstep : 2 ^ (m.log2 - 52) ≤ 2 ^ 10 := Nat.pow_le_pow_right (by decide) (by omega)
    have hmerror := (nearestWhole_error hmlarge).2
    have hnerror : 2 * n ≤ 2 * nearestWhole n + 2 ^ 10 := by
      by_cases hnlast : n < 2 ^ 63
      · have hnlog : n.log2 < 63 := (Nat.log2_lt hnzero).mpr hnlast
        have hnstep : 2 ^ (n.log2 - 52) ≤ 2 ^ 10 := Nat.pow_le_pow_right (by decide) (by omega)
        have herror := (nearestWhole_error (hmlarge.trans hlog)).1
        omega
      · -- the largest magnitude of all is met exactly
        have hedge : n = 2 ^ 63 := by omega
        have hexact : nearestWhole (2 ^ 63) = 2 ^ 63 := by decide +kernel
        rw [hedge, hexact]
        omega
    omega
  · omega

-- Where a whole number of 64 bits stands among the floating-point numbers.
theorem wholePattern_lt_infinity {n : Nat} (h : n ≤ 2 ^ 63) : wholePattern n < topExponent * fractionBase := by
  have hbase : topExponent * fractionBase = 2047 * 2 ^ 52 := rfl
  by_cases hzero : n = 0
  · simp [wholePattern, hzero, hbase]
  have hlog : n.log2 < 64 := (Nat.log2_lt hzero).mpr (by omega)
  have hhigh := (significand_bounds hzero).2.1
  simp only [wholePattern, hzero, if_false, hbase]
  omega

theorem rank_ofPattern {p : Nat} (negative : Bool) (h : p < signBit) :
    (ofPattern negative p).rank = if negative then -1 - (p : Int) else p := by
  have hbit : signBit = 2 ^ 63 := rfl
  cases negative with
  | true =>
      have hpattern : (ofPattern true p).pattern = signBit + p := by
        simp only [pattern, ofPattern, if_true, UInt64.toNat_ofNat']
        omega
      simp only [rank, isNegative, hpattern]
      simp
      omega
  | false =>
      have hpattern : (ofPattern false p).pattern = p := by
        simp only [pattern, ofPattern, UInt64.toNat_ofNat']
        simp
        omega
      simp only [rank, isNegative, hpattern]
      simp
      omega

theorem rank_ofInt {n : Int} (h : n.natAbs ≤ 2 ^ 63) :
    (ofInt n).rank = if n < 0 then -1 - (wholePattern n.natAbs : Int) else wholePattern n.natAbs := by
  have hfinite := wholePattern_lt_infinity h
  have hbit : topExponent * fractionBase < signBit := by decide
  unfold ofInt
  by_cases hzero : n = 0
  · subst hzero
    rfl
  · have hnonzero : n.natAbs ≠ 0 := Int.natAbs_ne_zero.mpr hzero
    rw [if_neg hzero, nearestPattern_eq hnonzero, ofMagnitude, if_neg (by omega), rank_ofPattern _ (by omega)]
    simp

theorem rank_injective {x y : Double} (h : x.rank = y.rank) : x = y := by
  have hbit : signBit = 2 ^ 63 := rfl
  have hx : x.pattern < 2 ^ 64 := x.bits.toNat_lt
  have hy : y.pattern < 2 ^ 64 := y.bits.toNat_lt
  have hpattern : x.pattern = y.pattern := by
    simp only [rank, isNegative, decide_eq_true_eq] at h
    split at h <;> split at h <;> omega
  cases x
  cases y
  exact congrArg Double.mk (UInt64.toNat_inj.mp hpattern)

section

variable {m n : Int} (hm : m.natAbs ≤ 2 ^ 63) (hn : n.natAbs ≤ 2 ^ 63)

include hm hn

theorem rank_ofInt_mono (h : m ≤ n) : (ofInt m).rank ≤ (ofInt n).rank := by
  rw [rank_ofInt hm, rank_ofInt hn]
  by_cases hmneg : m < 0
  · by_cases hnneg : n < 0
    · have hmono := @wholePattern_mono n.natAbs m.natAbs (by omega)
      simp only [hmneg, hnneg, if_true]
      omega
    · simp only [hmneg, hnneg, if_true, if_false]
      omega
  · have hnneg : ¬ n < 0 := by omega
    have hmono := @wholePattern_mono m.natAbs n.natAbs (by omega)
    simp only [hmneg, hnneg, if_false]
    omega

theorem rank_ofInt_lt (h : m < n) (hsmall : m.natAbs < 2 ^ 53 ∨ n.natAbs < 2 ^ 53) :
    (ofInt m).rank < (ofInt n).rank := by
  rw [rank_ofInt hm, rank_ofInt hn]
  by_cases hmneg : m < 0
  · by_cases hnneg : n < 0
    · have hapart := @wholePattern_lt n.natAbs m.natAbs (by omega) (by omega)
      simp only [hmneg, hnneg, if_true]
      omega
    · simp only [hmneg, hnneg, if_true, if_false]
      omega
  · have hnneg : ¬ n < 0 := by omega
    have hapart := @wholePattern_lt m.natAbs n.natAbs (by omega) (by omega)
    simp only [hmneg, hnneg, if_false]
    omega

end

-- Two numbers of 64 bits compare as what they are rounded to does, unless the two
-- are rounded to one.
theorem compare_rank_ofInt {m n : Int} (hm : m.natAbs ≤ 2 ^ 63) (hn : n.natAbs ≤ 2 ^ 63) :
    compare (ofInt m).rank (ofInt n).rank = if ofInt m = ofInt n then .eq else compare m n := by
  by_cases htie : ofInt m = ofInt n
  · rw [if_pos htie, htie]
    exact compare_eq_iff_eq.mpr rfl
  have hranks : (ofInt m).rank ≠ (ofInt n).rank := fun h => htie (rank_injective h)
  rw [if_neg htie]
  rcases lt_trichotomy m n with hlt | heq | hgt
  · have hmono := rank_ofInt_mono hm hn hlt.le
    rw [compare_lt_iff_lt.mpr hlt, compare_lt_iff_lt.mpr (lt_of_le_of_ne hmono hranks)]
  · exact absurd (congrArg ofInt heq) htie
  · have hmono := rank_ofInt_mono hn hm hgt.le
    rw [compare_gt_iff_gt.mpr hgt, compare_gt_iff_gt.mpr (lt_of_le_of_ne hmono hranks.symm)]

-- Different numbers that are rounded to one are large and near each other.
theorem near_of_ofInt_eq {m n : Int} (hm : m.natAbs ≤ 2 ^ 63) (hn : n.natAbs ≤ 2 ^ 63) (hne : m ≠ n)
    (htie : ofInt m = ofInt n) :
    2 ^ 53 ≤ m.natAbs ∧ 2 ^ 53 ≤ n.natAbs ∧ (m - n).natAbs ≤ 2 ^ 10 := by
  have hranks : (ofInt m).rank = (ofInt n).rank := congrArg rank htie
  have hlarge : ¬ (m.natAbs < 2 ^ 53 ∨ n.natAbs < 2 ^ 53) := by
    intro hsmall
    rcases lt_or_gt_of_ne hne with hlt | hgt
    · have hapart := rank_ofInt_lt hm hn hlt hsmall
      omega
    · have hapart := rank_ofInt_lt hn hm hgt hsmall.symm
      omega
  rw [rank_ofInt hm, rank_ofInt hn] at hranks
  have hside : m < 0 ↔ n < 0 := by
    split at hranks <;> split at hranks <;> omega
  have hpatterns : wholePattern m.natAbs = wholePattern n.natAbs := by
    split at hranks <;> split at hranks <;> omega
  have hnear : m.natAbs ≤ n.natAbs + 2 ^ 10 ∧ n.natAbs ≤ m.natAbs + 2 ^ 10 := by
    rcases Nat.le_total m.natAbs n.natAbs with hle | hle
    · have hstep := near_of_wholePattern_eq hle hn hpatterns
      omega
    · have hstep := near_of_wholePattern_eq hle hm hpatterns.symm
      omega
  omega

end Double

end DocStore
