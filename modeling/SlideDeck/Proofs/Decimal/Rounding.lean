import Mathlib
import SlideDeck.Decimal.Nearest

/-!
The rounding of doubles. Shifting a significand to the right keeps two bits of what is lost, and
these decide as the remainder of a division does: both roundings are to the nearest whole number,
a half to the even neighbour.
-/

namespace SlideDeck.Decimal

open Float.Model Float.Model.UnpackedFloat

theorem roundDiv_le {n d q : Nat} (hd : 0 < d) (h : n ≤ q * d) : roundDiv n d ≤ q := by
  have hq : n / d ≤ q := Nat.div_le_of_le_mul (by rwa [Nat.mul_comm])
  have hdiv := Nat.div_add_mod n d
  unfold roundDiv
  dsimp only
  split
  · exact hq
  · rename_i hr
    by_contra hlt
    have he : n / d = q := by omega
    rw [he, Nat.mul_comm d q] at hdiv
    have hz : n % d = 0 := by omega
    simp [hz, hd] at hr

theorem le_roundDiv {n d q : Nat} (hd : 0 < d) (h : q * d ≤ n) : q ≤ roundDiv n d := by
  have hq : q ≤ n / d := (Nat.le_div_iff_mul_le hd).mpr h
  unfold roundDiv
  dsimp only
  split <;> omega

/-- Half a unit above an odd number is not rounded down to it. -/
theorem roundDiv_le_iff {n d q : Nat} (hd : 0 < d) (hq : q % 2 = 1) :
    roundDiv n d ≤ q ↔ 2 * n < (2 * q + 1) * d := by
  have hdiv := Nat.div_add_mod n d
  have hmod := Nat.mod_lt n hd
  have hr : (2 * q + 1) * d = 2 * (q * d) + d := by ring
  obtain h | h | h := Nat.lt_trichotomy (n / d) q
  · have hn : n < q * d := (Nat.div_lt_iff_lt_mul hd).mp h
    exact iff_of_true (roundDiv_le hd hn.le) (by omega)
  · rw [h, Nat.mul_comm] at hdiv
    unfold roundDiv
    dsimp only
    split
    · rename_i hhalf
      rw [Bool.or_eq_true, Bool.and_eq_true, decide_eq_true_eq, decide_eq_true_eq,
        decide_eq_true_eq] at hhalf
      omega
    · rename_i hhalf
      rw [Bool.or_eq_true, decide_eq_true_eq] at hhalf
      omega
  · have hn : (q + 1) * d ≤ n := (Nat.le_div_iff_mul_le hd).mp h
    have hle := le_roundDiv hd hn
    have hs : (q + 1) * d = q * d + d := by ring
    omega

theorem roundDiv_mul_le {n d : Nat} : roundDiv n d * d ≤ 2 * n := by
  have hdiv := Nat.div_add_mod n d
  have hs : (n / d + 1) * d = d * (n / d) + d := by ring
  have hc : n / d * d = d * (n / d) := Nat.mul_comm _ _
  unfold roundDiv
  dsimp only
  split
  · omega
  · rename_i hhalf
    rw [Bool.or_eq_true, Bool.and_eq_true, decide_eq_true_eq, decide_eq_true_eq,
      decide_eq_true_eq] at hhalf
    by_cases hz : n / d = 0
    · rw [hz] at hdiv hs hhalf ⊢
      omega
    · have hle : d ≤ d * (n / d) := Nat.le_mul_of_pos_right d (Nat.pos_of_ne_zero hz)
      omega

/-- What is left of a significand that was shifted to the right: the whole part, whether the rest is
at least a half, and whether it is neither nothing nor a half. -/
structure Splits (n k : Nat) (em : ExtendedMantissa) : Prop where
  mantissa : em.mantissa = n / 2 ^ k
  roundBit : em.roundBit ↔ 2 ^ k ≤ 2 * (n % 2 ^ k)
  stickyBit : em.stickyBit ↔ 2 * (n % 2 ^ k) ≠ 0 ∧ 2 * (n % 2 ^ k) ≠ 2 ^ k

theorem Splits.shiftRightOne {n k : Nat} {em : ExtendedMantissa} (h : Splits n k em) :
    Splits n (k + 1) em.shiftRightOne := by
  have hpow : 2 ^ (k + 1) = 2 ^ k * 2 := Nat.pow_succ ..
  have hmod : n % 2 ^ (k + 1) = n % 2 ^ k + 2 ^ k * (n / 2 ^ k % 2) := by
    rw [hpow, Nat.mod_mul]
  have hlt : n % 2 ^ k < 2 ^ k := Nat.mod_lt n (Nat.two_pow_pos k)
  refine ⟨?_, ?_, ?_⟩
  · change em.mantissa / 2 = _
    rw [h.mantissa, hpow, Nat.div_div_eq_div_mul]
  · change (em.mantissa % 2 != 0) ↔ _
    rw [bne_iff_ne, h.mantissa, hmod]
    rcases Nat.mod_two_eq_zero_or_one (n / 2 ^ k) with hb | hb <;> rw [hb] <;> omega
  · change (em.roundBit || em.stickyBit) ↔ _
    rw [Bool.or_eq_true, h.roundBit, h.stickyBit, hmod]
    rcases Nat.mod_two_eq_zero_or_one (n / 2 ^ k) with hb | hb <;> rw [hb] <;> omega

theorem splits_shiftRight (n k : Nat) :
    Splits n k (ExtendedMantissa.ofMantissaAndAccuracy n .exact >>> k) := by
  induction k with
  | zero =>
    refine ⟨(Nat.div_one n).symm, iff_of_false Bool.false_ne_true ?_,
      iff_of_false Bool.false_ne_true ?_⟩ <;> omega
  | succ k ih => exact ih.shiftRightOne

theorem Splits.roundedMantissa {n k : Nat} {em : ExtendedMantissa} (h : Splits n k em) :
    em.roundedMantissa = roundDiv n (2 ^ k) := by
  obtain ⟨q, rb, sb⟩ := em
  obtain ⟨hq, hr, hs⟩ := h
  dsimp only at hq hr hs
  subst hq
  have hlt : n % 2 ^ k < 2 ^ k := Nat.mod_lt n (Nat.two_pow_pos k)
  have hcases : roundDiv n (2 ^ k) =
      if 2 * (n % 2 ^ k) < 2 ^ k ∨ 2 * (n % 2 ^ k) = 2 ^ k ∧ n / 2 ^ k % 2 = 0 then n / 2 ^ k
      else n / 2 ^ k + 1 := by
    simp [roundDiv]
  rw [hcases]
  cases rb with
  | false =>
    have hl : 2 * (n % 2 ^ k) < 2 ^ k := by simpa using hr
    rw [if_pos (Or.inl hl)]
    cases sb <;> rfl
  | true =>
    have hl : 2 ^ k ≤ 2 * (n % 2 ^ k) := by simpa using hr
    cases sb with
    | false =>
      have he : 2 * (n % 2 ^ k) = 2 ^ k := by
        by_contra hne
        exact Bool.false_ne_true (hs.mpr ⟨by omega, hne⟩)
      change n / 2 ^ k + n / 2 ^ k % 2 = _
      split <;> omega
    | true =>
      have hne := (hs.mp rfl).2
      rw [if_neg (by omega)]
      rfl

/-- The exponent of the last place of a double near `m * 2 ^ e`. -/
def lastPlace (m : Nat) (e : Int) : Int := max (m.log2 + e - 52) (-1074)

theorem targetExponent_eq (m : Nat) (e : Int) :
    Format.binary64.targetExponent (totalExponent m e) = lastPlace m e := by
  change max ((m.log2 + 1 + e) - 53) (-1074) = max (m.log2 + e - 52) (-1074)
  omega

/-- A rounded significand in its place. Only the least one of 54 bits can come up. -/
def ofRounded (s : Sign) (r : Nat) (t : Int) : UnpackedFloat :=
  if h : r = 0 then .zero s
  else if r = 2 ^ 53 then .finite s (2 ^ 52) (t + 1) (by decide)
  else .finite s r t (Nat.pos_of_ne_zero h)

theorem lt_of_le_lastPlace {m : Nat} {e : Int} (he : e ≤ lastPlace m e) :
    m < 2 ^ 53 * 2 ^ (lastPlace m e - e).toNat := by
  have hlt : m < 2 ^ (m.log2 + 1) := Nat.lt_log2_self
  have hk : m.log2 + 1 ≤ 53 + (lastPlace m e - e).toNat := by
    have hl : (m.log2 : Int) + e - 52 ≤ lastPlace m e := le_max_left _ _
    omega
  rw [← Nat.pow_add]
  exact hlt.trans_le (Nat.pow_le_pow_right (by decide) hk)

theorem le_of_lt_lastPlace {m : Nat} {e : Int} (hm : 0 < m) (he : e ≤ lastPlace m e)
    (ht : -1074 < lastPlace m e) : 2 ^ 52 * 2 ^ (lastPlace m e - e).toNat ≤ m := by
  have hle : 2 ^ m.log2 ≤ m := Nat.log2_self_le hm.ne'
  have hk : 52 + (lastPlace m e - e).toNat = m.log2 := by
    have hl : lastPlace m e = m.log2 + e - 52 := by
      unfold lastPlace at ht ⊢
      omega
    omega
  rwa [← Nat.pow_add, hk]

theorem shiftToTargetExponent_eq (m : Nat) (e : Int) :
    shiftToTargetExponent .binary64 m e .exact =
      (ExtendedMantissa.ofMantissaAndAccuracy m .exact >>> (lastPlace m e - e).toNat,
        e + (lastPlace m e - e).toNat) := by
  rw [shiftToTargetExponent, targetExponent_eq]
  rfl

theorem roundWithAccuracy_eq (s : Sign) {m : Nat} {e : Int} (he : e ≤ lastPlace m e) :
    roundWithAccuracy .binary64 s m e .exact =
      ofRounded s (roundDiv m (2 ^ (lastPlace m e - e).toNat)) (lastPlace m e) := by
  have hr := (splits_shiftRight m (lastPlace m e - e).toNat).roundedMantissa
  have hle := roundDiv_le (Nat.two_pow_pos _) (lt_of_le_lastPlace he).le
  have ht : e + (lastPlace m e - e).toNat = lastPlace m e := by omega
  have hlow : -1074 ≤ lastPlace m e := le_max_right _ _
  rw [roundWithAccuracy]
  rw [shiftToTargetExponent_eq]
  dsimp only
  rw [hr, ht]
  generalize roundDiv m (2 ^ (lastPlace m e - e).toNat) = r at hle ⊢
  generalize lastPlace m e = t at hlow ⊢
  rw [shiftToTargetExponent_eq]
  dsimp only
  simp only [(splits_shiftRight r (lastPlace r t - t).toNat).mantissa]
  rw [ofRounded]
  by_cases hmax : r = 2 ^ 53
  · subst hmax
    have hl : lastPlace (2 ^ 53) t = t + 1 := by
      rw [lastPlace, Nat.log2_two_pow]
      omega
    have hk : (lastPlace (2 ^ 53) t - t).toNat = 1 := by omega
    rw [hk]
    rfl
  · have hk : (lastPlace r t - t).toNat = 0 := by
      have hlog : r.log2 ≤ 52 := by
        by_cases hz : r = 0
        · rw [hz]
          decide
        · have := (Nat.log2_lt hz).mpr (by omega : r < 2 ^ 53)
          omega
      rw [lastPlace]
      omega
    simp only [hk, Nat.pow_zero, Nat.div_one, if_neg hmax]
    split
    · rfl
    · congr 1
      omega

end SlideDeck.Decimal
