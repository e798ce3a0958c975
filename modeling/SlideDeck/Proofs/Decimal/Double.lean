import SlideDeck.Proofs.Decimal.Rounding
import SlideDeck.Proofs.Decimal.Stored

/-!
Doubles and the numbers they hold. A sum, a difference or a product of finite doubles is finite
unless it is nearer to `2 ^ 1024` than to any double.
-/

namespace SlideDeck.Decimal

open Float.Model Float.Model.UnpackedFloat

/-- The middle between the greatest double and `2 ^ 1024`. -/
def tooLarge : ℚ := (2 ^ 54 - 1) * 2 ^ (970 : ℤ)

/-- The number that a double holds, if it is finite. -/
def held : UnpackedFloat → ℚ
  | .finite s m e _ => (s.apply m : ℤ) * 2 ^ e
  | _ => 0

/-- What a double is once it is stored. -/
def stored (u : UnpackedFloat) : UnpackedFloat := (pack u).unpack

theorem stored_eq {u : UnpackedFloat} (h : IsStored u) : stored u = u := unpack_pack h

/-- A double holds a number: it is near to it, or infinite if the number is too large. -/
structure Holds (q : ℚ) (u : UnpackedFloat) : Prop where
  finite : |q| < tooLarge → u.isFinite ∧ |held u| ≤ 2 * |q| ∧ 0 ≤ q * held u
  above : tooLarge ≤ q → u = .infinity .positive
  below : q ≤ -tooLarge → u = .infinity .negative

theorem two_zpow_pos (t : ℤ) : (0 : ℚ) < 2 ^ t := zpow_pos two_pos t

theorem tooLarge_pos : 0 < tooLarge := mul_pos (by norm_num) (two_zpow_pos 970)

theorem zpow_eq_pow_mul {e t : ℤ} (h : e ≤ t) : (2 : ℚ) ^ t = 2 ^ (t - e).toNat * 2 ^ e := by
  rw [← zpow_natCast, ← zpow_add₀ two_ne_zero]
  congr 1
  omega

theorem isFinite_ofRounded (s : Sign) (r : Nat) (t : ℤ) : (ofRounded s r t).isFinite := by
  rw [ofRounded]
  split
  · rfl
  · split <;> rfl

theorem held_ofRounded (s : Sign) (r : Nat) (t : ℤ) :
    held (ofRounded s r t) = (s.apply r : ℤ) * 2 ^ t := by
  rw [ofRounded]
  split
  · rename_i h
    subst h
    cases s <;> simp [held, Sign.apply]
  · split
    · rename_i h
      subst h
      have ht : (2 : ℚ) ^ (t + 1) = 2 ^ t * 2 := zpow_add_one₀ two_ne_zero t
      cases s <;> simp only [held, Sign.apply, ht] <;> push_cast <;> ring
    · rfl

theorem isStored_ofRounded (s : Sign) {r : Nat} {t : ℤ} (hr : r ≤ 2 ^ 53) (hlow : -1074 ≤ t)
    (hfull : -1074 < t → 2 ^ 52 ≤ r) (hhigh : t ≤ 970 ∨ t = 971 ∧ r < 2 ^ 53) :
    IsStored (ofRounded s r t) := by
  rw [ofRounded]
  split
  · trivial
  · split
    · exact ⟨by omega, by omega, by omega, Or.inl (by omega)⟩
    · exact ⟨by omega, hlow, by omega, by omega⟩

theorem stored_ofRounded_large (s : Sign) {r : Nat} {t : ℤ} (hr : 2 ^ 52 ≤ r)
    (hhigh : 972 ≤ t ∨ t = 971 ∧ r = 2 ^ 53) : stored (ofRounded s r t) = .infinity s := by
  rw [ofRounded]
  rw [dif_neg (by omega)]
  split
  · exact unpack_pack_large s (by omega) (by omega)
  · exact unpack_pack_large s (by omega) (by omega)

theorem abs_sign (s : Sign) (n : Nat) (p : ℚ) (hp : 0 < p) :
    |((s.apply n : ℤ) : ℚ) * p| = n * p := by
  have h : (0 : ℚ) ≤ n * p := mul_nonneg (Nat.cast_nonneg n) hp.le
  cases s with
  | positive => exact abs_of_nonneg h
  | negative =>
    have hn : ((Sign.negative.apply n : ℤ) : ℚ) * p = -(n * p) := by
      simp [Sign.apply]
    rw [hn, abs_neg, abs_of_nonneg h]

theorem lt_lastPlace {m : Nat} {e : ℤ} (he : e ≤ lastPlace m e) :
    (m : ℚ) * 2 ^ e < 2 ^ 53 * 2 ^ lastPlace m e := by
  have h : (m : ℚ) < 2 ^ 53 * 2 ^ (lastPlace m e - e).toNat := by
    exact_mod_cast lt_of_le_lastPlace he
  rw [zpow_eq_pow_mul he, ← mul_assoc]
  exact mul_lt_mul_of_pos_right h (two_zpow_pos e)

theorem lastPlace_le {m : Nat} {e : ℤ} (hm : 0 < m) (he : e ≤ lastPlace m e)
    (ht : -1074 < lastPlace m e) : 2 ^ 52 * 2 ^ lastPlace m e ≤ (m : ℚ) * 2 ^ e := by
  have h : (2 : ℚ) ^ 52 * 2 ^ (lastPlace m e - e).toNat ≤ m := by
    exact_mod_cast le_of_lt_lastPlace hm he ht
  rw [zpow_eq_pow_mul he, ← mul_assoc]
  exact mul_le_mul_of_nonneg_right h (two_zpow_pos e).le

/-- Among the greatest doubles a significand is rounded to 54 bits if the number is too large. -/
theorem roundDiv_lt_iff {m : Nat} {e : ℤ} (he : e ≤ lastPlace m e) (ht : lastPlace m e = 971) :
    roundDiv m (2 ^ (lastPlace m e - e).toNat) < 2 ^ 53 ↔ (m : ℚ) * 2 ^ e < tooLarge := by
  have hodd : (2 ^ 53 - 1) % 2 = 1 := by decide
  have hle := roundDiv_le_iff (n := m) (Nat.two_pow_pos (lastPlace m e - e).toNat) hodd
  have hzpow := zpow_eq_pow_mul he
  have htwo : (2 : ℚ) ^ (971 : ℤ) = 2 ^ (970 : ℤ) * 2 := zpow_add_one₀ two_ne_zero 970
  rw [ht] at hle hzpow ⊢
  have hcast : 2 * m < (2 * (2 ^ 53 - 1) + 1) * 2 ^ (971 - e).toNat ↔
      (2 : ℚ) * m < (2 ^ 54 - 1) * 2 ^ (971 - e).toNat := by
    rw [← Nat.cast_lt (α := ℚ)]
    push_cast
    norm_num
  rw [← Nat.le_pred_iff_lt (by decide)]
  change roundDiv m _ ≤ 2 ^ 53 - 1 ↔ _
  rw [hle, hcast, ← mul_lt_mul_iff_of_pos_right (two_zpow_pos e), mul_assoc (2 ^ 54 - 1),
    ← hzpow, htwo, tooLarge]
  constructor <;> intro h <;> linarith

theorem near_ofRounded (s : Sign) {m : Nat} {e : ℤ} (he : e ≤ lastPlace m e) :
    |held (ofRounded s (roundDiv m (2 ^ (lastPlace m e - e).toNat)) (lastPlace m e))| ≤
        2 * |((s.apply m : ℤ) : ℚ) * 2 ^ e| ∧
      0 ≤ ((s.apply m : ℤ) : ℚ) * 2 ^ e *
        held (ofRounded s (roundDiv m (2 ^ (lastPlace m e - e).toNat)) (lastPlace m e)) := by
  have hmul : ((roundDiv m (2 ^ (lastPlace m e - e).toNat) : ℕ) : ℚ) *
      2 ^ (lastPlace m e - e).toNat ≤ 2 * m := by
    exact_mod_cast roundDiv_mul_le
  have hz := zpow_eq_pow_mul he
  have hp := two_zpow_pos e
  generalize roundDiv m (2 ^ (lastPlace m e - e).toNat) = r at hmul ⊢
  rw [held_ofRounded, abs_sign s r _ (two_zpow_pos _), abs_sign s m _ hp]
  constructor
  · calc (r : ℚ) * 2 ^ lastPlace m e = r * 2 ^ (lastPlace m e - e).toNat * 2 ^ e := by
          rw [hz, mul_assoc]
      _ ≤ 2 * m * 2 ^ e := mul_le_mul_of_nonneg_right hmul hp.le
      _ = 2 * (m * 2 ^ e) := mul_assoc _ _ _
  · have hsq : (0 : ℚ) ≤ (m * 2 ^ e) * (r * 2 ^ lastPlace m e) := by positivity
    cases s with
    | positive => exact hsq
    | negative => simpa [Sign.apply] using hsq

theorem tooLarge_le_iff {m : Nat} {e : ℤ} (hm : 0 < m) (he : e ≤ lastPlace m e) :
    tooLarge ≤ (m : ℚ) * 2 ^ e ↔
      972 ≤ lastPlace m e ∨
        lastPlace m e = 971 ∧ 2 ^ 53 ≤ roundDiv m (2 ^ (lastPlace m e - e).toNat) := by
  obtain h | h | h := lt_trichotomy (lastPlace m e) 971
  · refine iff_of_false (not_le.mpr ?_) (by omega)
    have hpow : (2 : ℚ) ^ lastPlace m e ≤ 2 ^ (970 : ℤ) :=
      zpow_le_zpow_right₀ one_le_two (by omega)
    calc (m : ℚ) * 2 ^ e < 2 ^ 53 * 2 ^ lastPlace m e := lt_lastPlace he
      _ ≤ 2 ^ 53 * 2 ^ (970 : ℤ) := mul_le_mul_of_nonneg_left hpow (by norm_num)
      _ ≤ tooLarge := mul_le_mul_of_nonneg_right (by norm_num) (two_zpow_pos 970).le
  · have hlt := roundDiv_lt_iff he h
    rw [← not_lt, ← hlt]
    omega
  · refine iff_of_true ?_ (by omega)
    have hpow : (2 : ℚ) ^ (972 : ℤ) ≤ 2 ^ lastPlace m e :=
      zpow_le_zpow_right₀ one_le_two (by omega)
    have hfour : (2 : ℚ) ^ (972 : ℤ) = 2 ^ (970 : ℤ) * 2 ^ (2 : ℤ) := by
      rw [← zpow_add₀ two_ne_zero]
      rfl
    calc tooLarge ≤ 2 ^ 54 * 2 ^ (970 : ℤ) :=
          mul_le_mul_of_nonneg_right (by norm_num) (two_zpow_pos 970).le
      _ = 2 ^ 52 * 2 ^ (972 : ℤ) := by
          rw [hfour]
          ring
      _ ≤ 2 ^ 52 * 2 ^ lastPlace m e := mul_le_mul_of_nonneg_left hpow (by norm_num)
      _ ≤ (m : ℚ) * 2 ^ e := lastPlace_le hm he (by omega)

theorem holds_infinity {s : Sign} {n : Nat} {p : ℚ} (hp : 0 < p) (h : tooLarge ≤ n * p) :
    Holds ((s.apply n : ℤ) * p) (.infinity s) := by
  have hpos := tooLarge_pos
  refine ⟨fun hf => ?_, fun ha => ?_, fun hb => ?_⟩
  · rw [abs_sign s n p hp] at hf
    exact absurd hf (not_lt.mpr h)
  · cases s with
    | positive => rfl
    | negative =>
      simp only [Sign.apply, Int.cast_neg, Int.cast_natCast, neg_mul] at ha
      linarith
  · cases s with
    | positive =>
      simp only [Sign.apply, Int.cast_natCast] at hb
      linarith
    | negative => rfl

theorem holds_finite {q : ℚ} {u : UnpackedFloat} (hq : |q| < tooLarge) (hf : u.isFinite)
    (hn : |held u| ≤ 2 * |q|) (hs : 0 ≤ q * held u) : Holds q u := by
  obtain ⟨hlow, hhigh⟩ := abs_lt.mp hq
  exact ⟨fun _ => ⟨hf, hn, hs⟩, fun ha => absurd ha (not_le.mpr hhigh),
    fun hb => absurd hb (not_le.mpr hlow)⟩

theorem holds_roundWithAccuracy (s : Sign) {m : Nat} {e : ℤ} (hm : 0 < m)
    (he : e ≤ lastPlace m e) :
    Holds ((s.apply m : ℤ) * 2 ^ e) (stored (roundWithAccuracy .binary64 s m e .exact)) := by
  have hle := roundDiv_le (Nat.two_pow_pos _) (lt_of_le_lastPlace he).le
  have hlow : -1074 ≤ lastPlace m e := le_max_right _ _
  have hfull : -1074 < lastPlace m e → 2 ^ 52 ≤ roundDiv m (2 ^ (lastPlace m e - e).toNat) :=
    fun ht => le_roundDiv (Nat.two_pow_pos _) (le_of_lt_lastPlace hm he ht)
  have hlarge := tooLarge_le_iff hm he
  rw [roundWithAccuracy_eq s he]
  by_cases h : tooLarge ≤ (m : ℚ) * 2 ^ e
  · have ht := hlarge.mp h
    rw [stored_ofRounded_large s (hfull (by omega)) (by omega)]
    exact holds_infinity (two_zpow_pos e) h
  · have ht := mt hlarge.mpr h
    rw [stored_eq (isStored_ofRounded s hle hlow hfull (by omega))]
    obtain ⟨hn, hs⟩ := near_ofRounded s he
    refine holds_finite ?_ (isFinite_ofRounded _ _ _) hn hs
    rw [abs_sign s m _ (two_zpow_pos e)]
    exact not_le.mp h

theorem log2_shiftLeft {m : Nat} (hm : 0 < m) (k : Nat) : (m <<< k).log2 = m.log2 + k := by
  have hpos : m <<< k ≠ 0 := by
    rw [Nat.shiftLeft_eq]
    exact (Nat.mul_pos hm (Nat.two_pow_pos k)).ne'
  refine (Nat.log2_eq_iff hpos).mpr ⟨?_, ?_⟩
  · rw [Nat.shiftLeft_eq, Nat.pow_add]
    exact Nat.mul_le_mul_right _ (Nat.log2_self_le hm.ne')
  · rw [Nat.shiftLeft_eq, Nat.add_right_comm, Nat.pow_add _ (m.log2 + 1)]
    exact Nat.mul_lt_mul_of_pos_right Nat.lt_log2_self (Nat.two_pow_pos k)

theorem lastPlace_shiftLeft {m : Nat} (hm : 0 < m) (e : ℤ) (k : Nat) :
    lastPlace (m <<< k) (e - k) = lastPlace m e := by
  rw [lastPlace, lastPlace, log2_shiftLeft hm]
  push_cast
  omega

theorem shiftLeft_pos {m : Nat} (hm : 0 < m) (k : Nat) : 0 < m <<< k := by
  rw [Nat.shiftLeft_eq]
  exact Nat.mul_pos hm (Nat.two_pow_pos k)

/-- Places may be added to a significand without a change of the number. -/
theorem apply_shiftLeft (s : Sign) (m : Nat) (e t : ℤ) :
    ((s.apply (m <<< (e - t).toNat : ℕ) : ℤ) : ℚ) * 2 ^ (e - (e - t).toNat) =
      (s.apply m : ℤ) * 2 ^ e := by
  have hz : (2 : ℚ) ^ e = 2 ^ (e - t).toNat * 2 ^ (e - (e - t).toNat) := by
    rw [← zpow_natCast, ← zpow_add₀ two_ne_zero]
    congr 1
    omega
  cases s <;> simp only [Sign.apply, Nat.shiftLeft_eq] <;> push_cast <;> rw [hz] <;> ring

theorem holds_round (s : Sign) {m : Nat} (hm : 0 < m) (e : ℤ) :
    Holds ((s.apply m : ℤ) * 2 ^ e) (stored (UnpackedFloat.round .binary64 s m e)) := by
  rw [UnpackedFloat.round, targetExponent_eq, ← apply_shiftLeft s m e (lastPlace m e)]
  refine holds_roundWithAccuracy s (shiftLeft_pos hm _) ?_
  rw [lastPlace_shiftLeft hm]
  omega

theorem holds_zero (s : Sign) : Holds 0 (.zero s) :=
  holds_finite (by simpa using tooLarge_pos) rfl (by simp [held]) (by simp)

theorem holds_normalize (n : ℤ) (e : ℤ) (zeroSign : Sign) :
    Holds (n * 2 ^ e) (stored (UnpackedFloat.normalize .binary64 n e zeroSign)) := by
  rw [UnpackedFloat.normalize]
  obtain h | h | h := lt_trichotomy n 0
  · have hn : n = Sign.negative.apply (-n).toNat := by
      simp only [Sign.apply]
      omega
    rw [compare_lt_iff_lt.mpr h]
    dsimp only
    conv => arg 1; rw [hn]
    exact holds_round .negative (by omega) e
  · subst h
    have hz : stored (.zero zeroSign) = .zero zeroSign := stored_eq trivial
    simpa [hz] using holds_zero zeroSign
  · have hn : n = Sign.positive.apply n.toNat := by
      simp only [Sign.apply]
      omega
    rw [compare_gt_iff_gt.mpr h]
    dsimp only
    conv => arg 1; rw [hn]
    exact holds_round .positive (by omega) e

/-- The greatest double. -/
def greatest : ℚ := (2 ^ 53 - 1) * 2 ^ (971 : ℤ)

theorem greatest_add_one_lt : greatest + 1 < tooLarge := by
  have htwo : (2 : ℚ) ^ (971 : ℤ) = 2 ^ (970 : ℤ) * 2 := zpow_add_one₀ two_ne_zero 970
  have hone : (1 : ℚ) < 2 ^ (970 : ℤ) := one_lt_zpow₀ one_lt_two (by decide)
  have hgap : tooLarge = greatest + 2 ^ (970 : ℤ) := by
    rw [tooLarge, greatest, htwo]
    ring
  rw [hgap]
  exact add_lt_add_right hone greatest

theorem abs_held_le {u : UnpackedFloat} (hu : IsStored u) : |held u| ≤ greatest := by
  cases u with
  | finite s m e hm =>
    obtain ⟨hlt, -, he, -⟩ := hu
    have hm : (m : ℚ) ≤ 2 ^ 53 - 1 := by
      have hle : (m : ℚ) + 1 ≤ 2 ^ 53 := by exact_mod_cast hlt
      linarith
    have hpow : (2 : ℚ) ^ e ≤ 2 ^ (971 : ℤ) := zpow_le_zpow_right₀ one_le_two he
    rw [held, abs_sign s m _ (two_zpow_pos e)]
    exact mul_le_mul hm hpow (two_zpow_pos e).le (by norm_num)
  | notANumber | infinity s | zero s =>
    have hpos : 0 ≤ greatest := mul_nonneg (by norm_num) (two_zpow_pos 971).le
    simpa [held] using hpos

theorem holds_held {u : UnpackedFloat} (hu : IsStored u) (hf : u.isFinite) : Holds (held u) u :=
  holds_finite (by linarith [abs_held_le hu, greatest_add_one_lt]) hf
    (by linarith [abs_nonneg (held u)]) (mul_self_nonneg _)

theorem stored_stored {q : ℚ} {u : UnpackedFloat} (hu : IsStored u) (h : Holds q u) :
    Holds q (stored u) := by
  rwa [stored_eq hu]

theorem apply_shiftLeft_of_le (s : Sign) (m : Nat) {e t : ℤ} (h : t ≤ e) :
    ((s.apply (m <<< (e - t).toNat : ℕ) : ℤ) : ℚ) * 2 ^ t = (s.apply m : ℤ) * 2 ^ e := by
  have ht : e - (e - t).toNat = t := by omega
  rw [← apply_shiftLeft s m e t, ht]

theorem holds_add {u v : UnpackedFloat} (hu : IsStored u) (hv : IsStored v) (hfu : u.isFinite)
    (hfv : v.isFinite) : Holds (held u + held v) (stored (UnpackedFloat.add .binary64 u v)) := by
  cases u with
  | notANumber | infinity s => cases hfu
  | zero s =>
    cases v with
    | notANumber | infinity s' => cases hfv
    | zero s' =>
      have h : held (.zero s) + held (.zero s') = 0 := add_zero 0
      rw [h]
      unfold UnpackedFloat.add
      dsimp only
      split <;> exact stored_stored trivial (holds_zero _)
    | finite s' m' e' hm' =>
      have h : held (.zero s) = 0 := rfl
      rw [h, zero_add]
      exact stored_stored hv (holds_held hv rfl)
  | finite s m e hm =>
    cases v with
    | notANumber | infinity s' => cases hfv
    | zero s' =>
      have h : held (.zero s') = 0 := rfl
      rw [h, add_zero]
      exact stored_stored hu (holds_held hu rfl)
    | finite s' m' e' hm' =>
      rw [held, held, ← apply_shiftLeft_of_le s m (min_le_left e e'),
        ← apply_shiftLeft_of_le s' m' (min_le_right e e'), ← add_mul, ← Int.cast_add]
      exact holds_normalize _ _ _

theorem apply_neg (s : Sign) (n : ℤ) : (-s).apply n = -s.apply n := by
  cases s with
  | positive => rfl
  | negative => exact (neg_neg n).symm

theorem apply_mul (s s' : Sign) (n n' : ℤ) : (s * s').apply (n * n') = s.apply n * s'.apply n' := by
  cases s <;> cases s'
  · exact (neg_mul_neg n n').symm
  · exact (neg_mul n n').symm
  · exact (mul_neg n n').symm
  · rfl

theorem held_neg (u : UnpackedFloat) : held u.neg = -held u := by
  cases u with
  | finite s m e hm =>
    change (((-s).apply m : ℤ) : ℚ) * 2 ^ e = _
    rw [held, apply_neg, Int.cast_neg, neg_mul]
  | notANumber | infinity s | zero s => exact neg_zero.symm

theorem isStored_neg {u : UnpackedFloat} (h : IsStored u) : IsStored u.neg := by
  cases u with
  | finite s m e hm => exact h
  | notANumber | infinity s | zero s => trivial

theorem isFinite_neg (u : UnpackedFloat) : u.neg.isFinite = u.isFinite := by
  cases u <;> rfl

theorem sub_eq_add (u v : UnpackedFloat) :
    UnpackedFloat.sub .binary64 u v = UnpackedFloat.add .binary64 u v.neg := by
  cases u with
  | notANumber | infinity s | zero s => cases v <;> rfl
  | finite s m e hm =>
    cases v with
    | notANumber | infinity s' | zero s' => rfl
    | finite s' m' e' hm' =>
      simp only [UnpackedFloat.sub, UnpackedFloat.add, UnpackedFloat.neg, apply_neg]
      rfl

theorem holds_sub {u v : UnpackedFloat} (hu : IsStored u) (hv : IsStored v) (hfu : u.isFinite)
    (hfv : v.isFinite) : Holds (held u - held v) (stored (UnpackedFloat.sub .binary64 u v)) := by
  rw [sub_eq_add, sub_eq_add_neg, ← held_neg]
  exact holds_add hu (isStored_neg hv) hfu (by rwa [isFinite_neg])

/-- A product of stored doubles has no places to spare. -/
theorem le_lastPlace_mul {m m' : Nat} {e e' : ℤ} (hm : 0 < m) (hm' : 0 < m')
    (h : 2 ^ 52 ≤ m ∨ e = -1074) (h' : 2 ^ 52 ≤ m' ∨ e' = -1074) :
    e + e' ≤ lastPlace (m * m') (e + e') := by
  have hlog (hle : 2 ^ 52 ≤ m * m') : e + e' ≤ lastPlace (m * m') (e + e') := by
    have hl : 52 ≤ (m * m').log2 := (Nat.le_log2 (Nat.mul_pos hm hm').ne').mpr hle
    rw [lastPlace]
    omega
  obtain h | h := h
  · exact hlog (h.trans (Nat.le_mul_of_pos_right m hm'))
  · obtain h' | h' := h'
    · exact hlog (h'.trans (Nat.le_mul_of_pos_left m' hm))
    · rw [lastPlace]
      omega

theorem holds_mul {u v : UnpackedFloat} (hu : IsStored u) (hv : IsStored v) (hfu : u.isFinite)
    (hfv : v.isFinite) : Holds (held u * held v) (stored (UnpackedFloat.mul .binary64 u v)) := by
  cases u with
  | notANumber | infinity s => cases hfu
  | zero s =>
    have hz : held (.zero s) = 0 := rfl
    rw [hz, zero_mul]
    cases v with
    | notANumber | infinity s' => cases hfv
    | zero s' | finite s' m' e' hm' => exact stored_stored trivial (holds_zero _)
  | finite s m e hm =>
    cases v with
    | notANumber | infinity s' => cases hfv
    | zero s' =>
      have hz : held (.zero s') = 0 := rfl
      rw [hz, mul_zero]
      exact stored_stored trivial (holds_zero _)
    | finite s' m' e' hm' =>
      have hprod : held (.finite s m e hm) * held (.finite s' m' e' hm') =
          ((s * s').apply (m * m' : ℕ) : ℤ) * 2 ^ (e + e') := by
        rw [held, held, Nat.cast_mul, apply_mul, Int.cast_mul, zpow_add₀ two_ne_zero]
        ring
      rw [hprod]
      exact holds_roundWithAccuracy _ (Nat.mul_pos hm hm')
        (le_lastPlace_mul hm hm' hu.2.2.2 hv.2.2.2)

end SlideDeck.Decimal
