import SlideDeck.Proofs.Decimal.Double

/-!
The numbers that doubles stand for: arithmetic on finite doubles is arithmetic on their numbers up
to rounding, and finite doubles are ordered as their numbers are.
-/

namespace SlideDeck.Decimal

open Float.Model Float.Model.UnpackedFloat

/-- The number of a finite double. -/
def number (x : Float) : ℚ := held x.toModel.unpack

theorem isStored_toModel (x : Float) : IsStored x.toModel.unpack := isStored_unpack _

theorem abs_number_le (x : Float) : |number x| ≤ greatest := abs_held_le (isStored_toModel x)

theorem abs_number_lt (x : Float) : |number x| < tooLarge := by
  linarith [abs_number_le x, greatest_add_one_lt]

theorem add_holds {x y : Float} (hx : x.isFinite) (hy : y.isFinite) :
    Holds (number x + number y) (x + y).toModel.unpack :=
  holds_add (isStored_toModel x) (isStored_toModel y) hx hy

theorem sub_holds {x y : Float} (hx : x.isFinite) (hy : y.isFinite) :
    Holds (number x - number y) (x - y).toModel.unpack :=
  holds_sub (isStored_toModel x) (isStored_toModel y) hx hy

theorem mul_holds {x y : Float} (hx : x.isFinite) (hy : y.isFinite) :
    Holds (number x * number y) (x * y).toModel.unpack :=
  holds_mul (isStored_toModel x) (isStored_toModel y) hx hy

theorem lt_iff_compare (x y : Float) :
    x < y ↔ UnpackedFloat.compare x.toModel.unpack y.toModel.unpack = some .lt := by
  refine decide_eq_true_iff.trans ?_
  change (UnpackedFloat.compare x.toModel.unpack y.toModel.unpack == some .lt) = true ↔ _
  exact beq_iff_eq

theorem le_iff_compare (x y : Float) :
    x ≤ y ↔ (UnpackedFloat.compare x.toModel.unpack y.toModel.unpack).any (·.isLE) :=
  decide_eq_true_iff

theorem float_le_of_lt {x y : Float} (h : x < y) : x ≤ y := by
  rw [le_iff_compare, (lt_iff_compare x y).mp h]
  rfl

theorem held_lt_held {m m' : Nat} {e e' : ℤ} (hm : m < 2 ^ 53) (he : -1074 ≤ e) (h : e < e')
    (hm' : 2 ^ 52 ≤ m' ∨ e' = -1074) : (m : ℚ) * 2 ^ e < m' * 2 ^ e' := by
  have hfull : (2 : ℚ) ^ 52 ≤ m' := by
    have hle : 2 ^ 52 ≤ m' := by omega
    exact_mod_cast hle
  have hlt : (m : ℚ) < 2 ^ 53 := by exact_mod_cast hm
  have hpow : (2 : ℚ) ^ (e + 1) ≤ 2 ^ e' := zpow_le_zpow_right₀ one_le_two h
  have htwo : (2 : ℚ) ^ (e + 1) = 2 ^ e * 2 := zpow_add_one₀ two_ne_zero e
  calc (m : ℚ) * 2 ^ e < 2 ^ 53 * 2 ^ e := mul_lt_mul_of_pos_right hlt (two_zpow_pos e)
    _ = 2 ^ 52 * 2 ^ (e + 1) := by
        rw [htwo]
        ring
    _ ≤ m' * 2 ^ e' := mul_le_mul hfull hpow (two_zpow_pos _).le (Nat.cast_nonneg m')

/-- Stored doubles are in the order of their exponents first. -/
theorem compare_magnitudes {m m' : Nat} {e e' : ℤ} (hm : 0 < m) (hm' : 0 < m')
    (h : IsStored (.finite .positive m e hm)) (h' : IsStored (.finite .positive m' e' hm')) :
    (compare e e').then (compare m m') = compare ((m : ℚ) * 2 ^ e) (m' * 2 ^ e') := by
  obtain ⟨hlt, hlow, -, hfull⟩ := h
  obtain ⟨hlt', hlow', -, hfull'⟩ := h'
  obtain he | he | he := lt_trichotomy e e'
  · rw [compare_lt_iff_lt.mpr he, compare_lt_iff_lt.mpr (held_lt_held hlt hlow he hfull')]
    rfl
  · subst he
    have hp := two_zpow_pos e
    rw [compare_eq_iff_eq.mpr rfl]
    change compare m m' = _
    obtain hmm | hmm | hmm := lt_trichotomy m m'
    · have hc : (m : ℚ) < m' := by exact_mod_cast hmm
      rw [compare_lt_iff_lt.mpr hmm, compare_lt_iff_lt.mpr (mul_lt_mul_of_pos_right hc hp)]
    · rw [compare_eq_iff_eq.mpr hmm, compare_eq_iff_eq.mpr (by rw [hmm])]
    · have hc : (m' : ℚ) < m := by exact_mod_cast hmm
      rw [compare_gt_iff_gt.mpr hmm, compare_gt_iff_gt.mpr (mul_lt_mul_of_pos_right hc hp)]
  · rw [compare_gt_iff_gt.mpr he, compare_gt_iff_gt.mpr (held_lt_held hlt' hlow' he hfull)]
    rfl

theorem swap_compare (a b : ℚ) : (compare a b).swap = compare (-a) (-b) := by
  obtain h | h | h := lt_trichotomy a b
  · rw [compare_lt_iff_lt.mpr h, compare_gt_iff_gt.mpr (neg_lt_neg h)]
    rfl
  · rw [compare_eq_iff_eq.mpr h, compare_eq_iff_eq.mpr (congrArg Neg.neg h)]
    rfl
  · rw [compare_gt_iff_gt.mpr h, compare_lt_iff_lt.mpr (neg_lt_neg h)]
    rfl

theorem held_positive (m : Nat) (e : ℤ) (hm : 0 < m) :
    held (.finite .positive m e hm) = m * 2 ^ e ∧ 0 < (m : ℚ) * 2 ^ e :=
  ⟨rfl, mul_pos (Nat.cast_pos.mpr hm) (two_zpow_pos e)⟩

theorem held_negative (m : Nat) (e : ℤ) (hm : 0 < m) :
    held (.finite .negative m e hm) = -(m * 2 ^ e) ∧ -((m : ℚ) * 2 ^ e) < 0 := by
  refine ⟨?_, neg_lt_zero.mpr (held_positive m e hm).2⟩
  simp only [held, Sign.apply, Int.cast_neg, Int.cast_natCast, neg_mul]

theorem compare_held {u v : UnpackedFloat} (hu : IsStored u) (hv : IsStored v) (hfu : u.isFinite)
    (hfv : v.isFinite) : UnpackedFloat.compare u v = some (compare (held u) (held v)) := by
  have hz (s : Sign) : held (.zero s) = 0 := rfl
  cases u with
  | notANumber | infinity s => cases hfu
  | zero s =>
    rw [hz]
    cases v with
    | notANumber | infinity s' => cases hfv
    | zero s' =>
      rw [hz, compare_eq_iff_eq.mpr rfl]
      rfl
    | finite s' m' e' hm' =>
      cases s' with
      | positive =>
        obtain ⟨h', hpos'⟩ := held_positive m' e' hm'
        rw [h', compare_lt_iff_lt.mpr hpos']
        rfl
      | negative =>
        obtain ⟨h', hneg'⟩ := held_negative m' e' hm'
        rw [h', compare_gt_iff_gt.mpr hneg']
        rfl
  | finite s m e hm =>
    cases v with
    | notANumber | infinity s' => cases hfv
    | zero s' =>
      rw [hz]
      cases s with
      | positive =>
        obtain ⟨h, hpos⟩ := held_positive m e hm
        rw [h, compare_gt_iff_gt.mpr hpos]
        rfl
      | negative =>
        obtain ⟨h, hneg⟩ := held_negative m e hm
        rw [h, compare_lt_iff_lt.mpr hneg]
        rfl
    | finite s' m' e' hm' =>
      have hmag := compare_magnitudes hm hm' hu hv
      cases s <;> cases s'
      · rw [(held_negative m e hm).1, (held_negative m' e' hm').1, ← swap_compare, ← hmag]
        rfl
      · obtain ⟨h, hneg⟩ := held_negative m e hm
        obtain ⟨h', hpos'⟩ := held_positive m' e' hm'
        rw [h, h', compare_lt_iff_lt.mpr (hneg.trans hpos')]
        rfl
      · obtain ⟨h, hpos⟩ := held_positive m e hm
        obtain ⟨h', hneg'⟩ := held_negative m' e' hm'
        rw [h, h', compare_gt_iff_gt.mpr (hneg'.trans hpos)]
        rfl
      · rw [(held_positive m e hm).1, (held_positive m' e' hm').1, ← hmag]
        rfl

theorem lt_iff_number_lt {x y : Float} (hx : x.isFinite) (hy : y.isFinite) :
    x < y ↔ number x < number y := by
  rw [lt_iff_compare, compare_held (isStored_toModel x) (isStored_toModel y) hx hy,
    Option.some_inj, compare_lt_iff_lt]
  rfl

theorem le_iff_number_le {x y : Float} (hx : x.isFinite) (hy : y.isFinite) :
    x ≤ y ↔ number x ≤ number y := by
  rw [le_iff_compare, compare_held (isStored_toModel x) (isStored_toModel y) hx hy]
  exact Ordering.ne_gt_iff_isLE.symm.trans compare_le_iff_le

theorem isFinite_eq (x : Float) : x.isFinite = UnpackedFloat.isFinite x.toModel.unpack := rfl

theorem unpack_of_isFinite {x : Float} (h : x.isFinite) :
    (∃ s, x.toModel.unpack = .zero s) ∨ ∃ s m e hm, x.toModel.unpack = .finite s m e hm := by
  rw [isFinite_eq] at h
  cases hu : x.toModel.unpack with
  | notANumber | infinity s =>
    rw [hu] at h
    cases h
  | zero s => exact Or.inl ⟨s, rfl⟩
  | finite s m e hm => exact Or.inr ⟨s, m, e, hm, rfl⟩

theorem isFinite_iff_of_holds {q : ℚ} {x : Float} (h : Holds q x.toModel.unpack) :
    x.isFinite ↔ |q| < tooLarge := by
  refine ⟨fun hx => ?_, fun hq => (h.finite hq).1⟩
  rw [isFinite_eq] at hx
  by_contra hq
  obtain hb | ha := le_abs'.mp (not_lt.mp hq)
  · rw [h.below hb] at hx
    cases hx
  · rw [h.above ha] at hx
    cases hx

/-- What is not negative is infinite or has a number that is not. -/
theorem nonneg_iff (x : Float) :
    0 ≤ x ↔ x.toModel.unpack = .infinity .positive ∨ x.isFinite ∧ 0 ≤ number x := by
  by_cases hf : x.isFinite
  · have hi : x.toModel.unpack ≠ .infinity .positive := by
      intro h
      rw [isFinite_eq, h] at hf
      cases hf
    rw [le_iff_number_le rfl hf]
    change 0 ≤ number x ↔ _
    simp only [hi, hf, true_and, false_or]
  · simp only [hf, false_and, or_false, Bool.false_eq_true]
    rw [le_iff_compare]
    rw [isFinite_eq] at hf
    generalize x.toModel.unpack = u at hf ⊢
    cases u with
    | notANumber => exact iff_of_false Bool.false_ne_true (by rintro ⟨⟩)
    | infinity s =>
      cases s with
      | negative => exact iff_of_false Bool.false_ne_true (by rintro ⟨⟩)
      | positive => exact iff_of_true rfl rfl
    | zero s | finite s m e hm => exact absurd rfl hf

theorem number_nonneg {x : Float} (h : 0 ≤ x) : 0 ≤ number x := by
  obtain hi | ⟨-, hn⟩ := (nonneg_iff x).mp h
  · rw [number, hi]
    rfl
  · exact hn

theorem number_of_not_isFinite {x : Float} (h : ¬x.isFinite) : number x = 0 := by
  rw [isFinite_eq] at h
  rw [number]
  cases hu : x.toModel.unpack with
  | notANumber | infinity s => rfl
  | zero s | finite s m e hm =>
    rw [hu] at h
    exact absurd rfl h

theorem near_of_holds {q : ℚ} {x : Float} (h : Holds q x.toModel.unpack) (hf : x.isFinite) :
    |number x| ≤ 2 * |q| ∧ 0 ≤ q * number x :=
  (h.finite ((isFinite_iff_of_holds h).mp hf)).2

/-- Rounding keeps the sign. -/
theorem number_nonneg_of_holds {q : ℚ} {x : Float} (h : Holds q x.toModel.unpack) (hq : 0 ≤ q) :
    0 ≤ number x := by
  by_cases hf : x.isFinite
  · obtain ⟨hn, hs⟩ := near_of_holds h hf
    obtain rfl | hpos := hq.eq_or_lt
    · rw [abs_zero, mul_zero] at hn
      exact (abs_nonpos_iff.mp hn).ge
    · exact nonneg_of_mul_nonneg_right hs hpos
  · exact (number_of_not_isFinite hf).ge

theorem number_nonpos_of_holds {q : ℚ} {x : Float} (h : Holds q x.toModel.unpack) (hq : q ≤ 0) :
    number x ≤ 0 := by
  by_cases hf : x.isFinite
  · obtain ⟨hn, hs⟩ := near_of_holds h hf
    obtain rfl | hneg := hq.eq_or_lt
    · rw [abs_zero, mul_zero] at hn
      exact (abs_nonpos_iff.mp hn).le
    · exact nonpos_of_mul_nonneg_right hs hneg
  · exact (number_of_not_isFinite hf).le

theorem nonneg_of_holds {q : ℚ} {x : Float} (h : Holds q x.toModel.unpack) (hq : 0 ≤ q) :
    0 ≤ x := by
  rw [nonneg_iff]
  by_cases hl : |q| < tooLarge
  · exact Or.inr ⟨(h.finite hl).1, number_nonneg_of_holds h hq⟩
  · rw [abs_of_nonneg hq, not_lt] at hl
    exact Or.inl (h.above hl)

theorem infinity_of_nonneg {x : Float} (h : 0 ≤ x) (hf : ¬x.isFinite) :
    x.toModel.unpack = .infinity .positive := by
  obtain hi | ⟨hf', -⟩ := (nonneg_iff x).mp h
  · exact hi
  · exact absurd hf' hf

theorem not_isFinite_of_infinity {x : Float} {s : Sign} (h : x.toModel.unpack = .infinity s) :
    ¬x.isFinite := by
  rw [isFinite_eq, h]
  exact Bool.false_ne_true

/-- What is less than a finite double is finite, if it is not negative. -/
theorem isFinite_of_lt {x y : Float} (hx : 0 ≤ x) (hy : y.isFinite) (h : x < y) : x.isFinite := by
  by_contra hf
  rw [lt_iff_compare, infinity_of_nonneg hx hf] at h
  obtain ⟨s, hu⟩ | ⟨s, m, e, hm, hu⟩ := unpack_of_isFinite hy
  · rw [hu] at h
    cases h
  · rw [hu] at h
    cases h

theorem le_of_negative_infinity {x y : Float} (hx : x.toModel.unpack = .infinity .negative)
    (hy : y.isFinite) : x ≤ y := by
  rw [le_iff_compare, hx]
  obtain ⟨s, hu⟩ | ⟨s, m, e, hm, hu⟩ := unpack_of_isFinite hy
  · rw [hu]
    rfl
  · rw [hu]
    rfl

theorem float_not_le_of_lt {x y : Float} (hx : x.isFinite) (h : x < y) : ¬y ≤ x := by
  by_cases hy : y.isFinite
  · rw [le_iff_number_le hy hx, not_le]
    exact (lt_iff_number_lt hx hy).mp h
  · rw [lt_iff_compare] at h
    rw [le_iff_compare]
    rw [isFinite_eq] at hy
    cases hv : y.toModel.unpack with
    | zero s | finite s m e hm =>
      rw [hv] at hy
      exact absurd rfl hy
    | notANumber =>
      rw [hv] at h
      obtain ⟨s, hu⟩ | ⟨s, m, e, hm, hu⟩ := unpack_of_isFinite hx <;>
        · rw [hu] at h
          cases h
    | infinity s =>
      rw [hv] at h
      obtain ⟨s', hu⟩ | ⟨s', m, e, hm, hu⟩ := unpack_of_isFinite hx <;>
        · rw [hu] at h ⊢
          cases s with
          | positive => exact Bool.false_ne_true
          | negative => cases h

theorem unpack_add (x y : Float) : (x + y).toModel.unpack =
    stored (UnpackedFloat.add .binary64 x.toModel.unpack y.toModel.unpack) := rfl

theorem unpack_sub (x y : Float) : (x - y).toModel.unpack =
    stored (UnpackedFloat.add .binary64 x.toModel.unpack y.toModel.unpack.neg) := by
  rw [← sub_eq_add]
  rfl

/-- Infinity stays what it is if something finite is added to it, on either side. -/
theorem stored_add_infinity {u : UnpackedFloat} (h : u.isFinite) (s : Sign) :
    stored (UnpackedFloat.add .binary64 u (.infinity s)) = .infinity s ∧
      stored (UnpackedFloat.add .binary64 (.infinity s) u) = .infinity s := by
  cases u with
  | notANumber | infinity s' => cases h
  | zero s' | finite s' m e hm => exact ⟨stored_eq trivial, stored_eq trivial⟩

theorem add_infinity {x y : Float} (hx : 0 ≤ x) (hy : y.toModel.unpack = .infinity .positive) :
    (x + y).toModel.unpack = .infinity .positive ∧
      (y + x).toModel.unpack = .infinity .positive := by
  rw [unpack_add, unpack_add, hy]
  by_cases hf : x.isFinite
  · exact stored_add_infinity hf .positive
  · rw [infinity_of_nonneg hx hf]
    exact ⟨rfl, rfl⟩

theorem nonneg_add {x y : Float} (hx : 0 ≤ x) (hy : 0 ≤ y) : 0 ≤ x + y := by
  by_cases hfx : x.isFinite
  · by_cases hfy : y.isFinite
    · exact nonneg_of_holds (add_holds hfx hfy) (add_nonneg (number_nonneg hx) (number_nonneg hy))
    · exact (nonneg_iff _).mpr (Or.inl (add_infinity hx (infinity_of_nonneg hy hfy)).1)
  · exact (nonneg_iff _).mpr (Or.inl (add_infinity hy (infinity_of_nonneg hx hfx)).2)

theorem sub_infinity {x y : Float} (hx : x.isFinite) (hy : y.toModel.unpack = .infinity .positive) :
    (x - y).toModel.unpack = .infinity .negative := by
  rw [unpack_sub, hy]
  exact (stored_add_infinity hx .negative).1

theorem infinity_sub {x y : Float} (hx : x.toModel.unpack = .infinity .negative) (hy : y.isFinite) :
    (x - y).toModel.unpack = .infinity .negative := by
  rw [unpack_sub, hx]
  exact (stored_add_infinity (by rwa [isFinite_neg]) .negative).2

/-- A positive multiple of infinity is infinite, on either side. -/
theorem mul_infinity {x y : Float} (hx : 0 < number x)
    (hy : y.toModel.unpack = .infinity .positive) :
    (x * y).toModel.unpack = .infinity .positive ∧
      (y * x).toModel.unpack = .infinity .positive := by
  have hmul : (x * y).toModel.unpack =
      stored (UnpackedFloat.mul .binary64 x.toModel.unpack y.toModel.unpack) := rfl
  have hmul' : (y * x).toModel.unpack =
      stored (UnpackedFloat.mul .binary64 y.toModel.unpack x.toModel.unpack) := rfl
  rw [hmul, hmul', hy]
  rw [number] at hx
  cases hu : x.toModel.unpack with
  | notANumber | infinity s | zero s =>
    rw [hu] at hx
    exact absurd hx (lt_irrefl 0)
  | finite s m e hm =>
    cases s with
    | positive => exact ⟨stored_eq trivial, stored_eq trivial⟩
    | negative =>
      obtain ⟨hneg, hlt⟩ := held_negative m e hm
      rw [hu, hneg] at hx
      exact absurd hx hlt.not_gt

theorem nonneg_mul {x y : Float} (hx : x.isFinite) (hpos : 0 < number x) (hy : 0 ≤ y) :
    0 ≤ x * y ∧ 0 ≤ y * x := by
  by_cases hf : y.isFinite
  · have hn := number_nonneg hy
    exact ⟨nonneg_of_holds (mul_holds hx hf) (mul_nonneg hpos.le hn),
      nonneg_of_holds (mul_holds hf hx) (mul_nonneg hn hpos.le)⟩
  · obtain ⟨h, h'⟩ := mul_infinity hpos (infinity_of_nonneg hy hf)
    exact ⟨(nonneg_iff _).mpr (Or.inl h), (nonneg_iff _).mpr (Or.inl h')⟩

theorem ofScientific_whole {n : Nat} (hn : n ≠ 0) :
    UnpackedFloat.ofScientific .binary64 n 0 =
      roundWithAccuracy .binary64 .positive (n <<< 53 * 1) (-53 + 0) .exact := by
  rw [UnpackedFloat.ofScientific]
  rw [dif_neg hn, if_neg (by decide), if_neg, if_pos le_rfl]
  · rfl
  · change ¬0 < -((2 ^ 11 : Int) + n.log2)
    omega

theorem holds_ofScientific {n : Nat} (hn : 0 < n) :
    Holds n (stored (UnpackedFloat.ofScientific .binary64 n 0)) := by
  have hpos : 0 < n <<< 53 := shiftLeft_pos hn 53
  have hvalue : (n : ℚ) = (Sign.positive.apply (n <<< 53 * 1 : ℕ) : ℤ) * 2 ^ (-53 + 0 : ℤ) := by
    have hinv : (9007199254740992 : ℚ) * 2 ^ (-53 : ℤ) = 1 := by norm_num
    simp only [Sign.apply, Nat.shiftLeft_eq, mul_one, add_zero]
    push_cast
    rw [mul_assoc, hinv, mul_one]
  rw [ofScientific_whole hn.ne', hvalue]
  refine holds_roundWithAccuracy _ (by omega) ?_
  have hlog : (n <<< 53 * 1).log2 = n.log2 + 53 := by
    rw [Nat.mul_one, log2_shiftLeft hn]
  rw [lastPlace]
  omega

theorem number_of_unpack {x : Float} {m : Nat} {e : ℤ} {hm : 0 < m}
    (h : x.toModel.unpack = .finite .positive m e hm) : number x = m * 2 ^ e := by
  rw [number, h]
  exact (held_positive m e hm).1

theorem number_one : number (Float.ofBits 0x3FF0000000000000) = 1 := by
  have hu : (Float.ofBits 0x3FF0000000000000).toModel.unpack =
      .finite .positive (2 ^ 52) (-52) (by decide) := rfl
  rw [number_of_unpack hu]
  norm_num

theorem pow_lt_tooLarge : (2 : ℚ) ^ 53 < tooLarge := by
  have hone : (1 : ℚ) ≤ 2 ^ (970 : ℤ) := one_le_zpow₀ one_le_two (by decide)
  calc (2 : ℚ) ^ 53 < 2 ^ 54 - 1 := by norm_num
    _ ≤ tooLarge := le_mul_of_one_le_right (by norm_num) hone

theorem toFloat_holds {n : Nat} (hn : n < 2 ^ 53) :
    Holds n n.toUInt64.toFloat.toModel.unpack := by
  have hu : n.toUInt64.toFloat.toModel.unpack =
      stored (UnpackedFloat.normalize .binary64 (n.toUInt64.toNat : ℤ) 0 .positive) := rfl
  have htoNat : n.toUInt64.toNat = n := Nat.mod_eq_of_lt (by omega)
  have hvalue : (n : ℚ) = ((n : ℤ) : ℚ) * 2 ^ (0 : ℤ) := by simp
  rw [hu, htoNat, hvalue]
  exact holds_normalize _ _ _

/-- A whole number is finite as a double unless it is too large. -/
theorem ofNat_finite (n : Nat) :
    ((Float.ofNat n).isFinite ↔ (n : ℚ) < tooLarge) ∧ 0 ≤ Float.ofNat n := by
  have hn : (0 : ℚ) ≤ n := Nat.cast_nonneg n
  by_cases hsmall : n < 2 ^ 53
  · have hofNat : Float.ofNat n = n.toUInt64.toFloat * Float.ofBits 0x3FF0000000000000 := by
      change Float.ofScientific n false 0 = _
      rw [Float.ofScientific, dif_pos (by omega)]
      rfl
    have hlt : (n : ℚ) < tooLarge := by
      have hcast : (n : ℚ) < 2 ^ 53 := by exact_mod_cast hsmall
      exact hcast.trans pow_lt_tooLarge
    have hx := toFloat_holds hsmall
    have hf := (isFinite_iff_of_holds hx).mpr (by rwa [abs_of_nonneg hn])
    have hone : (Float.ofBits 0x3FF0000000000000).isFinite := rfl
    have hprod := mul_holds hf hone
    rw [number_one, mul_one, ← hofNat] at hprod
    have hnum := number_nonneg (nonneg_of_holds hx hn)
    exact ⟨iff_of_true ((isFinite_iff_of_holds hprod).mpr (abs_number_lt _)) hlt,
      nonneg_of_holds hprod hnum⟩
  · have hofNat : Float.ofNat n = .ofModel (Float.Model.ofScientific n 0) := by
      change Float.ofScientific n false 0 = _
      rw [Float.ofScientific]
      rw [dif_neg (by omega)]
      rfl
    have h : Holds n (Float.ofNat n).toModel.unpack := by
      rw [hofNat]
      exact holds_ofScientific (by omega)
    refine ⟨?_, nonneg_of_holds h hn⟩
    rw [isFinite_iff_of_holds h, abs_of_nonneg hn]

end SlideDeck.Decimal
