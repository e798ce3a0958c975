import SlideDeck.Proofs.Decimal.Number

/-!
The doubles that are computed bit by bit: a positive whole number has a nearest double unless it is
too large, and a double has an exact value if it is finite.
-/

namespace SlideDeck.Decimal

open Float.Model Float.Model.UnpackedFloat

theorem isFinite_decode (s : Sign) (e m : Nat) : (decode s e m).isFinite ↔ e ≠ 2047 := by
  rw [decode]
  split
  · rename_i h
    refine iff_of_false ?_ (not_not.mpr h)
    split <;> exact Bool.false_ne_true
  · rename_i h
    refine iff_of_true ?_ h
    split
    · split <;> rfl
    · rfl

theorem isInf_decode (s : Sign) (e m : Nat) : (decode s e m).isInf ↔ e = 2047 ∧ m = 0 := by
  rw [decode]
  split
  · rename_i h
    split
    · rename_i hm
      exact iff_of_true rfl ⟨h, hm⟩
    · rename_i hm
      exact iff_of_false Bool.false_ne_true fun h => hm h.2
  · rename_i h
    refine iff_of_false ?_ fun h' => h h'.1
    split
    · split <;> exact Bool.false_ne_true
    · exact Bool.false_ne_true

theorem held_decode_nonneg (e m : Nat) : 0 ≤ held (decode .positive e m) := by
  have hpos (m : Nat) (e : ℤ) (hm : 0 < m) : 0 ≤ held (.finite .positive m e hm) :=
    (held_positive m e hm).2.le
  rw [decode]
  split
  · split <;> exact le_rfl
  · split
    · split
      · exact le_rfl
      · exact hpos _ _ _
    · exact hpos _ _ _

theorem unpack_toModel (x : Float) :
    x.toModel.unpack = decode (.ofBitVec (@unpackSign .binary64 x.toBits.toBitVec))
      (x.toBits.toNat / 2 ^ 52 % 2 ^ 11) (x.toBits.toNat % 2 ^ 52) := by
  have h := unpack_eq_decode x.toBits.toBitVec
  rwa [toNat_unpackExponent] at h

theorem binary?_isSome_iff (x : Float) : (binary? x).isSome ↔ x.isFinite := by
  have hf : x.isFinite ↔ x.toBits.toNat / 2 ^ 52 % 2 ^ 11 ≠ 2047 := by
    rw [isFinite_eq, unpack_toModel, isFinite_decode]
  rw [hf]
  unfold binary?
  dsimp only
  change Option.isSome (if x.toBits.toNat / 2 ^ 52 % 2 ^ 11 = 2047 then _ else _) = true ↔ _
  split
  · rename_i h
    exact iff_of_false Bool.false_ne_true (not_not.mpr h)
  · rename_i h
    refine iff_of_true ?_ h
    split <;> rfl

theorem unpack_ofBits (b : UInt64) : (Float.ofBits b).toModel.unpack =
    decode (.ofBitVec (@unpackSign .binary64 b.toBitVec)) (b.toNat / 2 ^ 52 % 2 ^ 11)
      (b.toNat % 2 ^ 52) := by
  have h := unpack_eq_decode b.toBitVec
  rw [toNat_unpackExponent] at h
  refine Eq.trans ?_ h
  exact stored_eq (isStored_unpack b.toBitVec)

theorem unpackSign_of_lt {b : BitVec 64} (h : b.toNat < 2 ^ 63) :
    Sign.ofBitVec (@unpackSign .binary64 b) = .positive := by
  have hzero : (@unpackSign .binary64 b).toNat = 0 := by
    change (b.toNat >>> 63) % 2 = 0
    rw [Nat.shiftRight_eq_div_pow]
    omega
  rw [Sign.ofBitVec, if_pos (BitVec.eq_of_toNat_eq hzero)]

/-- The bits of finite numbers that are not negative stand below those of infinity. -/
theorem ofBits_finite {n : Nat} (h : n < infinityBits) :
    (Float.ofBits n.toUInt64).isInf = false ∧ (Float.ofBits n.toUInt64).isFinite ∧
      0 ≤ Float.ofBits n.toUInt64 := by
  have hn : n < 2047 * 2 ^ 52 := h
  have htoNat : n.toUInt64.toNat = n := Nat.mod_eq_of_lt (by omega)
  have hsign : Sign.ofBitVec (@unpackSign .binary64 n.toUInt64.toBitVec) = .positive :=
    unpackSign_of_lt (by change n.toUInt64.toNat < 2 ^ 63; omega)
  have hu := unpack_ofBits n.toUInt64
  rw [htoNat, hsign] at hu
  have he : n / 2 ^ 52 % 2 ^ 11 ≠ 2047 := by omega
  have hf : (Float.ofBits n.toUInt64).isFinite := by
    rw [isFinite_eq, hu, isFinite_decode]
    exact he
  refine ⟨?_, hf, (nonneg_iff _).mpr (Or.inr ⟨hf, ?_⟩)⟩
  · change UnpackedFloat.isInf (Float.ofBits n.toUInt64).toModel.unpack = false
    rw [hu, ← Bool.not_eq_true, isInf_decode]
    exact fun h => he h.1
  · rw [number, hu]
    exact held_decode_nonneg _ _

theorem ofBits_infinity : (Float.ofBits infinityBits.toUInt64).isInf := rfl

theorem scaled_one_neg (n k : Nat) : scaled n 1 (-(k : ℤ)) = (n, 2 ^ k) := by
  have htwo : twoTo k = 2 ^ k := rfl
  rw [scaled]
  split
  · have hk : k = 0 := by omega
    subst hk
    exact congrArg (·, 1) (Nat.mul_one n)
  · rw [neg_neg, Int.toNat_natCast, htwo, Nat.one_mul]

theorem scaled_one (n k : Nat) : scaled n 1 k = (n * 2 ^ k, 1) := by
  rw [scaled, if_pos (Int.natCast_nonneg k), Int.toNat_natCast]
  rfl

theorem binaryExponent_one {n : Nat} (hn : 0 < n) : binaryExponent n 1 = n.log2 := by
  have hle : 2 ^ n.log2 ≤ n := Nat.log2_self_le hn.ne'
  have hone : ((n.log2 : ℕ) : ℤ) - ((1 : ℕ).log2 : ℕ) = n.log2 := by
    have : (1 : ℕ).log2 = 0 := by decide
    omega
  rw [binaryExponent]
  rw [hone]
  dsimp only
  rw [scaled_one_neg]
  dsimp only
  rw [if_neg (not_lt.mpr hle)]

/-- The bits that are computed for a whole number, whose last place may be a fraction. -/
theorem nearestBits_one {n : Nat} (hn : 0 < n) :
    nearestBits n 1 = min ((lastPlace n 0 + 1074).toNat * 2 ^ 52 +
      if n.log2 ≤ 52 then n * 2 ^ (52 - n.log2) else roundDiv n (2 ^ (lastPlace n 0).toNat))
        infinityBits := by
  have hunit : max ((n.log2 : ℤ) - 52) (-1074) = lastPlace n 0 := by
    rw [lastPlace]
    rw [add_zero]
  rw [nearestBits]
  rw [if_neg hn.ne', binaryExponent_one hn, hunit]
  dsimp only
  have hlast : lastPlace n 0 = n.log2 - 52 := by
    rw [lastPlace]
    omega
  split
  · have hk : -lastPlace n 0 = ((52 - n.log2 : ℕ) : ℤ) := by omega
    rw [hk, scaled_one]
    dsimp only
    have hone (m : Nat) : roundDiv m 1 = m := by
      simp [roundDiv, Nat.mod_one]
    rw [hone]
    rfl
  · have hk : -lastPlace n 0 = -(((lastPlace n 0).toNat : ℕ) : ℤ) := by omega
    rw [hk, scaled_one_neg]
    rfl

theorem nearestBits_lt_iff {n : Nat} (hn : 0 < n) :
    nearestBits n 1 < infinityBits ↔ (n : ℚ) < tooLarge := by
  have hinf : infinityBits = 2047 * 2 ^ 52 := rfl
  have hlast : lastPlace n 0 = n.log2 - 52 := by
    rw [lastPlace]
    omega
  rw [nearestBits_one hn, hinf]
  split
  · rename_i hlog
    have hlt : n * 2 ^ (52 - n.log2) < 2 ^ 53 := by
      have hexp : 2 ^ 53 = 2 ^ (n.log2 + 1) * 2 ^ (52 - n.log2) := by
        rw [← Nat.pow_add]
        congr 1
        omega
      rw [hexp]
      exact Nat.mul_lt_mul_of_pos_right Nat.lt_log2_self (Nat.two_pow_pos _)
    have hcast : (n : ℚ) < 2 ^ 53 := by
      have hn' : n < 2 ^ 53 := (Nat.log2_lt hn.ne').mp (by omega)
      exact_mod_cast hn'
    exact iff_of_true (by omega) (hcast.trans pow_lt_tooLarge)
  · rename_i hlog
    have he : 0 ≤ lastPlace n 0 := by omega
    have hlarge := tooLarge_le_iff hn he
    have hle := roundDiv_le (Nat.two_pow_pos _) (lt_of_le_lastPlace he).le
    have hge := le_roundDiv (Nat.two_pow_pos _) (le_of_lt_lastPlace hn he (by omega))
    rw [zpow_zero, mul_one] at hlarge
    rw [sub_zero] at hlarge hle hge
    rw [← not_iff_not, not_lt, not_lt, hlarge]
    omega

/-- A positive whole number has a finite double unless it is too large. -/
theorem ofInt?_of_pos {i : ℤ} (hi : 0 < i) :
    ((i : ℚ) < tooLarge → ∃ x, ofInt? i = some x ∧ x.isFinite ∧ 0 ≤ x) ∧
      (tooLarge ≤ (i : ℚ) → ofInt? i = none) := by
  obtain ⟨n, rfl⟩ := Int.eq_ofNat_of_zero_le hi.le
  have hn : 0 < n := by omega
  have hbits := nearestBits_lt_iff hn
  rw [Int.cast_natCast]
  unfold ofInt?
  dsimp only
  rw [Int.natAbs_natCast, if_neg (by omega : ¬(n : ℤ) < 0)]
  constructor
  · intro h
    obtain ⟨hinf, hf, hx⟩ := ofBits_finite (hbits.mpr h)
    exact ⟨nearest n 1, by rw [nearest, hinf]; rfl, hf, hx⟩
  · intro h
    have hmax : nearestBits n 1 = infinityBits := by
      have hle : nearestBits n 1 ≤ infinityBits := by
        rw [nearestBits_one hn]
        exact min_le_right _ _
      have hge := mt hbits.mp (not_lt.mpr h)
      omega
    rw [nearest, hmax, if_pos ofBits_infinity]

end SlideDeck.Decimal
