import SlideDeck.Drawing.Length
import SlideDeck.Proofs.Decimal.Nearest

/-!
Which lengths there are. A number of inches is a length unless it is too large, what is less than a
unit being cut off; a number of points is the width of a line if it lies in the range of widths.
-/

namespace SlideDeck

namespace Decimal

open Float.Model Float.Model.UnpackedFloat

/-- A number without what comes behind its point. -/
def wholePart (q : ℚ) : ℤ := if 0 ≤ q then ⌊q⌋ else ⌈q⌉

theorem wholePart_neg_of_nonneg {q : ℚ} (h : 0 ≤ q) : wholePart (-q) = -⌊q⌋ := by
  rw [wholePart]
  split
  · rename_i hq
    obtain rfl : q = 0 := le_antisymm (neg_nonneg.mp hq) h
    simp
  · exact Int.ceil_neg

theorem floor_scaled (n : Nat) (e : ℤ) :
    ⌊(n : ℚ) * 2 ^ e⌋ = ((scaled n 1 e).1 / (scaled n 1 e).2 : ℕ) := by
  obtain ⟨k, rfl | rfl⟩ := e.eq_nat_or_neg
  · rw [scaled_one, zpow_natCast, Nat.div_one]
    have hcast : (n : ℚ) * 2 ^ k = ((n * 2 ^ k : ℕ) : ℤ) := by push_cast; rfl
    rw [hcast, Int.floor_intCast]
  · rw [scaled_one_neg, zpow_neg, zpow_natCast, ← div_eq_mul_inv]
    have hcast : (n : ℚ) / 2 ^ k = (n : ℤ) / ((2 ^ k : ℕ) : ℚ) := by push_cast; rfl
    rw [hcast, Rat.floor_intCast_div_natCast]
    rfl

theorem unpackSign_of_le {b : BitVec 64} (h : 2 ^ 63 ≤ b.toNat) :
    Sign.ofBitVec (@unpackSign .binary64 b) = .negative := by
  have hone : (@unpackSign .binary64 b).toNat = 1 := by
    change (b.toNat >>> 63) % 2 = 1
    rw [Nat.shiftRight_eq_div_pow]
    have hlt := b.isLt
    omega
  rw [Sign.ofBitVec, if_neg]
  intro hzero
  rw [hzero] at hone
  cases hone

theorem apply_unpackSign (b : BitVec 64) (n : ℕ) :
    (Sign.ofBitVec (@unpackSign .binary64 b)).apply n =
      if 2 ^ 63 ≤ b.toNat then -(n : ℤ) else n := by
  split
  · rw [unpackSign_of_le ‹_›, Sign.apply]
  · rw [unpackSign_of_lt (Nat.lt_of_not_le ‹_›), Sign.apply]

theorem held_decode (s : Sign) {e m : Nat} (he : e ≠ 2047) :
    held (decode s e m) =
      if e = 0 then ((s.apply m : ℤ) : ℚ) * 2 ^ (-1074 : ℤ)
      else ((s.apply (2 ^ 52 + m : ℕ) : ℤ) : ℚ) * 2 ^ ((e : ℤ) - 1075) := by
  rw [decode, if_neg he]
  split
  · split
    · rename_i hm
      rw [hm]
      cases s <;> simp [held, Sign.apply]
    · rfl
  · rfl

theorem binary?_eq (x : Float) :
    binary? x =
      if x.toBits.toNat / 2 ^ 52 % 2 ^ 11 = 2047 then none
      else if x.toBits.toNat / 2 ^ 52 % 2 ^ 11 = 0 then
        some ⟨2 ^ 63 ≤ x.toBits.toNat, x.toBits.toNat % 2 ^ 52, -1074⟩
      else some ⟨2 ^ 63 ≤ x.toBits.toNat, 2 ^ 52 + x.toBits.toNat % 2 ^ 52,
        (x.toBits.toNat / 2 ^ 52 % 2 ^ 11 : ℕ) - 1075⟩ := rfl

/-- The exact value of a double is its number. -/
theorem number_eq_of_binary? {x : Float} {b : Binary} (h : binary? x = some b) :
    number x = if b.negative then -((b.significand : ℚ) * 2 ^ b.exponent)
      else (b.significand : ℚ) * 2 ^ b.exponent := by
  have hnegate (c : Prop) [Decidable c] (n : ℕ) (p : ℚ) :
      ((if c then -(n : ℤ) else n : ℤ) : ℚ) * p = if decide c then -((n : ℚ) * p) else n * p := by
    by_cases hc : c <;> simp [hc]
  rw [binary?_eq] at h
  rw [number, unpack_toModel]
  split at h
  · cases h
  · rename_i he
    rw [held_decode _ he, apply_unpackSign, apply_unpackSign, hnegate, hnegate]
    split at h
    · rename_i hzero
      obtain rfl := Option.some.inj h
      exact if_pos hzero
    · rename_i hzero
      obtain rfl := Option.some.inj h
      exact if_neg hzero

/-- Cutting off a double is cutting off its number. -/
theorem truncate_eq {x : Float} {b : Binary} (h : binary? x = some b) :
    b.truncate = wholePart (number x) := by
  have hpos : 0 ≤ (b.significand : ℚ) * 2 ^ b.exponent :=
    mul_nonneg (Nat.cast_nonneg _) (two_zpow_pos _).le
  have htruncate : b.truncate =
      if b.negative then -⌊(b.significand : ℚ) * 2 ^ b.exponent⌋
      else ⌊(b.significand : ℚ) * 2 ^ b.exponent⌋ := by
    rw [floor_scaled]
    rfl
  rw [htruncate, number_eq_of_binary? h]
  split
  · exact (wholePart_neg_of_nonneg hpos).symm
  · exact (if_pos hpos).symm

/-- A product with what is not finite is not finite. -/
theorem not_isFinite_mul {x y : Float} (hx : ¬x.isFinite) (hy : 0 < number y) :
    ¬(x * y).isFinite := by
  have hmul : (x * y).toModel.unpack =
      stored (UnpackedFloat.mul .binary64 x.toModel.unpack y.toModel.unpack) := rfl
  rw [isFinite_eq] at hx
  rw [isFinite_eq, hmul]
  rw [number] at hy
  cases hv : y.toModel.unpack with
  | notANumber | infinity s | zero s =>
    rw [hv] at hy
    exact absurd hy (lt_irrefl 0)
  | finite s m e hm =>
    cases hu : x.toModel.unpack with
    | notANumber =>
      have hstored : stored .notANumber = .notANumber := stored_eq trivial
      change ¬(stored .notANumber).isFinite
      rw [hstored]
      exact Bool.false_ne_true
    | infinity s' =>
      have hstored : stored (.infinity (s' * s)) = .infinity (s' * s) := stored_eq trivial
      change ¬(stored (.infinity (s' * s))).isFinite
      rw [hstored]
      exact Bool.false_ne_true
    | zero s' | finite s' m' e' hm' =>
      rw [hu] at hx
      exact absurd rfl hx

theorem isFinite_mul_iff {x y : Float} (hy : y.isFinite) (hpos : 0 < number y) :
    (x * y).isFinite ↔ x.isFinite ∧ |number x| * number y < tooLarge := by
  by_cases hx : x.isFinite
  · rw [isFinite_iff_of_holds (mul_holds hx hy), abs_mul, abs_of_pos hpos, and_iff_right hx]
  · exact iff_of_false (not_isFinite_mul hx hpos) fun h => hx h.1

end Decimal

namespace Drawing

open Decimal

theorem number_inch : number (914400.0 : Float) = 914400 := by
  have hu : (914400.0 : Float).toModel.unpack =
      .finite .positive (914400 * 2 ^ 33) (-33) (by decide) := rfl
  rw [number_of_unpack hu]
  norm_num

theorem whole_eq_ok_iff (x : Float) (n : ℤ) :
    whole x = .ok n ↔ x.isFinite ∧ n = wholePart (number x) := by
  rw [whole, ← binary?_isSome_iff]
  cases hb : binary? x with
  | none => simp
  | some b => simp [truncate_eq hb, eq_comm]

/-- A number of inches that can be drawn. -/
def IsLength (x : Float) : Prop := x.isFinite ∧ |number x| * 914400 < tooLarge

theorem exists_ofInches_iff (x : Float) : (∃ n, ofInches x = .ok n) ↔ IsLength x := by
  have hinch : (914400.0 : Float).isFinite := rfl
  have hpos : 0 < number 914400.0 := by
    rw [number_inch]
    norm_num
  rw [IsLength, ← number_inch, ← isFinite_mul_iff hinch hpos]
  simp only [ofInches, whole_eq_ok_iff, exists_and_left, exists_eq, and_true]

/-- Lengths below the size of the canvas can be converted. -/
theorem exists_ofInches {x : Float} (hf : x.isFinite) (h : 0 ≤ number x) (hlt : number x < 32) :
    ∃ n, ofInches x = .ok n := by
  rw [exists_ofInches_iff, IsLength, abs_of_nonneg h]
  exact ⟨hf, by linarith [pow_lt_tooLarge]⟩

theorem boxOfInches_eq_ok_iff (b : Layout.Box Float) (box : Layout.Box Int) :
    boxOfInches b = .ok box ↔ ofInches b.x = .ok box.x ∧ ofInches b.y = .ok box.y ∧
      ofInches b.width = .ok box.width ∧ ofInches b.height = .ok box.height := by
  obtain ⟨x, y, width, height⟩ := box
  rw [boxOfInches]
  cases ofInches b.x <;> cases ofInches b.y <;> cases ofInches b.width <;>
    cases ofInches b.height <;> simp [bind, Except.bind, pure, Except.pure]

theorem boxOfInches_eq_ok {b : Layout.Box Float} {x y width height : Int}
    (hx : ofInches b.x = .ok x) (hy : ofInches b.y = .ok y) (hwidth : ofInches b.width = .ok width)
    (hheight : ofInches b.height = .ok height) : boxOfInches b = .ok ⟨x, y, width, height⟩ :=
  (boxOfInches_eq_ok_iff _ _).mpr ⟨hx, hy, hwidth, hheight⟩

theorem boxOfInches_titleBox :
    boxOfInches Layout.titleBox = .ok ⟨457200, 274320, 8229600, 685800⟩ :=
  boxOfInches_eq_ok (by decide +kernel) (by decide +kernel) (by decide +kernel) (by decide +kernel)

theorem exists_boxOfInches_iff (b : Layout.Box Float) :
    (∃ box, boxOfInches b = .ok box) ↔
      IsLength b.x ∧ IsLength b.y ∧ IsLength b.width ∧ IsLength b.height := by
  simp only [← exists_ofInches_iff, boxOfInches_eq_ok_iff]
  constructor
  · rintro ⟨box, hx, hy, hwidth, hheight⟩
    exact ⟨⟨_, hx⟩, ⟨_, hy⟩, ⟨_, hwidth⟩, ⟨_, hheight⟩⟩
  · rintro ⟨⟨x, hx⟩, ⟨y, hy⟩, ⟨width, hwidth⟩, ⟨height, hheight⟩⟩
    exact ⟨⟨x, y, width, height⟩, hx, hy, hwidth, hheight⟩

/-- The whole units of a number of points; what is no number has none. -/
def widthUnits? : Json.Value → Option Int
  | .int n => some (n * 12700)
  | .bool b => some (if b then 12700 else 0)
  | .float x => some (wholePart (number (x * 12700.0)))
  | _ => none

/-- A line can be drawn that wide: no more than 1584 points, up to what is cut off. What is no
number stands for no width. -/
def CanBeWidth : Json.Value → Prop
  | .int n => 0 ≤ n ∧ n ≤ 1584
  | .float x => (x * 12700.0).isFinite ∧ -1 < number (x * 12700.0) ∧
      number (x * 12700.0) < 20116801
  | _ => True

theorem checkLineWidth_eq_ok_iff (n m : Int) :
    checkLineWidth n = .ok m ↔ m = n ∧ 0 ≤ n ∧ n ≤ 20116800 := by
  unfold checkLineWidth
  split
  · rename_i h
    rw [Bool.or_eq_true, decide_eq_true_eq, decide_eq_true_eq] at h
    exact iff_of_false (by rintro ⟨⟩) (by omega)
  · split
    · rename_i h
      rw [Bool.or_eq_true, decide_eq_true_eq, decide_eq_true_eq] at h
      exact iff_of_false (by rintro ⟨⟩) (by omega)
    · rename_i h
      rw [Bool.or_eq_true, decide_eq_true_eq, decide_eq_true_eq] at h
      rw [Except.ok.injEq]
      omega

theorem wholePart_mem_iff (q : ℚ) (k : ℕ) :
    0 ≤ wholePart q ∧ wholePart q ≤ k ↔ -1 < q ∧ q < k + 1 := by
  have hk : (0 : ℚ) ≤ k := Nat.cast_nonneg k
  rw [wholePart]
  split
  · rename_i hq
    rw [Int.floor_le_iff, Int.cast_natCast]
    refine and_congr_left fun _ => iff_of_true (Int.floor_nonneg.mpr hq) ?_
    linarith
  · rename_i hq
    have hceil : ⌈q⌉ ≤ 0 := Int.ceil_le.mpr (by push_cast; linarith)
    rw [Int.le_ceil_iff, Int.cast_zero, zero_sub]
    refine and_congr_right fun _ => iff_of_true (by omega) ?_
    linarith

/-- A number is the width of a line if it is in range. -/
theorem points_eq_ok_iff {v : Json.Value} {points : Except LengthError Int}
    (h : pointsOption? v = some points) (n : Int) :
    points.bind checkLineWidth = .ok n ↔ CanBeWidth v ∧ widthUnits? v = some n := by
  cases v with
  | null | string s | array vs | object o => cases h
  | int i =>
    obtain rfl := Option.some.inj h
    refine (checkLineWidth_eq_ok_iff _ _).trans ?_
    rw [CanBeWidth, widthUnits?, Option.some.injEq]
    omega
  | bool b =>
    obtain rfl := Option.some.inj h
    refine (checkLineWidth_eq_ok_iff _ _).trans ?_
    have hany : CanBeWidth (.bool b) := trivial
    rw [and_iff_right hany, widthUnits?, Option.some.injEq]
    cases b <;> simp [eq_comm]
  | float x =>
    obtain rfl := Option.some.inj h
    have hrange := wholePart_mem_iff (number (x * 12700.0)) 20116800
    rw [CanBeWidth, widthUnits?, Option.some.injEq]
    push_cast at hrange
    norm_num at hrange
    rw [← hrange]
    cases hw : whole (x * 12700.0) with
    | error e =>
      refine iff_of_false (by rintro ⟨⟩) ?_
      rintro ⟨⟨hf, -⟩, -⟩
      cases hw.symm.trans ((whole_eq_ok_iff _ _).mpr ⟨hf, rfl⟩)
    | ok m =>
      obtain ⟨hf, rfl⟩ := (whole_eq_ok_iff _ _).mp hw
      refine (checkLineWidth_eq_ok_iff _ _).trans ?_
      rw [eq_comm, and_comm, and_iff_right hf]

theorem exists_widthUnits {v : Json.Value} {points : Except LengthError Int}
    (h : pointsOption? v = some points) : ∃ n, widthUnits? v = some n := by
  cases v with
  | null | string s | array vs | object o => cases h
  | int i | bool b | float x => exact ⟨_, rfl⟩

theorem not_number_of_points {v : Json.Value} (h : pointsOption? v = none) :
    CanBeWidth v ∧ widthUnits? v = none := by
  cases v with
  | int i | bool b | float x => cases h
  | null | string s | array vs | object o => exact ⟨trivial, rfl⟩

end Drawing

end SlideDeck
