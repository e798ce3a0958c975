import Mathlib

/-!
Doubles as they are stored: a double that is packed into bits and unpacked again is the same, or
infinite if its exponent does not fit.
-/

namespace SlideDeck.Decimal

open Float.Model Float.Model.UnpackedFloat

/-- A significand has 53 bits, or fewer at the least exponent. -/
def IsStored : UnpackedFloat → Prop
  | .finite _ m e _ => m < 2 ^ 53 ∧ -1074 ≤ e ∧ e ≤ 971 ∧ (2 ^ 52 ≤ m ∨ e = -1074)
  | _ => True

/-- The double with the given exponent bits and significand bits. -/
def decode (s : Sign) (e m : Nat) : UnpackedFloat :=
  if e = 2047 then if m = 0 then .infinity s else .notANumber
  else if e = 0 then if h : m = 0 then .zero s else .finite s m (-1074) (Nat.pos_of_ne_zero h)
  else .finite s (2 ^ 52 + m) (e - 1075) (by omega)

theorem isStored_decode (s : Sign) {e m : Nat} (he : e < 2 ^ 11) (hm : m < 2 ^ 52) :
    IsStored (decode s e m) := by
  rw [decode]
  split
  · split <;> trivial
  · split
    · split
      · trivial
      · exact ⟨by omega, le_rfl, by omega, Or.inr rfl⟩
    · exact ⟨by omega, by omega, by omega, Or.inl (by omega)⟩

theorem toNat_one_append (m : BitVec 52) : (1#1 ++ m).toNat = 2 ^ 52 + m.toNat := by
  rw [BitVec.toNat_append, ← Nat.shiftLeft_add_eq_or_of_lt m.isLt, Nat.shiftLeft_eq]
  rfl

theorem unpack_eq_decode (b : BitVec 64) :
    UnpackedFloat.unpack .binary64 b =
      decode (.ofBitVec (@unpackSign .binary64 b))
        (@unpackExponent .binary64 b).toNat
        (@unpackMantissa .binary64 b).toNat := by
  have hbias : (Format.binary64.exponentBias : Int) = 1023 := rfl
  have he1 : @unpackExponent .binary64 b = -1#_ ↔
    (@unpackExponent .binary64 b).toNat = 2047 := BitVec.toNat_inj.symm
  have he0 : @unpackExponent .binary64 b = 0#_ ↔
    (@unpackExponent .binary64 b).toNat = 0 := BitVec.toNat_inj.symm
  have hm0 : @unpackMantissa .binary64 b = 0#_ ↔
    (@unpackMantissa .binary64 b).toNat = 0 := BitVec.toNat_inj.symm
  unfold UnpackedFloat.unpack decode
  extract_lets m e exponent signBits sign
  split
  · rename_i h
    rw [if_pos (he1.mp h)]
    split
    · rename_i h'
      rw [if_pos (hm0.mp h')]
    · rename_i h'
      rw [if_neg (mt hm0.mpr h')]
  · rename_i h
    rw [if_neg (mt he1.mpr h)]
    split
    · rename_i h'
      rw [if_pos (he0.mp h')]
      split
      · rename_i h''
        rw [dif_pos (hm0.mp h'')]
      · rename_i h''
        rw [dif_neg (mt hm0.mpr h'')]
        congr 1
        simp only [exponent, e, he0.mp h', hbias]
        rfl
    · rename_i h'
      rw [if_neg (mt he0.mpr h')]
      congr 1
      exact toNat_one_append m

theorem toNat_unpackExponent (b : BitVec 64) :
    (@unpackExponent .binary64 b).toNat = b.toNat / 2 ^ 52 % 2 ^ 11 := by
  change (b.toNat >>> 52) % 2 ^ 11 = _
  rw [Nat.shiftRight_eq_div_pow]

theorem isStored_unpack (b : BitVec 64) : IsStored (UnpackedFloat.unpack .binary64 b) := by
  rw [unpack_eq_decode]
  exact isStored_decode _ (BitVec.isLt _) (BitVec.isLt _)

theorem unpackSign_packComponents {spec : Format} (s : Sign) (e : BitVec spec.exponentBits)
    (m : BitVec spec.mantissaBitsWithoutImplicit) :
    unpackSign (packComponents spec s e m) = s.toBitVec := by
  ext i hi
  obtain rfl : i = 0 := by omega
  simp [unpackSign, packComponents, BitVec.getLsbD_append, BitVec.getElem_append]

theorem unpack_packComponents (s : Sign) (e : BitVec 11) (m : BitVec 52) :
    UnpackedFloat.unpack .binary64 (packComponents .binary64 s e m) =
      decode s e.toNat m.toNat := by
  rw [unpack_eq_decode, unpackSign_packComponents, unpackExponent_packComponents,
    unpackMantissa_packComponents]
  cases s <;> rfl

/-- A finite double whose exponent does not fit is packed as an infinite one. -/
theorem unpack_pack_large (s : Sign) {m : Nat} {e : Int} (hm : 0 < m) (he : 972 ≤ e) :
    UnpackedFloat.unpack .binary64 (UnpackedFloat.pack .binary64 (.finite s m e hm)) =
      .infinity s := by
  have hbias : (Format.binary64.exponentBias : Int) = 1023 := rfl
  rw [UnpackedFloat.pack, if_pos]
  · exact unpack_packComponents s _ _
  · rw [hbias]
    change 2048 ≤ (e + 1023 + 52).toNat + 1
    omega

theorem unpack_pack {u : UnpackedFloat} (h : IsStored u) :
    UnpackedFloat.unpack .binary64 (UnpackedFloat.pack .binary64 u) = u := by
  cases u with
  | notANumber => rfl
  | infinity s | zero s => exact unpack_packComponents s _ _
  | finite s m e hm =>
    obtain ⟨hlt, hlow, hhigh, hfull⟩ := h
    have hbias : (Format.binary64.exponentBias : Int) = 1023 := rfl
    unfold UnpackedFloat.pack
    extract_lets bits biased
    have hb : biased = (e + 1023 + 52).toNat := by
      simp only [biased, hbias]
      rfl
    have hbl : biased < 2 ^ 11 := by omega
    have hbt : (BitVec.ofNat 11 biased).toNat = biased := Nat.mod_eq_of_lt hbl
    rw [if_neg (by change ¬2 ^ 11 ≤ biased + 1; omega)]
    by_cases hn : 2 ^ 52 ≤ m
    · have hl : bits = 52 := (Nat.log2_eq_iff (by omega)).mpr ⟨hn, hlt⟩
      have hmt : (BitVec.ofNat 52 m).toNat = m - 2 ^ 52 := by
        rw [BitVec.toNat_ofNat]
        omega
      rw [if_pos (by rw [hl]; rfl)]
      refine (unpack_packComponents s _ _).trans ?_
      change decode s (BitVec.ofNat 11 biased).toNat (BitVec.ofNat 52 m).toNat = _
      have hm' : 2 ^ 52 + (m - 2 ^ 52) = m := by omega
      have he' : (biased : Int) - 1075 = e := by omega
      rw [hbt, hmt, decode, if_neg (by omega), if_neg (by omega)]
      simp only [hm', he']
    · have hl : bits < 52 := (Nat.log2_lt (by omega)).mpr (by omega)
      have hmt : (BitVec.ofNat 52 m).toNat = m := Nat.mod_eq_of_lt (by omega)
      rw [if_neg (by change ¬bits + 1 = 53; omega)]
      refine (unpack_packComponents s 0#11 (BitVec.ofNat 52 m)).trans ?_
      have he' : e = -1074 := by omega
      rw [hmt, decode, if_neg (by decide), if_pos (by rfl), dif_neg (by omega)]
      simp only [he']

end SlideDeck.Decimal
