import Mathlib.Data.List.Basic
import Mathlib.Data.Nat.Digits.Defs
import SlideDeck.Text.Case
import SlideDeck.Text.Digit

/-!
The characters of ASCII: letters in upper case, and hexadecimal digits in either letter case with
the numbers they are read as.
-/

namespace SlideDeck.Text

/-- A property of the characters of ASCII is checked one by one. -/
theorem forall_ascii {P : Char → Prop} (h : ∀ k : Fin 128, P (Char.ofNat k)) {c : Char}
    (hc : c.toNat < 128) : P c := by
  have hchar := h ⟨c.toNat, hc⟩
  rwa [Char.ofNat_toNat] at hchar

theorem toNat_lt_of_isAlphanum {c : Char} (h : c.isAlphanum) : c.toNat < 128 := by
  have hupto {e : Char} (he : e.toNat < 128) (h : c ≤ e) : c.toNat < 128 :=
    (UInt32.le_iff_toNat_le.mp h).trans_lt he
  obtain h | h : c.isAlpha = true ∨ c.isDigit = true := Bool.or_eq_true_iff.mp h
  · obtain h | h : c.isUpper = true ∨ c.isLower = true := Bool.or_eq_true_iff.mp h
    · exact hupto (e := 'Z') (by decide) (of_decide_eq_true h).2
    · exact hupto (e := 'z') (by decide) (of_decide_eq_true (Bool.and_eq_true_iff.mp h).2)
  · exact hupto (e := '9') (by decide) (of_decide_eq_true (Bool.and_eq_true_iff.mp h).2)

theorem toNat_ofNat_of_isValidChar {n : Nat} (h : n.isValidChar) : (Char.ofNat n).toNat = n := by
  rw [Char.ofNat, dif_pos h]
  rfl

/-- Runs that start behind a character need not be looked up for it. -/
theorem mapByRuns_filter (runs : List (Nat × Nat × Nat × Nat)) {c : Char} {bound : Nat}
    (hc : c.toNat < bound) :
    mapByRuns (runs.filter fun r => r.1 < bound) c = mapByRuns runs c := by
  have hfind : (runs.filter fun r => r.1 < bound).find? (fun r =>
      r.1 ≤ c.toNat && c.toNat ≤ r.2.1 && (c.toNat - r.1) % r.2.2.1 == 0) =
      runs.find? fun r =>
        r.1 ≤ c.toNat && c.toNat ≤ r.2.1 && (c.toNat - r.1) % r.2.2.1 == 0 := by
    rw [List.find?_filter]
    congr 1
    funext r
    have : r.1 ≤ c.toNat → r.1 < bound := fun h => h.trans_lt hc
    grind
  rw [mapByRuns, hfind]
  rfl

theorem upperChar_of_ascii {c : Char} (hc : c.toNat < 128) : upperChar c = [c.toUpper] := by
  have hexpansion : upperExpansions.lookup c.toNat = none := by
    have hstart : ∀ e ∈ upperExpansions, 128 ≤ e.1 := by decide +kernel
    refine List.lookup_eq_none_iff.mpr fun e he => bne_iff_ne.mpr ?_
    have := hstart e he
    omega
  have hstart : (upperRuns.filter fun r => r.1 < 128) = [(97, 122, 1, 65)] := by decide +kernel
  rw [upperChar, hexpansion, ← mapByRuns_filter upperRuns hc, hstart]
  exact forall_ascii (P := fun c => [mapByRuns [(97, 122, 1, 65)] c] = [c.toUpper])
    (by decide +kernel) hc

theorem lowerChar_of_ascii {c : Char} (hc : c.toNat < 128) : lowerChar c = c.toLower := by
  have hstart : (lowerRuns.filter fun r => r.1 < 128) = [(65, 90, 1, 97)] := by decide +kernel
  rw [lowerChar, ← mapByRuns_filter lowerRuns hc, hstart]
  exact forall_ascii (P := fun c => mapByRuns [(65, 90, 1, 97)] c = c.toLower)
    (by decide +kernel) hc

/-- Of the characters outside ASCII the Kelvin sign alone has an image in it. -/
theorem le_toNat_lowerChar {c : Char} (hc : 128 ≤ c.toNat) (hkelvin : c ≠ '\u212a') :
    128 ≤ (lowerChar c).toNat := by
  have hruns : ∀ r ∈ lowerRuns, r.2.1 < 128 ∨ (r.1 = 0x212a ∧ r.2.1 = 0x212a) ∨ 128 ≤ r.2.2.2 ∧
      (r.2.2.2 + (r.2.1 - r.1) < 0xd800 ∨
        0xdfff < r.2.2.2 ∧ r.2.2.2 + (r.2.1 - r.1) < 0x110000) := by decide +kernel
  rw [lowerChar, mapByRuns]
  split
  · rename_i r hr
    have hmem := hruns r (List.mem_of_find?_eq_some hr)
    have hin := List.find?_some hr
    simp only [Bool.and_eq_true, decide_eq_true_eq] at hin
    have hne : c.toNat ≠ 0x212a := fun h => hkelvin (Char.toNat_inj.mp h)
    have hvalid : (r.2.2.2 + (c.toNat - r.1)).isValidChar := by
      rw [Nat.isValidChar]
      omega
    rw [toNat_ofNat_of_isValidChar hvalid]
    omega
  · exact hc

/-- A letter of ASCII in lower case is the image of its two cases, but for the two letters that
other characters are cases of as well. -/
theorem eq_or_eq_of_lowerChar {c l : Char} (h : lowerChar c = l) (hl : l.toNat < 128)
    (hk : l ≠ 'k') : c = l ∨ c = l.toUpper := by
  by_cases hc : c.toNat < 128
  · have hcases := forall_ascii (P := fun c => c = c.toLower ∨ c = c.toLower.toUpper)
      (by decide +kernel) hc
    rw [lowerChar_of_ascii hc] at h
    rwa [h] at hcases
  · have hkelvin : c ≠ '\u212a' := by
      rintro rfl
      have : lowerChar '\u212a' = 'k' := by decide +kernel
      exact hk (h.symm.trans this)
    have hle := le_toNat_lowerChar (not_lt.mp hc) hkelvin
    rw [h] at hle
    omega

theorem upper_of_ascii {s : List Char} (h : ∀ c ∈ s, c.toNat < 128) :
    upper s = s.map Char.toUpper := by
  rw [upper, List.map_eq_flatMap]
  exact List.flatMap_congr fun c hc => upperChar_of_ascii (h c hc)

def IsHexDigit (c : Char) : Prop :=
  ('0' ≤ c ∧ c ≤ '9') ∨ ('a' ≤ c ∧ c ≤ 'f') ∨ ('A' ≤ c ∧ c ≤ 'F')

instance (c : Char) : Decidable (IsHexDigit c) := inferInstanceAs (Decidable (_ ∨ _))

theorem IsHexDigit.toNat_lt {c : Char} (h : IsHexDigit c) : c.toNat < 128 := by
  have hupto {d : Char} (hd : d.toNat < 128) (h : c ≤ d) : c.toNat < 128 :=
    (UInt32.le_iff_toNat_le.mp h).trans_lt hd
  obtain h | h | h := h <;> exact hupto (by decide) h.2

/-- The number of hexadecimal digits, the most significant one in front. -/
def IsHexNumber (s : List Char) (n : Nat) : Prop :=
  ∃ values, s.mapM hexValue? = some values ∧ n = Nat.ofDigits 16 values.reverse

theorem isSome_hexValue?_iff (c : Char) : (hexValue? c).isSome ↔ IsHexDigit c := by
  unfold hexValue? IsHexDigit
  simp only [Bool.and_eq_true, decide_eq_true_eq]
  split
  next h => simp [h]
  next h =>
    split
    next h' => simp [h']
    next h' => split <;> simp_all

theorem isHexDigit_of_hexValue? {c : Char} {d : Nat} (h : hexValue? c = some d) : IsHexDigit c :=
  (isSome_hexValue?_iff c).mp (by rw [h]; rfl)

theorem IsHexNumber.forall_isHexDigit {s : List Char} {n : Nat} (h : IsHexNumber s n) :
    ∀ c ∈ s, IsHexDigit c := by
  obtain ⟨values, hvalues, -⟩ := h
  induction s generalizing values with
  | nil => exact List.forall_mem_nil _
  | cons c s ih =>
    rw [List.mapM_cons, Option.bind_eq_bind, Option.bind_eq_some_iff] at hvalues
    obtain ⟨d, hd, hrest⟩ := hvalues
    rw [Option.bind_eq_bind, Option.bind_eq_some_iff] at hrest
    obtain ⟨ds, hds, -⟩ := hrest
    exact List.forall_mem_cons.mpr ⟨isHexDigit_of_hexValue? hd, ih ds hds⟩

/-- Reading digits one after the other on top of a number. -/
theorem foldlM_hexValue? (s : List Char) (m : Nat) :
    s.foldlM (fun n c => (hexValue? c).map (16 * n + ·)) m =
      (s.mapM hexValue?).map fun ds => Nat.ofDigits 16 (ds.reverse ++ [m]) := by
  induction s generalizing m with
  | nil => simp
  | cons c s ih =>
    rw [List.foldlM_cons, List.mapM_cons]
    cases hexValue? c with
    | none => rfl
    | some d =>
      change s.foldlM _ (16 * m + d) = _
      rw [ih]
      cases s.mapM hexValue? with
      | none => rfl
      | some ds =>
        simp only [Option.map_some, Option.bind_eq_bind, Option.bind_some, Option.pure_def,
          Nat.ofDigits_append, List.reverse_cons, List.length_append, Nat.ofDigits_singleton,
          List.length_singleton, pow_succ, Option.some.injEq]
        ring

theorem foldlM_hexValue?_eq_some_iff (s : List Char) (n : Nat) :
    s.foldlM (fun n c => (hexValue? c).map (16 * n + ·)) 0 = some n ↔ IsHexNumber s n := by
  rw [foldlM_hexValue?, Option.map_eq_some_iff, IsHexNumber]
  simp only [Nat.ofDigits_append, Nat.ofDigits_singleton, mul_zero, add_zero, @eq_comm _ n]

end SlideDeck.Text
