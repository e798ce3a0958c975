import SlideDeck.Proofs.Json.Spelling

/-!
The spellings of strings and of whole numbers are read back, whatever stands behind them.
-/

namespace SlideDeck.Json

open Text

theorem isBlank_iff (c : Char) :
    isBlank c ↔ c = ' ' ∨ c = '\t' ∨ c = '\n' ∨ c = '\r' := by
  simp [isBlank, or_assoc]

theorem skipBlanks_append {gap : List Char} (h : IsGap gap) (s : List Char) :
    skipBlanks (gap ++ s) = skipBlanks s :=
  List.dropWhile_append_of_pos fun c hc => (isBlank_iff c).mpr (h c hc)

theorem skipBlanks_cons {c : Char} (hc : isBlank c = false) (s : List Char) :
    skipBlanks (c :: s) = c :: s := List.dropWhile_cons_of_neg (by simp [hc])

theorem skipBlanks_gap {gap : List Char} (h : IsGap gap) {c : Char} (hc : isBlank c = false)
    (s : List Char) : skipBlanks (gap ++ c :: s) = c :: s :=
  (skipBlanks_append h _).trans (skipBlanks_cons hc s)

theorem fourDigits?_append {digits : List Char} {n : Nat} (h : IsCodeUnit digits n)
    {rest : List Char} (hrest : rest ≠ []) : fourDigits? (digits ++ rest) = some (n, rest) := by
  obtain ⟨hlen, hn⟩ := h
  obtain ⟨a, b, c, d, rfl⟩ := List.length_eq_four.mp hlen
  obtain ⟨e, rest, rfl⟩ := List.exists_cons_of_ne_nil hrest
  have hvalue := (foldlM_hexValue?_eq_some_iff _ n).mpr hn
  simp only [List.cons_append, List.nil_append, fourDigits?, hvalue]
  rfl

theorem isHighSurrogate_toNat (c : Char) : isHighSurrogate c.toNat = false := by
  have hvalid : c.toNat < 0xd800 ∨ 0xdfff < c.toNat ∧ c.toNat < 0x110000 := c.valid
  rw [isHighSurrogate, beq_eq_false_iff_ne]
  omega

theorem codePoint_toNat (c : Char) : codePoint c.toNat = .inl c := by
  have hvalid : c.toNat.isValidChar := c.valid
  rw [codePoint, if_pos hvalid, Char.ofNat_toNat]

theorem unicodeEscape_numeric {digits : List Char} {c : Char} (h : IsCodeUnit digits c.toNat)
    {rest : List Char} (hrest : rest ≠ []) :
    unicodeEscape (digits ++ rest) = .ok (.inl c, rest) := by
  rw [unicodeEscape, fourDigits?_append h hrest]
  dsimp only
  split
  · rw [isHighSurrogate_toNat, Bool.false_and, if_neg Bool.false_ne_true, codePoint_toNat]
  · rw [codePoint_toNat]

theorem unicodeEscape_pair {high low : List Char} {c : Char} (hplane : 0x10000 ≤ c.toNat)
    (hhigh : IsCodeUnit high (0xd800 + (c.toNat - 0x10000) / 0x400))
    (hlow : IsCodeUnit low (0xdc00 + (c.toNat - 0x10000) % 0x400))
    {rest : List Char} (hrest : rest ≠ []) :
    unicodeEscape (high ++ '\\' :: 'u' :: (low ++ rest)) = .ok (.inl c, rest) := by
  have hvalid : c.toNat < 0xd800 ∨ 0xdfff < c.toNat ∧ c.toNat < 0x110000 := c.valid
  have hfirst : isHighSurrogate (0xd800 + (c.toNat - 0x10000) / 0x400) = true := by
    rw [isHighSurrogate, beq_iff_eq]
    omega
  have hsecond : isLowSurrogate (0xdc00 + (c.toNat - 0x10000) % 0x400) = true := by
    rw [isLowSurrogate, beq_iff_eq]
    omega
  have hlong : 4 < (low ++ rest).length := by
    have := List.length_pos_of_ne_nil hrest
    rw [List.length_append, hlow.1]
    omega
  have hsum : 0x10000 + (0xd800 + (c.toNat - 0x10000) / 0x400 - 0xd800) * 0x400 +
      (0xdc00 + (c.toNat - 0x10000) % 0x400 - 0xdc00) = c.toNat := by omega
  rw [unicodeEscape, fourDigits?_append hhigh (by simp)]
  dsimp only
  split
  next heq =>
    obtain ⟨-, hlow'⟩ := List.cons.inj heq
    obtain rfl := (List.cons.inj hlow').2
    rw [hfirst, Bool.true_and, if_pos (decide_eq_true hlong), fourDigits?_append hlow hrest]
    dsimp only
    rw [if_pos hsecond, hsum, Char.ofNat_toNat]
  next hne => exact absurd rfl (hne _)

theorem shortEscape?_of_mem {e c : Char} (h : (e, c) ∈ shortEscapes) :
    shortEscape? e = some c ∧ e ≠ 'u' := by
  have hall : ∀ p ∈ shortEscapes, shortEscape? p.1 = some p.2 ∧ p.1 ≠ 'u' := by decide
  exact hall (e, c) h

section

variable (start fuel : Nat) (done : List Char)

theorem readString_close (rest : List Char) :
    readString start (fuel + 1) done ('"' :: rest) = .ok (String.ofList done.reverse, rest) := rfl

theorem readString_escape {e c : Char} (h : shortEscape? e = some c) (hu : e ≠ 'u')
    (rest : List Char) :
    readString start (fuel + 1) done ('\\' :: e :: rest) =
      readString start fuel (c :: done) rest := by
  rw [readString.eq_def]
  dsimp only
  rw [if_neg (by decide), if_pos rfl]
  split
  next heq => cases heq
  next heq => exact absurd (List.cons.inj heq).1 hu
  next heq =>
    obtain ⟨rfl, rfl⟩ := List.cons.inj heq
    rw [h]

theorem readString_unicodeEscape {s rest : List Char} {c : Char}
    (h : unicodeEscape s = .ok (.inl c, rest)) :
    readString start (fuel + 1) done ('\\' :: 'u' :: s) =
      readString start fuel (c :: done) rest := by
  rw [readString.eq_def]
  dsimp only
  rw [if_neg (by decide), if_pos rfl]
  split
  next heq => cases heq
  next heq =>
    obtain ⟨-, rfl⟩ := List.cons.inj heq
    rw [h]
  next hne heq =>
    obtain ⟨rfl, -⟩ := List.cons.inj heq
    exact (hne rfl).elim

/-- Each spelling is read as one character. -/
theorem readString_spelling {part : List Char} {c : Char} (h : SpellsChar part c)
    {rest : List Char} (hrest : rest ≠ []) :
    readString start (fuel + 1) done (part ++ rest) = readString start fuel (c :: done) rest := by
  cases h with
  | plain hcontrol hquote hescape =>
    rw [List.singleton_append, readString.eq_def]
    dsimp only
    rw [if_neg hquote, if_neg hescape, if_neg (Nat.not_lt.mpr hcontrol)]
  | short h =>
    obtain ⟨hvalue, hu⟩ := shortEscape?_of_mem h
    exact readString_escape start fuel done hvalue hu rest
  | numeric h =>
    exact readString_unicodeEscape start fuel done (unicodeEscape_numeric h hrest)
  | pair hplane hhigh hlow =>
    rw [List.cons_append, List.cons_append, List.append_assoc, List.cons_append, List.cons_append]
    exact readString_unicodeEscape start fuel done (unicodeEscape_pair hplane hhigh hlow hrest)

end

theorem readString_parts {parts : List (List Char)} {cs : List Char}
    (h : List.Forall₂ SpellsChar parts cs) (start : Nat) {fuel : Nat} (hfuel : cs.length < fuel)
    (done rest : List Char) :
    readString start fuel done (parts.flatten ++ '"' :: rest) =
      .ok (String.ofList (done.reverse ++ cs), rest) := by
  induction h generalizing fuel done with
  | nil =>
    obtain ⟨fuel, rfl⟩ := Nat.exists_eq_succ_of_ne_zero (Nat.ne_zero_of_lt hfuel)
    rw [List.flatten_nil, List.nil_append, readString_close, List.append_nil]
  | cons hpart _ ih =>
    obtain ⟨fuel, rfl⟩ := Nat.exists_eq_succ_of_ne_zero (Nat.ne_zero_of_lt hfuel)
    rw [List.flatten_cons, List.append_assoc, readString_spelling _ _ _ hpart (by simp),
      ih (Nat.lt_of_succ_lt_succ hfuel), List.reverse_cons, List.append_assoc,
      List.singleton_append]

theorem length_le_of_spellsChar {parts : List (List Char)} {cs : List Char}
    (h : List.Forall₂ SpellsChar parts cs) : cs.length ≤ parts.flatten.length := by
  induction h with
  | nil => exact Nat.le_refl 0
  | @cons part c parts cs hpart _ ih =>
    have hpos : 0 < part.length := List.length_pos_of_ne_nil hpart.ne_nil
    rw [List.flatten_cons, List.length_append, List.length_cons]
    omega

/-- A string is read to its closing quote. -/
theorem readString_of_spellsString {s : List Char} {t : String} (h : SpellsString s t)
    (rest : List Char) : ∃ r, s ++ rest = '"' :: r ∧
      readString (s ++ rest).length (s ++ rest).length [] r = .ok (t, rest) := by
  obtain ⟨parts, hparts, rfl⟩ := h
  refine ⟨parts.flatten ++ '"' :: rest, by simp, ?_⟩
  rw [readString_parts hparts]
  · rw [List.reverse_nil, List.nil_append, String.ofList_toList]
  · have := length_le_of_spellsChar hparts
    simp only [List.cons_append, List.append_assoc, List.length_cons, List.length_append]
    omega

/-- What may stand behind a value: nothing, white space, or a sign that ends an item. -/
def EndsValue (rest : List Char) : Prop :=
  ∀ c ∈ rest.head?, c = ' ' ∨ c = '\t' ∨ c = '\n' ∨ c = '\r' ∨ c = ',' ∨ c = ']' ∨ c = '\x7d'

theorem not_isDigit_of_endsValue {rest : List Char} (h : EndsValue rest) :
    ∀ c ∈ rest.head?, c.isDigit = false ∧ c ≠ '.' ∧ c ≠ 'e' ∧ c ≠ 'E' := by
  intro c hc
  obtain rfl | rfl | rfl | rfl | rfl | rfl | rfl := h c hc <;> decide

theorem isDigit_of_mem_toDigits {n : Nat} {c : Char} (h : c ∈ Nat.toDigits 10 n) : c.isDigit :=
  Nat.isDigit_of_mem_toDigits (by decide) (by decide) h

/-- Zero alone starts with a zero. -/
theorem head?_toDigits (n : Nat) (h : 0 < n) : (Nat.toDigits 10 n).head? ≠ some '0' := by
  induction n using Nat.strong_induction_on with
  | _ n ih =>
    by_cases hn : n < 10
    · rw [Nat.toDigits_of_lt_base hn, List.head?_cons, ne_eq, Option.some.injEq]
      have hall : ∀ k < 10, 0 < k → Nat.digitChar k ≠ '0' := by decide
      exact hall n hn h
    · rw [Nat.toDigits_of_base_le (by decide) (Nat.le_of_not_lt hn), List.head?_append_of_ne_nil]
      · exact ih (n / 10) (by omega) (by omega)
      · exact Nat.toDigits_ne_nil

theorem wholeDigits_toDigits (n : Nat) {rest : List Char}
    (hrest : ∀ c ∈ rest.head?, c.isDigit = false) :
    wholeDigits (Nat.toDigits 10 n ++ rest) = Nat.toDigits 10 n := by
  obtain rfl | hn := Nat.eq_zero_or_pos n
  · rfl
  · obtain ⟨d, ds, hds⟩ := List.exists_cons_of_ne_nil (Nat.toDigits_ne_nil (b := 10) (n := n))
    have hzero := head?_toDigits n hn
    rw [hds, List.head?_cons, ne_eq, Option.some.injEq] at hzero
    have htake : rest.takeWhile Char.isDigit = [] := by
      cases rest with
      | nil => rfl
      | cons c rest => exact List.takeWhile_cons_of_neg (by simp [hrest c rfl])
    unfold wholeDigits
    split
    next heq =>
      rw [hds, List.cons_append] at heq
      exact absurd (List.cons.inj heq).1 hzero
    · rw [List.takeWhile_append_of_pos fun c hc => isDigit_of_mem_toDigits hc, htake,
        List.append_nil]

theorem ofDigits_toDigits (n : Nat) : Decimal.ofDigits (Nat.toDigits 10 n) = n :=
  Nat.ofDigitChars_eq_foldl.symm.trans Nat.ofDigitChars_ten_toDigits

theorem readUnsigned_toDigits (negative : Bool) {n : Nat}
    (hlen : (Nat.toDigits 10 n).length ≤ maxDigits) {rest : List Char} (hrest : EndsValue rest) :
    readUnsigned negative (Nat.toDigits 10 n ++ rest) =
      .ok (.int (if negative then -n else n), rest) := by
  have hend := not_isDigit_of_endsValue hrest
  have hfraction : readFraction rest = ([], rest) := by
    unfold readFraction
    split
    · exact absurd rfl (hend '.' rfl).2.1
    · rfl
  have hexponent : readExponent? rest = none := by
    cases rest with
    | nil => rfl
    | cons c rest => simp [readExponent?, (hend c rfl).2.2.1, (hend c rfl).2.2.2]
  rw [readUnsigned, wholeDigits_toDigits n fun c hc => (hend c hc).1, List.drop_left, hfraction]
  dsimp only
  rw [hexponent]
  dsimp only
  rw [if_neg (by simp), if_neg (Nat.not_lt.mpr hlen), ofDigits_toDigits]

theorem readNumber_of_spellsInt {s : List Char} {i : Int} (h : SpellsInt s i) {rest : List Char}
    (hrest : EndsValue rest) : readNumber (s ++ rest) = .ok (.int i, rest) := by
  have hwhole (n : Nat) : ¬(wholeDigits (Nat.toDigits 10 n ++ rest)).isEmpty := by
    rw [wholeDigits_toDigits n fun c hc => (not_isDigit_of_endsValue hrest c hc).1,
      List.isEmpty_iff]
    exact Nat.toDigits_ne_nil
  cases h with
  | @natural n hlen =>
    have hsign : (Nat.toDigits 10 n ++ rest).head? ≠ some '-' := by
      rw [List.head?_append_of_ne_nil _ Nat.toDigits_ne_nil]
      intro hminus
      exact absurd (isDigit_of_mem_toDigits (List.mem_of_mem_head? hminus)) (by decide)
    simp only [readNumber, hsign, decide_false, Bool.false_eq_true, if_false, hwhole n]
    exact readUnsigned_toDigits false hlen hrest
  | @negative n hlen =>
    simp only [readNumber, List.cons_append, List.head?_cons, decide_true, if_true,
      List.drop_succ_cons, List.drop_zero, hwhole n]
    exact readUnsigned_toDigits true hlen hrest

end SlideDeck.Json
