import SlideDeck.Proofs.Drawing.Numerals
import SlideDeck.Proofs.Drawing.Shapes

/-!
Which texts are colors. Six hexadecimal digits behind number signs always are; so is every text
whose first two characters, next two and others are numerals, since only these are looked at. No
text with a surrogate is one.
-/

namespace SlideDeck.Drawing

open Text

variable {s : CodePoints} {c : Color}

/-- The text of an option for a color: the option itself, or the color of an object. -/
def IsColorText (v : Json.Value) (s : CodePoints) : Prop :=
  v = .string s ∨ ∃ o, v = .object o ∧ Json.Object.get? o "color" = some (.string s)

/-- Six hexadecimal digits behind number signs. -/
def IsSixDigits (s : CodePoints) (digits : List Char) : Prop :=
  s.rest = [] ∧ (∃ marks, s.start.toList = List.replicate marks '#' ++ digits) ∧
    digits.length = 6 ∧ ∀ d ∈ digits, IsHexDigit d

/-- What the numbers of a color are read from. -/
def colorDigits (s : CodePoints) : List Char := upper (s.start.toList.dropWhile (· == '#'))

/-- Three numerals, of which the first two have two characters each. -/
def IsLooseColor (s : CodePoints) (c : Color) : Prop :=
  s.rest = [] ∧ ∃ red green blue, colorDigits s = red ++ (green ++ blue) ∧ red.length = 2 ∧
    green.length = 2 ∧ IsNumeral red c.red.toNat ∧ IsNumeral green c.green.toNat ∧
    IsNumeral blue c.blue.toNat

theorem colorText?_eq_some_iff (v : Json.Value) (s : CodePoints) :
    colorText? v = some s ↔ IsColorText v s := by
  unfold IsColorText
  cases v with
  | null | bool b | int i | float x | array vs => simp [colorText?]
  | string t => simp [colorText?]
  | object o =>
    simp only [colorText?, reduceCtorEq, Json.Value.object.injEq, false_or, exists_eq_left']
    cases Json.Object.get? o "color" with
    | none => simp
    | some w => cases w <;> simp

theorem not_isNumeral_nil (n : Int) : ¬IsNumeral [] n := by
  rw [← number?_eq_some_iff]
  rintro ⟨⟩

theorem ofDigits?_eq_some_iff (s : List Char) (c : Color) :
    Color.ofDigits? s = some c ↔ component? (s.take 2) = some c.red ∧
      component? ((s.drop 2).take 2) = some c.green ∧ component? (s.drop 4) = some c.blue := by
  unfold Color.ofDigits?
  simp only [Option.bind_eq_bind, Option.bind_eq_some_iff, Option.pure_def, Option.some.injEq]
  constructor
  · rintro ⟨red, hr, green, hg, blue, hb, rfl⟩
    exact ⟨hr, hg, hb⟩
  · rintro ⟨hr, hg, hb⟩
    exact ⟨_, hr, _, hg, _, hb, rfl⟩

theorem ofText?_eq_some_iff (s : String) (c : Color) :
    Color.ofText? s = some c ↔ IsLooseColor s c := by
  rw [IsLooseColor, and_iff_right rfl, Color.ofText?, ofDigits?_eq_some_iff,
    component?_eq_some_iff, component?_eq_some_iff, component?_eq_some_iff]
  change IsNumeral ((colorDigits s).take 2) _ ∧ IsNumeral (((colorDigits s).drop 2).take 2) _ ∧
    IsNumeral ((colorDigits s).drop 4) _ ↔ _
  constructor
  · rintro ⟨hr, hg, hb⟩
    have hlong : 4 < (colorDigits s).length := by
      by_contra h
      rw [List.drop_eq_nil_of_le (Nat.le_of_not_lt h)] at hb
      exact not_isNumeral_nil _ hb
    refine ⟨_, _, _, ?_, ?_, ?_, hr, hg, hb⟩
    · rw [← List.drop_drop (i := 2) (j := 2), List.take_append_drop, List.take_append_drop]
    · simp only [List.length_take]
      omega
    · simp only [List.length_take, List.length_drop]
      omega
  · rintro ⟨red, green, blue, hs, hred, hgreen, hr, hg, hb⟩
    have hrest : (colorDigits s).drop 2 = green ++ blue := by rw [hs, ← hred, List.drop_left]
    have hlast : (colorDigits s).drop 4 = blue := by
      rw [← List.drop_drop (i := 2) (j := 2), hrest, ← hgreen, List.drop_left]
    rw [hrest, hlast]
    refine ⟨?_, ?_, hb⟩
    · rwa [hs, ← hred, List.take_left]
    · rwa [← hgreen, List.take_left]

theorem named?_eq_some_iff (s : CodePoints) (c : Color) :
    Color.named? s = some c ↔ IsLooseColor s c := by
  obtain ⟨start, rest⟩ := s
  cases rest with
  | nil => exact ofText?_eq_some_iff start c
  | cons surrogate rest => exact iff_of_false (by rintro ⟨⟩) fun h => List.cons_ne_nil _ _ h.1

theorem dropWhile_marks {body : List Char} {marks : Nat}
    (hs : s.start.toList = List.replicate marks '#' ++ body) (hbody : '#' ∉ body) :
    s.start.toList.dropWhile (· == '#') = body := by
  rw [hs, List.dropWhile_append_of_pos]
  · refine List.dropWhile_eq_self_iff.mpr fun hlen hmark => hbody ?_
    rw [beq_iff_eq] at hmark
    exact hmark ▸ List.getElem_mem hlen
  · intro x hx
    rw [List.eq_of_mem_replicate hx]
    rfl

theorem text_toList (c : Color) : c.text.toList =
    componentDigits c.red ++ (componentDigits c.green ++ componentDigits c.blue) := by
  simp [Color.text, componentDigits]

/-- Two digits are the digits of a component. -/
theorem exists_componentDigits {a b : Char} (ha : IsHexDigit a) (hb : IsHexDigit b) :
    ∃ n, componentDigits n = [a.toUpper, b.toUpper] := by
  have hdigit {d : Char} (hd : IsHexDigit d) : ∃ i : Fin 16, d.toUpper = (hexDigit i).toUpper :=
    forall_ascii (P := fun d => IsHexDigit d → ∃ i : Fin 16, d.toUpper = (hexDigit i).toUpper)
      (by decide) hd.toNat_lt hd
  have hpair : ∀ i j : Fin 16, componentDigits (UInt8.ofNat (16 * i + j)) =
      [(hexDigit i).toUpper, (hexDigit j).toUpper] := by decide
  obtain ⟨i, hi⟩ := hdigit ha
  obtain ⟨j, hj⟩ := hdigit hb
  exact ⟨_, by rw [hpair i j, hi, hj]⟩

theorem exists_color_of_isSixDigits {digits : List Char} (h : IsSixDigits s digits) :
    ∃ c, Color.named? s = some c ∧ c.text = String.ofList (digits.map Char.toUpper) := by
  obtain ⟨start, rest⟩ := s
  obtain ⟨rfl, ⟨marks, hs⟩, hlen, hhex⟩ := h
  have hupper := upper_of_ascii fun d hd => (hhex d hd).toNat_lt
  obtain ⟨a, b, a', hfront⟩ : ∃ a b a', digits.take 3 = [a, b, a'] :=
    List.length_eq_three.mp (by simp [hlen])
  obtain ⟨b', a'', b'', hback⟩ : ∃ b' a'' b'', digits.drop 3 = [b', a'', b''] :=
    List.length_eq_three.mp (by simp [hlen])
  obtain rfl : digits = [a, b, a', b', a'', b''] := by
    rw [← List.take_append_drop 3 digits, hfront, hback]
    rfl
  simp only [List.forall_mem_cons] at hhex
  obtain ⟨ha, hb, ha', hb', ha'', hb'', -⟩ := hhex
  obtain ⟨red, hred⟩ := exists_componentDigits ha hb
  obtain ⟨green, hgreen⟩ := exists_componentDigits ha' hb'
  obtain ⟨blue, hblue⟩ := exists_componentDigits ha'' hb''
  have htext : (⟨red, green, blue⟩ : Color).text.toList =
      [a, b, a', b', a'', b''].map Char.toUpper := by
    rw [text_toList, hred, hgreen, hblue]
    rfl
  refine ⟨⟨red, green, blue⟩, ofText?_of_digits hs (hupper.trans htext.symm), ?_⟩
  rw [← htext, String.ofList_toList]

theorem mapM_plainCharacter? {t : List Char} (h : ∀ d ∈ t, d.toNat < 128) :
    t.mapM plainCharacter? = some t := by
  induction t with
  | nil => rfl
  | cons d t ih =>
    rw [List.forall_mem_cons] at h
    rw [List.mapM_cons, ih h.2, plainCharacter?, if_pos h.1]
    rfl

/-- A numeral of letters and digits has no white space, no sign and no underscore. -/
theorem IsNumeral.of_isAlphanum {t : List Char} {n : Int} (ht : ∀ d ∈ t, d.isAlphanum)
    (h : IsNumeral t n) : ∃ m, IsUnsigned t m ∧ ∀ d ∈ t, d ≠ '_' := by
  obtain ⟨front, core, back, hplain, hfront, hback, hcore⟩ := h
  rw [mapM_plainCharacter? fun d hd => toNat_lt_of_isAlphanum (ht d hd),
    Option.some.injEq] at hplain
  have hspace {d : Char} (hd : d ∈ t) : isAsciiSpace d = false :=
    forall_ascii (P := fun d => d.isAlphanum → isAsciiSpace d = false) (by decide)
      (toNat_lt_of_isAlphanum (ht d hd)) (ht d hd)
  have hempty {part : List Char} (hpart : part.all isAsciiSpace) (hsub : part ⊆ t) : part = [] := by
    rw [List.eq_nil_iff_forall_not_mem]
    intro d hd
    have hd' := List.all_eq_true.mp hpart d hd
    rw [hspace (hsub hd)] at hd'
    cases hd'
  obtain rfl := hempty hfront (by rw [hplain]; simp)
  obtain rfl := hempty hback (by rw [hplain]; simp)
  rw [List.nil_append, List.append_nil] at hplain
  subst hplain
  have hne {d : Char} (hd : d.isAlphanum = false) : d ∉ t := fun hmem => by
    rw [ht d hmem] at hd
    cases hd
  cases hcore with
  | plain h =>
    refine ⟨_, h, ?_⟩
    rintro _ hd rfl
    exact hne rfl hd
  | plus h | minus h => exact absurd List.mem_cons_self (hne rfl)

theorem isHexDigit_of_isAlphanum {t : List Char} {n : Int} (ht : ∀ d ∈ t, d.isAlphanum)
    (hlen : t.length = 2) (h : IsNumeral t n) : ∀ d ∈ t, IsHexDigit d := by
  obtain ⟨m, hm, hbar⟩ := h.of_isAlphanum ht
  cases hm with
  | plain h => exact fun d hd => (h.mem hd).resolve_right (hbar d hd)
  | marked _ h =>
    obtain rfl := List.length_eq_zero_iff.mp (Nat.succ.inj (Nat.succ.inj hlen))
    exact (h.ne_nil rfl).elim
  | joined _ h => cases hlen

/-- Six letters and digits of ASCII are a color only if all are hexadecimal digits. -/
theorem isSixDigits_of_isLooseColor {marks : Nat} {body : List Char}
    (hs : s.start.toList = List.replicate marks '#' ++ body) (hlen : body.length = 6)
    (halpha : ∀ d ∈ body, d.isAlphanum) (h : IsLooseColor s c) : IsSixDigits s body := by
  have hascii : ∀ d ∈ body, d.toNat < 128 := fun d hd => toNat_lt_of_isAlphanum (halpha d hd)
  have hmark : '#' ∉ body := fun hmem => absurd (halpha _ hmem) (by decide)
  obtain ⟨hplain, red, green, blue, hbody, hred, hgreen, hr, hg, hb⟩ := h
  rw [colorDigits, dropWhile_marks hs hmark, upper_of_ascii hascii] at hbody
  have hblue : blue.length = 2 := by
    have := congrArg List.length hbody
    simp only [List.length_map, List.length_append] at this
    omega
  have hupper : ∀ d ∈ red ++ (green ++ blue), d.isAlphanum := by
    rw [← hbody, List.forall_mem_map]
    exact fun d hd => forall_ascii (P := fun d => d.isAlphanum → d.toUpper.isAlphanum)
      (by decide) (hascii d hd) (halpha d hd)
  have hhex : ∀ d ∈ red ++ (green ++ blue), IsHexDigit d := by
    simp only [List.forall_mem_append] at hupper ⊢
    exact ⟨isHexDigit_of_isAlphanum hupper.1 hred hr,
      isHexDigit_of_isAlphanum hupper.2.1 hgreen hg, isHexDigit_of_isAlphanum hupper.2.2 hblue hb⟩
  refine ⟨hplain, ⟨marks, hs⟩, hlen, fun d hd => ?_⟩
  rw [← hbody, List.forall_mem_map] at hhex
  exact forall_ascii (P := fun d => IsHexDigit d.toUpper → IsHexDigit d) (by decide)
    (hascii d hd) (hhex d hd)

/-- Six letters or digits behind number signs. -/
def IsSixCharacters (s : CodePoints) : Prop :=
  ∃ marks body, s.start.toList = List.replicate marks '#' ++ body ∧ body.length = 6 ∧
    ∀ d ∈ body, d.isAlphanum

section

variable {ε : Type} {v : Json.Value}

theorem colorOption_of_not_isColorText (h : ∀ s, ¬IsColorText v s) :
    (colorOption v : Logged ε (Option Color)) = ⟨[], .ok none⟩ := by
  have htext : colorText? v = none :=
    Option.eq_none_iff_forall_ne_some.mpr fun s hs => h s ((colorText?_eq_some_iff v s).mp hs)
  rw [colorOption, htext]
  rfl

theorem colorOption_of_isColorText (h : IsColorText v s) :
    (colorOption v : Logged ε (Option Color)) =
      ⟨if (Color.named? s).isSome then [] else [.invalidColor s], .ok (Color.named? s)⟩ := by
  rw [colorOption, (colorText?_eq_some_iff v s).mpr h]
  dsimp only
  cases Color.named? s <;> rfl

end

/-- An option without a text is no color, and nothing is said of it. A text of six hexadecimal
digits behind number signs is the color with these digits. Any other text is a color only if it is
loosely one, which six other letters and digits never are; it is reported otherwise. -/
theorem colorOption_returns {ε : Type} (v : Json.Value) :
    ((∀ s, ¬IsColorText v s) → (colorOption v : Logged ε (Option Color)) = ⟨[], .ok none⟩) ∧
    ∀ s, IsColorText v s →
      (∀ digits, IsSixDigits s digits → ∃ c, c.text = String.ofList (digits.map Char.toUpper) ∧
        (colorOption v : Logged ε (Option Color)) = ⟨[], .ok (some c)⟩) ∧
      (∀ c, (colorOption v : Logged ε (Option Color)) = ⟨[], .ok (some c)⟩ ↔ IsLooseColor s c) ∧
      ((colorOption v : Logged ε (Option Color)) = ⟨[.invalidColor s], .ok none⟩ ↔
        ∀ c, ¬IsLooseColor s c) ∧
      (IsSixCharacters s → ∀ c, IsLooseColor s c → ∃ digits, IsSixDigits s digits) := by
  refine ⟨colorOption_of_not_isColorText, fun s hs => ?_⟩
  rw [colorOption_of_isColorText hs]
  refine ⟨fun digits hdigits => ?_, fun c => ?_, ?_, ?_⟩
  · obtain ⟨c, hc, htext⟩ := exists_color_of_isSixDigits hdigits
    exact ⟨c, htext, by rw [hc]; rfl⟩
  · rw [← named?_eq_some_iff]
    cases Color.named? s <;> simp
  · simp only [← named?_eq_some_iff]
    cases Color.named? s <;> simp
  · rintro ⟨marks, body, hbody, hlen, halpha⟩ c hc
    exact ⟨body, isSixDigits_of_isLooseColor hbody hlen halpha hc⟩

/-- Five digits are taken for a color, the last one alone for the third number. -/
theorem not_forall_colorOption_isSixDigits :
    ¬∀ v s c, IsColorText v s → (colorOption v : Logged Unit (Option Color)) = ⟨[], .ok (some c)⟩ →
      ∃ digits, IsSixDigits s digits := by
  intro h
  have hcolor : (colorOption (.string "12345") : Logged Unit (Option Color)) =
      ⟨[], .ok (some ⟨0x12, 0x34, 0x05⟩)⟩ := by
    have htext : Color.named? "12345" = some ⟨0x12, 0x34, 0x05⟩ := by decide +kernel
    rw [colorOption_of_isColorText (.inl rfl), htext]
    rfl
  obtain ⟨digits, -, ⟨marks, hs⟩, hlen, -⟩ := h _ "12345" _ (.inl rfl) hcolor
  have hlist : "12345".toList = ['1', '2', '3', '4', '5'] := rfl
  have hlong := congrArg List.length (hlist.symm.trans hs)
  rw [List.length_append, List.length_replicate, hlen] at hlong
  simp only [List.length_cons, List.length_nil] at hlong
  omega

end SlideDeck.Drawing
