import SlideDeck.Proofs.Json.Tokens

/-!
Every text of a value is read as that value, whatever stands behind it.
-/

namespace SlideDeck.Json

open Text (CodePoints)

/-- A number starts with a digit, behind its sign if it has one. -/
theorem SpellsInt.exists_cons {s : List Char} {i : Int} (h : SpellsInt s i) :
    ∃ d r, d.isDigit ∧ (s = d :: r ∨ s = '-' :: d :: r) := by
  have hdigits (n : Nat) : ∃ d r, d.isDigit ∧ Nat.toDigits 10 n = d :: r := by
    obtain ⟨d, r, hdr⟩ := List.exists_cons_of_ne_nil (Nat.toDigits_ne_nil (b := 10) (n := n))
    exact ⟨d, r, isDigit_of_mem_toDigits (n := n) (hdr ▸ List.mem_cons_self), hdr⟩
  cases h with
  | @natural n =>
    obtain ⟨d, r, hd, hdr⟩ := hdigits n
    exact ⟨d, r, hd, .inl hdr⟩
  | @negative n =>
    obtain ⟨d, r, hd, hdr⟩ := hdigits n
    exact ⟨d, r, hd, .inr (congrArg _ hdr)⟩

theorem ne_of_isDigit {c d : Char} (hc : c.isDigit) (hd : d.isDigit = false) : c ≠ d := by
  rintro rfl
  rw [hd] at hc
  cases hc

/-- A value starts with a character that counts and closes nothing. -/
theorem Spells.exists_cons {s : List Char} {v : Value} (h : Spells s v) :
    ∃ c r, s = c :: r ∧ isBlank c = false ∧ c ∉ [']', '\x7d', '\ufeff'] := by
  have hfirst {c : Char} (r : List Char) (hc : isBlank c = false ∧ c ∉ [']', '\x7d', '\ufeff']) :
      ∃ c' r', c :: r = c' :: r' ∧ isBlank c' = false ∧ c' ∉ [']', '\x7d', '\ufeff'] :=
    ⟨c, r, rfl, hc⟩
  cases h with
  | null => exact hfirst _ (by decide)
  | bool b => cases b <;> exact hfirst _ (by decide)
  | string h =>
    obtain ⟨parts, -, rfl⟩ := h
    exact hfirst _ (by decide)
  | noItems | items | noMembers | members => exact hfirst _ (by decide)
  | int h =>
    obtain ⟨d, r, hd, rfl | rfl⟩ := h.exists_cons
    · have hne {c : Char} (hc : c.isDigit = false) : d ≠ c := ne_of_isDigit hd hc
      refine hfirst _ ⟨?_, ?_⟩
      · simp [isBlank, hne (c := ' ') rfl, hne (c := '\t') rfl, hne (c := '\n') rfl,
          hne (c := '\r') rfl]
      · simp [hne (c := ']') rfl, hne (c := '\x7d') rfl, hne (c := '\ufeff') rfl]
    · exact hfirst _ (by decide)

/-- No word starts as a number does. -/
theorem find?_words_of_spellsInt {s : List Char} {i : Int} (h : SpellsInt s i) (rest : List Char) :
    (words.find? fun w => w.1.isPrefixOf (s ++ rest)) = none := by
  obtain ⟨d, r, hd, rfl | rfl⟩ := h.exists_cons
  · have hne {c : Char} (hc : c.isDigit = false) : c ≠ d := (ne_of_isDigit hd hc).symm
    simp [words, hne (c := 'n') rfl, hne (c := 't') rfl, hne (c := 'f') rfl, hne (c := 'N') rfl,
      hne (c := 'I') rfl, hne (c := '-') rfl]
  · have hne : 'I' ≠ d := (ne_of_isDigit hd rfl).symm
    simp [words, hne]

theorem readValue_int {s : List Char} {i : Int} (h : SpellsInt s i) (fuel : Nat)
    {rest : List Char} (hrest : EndsValue rest) :
    readValue (fuel + 1) (s ++ rest) = .ok (.int i, rest) := by
  have hfirst : ∀ c r, s ++ rest = c :: r → c ≠ '"' ∧ c ≠ '\x7b' ∧ c ≠ '[' := by
    rintro c r hs
    obtain ⟨d, t, hd, rfl | rfl⟩ := h.exists_cons <;> obtain ⟨rfl, -⟩ := List.cons.inj hs
    · exact ⟨ne_of_isDigit hd rfl, ne_of_isDigit hd rfl, ne_of_isDigit hd rfl⟩
    · decide
  rw [readValue.eq_def]
  dsimp only
  split
  next heq => exact absurd rfl (hfirst _ _ heq).1
  next heq => exact absurd rfl (hfirst _ _ heq).2.1
  next heq => exact absurd rfl (hfirst _ _ heq).2.2
  next =>
    rw [find?_words_of_spellsInt h]
    exact readNumber_of_spellsInt h hrest

theorem readValue_string {s : List Char} {t : String} (h : SpellsString s t) (fuel : Nat)
    (rest : List Char) : readValue (fuel + 1) (s ++ rest) = .ok (.string t, rest) := by
  obtain ⟨r, hr, hread⟩ := readString_of_spellsString h rest
  rw [hr] at hread ⊢
  change (readString _ _ [] r).map _ = _
  rw [hread]
  rfl

theorem readValue_array {fuel : Nat} {r : List Char} (h : ∀ t, skipBlanks r ≠ ']' :: t) :
    readValue (fuel + 1) ('[' :: r) =
      (readItems fuel (skipBlanks r)).map fun (vs, r) => (.array vs, r) := by
  rw [readValue]
  split
  next heq => exact absurd heq (h _)
  next => rfl

theorem readValue_object {fuel : Nat} {r : List Char} (h : ∀ t, skipBlanks r ≠ '\x7d' :: t) :
    readValue (fuel + 1) ('\x7b' :: r) =
      (readMembers fuel [] (skipBlanks r)).map fun (o, r) => (.object o, r) := by
  rw [readValue]
  split
  next heq => exact absurd heq (h _)
  next => rfl

section

variable {fuel : Nat} {s r t : List Char} {v : Value}

theorem readItems_last (h : readValue fuel s = .ok (v, r)) (hr : skipBlanks r = ']' :: t) :
    readItems (fuel + 1) s = .ok ([v], t) := by
  simp only [readItems, h, bind, Except.bind, hr]

theorem readItems_more (h : readValue fuel s = .ok (v, r)) (hr : skipBlanks r = ',' :: t) :
    readItems (fuel + 1) s = (readItems fuel (skipBlanks t)).map fun (vs, r) => (v :: vs, r) := by
  simp only [readItems, h, bind, Except.bind, hr]
  cases readItems fuel (skipBlanks t) <;> rfl

variable {k gap : List Char} {key : String}

theorem readMembers_last (hkey : SpellsString k key) (hgap : IsGap gap)
    (h : readValue fuel (skipBlanks s) = .ok (v, r)) (hr : skipBlanks r = '\x7d' :: t)
    (done : Object) :
    readMembers (fuel + 1) done (k ++ (gap ++ ':' :: s)) = .ok (Object.set key v done, t) := by
  obtain ⟨q, hq, hread⟩ := readString_of_spellsString hkey (gap ++ ':' :: s)
  have hcolon : skipBlanks (gap ++ ':' :: s) = ':' :: s := skipBlanks_gap hgap (by decide) s
  rw [hq] at hread ⊢
  simp only [readMembers, hread, hcolon, h, hr, bind, Except.bind]

theorem readMembers_more (hkey : SpellsString k key) (hgap : IsGap gap)
    (h : readValue fuel (skipBlanks s) = .ok (v, r)) (hr : skipBlanks r = ',' :: t)
    (done : Object) :
    readMembers (fuel + 1) done (k ++ (gap ++ ':' :: s)) =
      readMembers fuel (Object.set key v done) (skipBlanks t) := by
  obtain ⟨q, hq, hread⟩ := readString_of_spellsString hkey (gap ++ ':' :: s)
  have hcolon : skipBlanks (gap ++ ':' :: s) = ':' :: s := skipBlanks_gap hgap (by decide) s
  rw [hq] at hread ⊢
  simp only [readMembers, hread, hcolon, h, hr, bind, Except.bind]

end

theorem Spells.skipBlanks_append {s : List Char} {v : Value} (h : Spells s v) (t : List Char) :
    skipBlanks (s ++ t) = s ++ t := by
  obtain ⟨c, r, rfl, hc, -⟩ := h.exists_cons
  exact skipBlanks_cons hc (r ++ t)

theorem skipBlanks_of_spellsString {s : List Char} {t : String} (h : SpellsString s t)
    (rest : List Char) : skipBlanks (s ++ rest) = s ++ rest := by
  obtain ⟨parts, -, rfl⟩ := h
  exact skipBlanks_cons (by decide) _

theorem endsValue_append {gap : List Char} (hgap : IsGap gap) {c : Char}
    (hc : c = ',' ∨ c = ']' ∨ c = '\x7d') (rest : List Char) : EndsValue (gap ++ c :: rest) := by
  cases gap with
  | nil =>
    rintro _ ⟨⟩
    exact .inr (.inr (.inr (.inr hc)))
  | cons d gap =>
    rintro _ ⟨⟩
    obtain h | h | h | h := hgap d List.mem_cons_self <;> simp [h]

/-! The three readers, with fuel for each character of a text. -/

def ReadsValues (fuel : Nat) : Prop :=
  ∀ s v rest, Spells s v → s.length ≤ fuel → EndsValue rest →
    readValue fuel (s ++ rest) = .ok (v, rest)

def ReadsMembers (fuel : Nat) : Prop :=
  ∀ s ms done rest, SpellsMembers s ms → s.length ≤ fuel →
    readMembers fuel done (skipBlanks (s ++ rest)) = .ok (setAll done ms, rest)

def ReadsItems (fuel : Nat) : Prop :=
  ∀ s vs rest, SpellsItems s vs → s.length ≤ fuel →
    readItems fuel (skipBlanks (s ++ rest)) = .ok (vs, rest)

section

variable {fuel : Nat}

/-- White space around a value does not count. -/
theorem ReadsValues.item (hv : ReadsValues fuel) {s : List Char} {v : Value} (h : SpellsItem s v)
    (hlen : s.length ≤ fuel) {c : Char} (hc : c = ',' ∨ c = ']' ∨ c = '\x7d') (rest : List Char) :
    ∃ r, readValue fuel (skipBlanks (s ++ c :: rest)) = .ok (v, r) ∧ skipBlanks r = c :: rest := by
  obtain @⟨front, s, back, v, hfront, h, hback⟩ := h
  have hblank : isBlank c = false := by obtain rfl | rfl | rfl := hc <;> decide
  refine ⟨back ++ c :: rest, ?_, skipBlanks_gap hback hblank rest⟩
  rw [List.append_assoc, List.append_assoc, skipBlanks_append hfront, h.skipBlanks_append]
  refine hv s v _ h ?_ (endsValue_append hback hc rest)
  simp only [List.length_append] at hlen
  omega

theorem ReadsItems.succ (hi : ReadsItems fuel) (hv : ReadsValues fuel) :
    ReadsItems (fuel + 1) := by
  intro s vs rest h hlen
  cases h with
  | @last s v h =>
    rw [List.length_append, List.length_singleton] at hlen
    obtain ⟨r, hread, hr⟩ := hv.item h (by omega) (.inr (.inl rfl)) rest
    rw [List.append_assoc]
    exact readItems_last hread hr
  | @more s t v vs h ht =>
    rw [List.length_append, List.length_cons] at hlen
    obtain ⟨r, hread, hr⟩ := hv.item h (by omega) (.inl rfl) (t ++ rest)
    rw [List.append_assoc]
    refine (readItems_more hread hr).trans ?_
    rw [hi t vs rest ht (by omega)]
    rfl

theorem ReadsMembers.succ (hm : ReadsMembers fuel) (hv : ReadsValues fuel) :
    ReadsMembers (fuel + 1) := by
  have hstart {front k gap s : List Char} {key : String} (hfront : IsGap front)
      (hkey : SpellsString k key) (t : List Char) :
      skipBlanks (front ++ (k ++ (gap ++ ':' :: s)) ++ t) = k ++ (gap ++ ':' :: (s ++ t)) := by
    rw [List.append_assoc, skipBlanks_append hfront, List.append_assoc, List.append_assoc,
      skipBlanks_of_spellsString hkey, List.cons_append]
  intro s ms done rest h hlen
  cases h with
  | last h =>
    obtain ⟨hfront, hkey, hgap, h⟩ := h
    simp only [List.length_append, List.length_cons, List.length_nil] at hlen
    obtain ⟨r, hread, hr⟩ := hv.item h (by omega) (.inr (.inr rfl)) rest
    rw [List.append_assoc, hstart hfront hkey]
    exact readMembers_last hkey hgap hread hr done
  | @more _ t _ ms h ht =>
    obtain ⟨hfront, hkey, hgap, h⟩ := h
    simp only [List.length_append, List.length_cons] at hlen
    obtain ⟨r, hread, hr⟩ := hv.item h (by omega) (.inl rfl) (t ++ rest)
    rw [List.append_assoc, hstart hfront hkey]
    refine (readMembers_more hkey hgap hread hr done).trans ?_
    exact hm t ms _ rest ht (by omega)

/-- Where the items of an array start stands no closing bracket. -/
theorem SpellsItems.skipBlanks_ne {s : List Char} {vs : List Value} (h : SpellsItems s vs)
    (rest t : List Char) : skipBlanks (s ++ rest) ≠ ']' :: t := by
  have hitem {s : List Char} {v : Value} (h : SpellsItem s v) (r : List Char) :
      skipBlanks (s ++ r) ≠ ']' :: t := by
    obtain ⟨hfront, h, -⟩ := h
    rw [List.append_assoc, List.append_assoc, skipBlanks_append hfront, h.skipBlanks_append]
    obtain ⟨c, r, rfl, -, hc⟩ := h.exists_cons
    exact fun heq => hc ((List.cons.inj heq).1 ▸ List.mem_cons_self)
  cases h <;> (rw [List.append_assoc]; exact hitem ‹_› _)

/-- Where the members of an object start stands no closing brace. -/
theorem SpellsMembers.skipBlanks_ne {s : List Char} {ms : List (CodePoints × Value)}
    (h : SpellsMembers s ms) (rest t : List Char) : skipBlanks (s ++ rest) ≠ '\x7d' :: t := by
  have hmember {s : List Char} {m : CodePoints × Value} (h : SpellsMember s m) (r : List Char) :
      skipBlanks (s ++ r) ≠ '\x7d' :: t := by
    obtain ⟨hfront, hkey, -, -⟩ := h
    rw [List.append_assoc, skipBlanks_append hfront, List.append_assoc,
      skipBlanks_of_spellsString hkey]
    obtain ⟨parts, -, rfl⟩ := hkey
    rintro ⟨⟩
  cases h <;> (rw [List.append_assoc]; exact hmember ‹_› _)

theorem readValue_close {gap : List Char} (hgap : IsGap gap) (rest : List Char) :
    readValue (fuel + 1) ('[' :: (gap ++ ']' :: rest)) = .ok (.array [], rest) ∧
      readValue (fuel + 1) ('\x7b' :: (gap ++ '\x7d' :: rest)) = .ok (.object [], rest) := by
  constructor
  · rw [readValue, skipBlanks_gap hgap (by decide)]
    rfl
  · rw [readValue, skipBlanks_gap hgap (by decide)]
    rfl

theorem ReadsValues.succ (hm : ReadsMembers fuel) (hi : ReadsItems fuel) :
    ReadsValues (fuel + 1) := by
  intro s v rest h hlen hrest
  cases h with
  | null => rfl
  | bool b => cases b <;> rfl
  | int h => exact readValue_int h fuel hrest
  | string h => exact readValue_string h fuel rest
  | noItems hgap =>
    rw [List.cons_append, List.append_assoc]
    exact (readValue_close hgap rest).1
  | @items s vs h =>
    rw [List.cons_append, readValue_array (h.skipBlanks_ne rest),
      hi s vs rest h (Nat.le_of_succ_le_succ hlen)]
    rfl
  | noMembers hgap =>
    rw [List.cons_append, List.append_assoc]
    exact (readValue_close hgap rest).2
  | @members s ms o h ho =>
    rw [List.cons_append, readValue_object (h.skipBlanks_ne rest),
      hm s ms [] rest h (Nat.le_of_succ_le_succ hlen), remains_iff.mp ho]
    rfl

end

/-- Each of the readers takes a character off before it calls another one, so that fuel for each
character is enough. -/
theorem reads_spelled (fuel : Nat) : ReadsValues fuel ∧ ReadsMembers fuel ∧ ReadsItems fuel := by
  induction fuel with
  | zero =>
    refine ⟨fun s v rest h hlen => ?_, fun s ms done rest h hlen => ?_, fun s vs rest h hlen => ?_⟩
    · obtain ⟨c, r, rfl, -⟩ := h.exists_cons
      cases hlen
    · cases h <;> simp at hlen
    · cases h <;> simp at hlen
  | succ fuel ih =>
    obtain ⟨hv, hm, hi⟩ := ih
    exact ⟨.succ hm hi, hm.succ hv, hi.succ hv⟩

/-- A text of a value is read as that value. -/
theorem parse_of_isTextOf {s : List Char} {v : Value} (h : IsTextOf s v) : parse s = .ok v := by
  obtain ⟨front, t, back, rfl, hfront, ht, hback⟩ := h
  have hmark : (front ++ (t ++ back)).head? ≠ some '\ufeff' := by
    cases front with
    | nil =>
      obtain ⟨c, r, rfl, -, hc⟩ := ht.exists_cons
      rintro ⟨⟩
      exact hc (by decide)
    | cons c front =>
      rintro ⟨⟩
      exact absurd (hfront _ List.mem_cons_self) (by decide)
  have hread : readValue (2 * (front ++ (t ++ back)).length + 1) (t ++ back) = .ok (v, back) := by
    refine (reads_spelled _).1 t v back ht ?_ ?_
    · simp only [List.length_append]
      omega
    · intro c hc
      obtain hc | hc | hc | hc := hback c (List.mem_of_mem_head? hc) <;> simp [hc]
  have hend : skipBlanks back = [] := by
    have := skipBlanks_append hback []
    rwa [List.append_nil] at this
  rw [parse, if_neg hmark, skipBlanks_append hfront, ht.skipBlanks_append, hread]
  simp only [bind, Except.bind, hend]

end SlideDeck.Json
