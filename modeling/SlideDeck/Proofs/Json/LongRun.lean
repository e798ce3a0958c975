import Mathlib.Data.List.TakeWhile
import SlideDeck.Json.Reader

/-!
What the reader refuses as a whole number too long to be read is there: the digits stand in the
text, since every reader leaves an end of the text it was given.
-/

namespace SlideDeck.Json

/-- A run of digits that is too long to be read as a whole number. -/
def HasLongRun (n : Nat) (s : List Char) : Prop :=
  maxDigits < n ∧ ∃ digits, digits <:+: s ∧ digits.length = n ∧ ∀ c ∈ digits, c.isDigit

/-- A reader leaves an end of the text it was given, and what it refuses as too long stands in that
text. -/
def Reads {α : Type} (s : List Char) : Except Failure (α × List Char) → Prop
  | .ok (_, r) => r <:+ s
  | .error (.longNumber n) => HasLongRun n s
  | .error (.fault _ _) => True

theorem HasLongRun.of_suffix {n : Nat} {r s : List Char} (h : HasLongRun n r) (hr : r <:+ s) :
    HasLongRun n s := by
  obtain ⟨hn, digits, hd, hlen, hall⟩ := h
  exact ⟨hn, digits, hd.trans hr.isInfix, hlen, hall⟩

theorem Reads.of_suffix {α : Type} {r s : List Char} {x : Except Failure (α × List Char)}
    (h : Reads r x) (hr : r <:+ s) : Reads s x := by
  obtain (f | n) | ⟨a, t⟩ := x
  · trivial
  · exact HasLongRun.of_suffix h hr
  · exact List.IsSuffix.trans h hr

theorem Reads.map {α β : Type} {s : List Char} {x : Except Failure (α × List Char)}
    (h : Reads s x) (f : α → β) : Reads s (x.map fun (a, r) => (f a, r)) := by
  rcases x with (_ | _) | ⟨a, r⟩ <;> exact h

theorem Reads.bind {α β : Type} {s : List Char} {x : Except Failure (α × List Char)}
    {f : α × List Char → Except Failure (β × List Char)} (h : Reads s x)
    (hf : ∀ a r, r <:+ s → Reads s (f (a, r))) : Reads s (x >>= f) := by
  obtain (_ | _) | ⟨a, r⟩ := x
  · exact h
  · exact h
  · exact hf a r h

theorem skipBlanks_suffix (s : List Char) : skipBlanks s <:+ s := List.dropWhile_suffix _

theorem fourDigits?_suffix {s r : List Char} {n : Nat} (h : fourDigits? s = some (n, r)) :
    r <:+ s := by
  unfold fourDigits? at h
  split at h
  · rename_i a b c d e s
    simp only [Option.bind_eq_bind, Option.pure_def, Option.bind_eq_some_iff, Option.some.injEq,
      Prod.mk.injEq] at h
    obtain ⟨m, -, -, rfl⟩ := h
    exact ⟨[a, b, c, d], rfl⟩
  · cases h

theorem unicodeEscape_reads (s : List Char) : Reads s (unicodeEscape s) := by
  rw [unicodeEscape]
  cases h : fourDigits? s with
  | none => trivial
  | some p =>
    obtain ⟨n, rest⟩ := p
    have hr := fourDigits?_suffix h
    dsimp only
    split
    · rename_i low
      have hl : low <:+ s := List.IsSuffix.trans ⟨['\\', 'u'], rfl⟩ hr
      split
      · cases h' : fourDigits? low with
        | none => trivial
        | some q =>
          have hr' := (fourDigits?_suffix h').trans hl
          dsimp only
          split
          · exact hr'
          · exact hr
      · exact hr
    · exact hr

theorem readString_reads (start fuel : Nat) (done s : List Char) :
    Reads s (readString start fuel done s) := by
  induction fuel generalizing done s with
  | zero => trivial
  | succ fuel ih =>
    cases s with
    | nil => trivial
    | cons c s =>
      have hs : s <:+ c :: s := List.suffix_cons c s
      unfold readString
      split
      · exact hs
      · split
        · split
          · trivial
          · rename_i r
            have hu : Reads (c :: 'u' :: r) (unicodeEscape r) :=
              (unicodeEscape_reads r).of_suffix ⟨[c, 'u'], rfl⟩
            cases he : unicodeEscape r with
            | error e =>
              rw [he] at hu
              cases e <;> exact hu
            | ok p =>
              rw [he] at hu
              obtain ⟨d | h, r'⟩ := p
              · exact (ih _ r').of_suffix hu
              · exact ((ih [] r').of_suffix hu).map fun t : Text.CodePoints =>
                  (⟨String.ofList done.reverse, (h, t.start) :: t.rest⟩ : Text.CodePoints)
          · rename_i e r _
            have hr : r <:+ c :: e :: r := ⟨[c, e], rfl⟩
            split
            · exact (ih _ r).of_suffix hr
            · trivial
        · split
          · trivial
          · exact (ih _ s).of_suffix hs

theorem wholeDigits_start (s : List Char) : wholeDigits s <+: s := by
  unfold wholeDigits
  split
  · exact ⟨_, rfl⟩
  · exact List.takeWhile_prefix _

theorem isDigit_of_mem_wholeDigits {s : List Char} {c : Char} (h : c ∈ wholeDigits s) :
    c.isDigit := by
  unfold wholeDigits at h
  split at h
  · rw [List.mem_singleton.mp h]
    rfl
  · exact List.mem_takeWhile_imp h

theorem readFraction_suffix (s : List Char) : (readFraction s).2 <:+ s := by
  unfold readFraction
  split
  · rename_i r
    dsimp only
    split
    · exact List.suffix_rfl
    · exact (List.drop_suffix _ r).trans (List.suffix_cons _ r)
  · exact List.suffix_rfl

theorem readExponent?_suffix {s r : List Char} {n : Int} (h : readExponent? s = some (n, r)) :
    r <:+ s := by
  unfold readExponent? at h
  split at h
  · rename_i e t
    split at h
    · extract_lets sign u digits k at h
      have hu : u <:+ t := by
        dsimp only [u]
        split
        · exact List.drop_suffix 1 t
        · exact List.suffix_rfl
      clear_value u
      split at h
      · cases h
      · obtain ⟨-, rfl⟩ := Prod.mk.inj (Option.some.inj h)
        exact ((List.drop_suffix _ u).trans hu).trans (List.suffix_cons e t)
    · cases h
  · cases h

theorem readUnsigned_reads (negative : Bool) (s : List Char) :
    Reads s (readUnsigned negative s) := by
  have hf : (readFraction (s.drop (wholeDigits s).length)).2 <:+ s :=
    (readFraction_suffix _).trans (List.drop_suffix _ s)
  rw [readUnsigned]
  dsimp only
  split
  · rename_i he
    exact (readExponent?_suffix he).trans hf
  · split
    · exact hf
    · split
      · rename_i hlong
        exact ⟨hlong, wholeDigits s, (wholeDigits_start s).isInfix, rfl,
          fun c hc => isDigit_of_mem_wholeDigits hc⟩
      · exact hf

theorem readNumber_reads (s : List Char) : Reads s (readNumber s) := by
  unfold readNumber
  extract_lets negative unsigned
  have hu : unsigned <:+ s := by
    dsimp only [unsigned]
    split
    · exact List.drop_suffix 1 s
    · exact List.suffix_rfl
  split
  · trivial
  · exact (readUnsigned_reads _ _).of_suffix hu

/-- One bound on the steps serves the three readers that call each other. -/
theorem read_reads (fuel : Nat) :
    (∀ s, Reads s (readValue fuel s)) ∧ (∀ done s, Reads s (readMembers fuel done s)) ∧
      ∀ s, Reads s (readItems fuel s) := by
  induction fuel with
  | zero => exact ⟨fun s => trivial, fun done s => trivial, fun s => trivial⟩
  | succ fuel ih =>
    obtain ⟨ihv, ihm, ihi⟩ := ih
    refine ⟨fun s => ?_, fun done s => ?_, fun s => ?_⟩
    · unfold readValue
      split
      · rename_i r
        exact ((readString_reads _ _ [] r).map _).of_suffix (List.suffix_cons _ r)
      · rename_i r
        have hr : skipBlanks r <:+ '\x7b' :: r := (skipBlanks_suffix r).trans (List.suffix_cons _ r)
        split
        · rename_i t ht
          exact (List.suffix_cons _ t).trans (ht ▸ hr)
        · exact ((ihm [] _).map _).of_suffix hr
      · rename_i r
        have hr : skipBlanks r <:+ '[' :: r := (skipBlanks_suffix r).trans (List.suffix_cons _ r)
        split
        · rename_i t ht
          exact (List.suffix_cons _ t).trans (ht ▸ hr)
        · exact ((ihi _).map _).of_suffix hr
      · split
        · exact List.drop_suffix _ s
        · exact readNumber_reads s
    · unfold readMembers
      split
      · rename_i r
        have hr : r <:+ '"' :: r := List.suffix_cons _ r
        refine ((readString_reads _ _ [] r).of_suffix hr).bind fun key t ht => ?_
        dsimp only
        split
        · rename_i u hu
          have hu' : u <:+ '"' :: r :=
            ((List.suffix_cons ':' u).trans (hu ▸ skipBlanks_suffix t)).trans ht
          have hb : skipBlanks u <:+ '"' :: r := (skipBlanks_suffix u).trans hu'
          refine ((ihv _).of_suffix hb).bind fun v w hw => ?_
          have hw' : skipBlanks w <:+ '"' :: r := (skipBlanks_suffix w).trans hw
          dsimp only
          split
          · rename_i x hx
            exact (List.suffix_cons _ x).trans (hx ▸ hw')
          · rename_i x hx
            have hx' : x <:+ '"' :: r := (List.suffix_cons _ x).trans (hx ▸ hw')
            exact (ihm _ _).of_suffix ((skipBlanks_suffix x).trans hx')
          · trivial
        · trivial
      · trivial
    · rw [readItems]
      refine (ihv s).bind fun v w hw => ?_
      have hw' : skipBlanks w <:+ s := (skipBlanks_suffix w).trans hw
      dsimp only
      split
      · rename_i x hx
        exact (List.suffix_cons _ x).trans (hx ▸ hw')
      · rename_i x hx
        have hx' : x <:+ s := (List.suffix_cons _ x).trans (hx ▸ hw')
        refine ((ihi _).of_suffix ((skipBlanks_suffix x).trans hx')).bind fun vs y hy => ?_
        exact hy
      · trivial

/-- A text that is refused for a whole number too long to be read does hold its digits. -/
theorem hasLongRun_of_parse {s : List Char} {n : Nat} (h : parse s = .error (.longNumber n)) :
    HasLongRun n s := by
  rw [parse] at h
  split at h
  · cases h
  · have hr := ((read_reads (2 * s.length + 1)).1 (skipBlanks s)).of_suffix (skipBlanks_suffix s)
    cases hv : readValue (2 * s.length + 1) (skipBlanks s) with
    | error e =>
      rw [hv] at h hr
      cases h
      exact hr
    | ok p =>
      rw [hv] at h
      cases hb : skipBlanks p.2 <;> simp [bind, Except.bind, hb] at h

theorem wholeDigits_eq_self {c : Char} {s : List Char} (hc : c ≠ '0')
    (h : ∀ d ∈ c :: s, d.isDigit) : wholeDigits (c :: s) = c :: s := by
  unfold wholeDigits
  split
  · rename_i he
    exact absurd (List.cons.inj he).1 hc
  · exact List.takeWhile_eq_self_iff.mpr h

theorem readNumber_longRun {c : Char} {s : List Char} (hc : c ≠ '0')
    (h : ∀ d ∈ c :: s, d.isDigit) (hlen : maxDigits < (c :: s).length) :
    readNumber (c :: s) = .error (.longNumber (c :: s).length) := by
  have hminus : c ≠ '-' := by
    rintro rfl
    exact absurd (h '-' List.mem_cons_self) (by decide)
  have hw := wholeDigits_eq_self hc h
  have hu : readUnsigned false (c :: s) = .error (.longNumber (c :: s).length) := by
    have hlong : maxDigits < s.length + 1 := hlen
    simp [readUnsigned, hw, readFraction, readExponent?, hlong]
  simp [readNumber, hminus, hw, hu]

/-- A text of digits only is refused as soon as they are too many. -/
theorem parse_longRun {c : Char} {s : List Char} (hc : c ≠ '0') (h : ∀ d ∈ c :: s, d.isDigit)
    (hlen : maxDigits < (c :: s).length) :
    parse (c :: s) = .error (.longNumber (c :: s).length) := by
  have hd := h c List.mem_cons_self
  have hne : ∀ d, d.isDigit = false → c ≠ d := by
    rintro d hf rfl
    simp [hf] at hd
  have hs : skipBlanks (c :: s) = c :: s := by
    have hb : isBlank c = false := by
      simp [isBlank, hne ' ' rfl, hne '\t' rfl, hne '\n' rfl, hne '\r' rfl]
    simp [skipBlanks, hb]
  have hwords : (words.find? fun w => w.1.isPrefixOf (c :: s)) = none := by
    simp [words, (hne 'n' rfl).symm, (hne 't' rfl).symm, (hne 'f' rfl).symm, (hne 'N' rfl).symm,
      (hne 'I' rfl).symm, (hne '-' rfl).symm]
  have hv : readValue (2 * (c :: s).length + 1) (c :: s) =
      .error (.longNumber (c :: s).length) := by
    unfold readValue
    split
    · rename_i he
      exact absurd (List.cons.inj he).1 (hne '"' rfl)
    · rename_i he
      exact absurd (List.cons.inj he).1 (hne '\x7b' rfl)
    · rename_i he
      exact absurd (List.cons.inj he).1 (hne '[' rfl)
    · rw [hwords]
      exact readNumber_longRun hc h hlen
  rw [parse, if_neg (by simpa using hne '\ufeff' rfl), hs, hv]
  rfl

end SlideDeck.Json
