import SlideDeck.Drawing.Color
import SlideDeck.Proofs.Text.Ascii
import SlideDeck.Proofs.Text.Lines
import SlideDeck.Proofs.Text.Trim

/-!
The numbers that pass for a component of a color: what is read as one, and what it is read as.
-/

namespace SlideDeck.Drawing

open Text

variable {s : List Char} {n : Nat}

/-- Hexadecimal digits with single underscores between them. -/
def IsDigits (s : List Char) (n : Nat) : Prop :=
  ∃ groups : List (List Char), groups ≠ [] ∧ (∀ g ∈ groups, g ≠ []) ∧
    s = joinWith ['_'] groups ∧ IsHexNumber groups.flatten n

/-- Digits, behind a mark of their base or without one. -/
inductive IsUnsigned : List Char → Nat → Prop where
  | plain {s : List Char} {n : Nat} (h : IsDigits s n) : IsUnsigned s n
  | marked {x : Char} {s : List Char} {n : Nat} (hx : x = 'x' ∨ x = 'X') (h : IsDigits s n) :
    IsUnsigned ('0' :: x :: s) n
  | joined {x : Char} {s : List Char} {n : Nat} (hx : x = 'x' ∨ x = 'X') (h : IsDigits s n) :
    IsUnsigned ('0' :: x :: '_' :: s) n

inductive IsSigned : List Char → Int → Prop where
  | plain {s : List Char} {n : Nat} (h : IsUnsigned s n) : IsSigned s n
  | plus {s : List Char} {n : Nat} (h : IsUnsigned s n) : IsSigned ('+' :: s) n
  | minus {s : List Char} {n : Nat} (h : IsUnsigned s n) : IsSigned ('-' :: s) (-n)

/-- A number with white space around it. The decimal digits of every script count as those of
ASCII. -/
def IsNumeral (s : List Char) (n : Int) : Prop :=
  ∃ front core back, s.mapM plainCharacter? = some (front ++ core ++ back) ∧
    front.all isAsciiSpace ∧ back.all isAsciiSpace ∧ IsSigned core n

theorem splitOn_of_groups {groups : List (List Char)} (hne : groups ≠ [])
    (h : IsHexNumber groups.flatten n) : splitOn '_' (joinWith ['_'] groups) = groups := by
  refine splitOn_joinWith (fun g hg hbar => ?_) hne
  have hhex := h.forall_isHexDigit '_' (List.mem_flatten_of_mem hg hbar)
  exact absurd hhex (by decide)

theorem digits?_eq_some_iff (s : List Char) (n : Nat) : digits? s = some n ↔ IsDigits s n := by
  constructor
  · intro h
    unfold digits? at h
    dsimp only at h
    split at h
    · cases h
    next hgroups =>
      refine ⟨splitOn '_' s, splitOn_ne_nil '_' s, fun g hg hempty => hgroups ?_,
        (joinWith_splitOn '_' s).symm, (foldlM_hexValue?_eq_some_iff _ n).mp h⟩
      exact List.any_eq_true.mpr ⟨g, hg, List.isEmpty_iff.mpr hempty⟩
  · rintro ⟨groups, hne, hgroups, rfl, hn⟩
    unfold digits?
    dsimp only
    rw [splitOn_of_groups hne hn, if_neg]
    · exact (foldlM_hexValue?_eq_some_iff _ n).mpr hn
    · rw [List.any_eq_true]
      rintro ⟨g, hg, hempty⟩
      exact hgroups g hg (List.isEmpty_iff.mp hempty)

theorem IsDigits.mem (h : IsDigits s n) {c : Char} (hc : c ∈ s) : IsHexDigit c ∨ c = '_' := by
  obtain ⟨groups, hne, -, rfl, hn⟩ := h
  refine (forall_mem_splitOn_iff (P := fun c => IsHexDigit c ∨ c = '_') (.inr rfl) _).mp ?_ c hc
  rw [splitOn_of_groups hne hn]
  exact fun g hg c hc => .inl (hn.forall_isHexDigit c (List.mem_flatten_of_mem hg hc))

theorem IsDigits.head_ne (h : IsDigits s n) {c : Char} {r : List Char} (hs : s = c :: r)
    (hc : ¬IsHexDigit c) : False := by
  obtain rfl := (h.mem (hs ▸ List.mem_cons_self)).resolve_left hc
  have hnone : digits? ('_' :: r) = none := by
    rw [digits?, splitOn_cons]
    rfl
  rw [← hs, (digits?_eq_some_iff s n).mpr h] at hnone
  cases hnone

theorem IsDigits.ne_nil (h : IsDigits s n) : s ≠ [] := by
  rintro rfl
  cases (digits?_eq_some_iff [] n).mpr h

theorem unsigned?_eq_some_iff (s : List Char) (n : Nat) :
    unsigned? s = some n ↔ IsUnsigned s n := by
  constructor
  · intro h
    unfold unsigned? at h
    split at h
    · split at h
      next hx =>
        rw [Bool.or_eq_true, decide_eq_true_eq, decide_eq_true_eq] at hx
        split at h
        · exact .joined hx ((digits?_eq_some_iff _ n).mp h)
        · exact .marked hx ((digits?_eq_some_iff _ n).mp h)
      · exact .plain ((digits?_eq_some_iff _ n).mp h)
    · exact .plain ((digits?_eq_some_iff _ n).mp h)
  · rintro (h | ⟨hx, h⟩ | ⟨hx, h⟩)
    · unfold unsigned?
      split
      next x r =>
        have hx : ¬(x = 'x' || x = 'X') := by
          have hmem := h.mem (List.mem_cons_of_mem '0' List.mem_cons_self)
          rw [Bool.or_eq_true, decide_eq_true_eq, decide_eq_true_eq]
          rintro (rfl | rfl) <;> exact absurd hmem (by decide)
        rw [if_neg hx, (digits?_eq_some_iff _ n).mpr h]
      · exact (digits?_eq_some_iff _ n).mpr h
    · rw [unsigned?, if_pos (by simpa using hx)]
      · exact (digits?_eq_some_iff _ n).mpr h
      · exact fun r hr => h.head_ne hr (by decide)
    · rw [unsigned?, if_pos (by simpa using hx)]
      exact (digits?_eq_some_iff _ n).mpr h

theorem IsUnsigned.mem (h : IsUnsigned s n) {c : Char} (hc : c ∈ s) :
    IsHexDigit c ∨ c = '_' ∨ c = 'x' ∨ c = 'X' := by
  have hzero : IsHexDigit '0' := by decide
  cases h with
  | plain h => exact (h.mem hc).imp_right .inl
  | marked hx h =>
    obtain rfl | hc := List.mem_cons.mp hc
    · exact .inl hzero
    obtain rfl | hc := List.mem_cons.mp hc
    · exact .inr (.inr hx)
    · exact (h.mem hc).imp_right .inl
  | joined hx h =>
    obtain rfl | hc := List.mem_cons.mp hc
    · exact .inl hzero
    obtain rfl | hc := List.mem_cons.mp hc
    · exact .inr (.inr hx)
    obtain rfl | hc := List.mem_cons.mp hc
    · exact .inr (.inl rfl)
    · exact (h.mem hc).imp_right .inl

/-- The number behind a sign. -/
def signed? : List Char → Option Int
  | '-' :: r => (unsigned? r).map fun n : Nat => -(n : Int)
  | '+' :: r => (unsigned? r).map fun n : Nat => (n : Int)
  | r => (unsigned? r).map fun n : Nat => (n : Int)

theorem number?_eq (s : List Char) :
    number? s = (s.mapM plainCharacter?).bind fun s =>
      signed? (dropEndWhile isAsciiSpace (s.dropWhile isAsciiSpace)) := by
  unfold number?
  refine congrArg _ (funext fun t => ?_)
  have hmap (f : Int → Int) (r : List Char) :
      Option.map f (do return ((← unsigned? r) : Int)) = (unsigned? r).map fun n : Nat => f n := by
    cases unsigned? r <;> rfl
  generalize dropEndWhile isAsciiSpace (t.dropWhile isAsciiSpace) = core
  fun_cases signed? core
  · exact hmap ..
  · exact hmap ..
  · simp only
    exact hmap (fun n => n) core

theorem signed?_eq_some_iff (s : List Char) (n : Int) : signed? s = some n ↔ IsSigned s n := by
  constructor
  · intro h
    unfold signed? at h
    split at h <;> obtain ⟨n, hn, rfl⟩ := Option.map_eq_some_iff.mp h
    · exact .minus ((unsigned?_eq_some_iff _ _).mp hn)
    · exact .plus ((unsigned?_eq_some_iff _ _).mp hn)
    · exact .plain ((unsigned?_eq_some_iff _ _).mp hn)
  · rintro (h | h | h)
    · have hsign {c : Char} {r : List Char} (hc : c = '-' ∨ c = '+') : s ≠ c :: r := by
        rintro rfl
        have hmem := h.mem List.mem_cons_self
        obtain rfl | rfl := hc <;> exact absurd hmem (by decide)
      rw [signed?, (unsigned?_eq_some_iff _ _).mpr h]
      · rfl
      · exact fun r => hsign (.inl rfl)
      · exact fun r => hsign (.inr rfl)
    · rw [signed?, (unsigned?_eq_some_iff _ _).mpr h]
      rfl
    · rw [signed?, (unsigned?_eq_some_iff _ _).mpr h]
      rfl

theorem not_isAsciiSpace_of_isHexDigit {c : Char} (h : IsHexDigit c) : isAsciiSpace c = false :=
  forall_ascii (P := fun c => IsHexDigit c → isAsciiSpace c = false) (by decide +kernel)
    h.toNat_lt h

theorem IsSigned.not_isAsciiSpace {n : Int} (h : IsSigned s n) {c : Char} (hc : c ∈ s) :
    isAsciiSpace c = false := by
  have hunsigned {r : List Char} {n : Nat} (h : IsUnsigned r n) (hc : c ∈ r) :
      isAsciiSpace c = false := by
    obtain h | rfl | rfl | rfl := h.mem hc
    · exact not_isAsciiSpace_of_isHexDigit h
    all_goals decide
  cases h with
  | plain h => exact hunsigned h hc
  | plus h | minus h =>
    obtain rfl | hc := List.mem_cons.mp hc
    · decide
    · exact hunsigned h hc

theorem dropEndWhile_dropWhile_eq_self {p : Char → Bool} (h : ∀ c ∈ s, p c = false) :
    dropEndWhile p (s.dropWhile p) = s := by
  have hfront : s.dropWhile p = s :=
    List.dropWhile_eq_self_iff.mpr fun hs => by simp [h _ (List.getElem_mem hs)]
  rw [hfront, dropEndWhile_eq]
  exact List.rdropWhile_eq_self_iff.mpr fun hs => by simp [h _ (List.getLast_mem hs)]

/-- A text is read as a number if and only if it is a numeral. -/
theorem number?_eq_some_iff (s : List Char) (n : Int) : number? s = some n ↔ IsNumeral s n := by
  rw [number?_eq, Option.bind_eq_some_iff]
  constructor
  · rintro ⟨t, ht, hn⟩
    obtain ⟨front, back, heq, hfront, hback⟩ := exists_dropEndWhile_dropWhile isAsciiSpace t
    exact ⟨front, _, back, by rw [ht, ← heq], hfront, hback, (signed?_eq_some_iff _ n).mp hn⟩
  · rintro ⟨front, core, back, ht, hfront, hback, hn⟩
    refine ⟨_, ht, ?_⟩
    rw [dropEndWhile_dropWhile_append hfront core hback,
      dropEndWhile_dropWhile_eq_self fun c hc => hn.not_isAsciiSpace hc]
    exact (signed?_eq_some_iff _ n).mpr hn

theorem component?_eq_some_iff (s : List Char) (n : UInt8) :
    component? s = some n ↔ IsNumeral s n.toNat := by
  rw [← number?_eq_some_iff, component?]
  constructor
  · intro h
    split at h
    next m hm =>
      split at h
      next hrange =>
        rw [Bool.and_eq_true, decide_eq_true_eq, decide_eq_true_eq] at hrange
        obtain rfl := Option.some.inj h
        have hvalue : m.toNat.toUInt8.toNat = m.toNat :=
          UInt8.toNat_ofNat_of_lt' (show m.toNat < 256 by omega)
        rw [hm, Option.some.injEq, hvalue]
        omega
      · cases h
    · cases h
  · intro h
    rw [h]
    have hn := n.toNat_lt
    simp
    omega

end SlideDeck.Drawing
