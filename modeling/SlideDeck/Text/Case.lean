import SlideDeck.Text.CaseTable

/-!
Letter case of whole texts, by the full mappings of Unicode: a text may grow, and a capital
sigma becomes a final sigma at the end of a word.
-/

namespace SlideDeck.Text

private def inRanges (rs : List (Nat × Nat)) (c : Char) : Bool :=
  rs.any fun r => r.1 ≤ c.toNat && c.toNat ≤ r.2

/-- The image of a character under a table of runs; characters outside the runs are fixed. -/
def mapByRuns (runs : List (Nat × Nat × Nat × Nat)) (c : Char) : Char :=
  let n := c.toNat
  match runs.find? fun r => r.1 ≤ n && n ≤ r.2.1 && (n - r.1) % r.2.2.1 == 0 with
  | some r => Char.ofNat (r.2.2.2 + (n - r.1))
  | none => c

def lowerChar (c : Char) : Char := mapByRuns lowerRuns c

/-- Whether the next letter, past the characters that do not count, has case. -/
def casedAhead (s : List Char) : Bool :=
  match s.dropWhile (inRanges caseIgnorableRanges) with
  | [] => false
  | c :: _ => inRanges casedRanges c

private def lowerAfter : List Char → List Char → List Char
  | _, [] => []
  | before, c :: s =>
    let image :=
      if c = 'Σ' then [if casedAhead before && !casedAhead s then 'ς' else 'σ']
      else if c = 'İ' then ['i', '\u0307']
      else [lowerChar c]
    image ++ lowerAfter (c :: before) s

def lower (s : List Char) : List Char := lowerAfter [] s

private theorem lowerAfter_eq_map {before s : List Char}
    (h : ∀ c ∈ lowerAfter before s, c ∉ ['σ', 'ς', '\u0307']) :
    lowerAfter before s = s.map lowerChar := by
  induction s generalizing before with
  | nil => rfl
  | cons c s ih =>
    rw [lowerAfter] at h ⊢
    rw [ih fun d hd => h d (List.mem_append_right _ hd)]
    split
    · rename_i hsigma
      rw [if_pos hsigma] at h
      refine absurd ?_ (h _ (List.mem_append_left _ List.mem_cons_self))
      split <;> decide
    · rename_i hsigma
      rw [if_neg hsigma] at h
      split
      · rename_i hdotted
        rw [if_pos hdotted] at h
        refine absurd ?_ (h '\u0307' (List.mem_append_left _ (by decide)))
        decide
      · rfl

/-- Without the images of the capital sigma and of the dotted capital I, the characters of a text
are put in lower case one by one. -/
theorem lower_eq_map {s : List Char} (h : ∀ c ∈ lower s, c ∉ ['σ', 'ς', '\u0307']) :
    lower s = s.map lowerChar :=
  lowerAfter_eq_map h

def upperChar (c : Char) : List Char :=
  match upperExpansions.lookup c.toNat with
  | some codes => codes.map Char.ofNat
  | none => [mapByRuns upperRuns c]

def upper (s : List Char) : List Char := s.flatMap upperChar

/-- Whether `c` is the lower case ASCII letter `l` in either case, the letters that have `l` as
a simple case variant (dotted and dotless i, long s, the Kelvin sign) included. -/
def isLetter (l c : Char) : Bool :=
  lowerChar c == l || (l == 'i' && (c == 'ı' || c == 'İ')) || (l == 's' && c == 'ſ')

/-- The text after a word written in any letter case; `word` is in lower case. -/
def afterWord? : List Char → List Char → Option (List Char)
  | [], s => some s
  | _ :: _, [] => none
  | l :: word, c :: s => if isLetter l c then afterWord? word s else none

end SlideDeck.Text
