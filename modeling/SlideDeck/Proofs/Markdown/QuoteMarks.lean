import SlideDeck.Proofs.Markdown.ReadLines

/-!
A quote that stands directly in a document starts on a line with a quote mark. Only the quotes that
the document itself holds are told of: the lines of an item or of a quote have lost their marks.
-/

namespace SlideDeck.Markdown

/-- The line is there and starts with a quote mark, white space apart. -/
def Region.IsMarked (r : Region) (i : Nat) : Prop :=
  ∃ l s, r.line? i = some l ∧ l.body = '>' :: s

/-- Each quote of a reading starts on a marked line. -/
def Reading.StartsMarked (g : Reading) (r : Region) : Prop :=
  ∀ first last inner, .quote first last inner ∈ g.blocks → r.IsMarked first

theorem Reading.startsMarked_single {b : Block} {d : Definitions} {next : Nat} {r : Region}
    (hb : ∀ first last inner, b ≠ .quote first last inner) :
    (⟨[b], d, next⟩ : Reading).StartsMarked r := fun first last inner hquote =>
  absurd (List.mem_singleton.mp hquote).symm (hb first last inner)

theorem Reading.startsMarked_nil {d : Definitions} {next : Nat} {r : Region} :
    (⟨[], d, next⟩ : Reading).StartsMarked r :=
  fun _ _ _ hquote => absurd hquote List.not_mem_nil

namespace Region

variable {r : Region} {quoted listed : ContainerReader} {d : Definitions} {i stop fuel : Nat}

theorem exists_of_unquote? {l inner : Line} (h : l.unquote? = some inner) :
    ∃ s, l.body = '>' :: s := by
  rw [Line.unquote?] at h
  split at h
  · next s hs => exact ⟨s, hs⟩
  · cases h

theorem block_startsMarked {l : Line} (hl : r.line? i = some l) :
    (r.block quoted listed d i stop l).StartsMarked r := by
  rw [block]
  split
  · exact Reading.startsMarked_single (by rintro _ _ _ ⟨⟩)
  split
  · exact Reading.startsMarked_single (by rintro _ _ _ ⟨⟩)
  split
  · exact Reading.startsMarked_single (by rintro _ _ _ ⟨⟩)
  split
  · next first hfirst =>
    obtain ⟨s, hs⟩ := exists_of_unquote? hfirst
    intro first' last inner hquote
    rw [quote] at hquote
    cases List.mem_singleton.mp hquote
    exact ⟨l, s, hl, hs⟩
  split
  · exact Reading.startsMarked_single (by rintro _ _ _ ⟨⟩)
  split
  · exact Reading.startsMarked_single (by rintro _ _ _ ⟨⟩)
  split
  · exact Reading.startsMarked_nil
  split
  · exact Reading.startsMarked_single (by rintro _ _ _ ⟨⟩)
  split
  · exact Reading.startsMarked_single (by rintro _ _ _ ⟨⟩)
  split
  · exact Reading.startsMarked_single (by rintro _ _ _ ⟨⟩)
  · exact Reading.startsMarked_single (by rintro _ _ _ ⟨⟩)

theorem readBlocks_startsMarked {block? : Option (Definitions → (i : Nat) → Line → Reading)}
    (hblock : ∀ block ∈ block?, ∀ d i l, r.line? i = some l → (block d i l).StartsMarked r) :
    (r.readBlocks block? stop fuel d i).StartsMarked r := by
  induction fuel generalizing d i with
  | zero => exact Reading.startsMarked_nil
  | succ fuel ih =>
    rw [readBlocks]
    split
    · exact Reading.startsMarked_nil
    dsimp only
    split
    · exact Reading.startsMarked_nil
    next l hl =>
      split
      · exact Reading.startsMarked_nil
      split
      · exact Reading.startsMarked_nil
      next block =>
        intro first last inner hquote
        obtain hquote | hquote := List.mem_append.mp hquote
        · exact hblock block rfl d _ l hl first last inner hquote
        · exact ih first last inner hquote

end Region

theorem readContainer_startsMarked (depth : Nat) (r : Region) (d : Definitions) (i stop : Nat) :
    (readContainer depth r d i stop).StartsMarked r := by
  match depth with
  | 0 => exact Region.readBlocks_startsMarked (by rintro _ ⟨⟩)
  | 1 | _ + 2 =>
    refine Region.readBlocks_startsMarked ?_
    rintro _ ⟨⟩ d i l hl
    exact Region.block_startsMarked hl

/-- Cleaning a text does not make or remove white space or quote marks. -/
theorem exists_mark_of_cleaned {part s : List Char}
    (h : (part.map cleaned).dropWhile isTabOrSpace = '>' :: s) :
    ∃ front behind, part = front ++ '>' :: behind ∧ front.all isTabOrSpace := by
  induction part with
  | nil => cases h
  | cons c part ih =>
    rw [List.map_cons, List.dropWhile_cons] at h
    split at h
    · next hc =>
      obtain ⟨front, behind, rfl, hfront⟩ := ih h
      have hspace : isTabOrSpace c := by
        rw [cleaned] at hc
        split at hc
        · exact absurd hc (by decide)
        · exact hc
      exact ⟨c :: front, behind, rfl, by rw [List.all_cons, hspace, hfront]; rfl⟩
    · obtain ⟨hmark, -⟩ := List.cons.inj h
      have hc : c = '>' := by
        rw [cleaned] at hmark
        split at hmark
        · exact absurd hmark (by decide)
        · exact hmark
      exact ⟨[], part, by rw [hc]; rfl, rfl⟩

theorem splitOn_normalize (s : List Char) :
    Text.splitOn '\n' (normalize s) = (Text.plainLines s).map (List.map cleaned) := by
  rw [normalize_eq, Text.splitOn_map, Text.plainLines]
  intro c
  rw [cleaned]
  split
  · next hc => rw [hc]; rfl
  · rfl

/-- A line that the reader is given is a line of the text, cleaned. -/
theorem exists_of_linesOf {s : List Char} {i : Nat} {l : Line}
    (h : (linesOf (normalize s))[i]? = some l) :
    ∃ part, (Text.plainLines s)[i]? = some part ∧ l = Line.ofText (part.map cleaned) := by
  rw [linesOf, splitOn_normalize, List.getElem?_map, Option.map_eq_some_iff] at h
  obtain ⟨text, htext, rfl⟩ := h
  have hpart : ((Text.plainLines s).map (List.map cleaned))[i]? = some text := by
    split at htext
    · rw [List.getElem?_dropLast] at htext
      exact (Option.ite_none_right_eq_some.mp htext).2
    · exact htext
  rw [List.getElem?_map, Option.map_eq_some_iff] at hpart
  obtain ⟨part, hpart, rfl⟩ := hpart
  exact ⟨part, hpart, rfl⟩

/-- A quote of a document starts on a line whose first character, white space apart, is its mark. -/
theorem Document.mark_of_quote {source : String} {first last : Nat} {inner : List Block}
    (h : .quote first last inner ∈ (Document.parse source).blocks) :
    ∃ front behind, (Text.plainLines source.toList)[first]? = some (front ++ '>' :: behind) ∧
      front.all isTabOrSpace := by
  obtain ⟨l, s, hl, hs⟩ := readContainer_startsMarked maxNesting _ _ _ _ first last inner h
  rw [Region.line?, List.getElem?_toArray] at hl
  obtain ⟨part, hpart, rfl⟩ := exists_of_linesOf hl
  obtain ⟨front, behind, rfl, hfront⟩ := exists_mark_of_cleaned hs
  exact ⟨front, behind, hpart, hfront⟩

end SlideDeck.Markdown
