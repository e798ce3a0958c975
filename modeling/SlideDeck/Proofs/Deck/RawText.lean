import SlideDeck.Proofs.Deck.ShownWords
import SlideDeck.Proofs.Markdown.Pictures
import SlideDeck.Proofs.Markdown.RebuiltSource

/-!
Spans that have no form on a slide. They show as their rebuilt source, which keeps every letter of
what is inside, but nothing of a line end: the words around one are joined. Images are not rebuilt
from what is inside, and show with their label.
-/

namespace SlideDeck.Deck

open Markdown Text

theorem plainText_raw (style : Style) (s : String) : plainText (resolve style (.raw s)) = s := by
  rw [resolve]
  split
  · next hs => rw [plainText_nil, String.isEmpty_iff.mp hs]
  · rw [plainText_cons, plainText_nil, String.append_empty]

theorem plainText_of_phrase {n : Inline} (h : phrase n = .raw n.source) (style : Style) :
    plainText (resolve style (phrase n)) = String.join (n.sourceParts.map SourcePart.text) := by
  rw [h, plainText_raw, Inline.source_eq_parts]

/-- White space is all that a line end shows. -/
theorem letters_source {l : Inline} (h : l.IsPlainLeaf) : letters l.source = letters l.words := by
  cases h with
  | text s | code s => rfl
  | softBreak | hardBreak => decide

/-- A strikethrough shows as its source, from which only line ends are missing: without the marks it
is what the leaves inside hold, with all the letters of the words, and it is the words themselves
only if no line ends inside. An image shows with its label, the text that its words are read
from. -/
theorem raw_of_leaves {inner : List Inline} (h : Inline.haveForm inner) (style : Style) :
    plainText (resolve style (phrase (.strike inner))) =
      String.join ((Inline.sourceParts (.strike inner)).map SourcePart.text) ∧
    Inline.unmarkedSource (.strike inner) =
      String.join ((Inline.leavesList inner).map Inline.source) ∧
    Inline.words (.strike inner) = String.join ((Inline.leavesList inner).map Inline.words) ∧
    letters (Inline.unmarkedSource (.strike inner)) = letters (Inline.words (.strike inner)) ∧
    (Inline.unmarkedSource (.strike inner) = Inline.words (.strike inner) ↔
      ∀ l ∈ Inline.leavesList inner, l.isBreak = false) ∧
    ∀ (t : Target) (label : String),
      plainText (resolve style (phrase (.image t label inner))) =
        String.join ((Inline.sourceParts (.image t label inner)).map SourcePart.text) ∧
      Inline.unmarkedSource (.image t label inner) = label ∧
      ∀ (d : Document) (content : String),
        (label, inner) ∈ Inline.picturesList (d.inlines content) →
          Inline.words (.image t label inner) = Inline.wordsList (d.inlines label) := by
  have hplain := Inline.isPlainLeaf_of_mem_leavesList inner h
  have hsource : Inline.unmarkedSource (.strike inner) =
      String.join ((Inline.leavesList inner).map Inline.source) := by
    rw [Inline.unmarkedSource, Inline.sourceParts]
    exact Inline.unmarkedBetween_eq_leaves "~~" inner h
  have hwords : Inline.words (.strike inner) =
      String.join ((Inline.leavesList inner).map Inline.words) := by
    rw [Inline.words, Inline.wordsList_eq_leaves]
  refine ⟨plainText_of_phrase rfl style, hsource, hwords, ?_, ?_, fun t label =>
    ⟨plainText_of_phrase rfl style, ?_, fun d content himage => ?_⟩⟩
  · rw [hsource, hwords]
    exact letters_join_map fun l hl => letters_source (hplain l hl)
  · rw [hsource, hwords, join_map_eq_iff fun l hl => Inline.length_source_le (hplain l hl)]
    exact forall₂_congr fun l hl => Inline.source_eq_words_iff (hplain l hl)
  · simp [Inline.unmarkedSource, Inline.sourceParts, SourcePart.unmarked]
  · rw [Inline.words]
    exact words_of_mem_pictures himage h

/-- Strikethrough over a line end, with a code span and a link inside. -/
def struckNodes : List Inline :=
  [.text "a", .strong '*' [.code "b", .softBreak], .link ⟨"u", ""⟩ false [.text "c"]]

theorem raw_of_leaves_struckNodes :
    Inline.haveForm struckNodes ∧
    plainText (resolve {} (phrase (.strike struckNodes))) = "~~a**b**c~~" ∧
    Inline.unmarkedSource (.strike struckNodes) = "abc" ∧
    Inline.words (.strike struckNodes) = "ab c" := by
  have hform : Inline.haveForm struckNodes := rfl
  obtain ⟨hshown, hsource, hwords, -⟩ := raw_of_leaves hform {}
  exact ⟨hform, hshown, hsource, hwords⟩

theorem not_forall_unmarkedSource_eq_words :
    ¬ ∀ inner : List Inline, Inline.haveForm inner →
      Inline.unmarkedSource (.strike inner) = Inline.words (.strike inner) := by
  intro h
  have hequal : "ab" = "a b" := h [.text "a", .softBreak, .text "b"] rfl
  exact absurd hequal (by decide)

end SlideDeck.Deck
