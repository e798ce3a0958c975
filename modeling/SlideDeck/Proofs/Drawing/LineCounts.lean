import SlideDeck.Proofs.Deck.LineBreaks
import SlideDeck.Proofs.Drawing.ShownText

/-!
The number of lines that the layout makes room for is the number of paragraphs that are drawn, and
both are told from the phrases of a block.
-/

namespace SlideDeck.Drawing

open Deck Layout Markdown

theorem length_drawnLines (runs : List Run) : (drawnLines runs).length = lineCount runs := by
  induction runs with
  | nil => rfl
  | cons r rs ih =>
    rw [lineCount] at ih
    rw [drawnLines_cons, lineCount, List.countP_cons]
    split
    · rw [List.length_cons, ih, Nat.add_assoc]
    · rw [List.length_modifyHead, ih, Nat.add_zero]

theorem length_of_lineSpans {runs : List Run} {lines : List (List Span)}
    (h : lineSpans runs = .ok lines) : lines.length = lineCount runs := by
  have htexts := congrArg List.length (text_of_lineSpans h)
  rwa [List.length_map, List.length_map, length_drawnLines] at htexts

/-- A text block is drawn in as many paragraphs as the layout counts lines. Of a block that is built
these are one and the line breaks of its phrases, and so one for each paragraph of the document
that came into it and one for each line break in them. A task marker takes no paragraph away. -/
theorem lineCount_drawn :
    (∀ (runs : List Run) (b : Box Float) (box : Box Int), boxOfInches b = .ok box →
      match lineSpans runs with
      | .error e => drawTextBlock b runs = ⟨[], .error e⟩
      | .ok _ => ∃ paragraphs, drawTextBlock b runs = ⟨[], .ok (.textBox box paragraphs)⟩ ∧
          paragraphs.length = lineCount runs) ∧
    (∀ ps slides, (build ps).slides = .ok slides → ∀ s ∈ slides, ∀ runs,
      .textBlock runs ∈ s.elements →
      ∃ p ∈ ps, ∃ phrases, Makes p phrases runs ∧ lineCount runs = 1 + allLineBreaks phrases) ∧
    (∀ (source : String) (d : Document) (block : Block) phrases runs,
      Makes (passage source d block) phrases runs → ∃ contents ∈ boxedParagraphs block,
        resolveAll {} phrases =
          resolveAll {} (joinParagraphs (contents.map fun c => phraseList (d.inlines c))) ∧
        (contents ≠ [] →
          lineCount runs = contents.length + (contents.map (breaksIn d)).sum)) ∧
    ∀ blocks, (itemParagraphs blocks).length = (paragraphs blocks).length := by
  refine ⟨fun runs b box hbox => ?_, ?_, ?_, length_itemParagraphs⟩
  · have hdraw := drawTextBlock_lineSpans hbox runs
    cases hlines : lineSpans runs with
    | error e =>
      rw [hlines] at hdraw
      exact hdraw
    | ok lines =>
      rw [hlines] at hdraw
      obtain ⟨paragraphs, hdrawn, hpieces, -⟩ := hdraw
      have hlength := congrArg List.length hpieces
      rw [List.length_map, List.length_map, length_of_lineSpans hlines] at hlength
      exact ⟨paragraphs, hdrawn, hlength⟩
  · intro ps slides hb s hs runs hr
    obtain ⟨p, hp, phrases, hmakes⟩ := exists_makes_of_mem_slide hb hs hr
    exact ⟨p, hp, phrases, hmakes, lineCount_of_makes hmakes⟩
  · intro source d block phrases runs hmakes
    exact lineCount_of_makes_passage hmakes

/-- A task of two paragraphs, the first of them over two lines. -/
def taskSource : String := "# T\n\n- [x] a  \n  b\n\n  c"

def taskPassage : Passage :=
  .list false [⟨"a  \nb\nc",
    [.wrapped "a  \nb\nc" [.text "a", .lineBreak, .text "b", .lineBreak, .text "c"]], true, true⟩]

def taskParagraphs : List Run :=
  [⟨"☑ a", {}⟩, ⟨"\n", { breaksLine := true }⟩, ⟨"b", {}⟩, ⟨"\n", { breaksLine := true }⟩,
    ⟨"c", {}⟩]

theorem passages_taskSource : passages taskSource = [.heading 1 "T", taskPassage] := by cbv

theorem lineCount_drawn_taskSource :
    (parseMarkdown taskSource).slides = .ok [⟨"T", [.textBlock taskParagraphs], none⟩] ∧
      (∃ p ∈ passages taskSource, ∃ phrases, Makes p phrases taskParagraphs ∧
        lineCount taskParagraphs = 1 + allLineBreaks phrases) ∧
      (∃ block ∈ (Document.parse taskSource).blocks, ∃ contents ∈ boxedParagraphs block,
        lineCount taskParagraphs =
          contents.length + (contents.map (breaksIn (Document.parse taskSource))).sum) ∧
      lineCount taskParagraphs = 3 ∧
      ∀ b box, boxOfInches b = .ok box → ∃ paragraphs,
        drawTextBlock b taskParagraphs = ⟨[], .ok (.textBox box paragraphs)⟩ ∧
          paragraphs.length = lineCount taskParagraphs := by
  have hb : (build (passages taskSource)).slides =
      .ok [⟨"T", [.textBlock taskParagraphs], none⟩] := by
    rw [passages_taskSource]
    rfl
  have hblock : (Document.parse taskSource).blocks =
      [.heading 1 "T", .list false [[.paragraph "[x] a  \nb", .paragraph "c"]]] := by cbv
  have hpassage : passage taskSource (Document.parse taskSource)
      (.list false [[.paragraph "[x] a  \nb", .paragraph "c"]]) = taskPassage := by
    have hpassages := passages_taskSource
    rw [passages, hblock] at hpassages
    exact (List.cons.inj (List.cons.inj hpassages).2).1
  obtain ⟨hdrawn, hbuilt, hread, -⟩ := lineCount_drawn
  have hmakes : Makes taskPassage
      [.wrapped "a  \nb\nc" [.text "a", .lineBreak, .text "b", .lineBreak, .text "c"]]
      taskParagraphs := .item List.mem_cons_self
  have hne : resolveAll {} [.wrapped "a  \nb\nc"
      [.text "a", .lineBreak, .text "b", .lineBreak, .text "c"]] ≠ [] := List.cons_ne_nil _ _
  rw [← hpassage] at hmakes
  obtain ⟨contents, hcontents, hresolve, hcount⟩ := hread _ _ _ _ _ hmakes
  have hsome : contents ≠ [] := by
    rintro rfl
    exact hne hresolve
  refine ⟨hb, hbuilt _ _ hb _ List.mem_cons_self _ List.mem_cons_self,
    ⟨_, ?_, contents, hcontents, hcount hsome⟩, rfl, fun b box hbox => ?_⟩
  · rw [hblock]
    exact List.mem_cons_of_mem _ List.mem_cons_self
  · have hlines : lineSpans taskParagraphs = .ok [[⟨"☑ a", some 1800, false, false, false, none⟩],
        [⟨"b", some 1800, false, false, false, none⟩],
        [⟨"c", some 1800, false, false, false, none⟩]] := by decide +kernel
    have hdraw := hdrawn taskParagraphs b box hbox
    rwa [hlines] at hdraw

end SlideDeck.Drawing
