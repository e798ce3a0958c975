import SlideDeck.Drawing.Presentation
import SlideDeck.Proofs.Deck.ShownText
import SlideDeck.Proofs.Drawing.Lengths
import SlideDeck.Proofs.Layout.Finite

/-!
Which text blocks can be drawn: those that show no dead link. All their runs with text are then
drawn line by line, each as a span of its own style.
-/

namespace SlideDeck.Drawing

open Deck Layout Decimal

/-- A text in which all characters can be written as they are. -/
def isClean (s : String) : Bool := s.toList.all fun c => isCharacter c && !isEscaped c

mutual

def hasCleanStrings : Phrase → Bool
  | .bold inner | .italic inner | .wrapped _ inner => haveCleanStrings inner
  | .code s | .text s | .raw s => isClean s
  | .link url title inner => isClean url && title.all isClean && haveCleanStrings inner
  | .lineBreak => true

def haveCleanStrings : List Phrase → Bool
  | [] => true
  | p :: ps => hasCleanStrings p && haveCleanStrings ps

end

/-- Whether the formatted text of a passage is clean. -/
def hasCleanText : Passage → Bool
  | .paragraph _ phrases => haveCleanStrings phrases
  | .list _ items => items.all fun i => haveCleanStrings i.phrases
  | .heading _ _ | .table _ _ | .rule | .other _ => true

def isCleanLink (l : Hyperlink) : Bool := isClean l.url && isClean l.tooltip

def isCleanRun (r : Run) : Bool := isClean r.text && r.style.hyperlink.all isCleanLink

theorem isClean_append (s t : String) : isClean (s ++ t) = (isClean s && isClean t) := by
  simp [isClean]

theorem isCleanLink_to {url : String} {title : Option String} (hurl : isClean url)
    (htitle : title.all isClean) : isCleanLink (.to url title) := by
  cases title with
  | none => simp [isCleanLink, Hyperlink.to, hurl]
  | some t =>
    have ht : isClean t := htitle
    by_cases he : t.isEmpty <;> simp [isCleanLink, Hyperlink.to, hurl, ht, he]

mutual

theorem all_isCleanRun_resolve (style : Style) (h : style.hyperlink.all isCleanLink) :
    (p : Phrase) → hasCleanStrings p → (resolve style p).all isCleanRun
  | .bold inner, hp => all_isCleanRun_resolveAll { style with bold := true } h inner hp
  | .italic inner, hp => all_isCleanRun_resolveAll { style with italic := true } h inner hp
  | .code s, hp => by
    have hs : isClean s := hp
    have hspace : isClean " " := by decide
    simp [resolve, isCleanRun, isClean_append, hs, hspace, h]
  | .link url title inner, hp => by
    rw [hasCleanStrings, Bool.and_eq_true, Bool.and_eq_true] at hp
    obtain ⟨⟨hurl, htitle⟩, hinner⟩ := hp
    exact all_isCleanRun_resolveAll { style with hyperlink := some (.to url title) }
      (isCleanLink_to hurl htitle) inner hinner
  | .text s, hp => by
    have hs : isClean s := hp
    simp [resolve, isCleanRun, hs, h]
  | .wrapped s inner, hp => all_isCleanRun_resolveAll style h inner hp
  | .lineBreak, _ => by
    have hbreak : isClean "\n" := by decide
    simp [resolve, isCleanRun, hbreak, h]
  | .raw s, hp => by
    have hs : isClean s := hp
    rw [resolve]
    split
    · rfl
    · simp [isCleanRun, hs]

theorem all_isCleanRun_resolveAll (style : Style) (h : style.hyperlink.all isCleanLink) :
    (ps : List Phrase) → haveCleanStrings ps → (resolveAll style ps).all isCleanRun
  | [], _ => rfl
  | p :: ps, hps => by
    rw [haveCleanStrings, Bool.and_eq_true] at hps
    rw [resolveAll, List.all_append, all_isCleanRun_resolve style h p hps.1,
      all_isCleanRun_resolveAll style h ps hps.2]
    rfl

end

theorem all_isCleanRun_itemRuns {i : Item} (h : haveCleanStrings i.phrases) :
    (itemRuns i).all isCleanRun := by
  have hruns := all_isCleanRun_resolveAll {} rfl i.phrases h
  have hdone : isClean doneGlyph := by decide
  have hopen : isClean openGlyph := by decide
  have hglyph (isDone : Bool) : isClean (if isDone then doneGlyph else openGlyph) := by
    cases isDone
    · exact hopen
    · exact hdone
  have hempty : isClean "" := rfl
  rw [itemRuns]
  cases hr : resolveAll {} i.phrases with
  | nil => rfl
  | cons first rest =>
    rw [hr, List.all_cons, Bool.and_eq_true, isCleanRun, Bool.and_eq_true] at hruns
    obtain ⟨⟨htext, hlink⟩, hrest⟩ := hruns
    cases i.isTask with
    | false => simpa [bulletRuns, isCleanRun, htext, hlink] using hrest
    | true =>
      by_cases he : first.text.isEmpty <;>
        simpa [taskRuns, isCleanRun, isClean_append, he, htext, hlink, hglyph] using hrest

theorem all_isCleanRun_of_makes {p : Passage} {phrases : List Phrase} {runs : List Run}
    (h : Makes p phrases runs) (hp : hasCleanText p) : runs.all isCleanRun := by
  cases h with
  | paragraph h => exact all_isCleanRun_resolveAll {} rfl phrases hp
  | item h => exact all_isCleanRun_itemRuns (List.all_eq_true.mp hp _ h)

theorem writtenText_of_isClean {s : String} (h : isClean s) : writtenText s.toList = .ok s := by
  have hchars : ∀ c ∈ s.toList, isCharacter c ∧ isEscaped c = false := by
    simpa [isClean] using h
  have hall : s.toList.all isCharacter := List.all_eq_true.mpr fun c hc => (hchars c hc).1
  have hescape : s.toList.flatMap escapeControl = s.toList := by
    have heq : ∀ c ∈ s.toList, escapeControl c = [c] := by
      intro c hc
      simp [escapeControl, (hchars c hc).2]
    rw [List.flatMap_congr heq, List.flatMap_singleton']
  rw [writtenText, if_pos hall, hescape, String.ofList_toList]

theorem isPlainText_of_isClean {s : String} (h : isClean s) : isPlainText s := by
  rw [isClean, List.all_eq_true] at h
  rw [isPlainText, List.all_eq_true]
  intro c hc
  have hchar := h c hc
  rw [Bool.and_eq_true] at hchar ⊢
  exact ⟨hchar.1, by rw [hchar.2]; rfl⟩

/-- The span of a run as it is. -/
def spanOf (r : Run) : Span where
  text := r.text
  size := some bodySize
  bold := r.style.bold
  italic := r.style.italic
  monospace := r.style.monospace
  link := r.style.hyperlink

theorem runSpan_eq {r : Run} (h : isCleanRun r) :
    runSpan r = if r.style.isDead then .error .emptyLink else .ok (spanOf r) := by
  rw [isCleanRun, Bool.and_eq_true] at h
  obtain ⟨htext, hlink⟩ := h
  rw [runSpan, writtenText_of_isClean htext, spanOf, Style.isDead]
  cases hl : r.style.hyperlink with
  | none => rfl
  | some l =>
    rw [hl, Option.all_some, isCleanLink, Bool.and_eq_true] at hlink
    have hplain := isPlainText_of_isClean hlink.2
    by_cases he : l.url.isEmpty
    · simp [checkLink, he, bind, Except.bind]
    · simp [checkLink, he, hplain, bind, Except.bind, pure, Except.pure]

/-- What a text block shows, line by line: a span for each run with text. -/
def shownLines (runs : List Run) : List (List Piece) :=
  (runs.splitOnP fun r => r.style.breaksLine).map fun line =>
    (line.filter fun r => !r.text.isEmpty).map fun r => .span (spanOf r)

theorem shownLines_eq (runs : List Run) :
    shownLines runs = (drawnLines runs).map (List.map fun r => .span (spanOf r)) := by
  rw [shownLines, drawnLines, List.map_map]
  rfl

theorem shownLines_cons (r : Run) (rs : List Run) :
    shownLines (r :: rs) =
      if r.style.breaksLine then [] :: shownLines rs
      else (shownLines rs).modifyHead
        ((if r.text.isEmpty then [] else [.span (spanOf r)]) ++ ·) := by
  obtain ⟨line, lines, hlines⟩ := List.exists_cons_of_ne_nil (drawnLines_ne_nil rs)
  rw [shownLines_eq, shownLines_eq, drawnLines_cons, hlines]
  split
  · rfl
  · by_cases ht : r.text.isEmpty <;> simp [ht]

/-- The spans of a text block, line by line. -/
def lineSpans (runs : List Run) : Except DrawError (List (List Span)) :=
  (drawnLines runs).mapM fun line => line.mapM runSpan

theorem lineSpans_cons (r : Run) (rs : List Run) :
    lineSpans (r :: rs) =
      if r.style.breaksLine then (lineSpans rs).map ([] :: ·)
      else if r.text.isEmpty then lineSpans rs
      else
        match runSpan r with
        | .error e => .error e
        | .ok s => (lineSpans rs).map (List.modifyHead (s :: ·)) := by
  obtain ⟨line, lines, hlines⟩ := List.exists_cons_of_ne_nil (drawnLines_ne_nil rs)
  rw [lineSpans, lineSpans, drawnLines_cons, hlines]
  split
  · rw [mapM_cons_eq, List.mapM_nil]
    cases (line :: lines).mapM fun line => line.mapM runSpan <;> rfl
  · split
    · rfl
    · rw [List.modifyHead_cons, List.singleton_append, mapM_cons_eq, mapM_cons_eq, mapM_cons_eq]
      cases runSpan r with
      | error e => rfl
      | ok s =>
        cases line.mapM runSpan with
        | error e => rfl
        | ok spans => cases lines.mapM fun line => line.mapM runSpan <;> rfl

theorem map_pieces_cons (p : Paragraph) (rest : Except DrawError (List Paragraph)) :
    (rest.bind fun ps => .ok (p :: ps)).map (List.map Paragraph.pieces) =
      (rest.map (List.map Paragraph.pieces)).map (p.pieces :: ·) := by
  cases rest <;> rfl

/-- The paragraphs from an open one on are the lines that are left. What the open one holds already
stands before the first of them. -/
theorem map_pieces_blockFrom (bulleted : Bool) (current : Paragraph) (runs : List Run) :
    (blockFrom bulleted current runs).map (List.map Paragraph.pieces) =
      (lineSpans runs).map fun lines =>
        (lines.map (List.map Piece.span)).modifyHead (current.pieces ++ ·) := by
  induction runs generalizing bulleted current with
  | nil =>
    have hnil : lineSpans [] = .ok [[]] := rfl
    simp [blockFrom, hnil, Except.map]
  | cons r rs ih =>
    rw [blockFrom, lineSpans_cons]
    dsimp only
    by_cases hbreak : r.style.breaksLine
    · rw [if_pos hbreak, if_pos hbreak]
      refine (map_pieces_cons _ _).trans ?_
      rw [ih]
      cases lineSpans rs with
      | error e => rfl
      | ok lines => cases lines <;> simp [Except.map]
    · rw [if_neg hbreak, if_neg hbreak]
      by_cases ht : r.text.isEmpty
      · rw [if_pos ht, if_pos ht]
        exact ih _ _
      · rw [if_neg ht, if_neg ht]
        cases runSpan r with
        | error e => rfl
        | ok s =>
          refine (ih _ _).trans ?_
          cases lineSpans rs with
          | error e => rfl
          | ok lines => cases lines <;> simp [Except.map]

theorem map_pieces_blockParagraphs (runs : List Run) :
    (blockParagraphs runs).map (List.map Paragraph.pieces) =
      (lineSpans runs).map (List.map (List.map Piece.span)) := by
  rw [blockParagraphs, map_pieces_blockFrom]
  congr 1
  funext lines
  cases lines <;> rfl

/-- The lines of clean runs have all their spans, unless a run shows a dead link. -/
theorem lineSpans_of_isCleanRun {runs : List Run} (h : runs.all isCleanRun) :
    (lineSpans runs).map (List.map (List.map Piece.span)) =
      if runs.any Run.isDead then .error .emptyLink else .ok (shownLines runs) := by
  induction runs with
  | nil => rfl
  | cons r rs ih =>
    rw [List.all_cons, Bool.and_eq_true] at h
    rw [List.any_cons, shownLines_cons, lineSpans_cons]
    by_cases hbreak : r.style.breaksLine
    · have hdead : r.isDead = false := by simp [Run.isDead, Run.isShown, hbreak]
      have hnew : ((lineSpans rs).map ([] :: ·)).map (List.map (List.map Piece.span)) =
          ((lineSpans rs).map (List.map (List.map Piece.span))).map ([] :: ·) := by
        cases lineSpans rs <;> rfl
      rw [hdead, Bool.false_or, if_pos hbreak, if_pos hbreak, hnew, ih h.2]
      split <;> rfl
    · rw [if_neg hbreak, if_neg hbreak]
      by_cases ht : r.text.isEmpty
      · have hdead : r.isDead = false := by simp [Run.isDead, Run.isShown, ht]
        rw [hdead, Bool.false_or, if_pos ht, if_pos ht, ih h.2]
        cases shownLines rs <;> rfl
      · have hdead : r.isDead = r.style.isDead := by simp [Run.isDead, Run.isShown, hbreak, ht]
        rw [hdead, if_neg ht, if_neg ht, runSpan_eq h.1]
        cases r.style.isDead with
        | true => rfl
        | false =>
          have hnew : ((lineSpans rs).map (List.modifyHead (spanOf r :: ·))).map
                (List.map (List.map Piece.span)) =
              ((lineSpans rs).map (List.map (List.map Piece.span))).map
                (List.modifyHead ([.span (spanOf r)] ++ ·)) := by
            cases lineSpans rs with
            | error e => rfl
            | ok lines => cases lines <;> rfl
          refine hnew.trans ?_
          rw [Bool.false_or, ih h.2]
          split <;> rfl

theorem drawTextBlock_eq {b : Box Float} {box : Box Int} (h : boxOfInches b = .ok box)
    (runs : List Run) :
    drawTextBlock b runs = ⟨[], (blockParagraphs runs).map (.textBox box)⟩ := by
  have hbox : boxFor b = ⟨[], .ok box⟩ := by
    rw [boxFor, h]
    rfl
  rw [drawTextBlock, hbox]
  cases blockParagraphs runs <;> rfl

theorem result_of_map_eq {β γ ε : Type} {r : Except ε β} {f : β → γ} {c : Prop} [Decidable c]
    {e : ε} {z : γ} (h : r.map f = if c then .error e else .ok z) :
    if c then r = .error e else ∃ y, r = .ok y ∧ f y = z := by
  by_cases hc : c
  · rw [if_pos hc] at h ⊢
    cases r with
    | error e' =>
      cases h
      rfl
    | ok y => cases h
  · rw [if_neg hc] at h ⊢
    cases r with
    | error e' => cases h
    | ok y => exact ⟨y, rfl, Except.ok.inj h⟩

/-- What is drawn of a text block whose strings are clean. -/
theorem drawTextBlock_of_makes {p : Passage} {phrases : List Phrase} {runs : List Run}
    (h : Makes p phrases runs) (hp : hasCleanText p) {b : Box Float} {box : Box Int}
    (hbox : boxOfInches b = .ok box) :
    if anyShowsDead false phrases then drawTextBlock b runs = ⟨[], .error .emptyLink⟩
    else ∃ paragraphs, drawTextBlock b runs = ⟨[], .ok (.textBox box paragraphs)⟩ ∧
      paragraphs.map Paragraph.pieces = shownLines runs := by
  have hmap := map_pieces_blockParagraphs runs
  rw [lineSpans_of_isCleanRun (all_isCleanRun_of_makes h hp), any_isDead_of_makes h] at hmap
  have hpieces := result_of_map_eq hmap
  rw [drawTextBlock_eq hbox]
  split
  · rename_i hd
    rw [if_pos hd] at hpieces
    rw [hpieces]
    rfl
  · rename_i hd
    rw [if_neg hd] at hpieces
    obtain ⟨paragraphs, hp, hlines⟩ := hpieces
    refine ⟨paragraphs, ?_, hlines⟩
    rw [hp]
    rfl

theorem exists_ofInches_column {s : Slide} {c : Column Float × List Element} (hc : c ∈ columns s) :
    (∃ n, ofInches c.1.x = .ok n) ∧ ∃ n, ofInches c.1.width = .ok n := by
  have hok : (ofInches c.1.x).isOk ∧ (ofInches c.1.width).isOk := by
    rcases mem_columns hc with h | h | h <;> rw [h] <;> decide
  have hexists {x : Float} (h : (ofInches x).isOk) : ∃ n, ofInches x = .ok n := by
    cases hx : ofInches x with
    | error e =>
      rw [hx] at h
      cases h
    | ok n => exact ⟨n, rfl⟩
  exact ⟨hexists hok.1, hexists hok.2⟩

/-- An element stands at a place that can be drawn at, if its size there can be. -/
theorem exists_place_of_mem_placeDeck {slides : List Slide} {placed : List (PlacedSlide Float)}
    (h : placeDeck slides = .ok placed) {s : PlacedSlide Float} (hs : s ∈ placed)
    {p : Placed Float} (hp : p ∈ s.elements) :
    ∃ (w y : Float) (size : Extent Float), (∃ n, ofInches w = .ok n) ∧ (remaining y).isFinite ∧
      0 ≤ remaining y ∧ number (remaining y) < 32 ∧
      extent shapeSize w (remaining y) p.element = .ok size ∧
      ((∃ n, ofInches size.width = .ok n) → (∃ n, ofInches size.height = .ok n) →
        ∃ box, boxOfInches p.box = .ok box) := by
  obtain ⟨slide, -, hslide⟩ := exists_of_mem_mapM h hs
  obtain ⟨c, hc, -, y, size, hy, hfull, hext, hbox⟩ := mem_placeSlide hslide hp
  obtain ⟨hyf, hylt, hrf, hrpos, hrlt⟩ := remaining_spec hy hfull
  obtain ⟨⟨x, hx⟩, hwidth⟩ := exists_ofInches_column hc
  obtain ⟨top, htop⟩ := exists_ofInches hyf (number_nonneg hy) (by linarith)
  refine ⟨c.1.width, y, size, hwidth, hrf, hrpos, hrlt, hext, ?_⟩
  rintro ⟨width, hwidth⟩ ⟨height, hheight⟩
  rw [hbox]
  exact ⟨_, boxOfInches_eq_ok hx htop hwidth hheight⟩

/-- The place of a text block on a slide is one that can be drawn at. -/
theorem exists_box_of_mem_placeDeck {slides : List Slide} {placed : List (PlacedSlide Float)}
    (h : placeDeck slides = .ok placed) {s : PlacedSlide Float} (hs : s ∈ placed)
    {p : Placed Float} (hp : p ∈ s.elements) {runs : List Run} (he : p.element = .textBlock runs) :
    ∃ box, boxOfInches p.box = .ok box := by
  obtain ⟨w, y, size, hwidth, hrf, hrpos, hrlt, hext, hbox⟩ := exists_place_of_mem_placeDeck h hs hp
  rw [he] at hext
  cases hext
  obtain ⟨hhf, hhpos, hhle⟩ := lesser_spec (lineHeight_nonneg (lineCount runs)) hrf hrpos
  have hheight := exists_ofInches hhf (number_nonneg hhpos) (hhle.trans_lt hrlt)
  exact hbox hwidth hheight

/-- A text block of clean strings is drawn run by run, unless it shows a dead link; and the place
that it gets on a slide is one to draw at. -/
theorem drawTextBlock_of_build {ps : List Passage} (hclean : ∀ p ∈ ps, hasCleanText p)
    {slides : List Slide} (hb : (build ps).slides = .ok slides) :
    (∀ s ∈ slides, ∀ runs, .textBlock runs ∈ s.elements →
      ∃ p ∈ ps, ∃ phrases, Makes p phrases runs ∧
        ∀ b box, boxOfInches b = .ok box →
          if anyShowsDead false phrases then drawTextBlock b runs = ⟨[], .error .emptyLink⟩
          else ∃ paragraphs, drawTextBlock b runs = ⟨[], .ok (.textBox box paragraphs)⟩ ∧
            paragraphs.map Paragraph.pieces = shownLines runs) ∧
    ∀ placed, placeDeck slides = .ok placed → ∀ s ∈ placed, ∀ p ∈ s.elements, ∀ runs,
      p.element = .textBlock runs → ∃ box, boxOfInches p.box = .ok box := by
  constructor
  · intro s hs runs hruns
    obtain ⟨p, hp, phrases, hmakes⟩ := exists_makes_of_mem_slide hb hs hruns
    exact ⟨p, hp, phrases, hmakes, fun b box => drawTextBlock_of_makes hmakes (hclean p hp)⟩
  · intro placed hplaced s hs p hp runs
    exact exists_box_of_mem_placeDeck hplaced hs hp

/-- A task with a link over two lines. -/
def linkedTalk : List Passage :=
  [.heading 1 "T", .list false
    [⟨"", [.bold [.link "u" (some "v") [.text "a", .lineBreak, .italic [.code "c"]]]], true, true⟩]]

theorem drawTextBlock_of_build_linkedTalk :
    (∀ p ∈ linkedTalk, hasCleanText p) ∧
    ∃ runs, (build linkedTalk).slides = .ok [⟨"T", [.textBlock runs], none⟩] ∧
      ∀ b box, boxOfInches b = .ok box → ∃ paragraphs,
        drawTextBlock b runs = ⟨[], .ok (.textBox box paragraphs)⟩ ∧
        paragraphs.map Paragraph.pieces =
          [[.span ⟨"☑ a", some 1800, true, false, false, some ⟨"u", "v"⟩⟩],
            [.span ⟨" c ", some 1800, true, true, true, some ⟨"u", "v"⟩⟩]] := by
  have hclean : ∀ p ∈ linkedTalk, hasCleanText p := by decide +kernel
  let link : Hyperlink := ⟨"u", "v"⟩
  let runs : List Run := [⟨"☑ a", { bold := true, hyperlink := some link }⟩,
    ⟨"\n", { bold := true, hyperlink := some link, breaksLine := true }⟩,
    ⟨" c ", { bold := true, italic := true, monospace := true, hyperlink := some link }⟩]
  have hb : (build linkedTalk).slides = .ok [⟨"T", [.textBlock runs], none⟩] := rfl
  have halive : runs.any Run.isDead = false := by decide +kernel
  obtain ⟨p, -, phrases, hmakes, hdraw⟩ :=
    (drawTextBlock_of_build hclean hb).1 _ List.mem_cons_self runs List.mem_cons_self
  refine ⟨hclean, runs, hb, ?_⟩
  intro b box hbox
  have h := hdraw b box hbox
  rw [← any_isDead_of_makes hmakes, halive] at h
  exact h

/-- A link without an address. -/
def deadTalk : List Passage :=
  [.heading 1 "T", .paragraph "[x]()" [.link "" none [.text "x"]]]

theorem not_forall_drawTextBlock :
    ¬∀ ps, (∀ p ∈ ps, hasCleanText p) → ∀ slides, (build ps).slides = .ok slides →
      ∀ s ∈ slides, ∀ runs, .textBlock runs ∈ s.elements → ∀ b box, boxOfInches b = .ok box →
        ∃ figure, (drawTextBlock b runs).result = .ok figure := by
  intro h
  have hclean : ∀ p ∈ deadTalk, hasCleanText p := by decide +kernel
  have hb : (build deadTalk).slides =
      .ok [⟨"T", [.textBlock [⟨"x", { hyperlink := some ⟨"", ""⟩ }⟩]], none⟩] := rfl
  obtain ⟨figure, hfigure⟩ := h _ hclean _ hb _ List.mem_cons_self _ List.mem_cons_self _ _
    boxOfInches_titleBox
  rw [drawTextBlock_eq boxOfInches_titleBox] at hfigure
  cases hfigure

end SlideDeck.Drawing
