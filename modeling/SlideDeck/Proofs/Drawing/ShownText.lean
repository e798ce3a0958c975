import SlideDeck.Proofs.Drawing.TextBlock

/-!
The text of drawn text boxes. A paragraph is drawn from each line of a text block, with a span for
each run of the line; so a text box shows the text of the lines, and a task keeps its glyph unless
it starts with a line break.
-/

namespace SlideDeck.Drawing

open Deck Layout

/-- A text with its controls escaped. -/
def escaped (s : String) : String := String.ofList (s.toList.flatMap escapeControl)

theorem escaped_append (s t : String) : escaped (s ++ t) = escaped s ++ escaped t := by
  simp [escaped, String.ofList_append]

theorem escaped_plainText (runs : List Run) :
    escaped (plainText runs) = String.join (runs.map fun r => escaped r.text) := by
  induction runs with
  | nil => rfl
  | cons r rs ih => rw [plainText_cons, escaped_append, ih, List.map_cons, String.join_cons]

/-- A line feed stays as it is. -/
theorem escaped_intercalate (lines : List String) :
    escaped (String.intercalate "\n" lines) = String.intercalate "\n" (lines.map escaped) := by
  have hfeed : escaped "\n" = "\n" := by decide
  induction lines with
  | nil => rfl
  | cons line lines ih =>
    cases lines with
    | nil => simp
    | cons line' lines =>
      rw [String.intercalate_cons_cons, escaped_append, escaped_append, hfeed, ih]
      simp only [List.map_cons, String.intercalate_cons_cons]

theorem map_of_mapM {β γ δ ε : Type} {f : β → Except ε γ} {g : γ → δ} {k : β → δ}
    (hf : ∀ x y, f x = .ok y → g y = k x) {xs : List β} {ys : List γ} (h : xs.mapM f = .ok ys) :
    ys.map g = xs.map k := by
  rw [← List.forall₂_eq_eq_eq, List.forall₂_map_left_iff, List.forall₂_map_right_iff]
  exact ((forall₂_of_mapM h).imp hf).flip

theorem text_of_runSpan {r : Run} {s : Span} (h : runSpan r = .ok s) : s.text = escaped r.text := by
  rw [runSpan, writtenText] at h
  split at h
  · cases hl : r.style.hyperlink.mapM checkLink with
    | error e =>
      rw [hl] at h
      cases h
    | ok link =>
      rw [hl] at h
      cases h
      rfl
  · cases h

theorem text_of_lineSpans {runs : List Run} {lines : List (List Span)}
    (h : lineSpans runs = .ok lines) :
    lines.map (fun line => String.join (line.map Span.text)) =
      (drawnLines runs).map fun line => escaped (plainText line) := by
  refine map_of_mapM (fun line spans hline => ?_) h
  rw [escaped_plainText, map_of_mapM (fun _ _ => text_of_runSpan) hline]

theorem notesText_of_lineSpans {runs : List Run} {lines : List (List Span)}
    (h : lineSpans runs = .ok lines) {paragraphs : List Paragraph}
    (hp : paragraphs.map Paragraph.pieces = lines.map (List.map Piece.span)) :
    notesText paragraphs = escaped (shownText runs) := by
  have htext : paragraphs.map Paragraph.text =
      lines.map fun line => String.join (line.map Span.text) := by
    have hpieces := congrArg (List.map fun pieces => String.join (pieces.map Piece.text)) hp
    rw [List.map_map, List.map_map] at hpieces
    refine hpieces.trans (List.map_congr_left fun line _ => ?_)
    rw [Function.comp_apply, List.map_map]
    rfl
  rw [notesText, htext, text_of_lineSpans h, shownText, escaped_intercalate, List.map_map]
  rfl

/-- The text box of a text block holds the spans of its lines, and fails where a span fails. -/
theorem drawTextBlock_lineSpans {b : Box Float} {box : Box Int} (h : boxOfInches b = .ok box)
    (runs : List Run) :
    match lineSpans runs with
    | .error e => drawTextBlock b runs = ⟨[], .error e⟩
    | .ok lines => ∃ paragraphs, drawTextBlock b runs = ⟨[], .ok (.textBox box paragraphs)⟩ ∧
        paragraphs.map Paragraph.pieces = lines.map (List.map Piece.span) ∧
        notesText paragraphs = escaped (shownText runs) := by
  have hpieces := map_pieces_blockParagraphs runs
  rw [drawTextBlock_eq h]
  cases hlines : lineSpans runs with
  | error e =>
    rw [hlines] at hpieces
    cases hp : blockParagraphs runs with
    | error e' =>
      rw [hp] at hpieces
      cases hpieces
      rfl
    | ok paragraphs =>
      rw [hp] at hpieces
      cases hpieces
  | ok lines =>
    rw [hlines] at hpieces
    cases hp : blockParagraphs runs with
    | error e =>
      rw [hp] at hpieces
      cases hpieces
    | ok paragraphs =>
      rw [hp] at hpieces
      have hdrawn := Except.ok.inj hpieces
      exact ⟨paragraphs, rfl, hdrawn, notesText_of_lineSpans hlines hdrawn⟩

/-- A text block that is built shows its plain text, whatever it is made from, except that a task
which starts with a line break shows no glyph. -/
theorem drawTextBlock_text {ps : List Passage} {slides : List Slide}
    (hb : (build ps).slides = .ok slides) {s : Slide} (hs : s ∈ slides) {runs : List Run}
    (hr : .textBlock runs ∈ s.elements) :
    (∀ b box, boxOfInches b = .ok box →
      match lineSpans runs with
      | .error e => drawTextBlock b runs = ⟨[], .error e⟩
      | .ok lines => ∃ paragraphs, drawTextBlock b runs = ⟨[], .ok (.textBox box paragraphs)⟩ ∧
          paragraphs.map Paragraph.pieces = lines.map (List.map Piece.span) ∧
          notesText paragraphs = escaped (shownText runs)) ∧
    (shownText runs = plainText runs ↔
      ∀ ordered items, .list ordered items ∈ ps → ∀ i ∈ items, itemRuns i = runs →
        ¬i.losesGlyph) ∧
    ∀ i, itemRuns i = runs →
      plainText runs = i.glyph ++ plainText (resolveAll {} i.phrases) ∧
        shownText runs =
          (if i.losesGlyph then "" else i.glyph) ++ plainText (resolveAll {} i.phrases) := by
  obtain ⟨p, hp, he⟩ := exists_mem_elements hb hs hr
  obtain ⟨phrases, hmakes, hphrases⟩ := exists_makes he
  have hruns := ne_nil_of_makes hmakes hphrases
  have hitem (i : Item) (hi : itemRuns i = runs) : resolveAll {} i.phrases ≠ [] :=
    fun hnil => hruns (hi ▸ (itemRuns_eq_nil i).mpr hnil)
  refine ⟨fun b box hbox => drawTextBlock_lineSpans hbox runs, ⟨?_, ?_⟩, ?_⟩
  · rintro h ordered items - i - rfl
    exact (shownText_eq_plainText_iff (hitem i rfl)).mp h
  · intro h
    cases hmakes with
    | paragraph _ => exact shownText_resolveAll phrases
    | @item ordered items i hi =>
      exact (shownText_eq_plainText_iff (hitem i rfl)).mpr (h ordered items hp i hi rfl)
  · rintro i rfl
    exact ⟨plainText_itemRuns (hitem i rfl), shownText_itemRuns (hitem i rfl)⟩

/-- A task over two lines. -/
def shownTalk : List Passage :=
  [.heading 1 "T", .list false [⟨"", [.bold [.text "a", .lineBreak, .code "b"]], true, true⟩]]

theorem drawTextBlock_text_shownTalk :
    ∃ runs, (build shownTalk).slides = .ok [⟨"T", [.textBlock runs], none⟩] ∧
      shownText runs = plainText runs ∧ plainText runs = "☑ a\n b " ∧
      ∀ b box, boxOfInches b = .ok box → ∃ paragraphs,
        drawTextBlock b runs = ⟨[], .ok (.textBox box paragraphs)⟩ ∧
        notesText paragraphs = "☑ a\n b " := by
  let runs : List Run := [⟨"☑ a", { bold := true }⟩, ⟨"\n", { bold := true, breaksLine := true }⟩,
    ⟨" b ", { bold := true, monospace := true }⟩]
  have hb : (build shownTalk).slides = .ok [⟨"T", [.textBlock runs], none⟩] := rfl
  have hlines : lineSpans runs = .ok [[⟨"☑ a", some 1800, true, false, false, none⟩],
      [⟨" b ", some 1800, true, false, true, none⟩]] := by
    decide +kernel
  have hplain : plainText runs = "☑ a\n b " := by decide +kernel
  have hescaped : escaped "☑ a\n b " = "☑ a\n b " := by decide +kernel
  have hr : .textBlock runs ∈ [Element.textBlock runs] := List.mem_cons_self
  obtain ⟨hdraw, hiff, -⟩ := drawTextBlock_text hb List.mem_cons_self hr
  have hshown : shownText runs = plainText runs := by
    rw [hiff]
    intro ordered items hp i hi _
    simp only [shownTalk, List.mem_cons, reduceCtorEq, false_or, Passage.list.injEq,
      List.not_mem_nil, or_false] at hp
    rw [hp.2, List.mem_singleton] at hi
    rw [hi]
    decide +kernel
  refine ⟨runs, hb, hshown, hplain, fun b box hbox => ?_⟩
  have h := hdraw b box hbox
  rw [hlines] at h
  obtain ⟨paragraphs, hdrawn, -, htext⟩ := h
  exact ⟨paragraphs, hdrawn, by rw [htext, hshown, hplain, hescaped]⟩

/-- A task whose first paragraph is nothing but the task marker. -/
def lostTalk : List Passage :=
  [.heading 1 "T", .list false [⟨"foo", [.wrapped "foo" [.lineBreak, .text "foo"]], true, false⟩]]

theorem not_forall_drawTextBlock_text :
    ¬∀ ps slides, (build ps).slides = .ok slides → ∀ s ∈ slides, ∀ runs,
      .textBlock runs ∈ s.elements → ∀ b box paragraphs,
        drawTextBlock b runs = ⟨[], .ok (.textBox box paragraphs)⟩ →
        notesText paragraphs = escaped (plainText runs) := by
  intro h
  let runs : List Run := [⟨"☐ \n", { breaksLine := true }⟩, ⟨"foo", {}⟩]
  have hb : (build lostTalk).slides = .ok [⟨"T", [.textBlock runs], none⟩] := rfl
  have hp : blockParagraphs runs =
      .ok [{}, { pieces := [.span { text := "foo", size := some 1800 }] }] := by
    decide +kernel
  have htext : notesText [{}, { pieces := [.span { text := "foo", size := some 1800 }] }] =
      escaped (plainText runs) := by
    refine h _ _ hb _ List.mem_cons_self runs List.mem_cons_self titleBox
      ⟨457200, 274320, 8229600, 685800⟩ _ ?_
    rw [drawTextBlock_eq boxOfInches_titleBox, hp]
    rfl
  exact absurd htext (by decide +kernel)

end SlideDeck.Drawing
