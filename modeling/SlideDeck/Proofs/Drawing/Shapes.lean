import SlideDeck.Proofs.Deck.Build
import SlideDeck.Proofs.Drawing.Figures
import SlideDeck.Proofs.Drawing.Lengths
import SlideDeck.Proofs.Layout.Finite
import SlideDeck.Proofs.Text.Lines

/-!
Which shapes can be drawn, and how. An option that is no color or no number is left out; a number
that is no width of a line is the one thing among the options that stops the drawing.
-/

namespace SlideDeck.Drawing

open Deck Layout Decimal

/-- A text without the two code points that are no characters. -/
def HasCharacters (s : List Char) : Prop := ∀ c ∈ s, isCharacter c

theorem exists_writtenText_iff (s : List Char) :
    (∃ text, writtenText s = .ok text) ↔ HasCharacters s := by
  rw [writtenText, HasCharacters, ← List.all_eq_true]
  split
  · exact iff_of_true ⟨_, rfl⟩ ‹_›
  · exact iff_of_false (by rintro ⟨text, ⟨⟩⟩) ‹_›

theorem exists_textPieces_iff (s : List Char) :
    (∃ ps, textPieces s = .ok ps) ↔ HasCharacters s := by
  rw [textPieces]
  split
  · rename_i hs
    rw [List.isEmpty_iff.mp hs]
    exact iff_of_true ⟨[], rfl⟩ (List.forall_mem_nil _)
  · rw [← exists_writtenText_iff]
    cases writtenText s <;> simp [Except.map]

theorem exists_lineParagraph_iff (s : List Char) :
    (∃ p, lineParagraph s = .ok p) ↔ HasCharacters s := by
  have hparts : (∃ p, lineParagraph s = .ok p) ↔
      ∃ parts, (Text.splitOn '\u000b' s).mapM textPieces = .ok parts := by
    rw [lineParagraph]
    cases (Text.splitOn '\u000b' s).mapM textPieces <;> simp [bind, Except.bind, pure, Except.pure]
  rw [hparts, exists_mapM_ok_iff]
  simp only [exists_textPieces_iff, HasCharacters]
  exact Text.forall_mem_splitOn_iff (P := fun c => isCharacter c) rfl s

/-- A text can be drawn if it can be written at all. -/
theorem exists_textParagraphs_iff (s : String) :
    (∃ ps, textParagraphs s = .ok ps) ↔ HasCharacters s.toList := by
  rw [textParagraphs, exists_mapM_ok_iff]
  simp only [exists_lineParagraph_iff, HasCharacters]
  exact Text.forall_mem_splitOn_iff (P := fun c => isCharacter c) rfl s.toList

/-- The two digits of a component. -/
def componentDigits (n : UInt8) : List Char := (Text.hexDigits 2 n.toNat).map Char.toUpper

theorem component?_digits (n : UInt8) :
    ∃ a b, componentDigits n = [a, b] ∧ a ≠ '#' ∧ component? [a, b] = some n := by
  have hall : ∀ k : Fin 256, ((componentDigits (UInt8.ofNat k)).head? ≠ some '#' ∧
      component? (componentDigits (UInt8.ofNat k)) = some (UInt8.ofNat k)) := by decide +kernel
  obtain ⟨hmark, hvalue⟩ := hall ⟨n.toNat, n.toNat_lt⟩
  rw [UInt8.ofNat_toNat] at hmark hvalue
  exact ⟨_, _, rfl, fun h => hmark (congrArg some h), hvalue⟩

/-- A color is named by its six digits, in any letter case and behind any number signs. -/
theorem ofText?_of_digits {s : String} {marks : Nat} {digits : List Char} {c : Color}
    (hs : s.toList = List.replicate marks '#' ++ digits)
    (hd : Text.upper digits = c.text.toList) : Color.ofText? s = some c := by
  obtain ⟨a, b, hred, ha, hr⟩ := component?_digits c.red
  obtain ⟨a', b', hgreen, -, hg⟩ := component?_digits c.green
  obtain ⟨a'', b'', hblue, -, hb⟩ := component?_digits c.blue
  have htext : c.text.toList = [a, b] ++ [a', b'] ++ [a'', b''] := by
    rw [← hred, ← hgreen, ← hblue]
    simp [Color.text, componentDigits]
  have hfirst : digits.dropWhile (· == '#') = digits := by
    cases digits with
    | nil => rfl
    | cons d digits =>
      refine List.dropWhile_cons_of_neg ?_
      rw [beq_iff_eq]
      rintro rfl
      have hmark : Text.upperChar '#' = ['#'] := by decide
      rw [Text.upper, List.flatMap_cons, hmark, htext] at hd
      exact ha (List.cons.inj hd).1.symm
  have hdrop : s.toList.dropWhile (· == '#') = digits := by
    rw [hs, List.dropWhile_append_of_pos, hfirst]
    intro x hx
    rw [List.eq_of_mem_replicate hx]
    rfl
  rw [Color.ofText?, hdrop, hd, htext]
  change (do
    let red ← component? [a, b]
    let green ← component? [a', b']
    let blue ← component? [a'', b'']
    return (⟨red, green, blue⟩ : Color)) = _
  rw [hr, hg, hb]
  rfl

/-- The color under an option, if it names one. -/
def color? (v : Option Json.Value) : Option Color := (v.bind colorText?).bind Color.named?

/-- What is said of an option for a color: that its text names none. -/
def colorNotices (v : Option Json.Value) : List Notice :=
  match v.bind colorText? with
  | some s => if (Color.named? s).isNone then [.invalidColor s] else []
  | none => []

theorem optionColor_eq (o : Json.Object) (key : String) :
    optionColor o key = ⟨colorNotices (o.get? key), .ok (color? (o.get? key))⟩ := by
  unfold optionColor
  cases o.get? key with
  | none => rfl
  | some v =>
    cases hs : colorText? v with
    | none => simp [colorOption, color?, colorNotices, hs, pure, Logged.pure]
    | some s =>
      cases hc : Color.named? s <;>
        simp [colorOption, color?, colorNotices, hs, hc, pure, Logged.pure, bind, Logged.bind,
          Logged.give]

theorem optionColor_eq_ok_iff (o : Json.Object) (key : String) (ns : List Notice)
    (color : Option Color) :
    optionColor o key = ⟨ns, .ok color⟩ ↔
      ns = colorNotices (o.get? key) ∧ color = color? (o.get? key) := by
  rw [optionColor_eq, Logged.mk.injEq, Except.ok.injEq, eq_comm, @eq_comm _ color]

/-- The option for the width of the line. -/
def widthOption? (o : Json.Object) : Option Json.Value :=
  match o.get? "line" with
  | some (.object l) => Json.Object.get? l "width"
  | _ => none

theorem lineWidth?_eq (o : Json.Object) :
    lineWidth? (o.get? "line") =
      match (widthOption? o).bind pointsOption? with
      | some points => (points.bind checkLineWidth).map some
      | none => .ok none := by
  unfold widthOption?
  cases o.get? "line" with
  | none => rfl
  | some v =>
    cases v with
    | null | bool b | int i | float x | string s | array vs => rfl
    | object l =>
      rw [lineWidth?]
      dsimp only
      cases (Json.Object.get? l "width").bind pointsOption? with
      | none => rfl
      | some points =>
        cases points with
        | error e => rfl
        | ok n =>
          change (checkLineWidth n).bind (fun n => .ok (some n)) = (checkLineWidth n).map some
          cases checkLineWidth n <;> rfl

/-- The width of a line is what its option asks for, if it can be. -/
theorem lineWidth?_eq_ok_iff (o : Json.Object) (w : Option Int) :
    lineWidth? (o.get? "line") = .ok w ↔
      (∀ v, widthOption? o = some v → CanBeWidth v) ∧ w = (widthOption? o).bind widthUnits? := by
  rw [lineWidth?_eq]
  cases widthOption? o with
  | none => simp [eq_comm]
  | some v =>
    rw [Option.bind_some, Option.bind_some]
    simp only [Option.some.injEq, forall_eq']
    cases hpoints : pointsOption? v with
    | none =>
      obtain ⟨hany, hunits⟩ := not_number_of_points hpoints
      simp [hany, hunits, eq_comm]
    | some points =>
      have hspec := points_eq_ok_iff hpoints
      dsimp only
      cases hchecked : points.bind checkLineWidth with
      | error e =>
        obtain ⟨n, hn⟩ := exists_widthUnits hpoints
        refine iff_of_false (by rintro ⟨⟩) ?_
        rintro ⟨hcan, -⟩
        cases hchecked.symm.trans ((hspec n).mpr ⟨hcan, hn⟩)
      | ok n =>
        obtain ⟨hcan, hunits⟩ := (hspec n).mp hchecked
        simp [Except.map, hcan, hunits, eq_comm]

/-- The line of a shape as its options ask for it. A width of zero is no width. -/
def line? (o : Json.Object) : Option LineStyle :=
  let color := color? (o.get? "line")
  let width := (widthOption? o).bind widthUnits?
  if color.isNone && width.isNone then none else some ⟨color, width.filter (· ≠ 0)⟩

theorem line?_eq (o : Json.Object) :
    line? o =
      if (color? (o.get? "line")).isNone && ((widthOption? o).bind widthUnits?).isNone then none
      else some ⟨color? (o.get? "line"),
        ((widthOption? o).bind widthUnits?).bind fun n => if n = 0 then none else some n⟩ := by
  have hfilter (width : Option Int) :
      width.filter (· ≠ 0) = width.bind fun n => if n = 0 then none else some n := by
    cases width with
    | none => rfl
    | some n => by_cases hn : n = 0 <;> simp [Option.filter, hn]
  rw [← hfilter]
  rfl

theorem lineStyle_eq_ok_iff (o : Json.Object) (ns : List Notice) (line : Option LineStyle) :
    lineStyle o = ⟨ns, .ok line⟩ ↔ (∀ v, widthOption? o = some v → CanBeWidth v) ∧
      ns = colorNotices (o.get? "line") ∧ line = line? o := by
  rw [line?_eq]
  constructor
  · intro h
    obtain ⟨_, color, _, hcolor, hthen, rfl⟩ := Logged.bind_eq_ok.mp h
    obtain ⟨_, width, _, hwidth, hend, rfl⟩ := Logged.bind_eq_ok.mp hthen
    obtain ⟨rfl, rfl⟩ := (optionColor_eq_ok_iff _ _ _ _).mp hcolor
    obtain ⟨hasked, rfl⟩ := Logged.ofExcept_eq_ok.mp hwidth
    obtain ⟨hcan, rfl⟩ := (lineWidth?_eq_ok_iff o _).mp (Logged.mapError_eq_ok.mp hasked)
    obtain ⟨rfl, rfl⟩ := Logged.pure_eq_ok.mp hend
    exact ⟨hcan, List.append_nil _, rfl⟩
  · rintro ⟨hcan, rfl, rfl⟩
    have hwidth := (lineWidth?_eq_ok_iff o _).mpr ⟨hcan, rfl⟩
    refine Logged.bind_eq_ok.mpr ⟨_, _, [], optionColor_eq o "line", ?_, (List.append_nil _).symm⟩
    refine Logged.bind_eq_ok.mpr ⟨[], _, [], ?_, Logged.pure_eq_ok.mpr ⟨rfl, rfl⟩, rfl⟩
    exact Logged.ofExcept_eq_ok.mpr ⟨Logged.mapError_eq_ok.mpr hwidth, rfl⟩

/-- The text of a shape can be written. A line has none. -/
def HasWritableText (s : Shape) : Prop :=
  s.kind ≠ .line → ∀ text, s.options.get? "text" = some (.string text) →
    text.rest = [] ∧ HasCharacters text.start.toList

/-- No text with a surrogate can be written. -/
theorem exists_codePointParagraphs_iff (s : Text.CodePoints) :
    (∃ ps, codePointParagraphs s = .ok ps) ↔ s.rest = [] ∧ HasCharacters s.start.toList := by
  obtain ⟨start, rest⟩ := s
  cases rest with
  | nil =>
    rw [and_iff_right rfl, ← exists_textParagraphs_iff]
    rfl
  | cons surrogate rest =>
    refine iff_of_false ?_ fun h => List.cons_ne_nil _ _ h.1
    rintro ⟨ps, h⟩
    rw [codePointParagraphs, Text.CodePoints.faultAt?] at h
    dsimp only at h
    split at h <;> cases h

theorem exists_shapeParagraphs_iff (o : Json.Object) :
    (∃ ps, shapeParagraphs o = .ok ps) ↔
      ∀ text, o.get? "text" = some (.string text) →
        text.rest = [] ∧ HasCharacters text.start.toList := by
  rw [shapeParagraphs]
  split
  · rename_i text h
    rw [exists_codePointParagraphs_iff, h]
    simp
  · rename_i h
    exact iff_of_true ⟨_, rfl⟩ fun text htext => absurd htext (h text)

/-- The figure of a shape. -/
def shapeFigure (s : Shape) (box : Box Int) (ps : List Paragraph) : Figure :=
  match outline? s.kind with
  | none => .connector box (line? s.options)
  | some outline => .shape outline box (color? (s.options.get? "fill")) (line? s.options) ps

/-- What is drawn behind the options: a line has no text. -/
theorem figure_eq_ok_iff (s : Shape) (box : Box Int) (ns : List Notice) (f : Figure) :
    (match outline? s.kind with
      | none => pure (.connector box (line? s.options))
      | some outline => do
        let paragraphs ← Logged.ofExcept (shapeParagraphs s.options)
        return .shape outline box (color? (s.options.get? "fill")) (line? s.options) paragraphs :
      Draw Figure) = ⟨ns, .ok f⟩ ↔
      ns = [] ∧ ∃ ps, (s.kind ≠ .line → shapeParagraphs s.options = .ok ps) ∧
        f = shapeFigure s box ps := by
  unfold shapeFigure
  cases ho : outline? s.kind with
  | none =>
    have hline : s.kind = .line := outline?_eq_none_iff.mp ho
    refine Logged.pure_eq_ok.trans ?_
    simp [hline, eq_comm, and_comm]
  | some outline =>
    have hline : s.kind ≠ .line := by
      intro h
      cases ho.symm.trans (outline?_eq_none_iff.mpr h)
    constructor
    · intro h
      obtain ⟨_, ps, _, hwritten, hend, rfl⟩ := Logged.bind_eq_ok.mp h
      obtain ⟨hps, rfl⟩ := Logged.ofExcept_eq_ok.mp hwritten
      obtain ⟨rfl, rfl⟩ := Logged.pure_eq_ok.mp hend
      exact ⟨rfl, ps, fun _ => hps, rfl⟩
    · rintro ⟨rfl, ps, hps, rfl⟩
      have hdrawn := Logged.ofExcept_eq_ok.mpr ⟨hps hline, rfl⟩
      exact Logged.bind_eq_ok.mpr ⟨[], ps, [], hdrawn, Logged.pure_eq_ok.mpr ⟨rfl, rfl⟩, rfl⟩

theorem drawShape_eq_ok_iff (b : Box Float) (s : Shape) (ns : List Notice) (f : Figure) :
    drawShape b s = ⟨ns, .ok f⟩ ↔
      (∀ v, widthOption? s.options = some v → CanBeWidth v) ∧
      ns = colorNotices (s.options.get? "fill") ++ colorNotices (s.options.get? "line") ∧
      ∃ box ps, boxOfInches b = .ok box ∧ (s.kind ≠ .line → shapeParagraphs s.options = .ok ps) ∧
        f = shapeFigure s box ps := by
  constructor
  · intro h
    obtain ⟨_, box, _, hb, hfilled, rfl⟩ := Logged.bind_eq_ok.mp h
    obtain ⟨hbox, rfl⟩ := boxFor_eq_ok.mp hb
    obtain ⟨_, fill, _, hfill, hlined, rfl⟩ := Logged.bind_eq_ok.mp hfilled
    obtain ⟨rfl, rfl⟩ := (optionColor_eq_ok_iff _ _ _ _).mp hfill
    obtain ⟨_, line, ns, hline, hend, rfl⟩ := Logged.bind_eq_ok.mp hlined
    obtain ⟨hcan, rfl, rfl⟩ := (lineStyle_eq_ok_iff _ _ _).mp hline
    obtain ⟨rfl, ps, hps, rfl⟩ := (figure_eq_ok_iff s box ns f).mp hend
    refine ⟨hcan, ?_, box, ps, hbox, hps, rfl⟩
    rw [List.nil_append, List.append_nil]
  · rintro ⟨hcan, rfl, box, ps, hbox, hps, rfl⟩
    have hline := (lineStyle_eq_ok_iff s.options _ _).mpr ⟨hcan, rfl, rfl⟩
    refine Logged.bind_eq_ok.mpr ⟨[], box, _, boxFor_eq_ok.mpr ⟨hbox, rfl⟩, ?_, rfl⟩
    refine Logged.bind_eq_ok.mpr ⟨_, _, _, optionColor_eq s.options "fill", ?_, rfl⟩
    refine Logged.bind_eq_ok.mpr ⟨_, _, [], hline, ?_, (List.append_nil _).symm⟩
    exact (figure_eq_ok_iff s box [] _).mpr ⟨rfl, ps, hps, rfl⟩

theorem exists_paragraphs_iff (s : Shape) :
    (∃ ps, s.kind ≠ .line → shapeParagraphs s.options = .ok ps) ↔ HasWritableText s := by
  by_cases hline : s.kind = .line
  · exact iff_of_true ⟨[], fun h => absurd hline h⟩ fun h => absurd hline h
  · simp only [HasWritableText, hline, ne_eq, not_false_eq_true, forall_const,
      ← exists_shapeParagraphs_iff]

/-- A shape is drawn if and only if its box can be, its text can be written, and a number under the
width of its line is in range. Every other option does no harm: the colors that are named and the
width are those of its figure, and each text that names no color is reported. -/
theorem drawShape_returns_iff (b : Box Float) (s : Shape) :
    ((∃ ns f, drawShape b s = ⟨ns, .ok f⟩) ↔
      (IsLength b.x ∧ IsLength b.y ∧ IsLength b.width ∧ IsLength b.height) ∧
      (∀ v, widthOption? s.options = some v → CanBeWidth v) ∧ HasWritableText s) ∧
    ∀ ns f, drawShape b s = ⟨ns, .ok f⟩ →
      ns = colorNotices (s.options.get? "fill") ++ colorNotices (s.options.get? "line") ∧
      ∃ box ps, boxOfInches b = .ok box ∧ (s.kind ≠ .line → shapeParagraphs s.options = .ok ps) ∧
        f = shapeFigure s box ps := by
  constructor
  · rw [← exists_boxOfInches_iff, ← exists_paragraphs_iff]
    simp only [drawShape_eq_ok_iff]
    constructor
    · rintro ⟨ns, f, hcan, -, box, ps, hbox, hps, -⟩
      exact ⟨⟨box, hbox⟩, hcan, ps, hps⟩
    · rintro ⟨⟨box, hbox⟩, hcan, ps, hps⟩
      exact ⟨_, _, hcan, rfl, box, ps, hbox, hps, rfl⟩
  · intro ns f h
    exact ((drawShape_eq_ok_iff b s ns f).mp h).2

/-- A box with a line of one point and a half in green, and a fill that is no color. -/
def outlinedShape : Shape where
  kind := .rectangle
  options := [("fill", .string "nope"), ("text", .string "a"),
    ("line", .object [("color", .string "#00ff00"), ("width", .float 1.5)])]

theorem drawShape_returns_iff_outlinedShape :
    ∃ f box, drawShape titleBox outlinedShape = ⟨[.invalidColor "nope"], .ok f⟩ ∧
      f = .shape .rectangle box none (some ⟨some ⟨0, 255, 0⟩, some 19050⟩)
        [{ pieces := [.span { text := "a" }] }] := by
  have hoption : widthOption? outlinedShape.options = some (.float 1.5) := rfl
  have hwidth : CanBeWidth (.float 1.5) ∧ widthUnits? (.float 1.5) = some 19050 :=
    (points_eq_ok_iff rfl 19050).mp (by decide +kernel)
  have hwritable : HasWritableText outlinedShape := by
    intro _ text h
    have htext : outlinedShape.options.get? "text" = some (.string "a") := rfl
    obtain rfl := Json.Value.string.inj (Option.some.inj (htext.symm.trans h))
    have hlist : "a".toList = ['a'] := rfl
    refine ⟨rfl, ?_⟩
    rw [hlist, HasCharacters, List.forall_mem_singleton]
    rfl
  obtain ⟨hreturns, hfigure⟩ := drawShape_returns_iff titleBox outlinedShape
  have hlengths := (exists_boxOfInches_iff titleBox).mp ⟨_, boxOfInches_titleBox⟩
  obtain ⟨ns, f, hdrawn⟩ := hreturns.mpr ⟨hlengths, by
    rw [hoption]
    rintro v ⟨⟩
    exact hwidth.1, hwritable⟩
  obtain ⟨rfl, box, ps, -, hps, rfl⟩ := hfigure ns f hdrawn
  have hnotices : colorNotices (outlinedShape.options.get? "fill") ++
      colorNotices (outlinedShape.options.get? "line") = [.invalidColor "nope"] := by
    decide +kernel
  have hparagraphs : shapeParagraphs outlinedShape.options =
      .ok [{ pieces := [.span { text := "a" }] }] := by decide +kernel
  obtain rfl := Except.ok.inj ((hps (by decide)).symm.trans hparagraphs)
  have hline : line? outlinedShape.options = some ⟨some ⟨0, 255, 0⟩, some 19050⟩ := by
    have hgreen : color? (outlinedShape.options.get? "line") = some ⟨0, 255, 0⟩ := by
      decide +kernel
    rw [line?, hoption, Option.bind_some, hwidth.2, hgreen]
    rfl
  have hfill : color? (outlinedShape.options.get? "fill") = none := by decide +kernel
  refine ⟨_, box, by rw [hdrawn, hnotices], ?_⟩
  rw [shapeFigure, hline, hfill]
  rfl

/-- The options of a shape with a line of less than no width. -/
def thinOptions : String := "\x7b\"line\": \x7b\"width\": -1\x7d\x7d"

def thinShape : Shape := ⟨.rectangle, [("line", .object [("width", .int (-1))])]⟩

theorem parse_thinOptions : Json.parse thinOptions.toList = .ok (.object thinShape.options) := by
  have h : thinOptions.toList = ['\x7b', '"', 'l', 'i', 'n', 'e', '"', ':', ' ', '\x7b', '"', 'w',
      'i', 'd', 't', 'h', '"', ':', ' ', '-', '1', '\x7d', '\x7d'] := by
    decide
  rw [h]
  rfl

theorem placeDeck_thinShape : placeDeck [⟨"T", [.shape thinShape], none⟩] =
    .ok [⟨"T", none, [⟨.shape thinShape, ⟨0.5, 1.2, 9.0, 1.0⟩, 0⟩]⟩] := rfl

/-- One width can end the drawing of a whole deck. -/
theorem not_forall_drawShape :
    ¬∀ ps slides placed, (build ps).slides = .ok slides → placeDeck slides = .ok placed →
      ∀ s ∈ placed, ∀ q ∈ s.elements, q.box.IsFinite → ∀ shape, q.element = .shape shape →
        HasWritableText shape → ∃ ns f, drawShape q.box shape = ⟨ns, .ok f⟩ := by
  intro h
  have hform : formOf "!shape[rect](\x7b\"line\": \x7b\"width\": -1\x7d\x7d)" =
      .shape "rect" thinOptions := by decide +kernel
  have hparse : parseShape "rect" thinOptions = .ok (.ok thinShape) := by
    rw [parseShape, parse_thinOptions]
    rfl
  have hbuild := build_shape "T" [] hform hparse
  have hwritable : HasWritableText thinShape := by
    rintro - text ⟨⟩
  obtain ⟨ns, f, hdrawn⟩ := h _ _ _ hbuild placeDeck_thinShape _ List.mem_cons_self _
    List.mem_cons_self ⟨rfl, rfl, rfl, rfl⟩ _ rfl hwritable
  obtain ⟨hcan, -⟩ := (drawShape_eq_ok_iff _ _ _ _).mp hdrawn
  have hwidth : CanBeWidth (.int (-1)) := hcan _ rfl
  exact absurd hwidth.1 (by decide)

end SlideDeck.Drawing
