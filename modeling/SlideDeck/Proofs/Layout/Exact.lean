import Mathlib.Tactic.Linarith
import Mathlib.Tactic.NormNum.OfScientific
import SlideDeck.Proofs.Layout.Finite
import SlideDeck.Proofs.Layout.Parts

/-!
The layout in exact numbers. Every element takes a fifth of an inch or more of its column, so that
the elements of a column stand apart and few of them have room.
-/

namespace SlideDeck.Layout

open Deck Decimal

/-- The positive number under the first of several keys that holds one, if values are read as exact
numbers. -/
def exactOption (value : Json.Value → Option ℚ) (o : Json.Object) (keys : List String) : Option ℚ :=
  keys.findSome? fun key : String => ((o.get? key).bind value).filter (0 < ·)

def exactSizes (value : Json.Value → Option ℚ) (s : Shape) : Except LayoutError (Size ℚ) :=
  .ok ⟨exactOption value s.options ["w", "width"], exactOption value s.options ["h", "height"]⟩

theorem exactOption_pos {value : Json.Value → Option ℚ} {o : Json.Object} {keys : List String}
    {q : ℚ} (h : exactOption value o keys = some q) : 0 < q := by
  obtain ⟨key, -, hq⟩ := List.exists_of_findSome?_eq_some h
  simpa using (Option.filter_eq_some_iff.mp hq).2

theorem exactOption_getD_pos (value : Json.Value → Option ℚ) (o : Json.Object) (keys : List String)
    {w : ℚ} (hw : 0 < w) : 0 < (exactOption value o keys).getD w := by
  cases h : exactOption value o keys with
  | none => exact hw
  | some q => exact exactOption_pos h

theorem remaining_le_iff (y : ℚ) : remaining y ≤ minRemaining ↔ 5.275 ≤ y := by
  rw [remaining, minRemaining, slideHeight, bottomMargin]
  constructor <;> intro h <;> norm_num at h ⊢ <;> linarith

/-- What holds of the extent of an element in a column of width `w` with `r` left. -/
structure Extent.Measures (size : Extent ℚ) (w r : ℚ) (e : Element) : Prop where
  width_pos : 0 < size.width
  height_pos : 0 < size.height
  height_le : size.height ≤ size.advance
  spaced : 0.2 ≤ size.advance
  width_eq : (∀ shape, e ≠ .shape shape) → size.width = w
  text_le : ∀ runs, e = .textBlock runs → size.height ≤ r

theorem one_le_lineCount (runs : List Run) : (1 : ℚ) ≤ lineCount runs := by
  rw [lineCount]
  exact_mod_cast Nat.le_add_right 1 _

theorem measures_extent {value : Json.Value → Option ℚ} {w r : ℚ} (hw : 0 < w) (hr : 0.1 < r)
    {e : Element} {size : Extent ℚ} (h : extent (exactSizes value) w r e = .ok size) :
    size.Measures w r e := by
  cases e with
  | textBlock runs =>
    have hwanted : 0.1 < (lineCount runs : ℚ) * lineHeight := by
      rw [lineHeight]
      linarith [one_le_lineCount runs]
    rw [extent, ← min_def_lt, textSpacing] at h
    cases h
    have hlt := lt_min hwanted hr
    exact {
      width_pos := hw
      height_pos := by linarith
      height_le := by linarith
      spaced := by linarith
      width_eq := fun _ => rfl
      text_le := fun _ _ => min_le_right _ r }
  | picture p =>
    rw [extent, pictureHeight, pictureSpacing] at h
    cases h
    exact {
      width_pos := hw
      height_pos := by norm_num
      height_le := by norm_num
      spaced := by norm_num
      width_eq := fun _ => rfl
      text_le := fun _ h => by cases h }
  | table t =>
    have hrows : (0 : ℚ) ≤ t.rows.length := Nat.cast_nonneg _
    rw [extent, tableHeadHeight, tableRowHeight] at h
    cases h
    exact {
      width_pos := hw
      height_pos := by linarith
      height_le := le_rfl
      spaced := by linarith
      width_eq := fun _ => rfl
      text_le := fun _ h => by cases h }
  | shape shape =>
    have hheight := exactOption_getD_pos value shape.options ["h", "height"]
      (w := shapeHeight) (by norm_num [shapeHeight])
    have hwidth := exactOption_getD_pos value shape.options ["w", "width"] hw
    rw [extent, exactSizes, shapeSpacing] at h
    cases h
    exact {
      width_pos := hwidth
      height_pos := hheight
      height_le := by linarith
      spaced := by linarith
      width_eq := fun h => absurd rfl (h shape)
      text_le := fun _ h => by cases h }
  | columnBreak => cases h

section

variable {value : Json.Value → Option ℚ} {c : Column ℚ} {es : List Element} {y : ℚ}
  {placed : List (Placed ℚ)}

theorem measures_of_not_full (hw : 0 < c.width) (hy : ¬remaining y ≤ minRemaining) {e : Element}
    {size : Extent ℚ} (h : extent (exactSizes value) c.width (remaining y) e = .ok size) :
    size.Measures c.width (remaining y) e :=
  measures_extent hw (not_le.mp hy) h

/-- What is placed stands at or below the start of the column, with the extent it takes there. -/
theorem measures_of_mem_flow (hw : 0 < c.width) (h : flow (exactSizes value) c es y = .ok placed)
    {p : Placed ℚ} (hp : p ∈ placed) :
    y ≤ p.box.y ∧ p.box.y < 5.275 ∧ p.box.x = c.x ∧ ∃ size : Extent ℚ,
      size.Measures c.width (remaining p.box.y) p.element ∧ p.box.width = size.width ∧
        p.box.height = size.height := by
  have hstep : ∀ z e size, y ≤ z → ¬remaining z ≤ minRemaining →
      extent (exactSizes value) c.width (remaining z) e = .ok size → y ≤ z + size.advance := by
    intro z e size hz hfull he
    linarith [(measures_of_not_full hw hfull he).spaced]
  obtain ⟨-, z, size, hz, hfull, he, hbox⟩ := mem_flow hstep le_rfl h hp
  rw [hbox]
  exact ⟨hz, not_le.mp (mt (remaining_le_iff z).mpr hfull), rfl, size,
    measures_of_not_full hw hfull he, rfl, rfl⟩

/-- The elements of a column stand one below the other. -/
theorem pairwise_flow (hw : 0 < c.width) (h : flow (exactSizes value) c es y = .ok placed) :
    placed.Pairwise fun p q => p.box.y < q.box.y ∧ p.box.y + p.box.height ≤ q.box.y := by
  induction es generalizing y placed with
  | nil =>
    cases h
    exact List.Pairwise.nil
  | cons e es ih =>
    obtain ⟨-, rfl⟩ | ⟨size, rest, hfull, he, hrest, rfl⟩ := flow_cons_eq_ok h
    · exact List.Pairwise.nil
    · have hsize := measures_of_not_full hw hfull he
      refine List.Pairwise.cons (fun q hq => ?_) (ih hrest)
      obtain ⟨hbelow, -⟩ := measures_of_mem_flow hw hrest hq
      constructor <;> dsimp only
      · linarith [hsize.spaced]
      · linarith [hsize.height_le]

/-- A column is full after as many elements as it has fifths of an inch. -/
theorem length_flow_le (hw : 0 < c.width) (h : flow (exactSizes value) c es y = .ok placed) {n : ℕ}
    (hn : 5.275 ≤ y + 0.2 * n) : placed.length ≤ n := by
  induction es generalizing y placed n with
  | nil =>
    cases h
    exact Nat.zero_le n
  | cons e es ih =>
    obtain ⟨-, rfl⟩ | ⟨size, rest, hfull, he, hrest, rfl⟩ := flow_cons_eq_ok h
    · exact Nat.zero_le n
    · have hy : y < 5.275 := not_le.mp (mt (remaining_le_iff y).mpr hfull)
      cases n with
      | zero =>
        rw [Nat.cast_zero] at hn
        linarith
      | succ n =>
        have hspaced := (measures_of_not_full hw hfull he).spaced
        rw [Nat.cast_succ] at hn
        -- the column below has a fifth of an inch less, and one element less to hold
        exact Nat.succ_le_succ (ih hrest (by linarith))

end

theorem columns_width_pos {s : Slide} {c : Column ℚ × List Element} (hc : c ∈ columns s) :
    0 < c.1.width := by
  obtain h | h | h := mem_columns hc <;> rw [h] <;>
    norm_num [singleColumn, leftColumn, rightColumn]

/-- In exact numbers every slide is placed. What is placed starts on the content area at the left
edge of its column, the elements of a column stand one below the other without overlap, text ends
above the bottom margin, and a column holds 21 elements at most. -/
theorem placeSlide_exact (value : Json.Value → Option ℚ) (s : Slide) :
    ∃ placed, placeSlide (exactSizes value) s = .ok placed ∧
      (∀ p ∈ placed.elements, ∃ c : Column ℚ × List Element, c ∈ columns s ∧
        p ∈ placed.inColumn c.1.number) ∧
      ∀ c : Column ℚ × List Element, c ∈ columns s →
        (∀ p ∈ placed.inColumn c.1.number,
          0 < p.box.width ∧ 0 < p.box.height ∧ p.box.x = c.1.x ∧
          1.2 ≤ p.box.y ∧ p.box.y < 5.275 ∧
          ((∀ shape, p.element ≠ .shape shape) → p.box.width = c.1.width) ∧
          ∀ runs, p.element = .textBlock runs → p.box.y + p.box.height ≤ 5.375) ∧
        ((placed.inColumn c.1.number).Pairwise fun p q =>
          p.box.y < q.box.y ∧ p.box.y + p.box.height ≤ q.box.y) ∧
        (placed.inColumn c.1.number).length ≤ 21 := by
  have hsizes : HasSizes (exactSizes value) s.elements := fun _ _ => ⟨_, rfl⟩
  obtain ⟨placed, hplaced⟩ := exists_placeSlide hsizes
  refine ⟨placed, hplaced, fun p hp => exists_mem_columns hplaced hp, fun c hc => ?_⟩
  have hw := columns_width_pos hc
  have hflow := flow_of_mem_columns hplaced hc
  refine ⟨fun p hp => ?_, pairwise_flow hw hflow, length_flow_le hw hflow ?_⟩
  · obtain ⟨htop, hbottom, hx, size, hsize, hwidth, hheight⟩ := measures_of_mem_flow hw hflow hp
    rw [hwidth, hheight]
    refine ⟨hsize.width_pos, hsize.height_pos, hx, htop, hbottom, hsize.width_eq, fun runs h => ?_⟩
    have htext := hsize.text_le runs h
    rw [remaining, slideHeight, bottomMargin] at htext
    linarith
  · rw [contentTop]
    norm_num

/-- With tiny shapes a column does hold 21 elements. -/
example :
    (placeSlide (exactSizes fun _ => some 0.001)
        ⟨"T", List.replicate 30 (.shape ⟨.line, [("h", .null)]⟩), none⟩).toOption.map
      (·.elements.length) = some 21 := by
  decide +kernel

end SlideDeck.Layout
