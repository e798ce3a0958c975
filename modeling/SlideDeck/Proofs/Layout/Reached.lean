import SlideDeck.Proofs.Layout.Finite
import SlideDeck.Proofs.Layout.Parts

/-!
What the columns of a slide come to is what they place. So a deck can be placed if and only if each
shape that they come to has a size.
-/

namespace SlideDeck.Layout

open Deck Decimal

section

variable {α : Type} [Add α] [Sub α] [Mul α] [NatCast α] [OfScientific α]
  [LT α] [DecidableLT α] [LE α] [DecidableLE α]

variable {sizes : Shape → Except LayoutError (Size α)} {c : Column α}

/-- An element whose size can be told. Only that of a shape may be unknown. -/
def IsSized (sizes : Shape → Except LayoutError (Size α)) (e : Element) : Prop :=
  ∀ s, e = .shape s → ∃ size, sizes s = .ok size

omit [Sub α] [LE α] [DecidableLE α] in
theorem exists_extent_iff {e : Element} (he : isBreak e = false) (w r : α) :
    (∃ size, extent sizes w r e = .ok size) ↔ IsSized sizes e := by
  cases e with
  | columnBreak => cases he
  | textBlock runs | picture p | table t =>
    exact iff_of_true ⟨_, rfl⟩ (by rintro s ⟨⟩)
  | shape s =>
    have hsized : IsSized sizes (.shape s) ↔ ∃ size, sizes s = .ok size := by
      simp [IsSized]
    rw [hsized, extent]
    cases sizes s with
    | error err => exact iff_of_false (by rintro ⟨size, ⟨⟩⟩) (by rintro ⟨size, ⟨⟩⟩)
    | ok size => exact iff_of_true ⟨_, rfl⟩ ⟨size, rfl⟩

theorem exists_flow_iff {es : List Element} (hes : ∀ e ∈ es, isBreak e = false) (y : α) :
    (∃ placed, flow sizes c es y = .ok placed) ↔
      ∀ e, Reached sizes c es y e → IsSized sizes e := by
  induction es generalizing y with
  | nil => exact iff_of_true ⟨[], rfl⟩ (by rintro e ⟨⟩)
  | cons e es ih =>
    rw [List.forall_mem_cons] at hes
    rw [flow_cons]
    by_cases hfull : remaining y ≤ minRemaining
    · rw [if_pos hfull]
      exact iff_of_true ⟨[], rfl⟩ fun e' he' => absurd he' (not_reached hfull e')
    · rw [if_neg hfull]
      have hsized : (∃ size, extent sizes c.width (remaining y) e = .ok size) ↔ IsSized sizes e :=
        exists_extent_iff hes.1 c.width (remaining y)
      cases he : extent sizes c.width (remaining y) e with
      | error err =>
        refine iff_of_false (by rintro ⟨placed, ⟨⟩⟩) fun h => ?_
        obtain ⟨size, hsize⟩ := hsized.mpr (h e (.here hfull))
        cases he.symm.trans hsize
      | ok size =>
        rw [forall_reached_cons hfull he, ← ih hes.2, and_iff_right (hsized.mp ⟨size, he⟩)]
        dsimp only
        cases flow sizes c es (y + size.advance) <;> simp

/-- What a column comes to is what it places. -/
theorem reached_iff_mem_flow {es : List Element} {y : α} {placed : List (Placed α)}
    (h : flow sizes c es y = .ok placed) (e : Element) :
    Reached sizes c es y e ↔ ∃ p ∈ placed, p.element = e := by
  induction es generalizing y placed with
  | nil =>
    cases h
    exact iff_of_false (by rintro ⟨⟩) (by rintro ⟨p, ⟨⟩, -⟩)
  | cons e' es ih =>
    obtain ⟨hfull, rfl⟩ | ⟨size, rest, hspace, he, hrest, rfl⟩ := flow_cons_eq_ok h
    · exact iff_of_false (not_reached hfull e) (by rintro ⟨p, ⟨⟩, -⟩)
    · rw [List.exists_mem_cons_iff, ← ih hrest]
      constructor
      · intro hr
        cases hr with
        | here _ => exact Or.inl rfl
        | later _ he' hr =>
          obtain rfl := Except.ok.inj (he'.symm.trans he)
          exact Or.inr hr
      · rintro (rfl | hr)
        · exact .here hspace
        · exact .later hspace he hr

omit [DecidableLE α] in
theorem mem_of_reached {es : List Element} {y : α} {e : Element} (h : Reached sizes c es y e) :
    e ∈ es := by
  induction h with
  | here _ => exact List.mem_cons_self
  | later _ _ _ ih => exact List.mem_cons_of_mem _ ih

end

theorem mem_of_reaches {s : Slide} {e : Element} (h : Reaches s e) : e ∈ s.elements := by
  obtain ⟨c, hc, hr⟩ := h
  have he := mem_of_reached hr
  rw [columns_eq] at hc
  split at hc
  · rw [List.mem_cons, List.mem_singleton] at hc
    obtain rfl | rfl := hc
    · exact mem_of_mem_firstPart he
    · exact mem_of_mem_secondPart he
  · rw [List.mem_singleton] at hc
    rwa [hc] at he

/-- A slide is placed if each element that its columns come to has a size. -/
theorem exists_placeSlide_iff (s : Slide) :
    (∃ placed, placeSlide shapeSize s = .ok placed) ↔ ∀ e, Reaches s e → IsSized shapeSize e := by
  have hcolumns : (∃ placed, ((columns s).mapM fun c => flow shapeSize c.1 c.2 contentTop) =
      .ok placed) ↔ ∀ e, Reaches s e → IsSized shapeSize e := by
    rw [exists_mapM_ok_iff]
    constructor
    · rintro h e ⟨c, hc, hr⟩
      exact (exists_flow_iff (fun e => not_isBreak_of_mem_columns hc) contentTop).mp (h c hc) e hr
    · intro h c hc
      exact (exists_flow_iff (fun e => not_isBreak_of_mem_columns hc) contentTop).mpr
        fun e hr => h e ⟨c, hc, hr⟩
  rw [← hcolumns, placeSlide_eq]
  cases (columns s).mapM fun c => flow shapeSize c.1 c.2 contentTop with
  | error err => exact iff_of_false (by rintro ⟨placed, ⟨⟩⟩) (by rintro ⟨placed, ⟨⟩⟩)
  | ok placed => exact iff_of_true ⟨_, rfl⟩ ⟨placed, rfl⟩

/-- The placed elements of a slide are those that its columns come to. -/
theorem reaches_iff_mem {s : Slide} {placed : PlacedSlide Float}
    (h : placeSlide shapeSize s = .ok placed) (e : Element) :
    Reaches s e ↔ ∃ p ∈ placed.elements, p.element = e := by
  constructor
  · rintro ⟨c, hc, hr⟩
    obtain ⟨p, hp, rfl⟩ := (reached_iff_mem_flow (flow_of_mem_columns h hc) e).mp hr
    exact ⟨p, List.mem_of_mem_filter hp, rfl⟩
  · rintro ⟨p, hp, rfl⟩
    obtain ⟨c, hc, hp⟩ := exists_mem_columns h hp
    exact ⟨c, hc, (reached_iff_mem_flow (flow_of_mem_columns h hc) _).mpr ⟨p, hp, rfl⟩⟩

/-- What holds of all that is placed holds of all that the columns come to. -/
theorem forall_placed_iff {slides : List Slide} {placed : List (PlacedSlide Float)}
    (h : placeDeck slides = .ok placed) (P : Element → Prop) :
    (∀ s ∈ placed, ∀ p ∈ s.elements, P p.element) ↔ ∀ s ∈ slides, ∀ e, Reaches s e → P e := by
  constructor
  · intro hall s hs e he
    obtain ⟨placedSlide, hplaced, hplace⟩ :=
      (exists_mapM_iff (placeSlide shapeSize) slides).mp ⟨placed, h, hall⟩ s hs
    obtain ⟨p, hp, rfl⟩ := (reaches_iff_mem hplaced e).mp he
    exact hplace p hp
  · intro hall s hs p hp
    obtain ⟨slide, hslide, hplaced⟩ := exists_of_mem_mapM h hs
    exact hall slide hslide _ ((reaches_iff_mem hplaced _).mpr ⟨p, hp, rfl⟩)

/-- A number that is not too large for a double. -/
def HasDouble : Json.Value → Prop
  | .int i => (i : ℚ) < tooLarge
  | _ => True

theorem sizeOf?_returns_iff {v : Json.Value} (h : isPositive v) :
    (∃ size, sizeOf? v = .ok size) ↔ HasDouble v := by
  cases v with
  | int i =>
    have hi : 0 < i := by simpa [isPositive] using h
    obtain ⟨hfits, hlarge⟩ := ofInt?_of_pos hi
    rw [sizeOf?, if_pos hi, HasDouble]
    by_cases hlt : (i : ℚ) < tooLarge
    · obtain ⟨x, hx, -⟩ := hfits hlt
      rw [hx]
      exact iff_of_true ⟨_, rfl⟩ hlt
    · rw [hlarge (not_lt.mp hlt)]
      exact iff_of_false (by rintro ⟨size, ⟨⟩⟩) hlt
  | float x => exact iff_of_true ⟨_, rfl⟩ trivial
  | null | bool b | string s | array vs | object o => cases h

/-- No size that a shape asks for is too large for a double. -/
def HasDoubles (s : Shape) : Prop :=
  (∀ v, sizeValue? s.options ["h", "height"] = some v → HasDouble v) ∧
    ∀ v, sizeValue? s.options ["w", "width"] = some v → HasDouble v

theorem exists_shapeSize_iff (s : Shape) : (∃ size, shapeSize s = .ok size) ↔ HasDoubles s := by
  have hoption (keys : List String) : (∃ size, sizeOption s.options keys = .ok size) ↔
      ∀ v, sizeValue? s.options keys = some v → HasDouble v := by
    rw [sizeOption_eq]
    cases hv : sizeValue? s.options keys with
    | none => exact iff_of_true ⟨_, rfl⟩ (by rintro v ⟨⟩)
    | some v =>
      obtain ⟨key, -, h⟩ := List.exists_of_findSome?_eq_some hv
      have hpos := (Option.filter_eq_some_iff.mp h).2
      simpa using sizeOf?_returns_iff hpos
  rw [HasDoubles, ← hoption, ← hoption, shapeSize]
  cases sizeOption s.options ["h", "height"] <;> cases sizeOption s.options ["w", "width"] <;>
    simp [bind, Except.bind, pure, Except.pure]

/-- A deck is placed if and only if no column comes to a shape of a size that is too large. -/
theorem placeDeck_returns_iff (slides : List Slide) :
    (∃ placed, placeDeck slides = .ok placed) ↔
      ∀ s ∈ slides, ∀ shape, Reaches s (.shape shape) → HasDoubles shape := by
  refine (exists_mapM_ok_iff (placeSlide shapeSize) slides).trans (forall₂_congr fun s _ => ?_)
  simp only [exists_placeSlide_iff, IsSized, exists_shapeSize_iff]
  exact ⟨fun h shape hr => h _ hr shape rfl, fun h e hr shape he => h shape (he ▸ hr)⟩

end SlideDeck.Layout
