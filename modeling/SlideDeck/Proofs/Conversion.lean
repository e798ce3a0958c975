import SlideDeck.Conversion
import SlideDeck.Proofs.Deck.BadShapes
import SlideDeck.Proofs.Layout.Reached
import SlideDeck.Proofs.Logged

/-!
Which texts have a plan: those whose shapes can all be read, up to reports, and have a size wherever
a column comes to them. The plan is then that of the slides of the text, and its notices are the
reports.
-/

namespace SlideDeck

open Deck Layout Decimal

/-- The slides that a text asks for. -/
def slidesOf (text : String) : List Slide := (segments (passages text)).map Segment.slide

/-- The reports of the shapes in a text that cannot be read. -/
def reportsIn (text : String) : List String := (segments (passages text)).flatMap Segment.reports

/-- From the first slide on, no shape has an overlong number among its options, and no column comes
to one of a size that is too large. -/
structure HasPlan (text : String) : Prop where
  readable : ∀ p ∈ opened (passages text), ¬p.IsOverlong
  sized : ∀ s ∈ slidesOf text, ∀ shape, Reaches s (.shape shape) → HasDoubles shape

theorem overlong_eq_none_iff (ps : List Passage) :
    ps.findSome? Passage.overlong? = none ↔ ∀ p ∈ ps, ¬p.IsOverlong := by
  simp only [List.findSome?_eq_none_iff, isOverlong_iff, ne_eq, not_not]

theorem planDeck_eq (text : String) :
    planDeck text = ⟨(build (passages text)).notices,
      ((build (passages text)).slides.mapError .longNumber).bind placeSlides⟩ := by
  rw [planDeck, parseMarkdown]
  rfl

theorem planDeck_eq_ok_iff (text : String) (placed : List (PlacedSlide Float)) :
    (planDeck text).result = .ok placed ↔
      (∀ p ∈ opened (passages text), ¬p.IsOverlong) ∧ placeDeck (slidesOf text) = .ok placed := by
  rw [planDeck_eq, ← overlong_eq_none_iff, build_eq, slidesOf]
  cases (opened (passages text)).findSome? Passage.overlong? with
  | some n => exact ⟨nofun, nofun⟩
  | none =>
    have hread (slides : List Slide) :
        (Except.ok slides).mapError PlanError.longNumber = .ok slides := rfl
    rw [and_iff_right rfl, hread, Except.bind, placeSlides, Logged.mapError_eq_ok]

theorem exists_planDeck_iff (text : String) :
    (∃ placed, (planDeck text).result = .ok placed) ↔ HasPlan text := by
  simp only [planDeck_eq_ok_iff, exists_and_left]
  rw [placeDeck_returns_iff]
  exact ⟨fun h => ⟨h.1, h.2⟩, fun h => ⟨h.1, h.2⟩⟩

/-- The notices of a plan are the reports of its shapes. -/
theorem notices_planDeck {text : String} (h : ∀ p ∈ opened (passages text), ¬p.IsOverlong) :
    (planDeck text).notices.map Notice.text = reportsIn text := by
  rw [planDeck_eq, build_eq, reportsOf_eq ((overlong_eq_none_iff _).mpr h),
    filterMap_report?_opened, List.map_map, reportsIn]
  exact List.map_id _

end SlideDeck
