import SlideDeck.Proofs.Layout.Finite
import SlideDeck.Proofs.Layout.Parts

/-!
What is placed on a slide: each column holds the longest beginning of its elements that fits. So the
columns do not depend on one another, and what is appended to a slide moves nothing on it.
-/

namespace SlideDeck.Layout

open Deck Decimal

theorem hasSpace_iff {y : Float} (hy : 0 ≤ y) :
    minRemaining < remaining y ↔ ¬remaining y ≤ minRemaining := by
  have hmin : (minRemaining : Float).isFinite := rfl
  refine ⟨float_not_le_of_lt hmin, fun h => ?_⟩
  obtain ⟨-, -, hrf, -⟩ := remaining_spec hy h
  rw [le_iff_number_le hrf hmin, not_le] at h
  exact (lt_iff_number_lt hmin hrf).mpr h

theorem fills_of_flow {c : Column Float} (hw : c.width.isFinite) (hwpos : 0 ≤ c.width)
    {es : List Element} {placed : List (Placed Float)}
    (h : flow shapeSize c es contentTop = .ok placed) : Fills shapeSize c es contentTop placed :=
  flow_fills (nonneg_advance hw hwpos) (fun _ => hasSpace_iff) contentTop_nonneg h

theorem firstColumn_finite (es : List Element) :
    (firstColumn es : Column Float).width.isFinite ∧ 0 ≤ (firstColumn es : Column Float).width := by
  rw [firstColumn]
  split <;> decide

theorem rightColumn_finite :
    (rightColumn : Column Float).width.isFinite ∧ 0 ≤ (rightColumn : Column Float).width := by
  decide

/-- A slide is placed column by column, and each column holds the longest beginning of its part of
the elements that fits. The columns do not depend on each other, nor on breaks after the first. -/
theorem placeSlide_fills (s : Slide) :
    placeSlide shapeSize s ≠ .error .columnBreak ∧
    (HasSizes shapeSize s.elements → ∃ placed, placeSlide shapeSize s = .ok placed) ∧
    (∀ placed, placeSlide shapeSize s = .ok placed →
      placed.elements = placed.inColumn 0 ++ placed.inColumn 1 ∧
      (∀ p ∈ placed.elements, isBreak p.element = false) ∧
      Fills shapeSize (firstColumn s.elements) (firstPart s.elements) contentTop
        (placed.inColumn 0) ∧
      Fills shapeSize rightColumn (secondPart s.elements) contentTop (placed.inColumn 1)) ∧
    (∀ placed s' placed', placeSlide shapeSize s = .ok placed →
      placeSlide shapeSize s' = .ok placed' →
      (firstPart s.elements = firstPart s'.elements →
        s.elements.any isBreak = s'.elements.any isBreak →
        placed.inColumn 0 = placed'.inColumn 0) ∧
      (secondPart s.elements = secondPart s'.elements →
        placed.inColumn 1 = placed'.inColumn 1)) ∧
    ∀ before after after', s.elements = before ++ .columnBreak :: after →
      after.filter (!isBreak ·) = after'.filter (!isBreak ·) →
      placeSlide shapeSize { s with elements := before ++ .columnBreak :: after' } =
        placeSlide shapeSize s := by
  refine ⟨?_, exists_placeSlide, ?_, ?_, ?_⟩
  · intro h
    cases placeSlide_error h
  · intro placed h
    obtain ⟨-, -, helements, hfirst, hsecond⟩ := placeSlide_eq_ok h
    obtain ⟨hw, hwpos⟩ := firstColumn_finite s.elements
    have hfills := fills_of_flow hw hwpos hfirst
    have hfills' := fills_of_flow rightColumn_finite.1 rightColumn_finite.2 hsecond
    refine ⟨helements, fun p hp => ?_, hfills, hfills'⟩
    rw [helements, List.mem_append] at hp
    obtain hp | hp := hp
    · exact not_isBreak_of_mem_firstPart (hfills.beginning.subset (List.mem_map_of_mem hp))
    · exact not_isBreak_of_mem_secondPart (hfills'.beginning.subset (List.mem_map_of_mem hp))
  · intro placed s' placed' h h'
    obtain ⟨-, -, -, hfirst, hsecond⟩ := placeSlide_eq_ok h
    obtain ⟨-, -, -, hfirst', hsecond'⟩ := placeSlide_eq_ok h'
    constructor
    · intro hpart hany
      rw [firstColumn, hpart, hany] at hfirst
      exact Except.ok.inj (hfirst.symm.trans hfirst')
    · intro hpart
      rw [hpart] at hsecond
      exact Except.ok.inj (hsecond.symm.trans hsecond')
  · intro before after after' hs h
    obtain ⟨title, elements, notes⟩ := s
    cases hs
    exact (placeSlide_congr_after title notes before h).symm

/-- A slide with two breaks, on which the last picture has no room. -/
def brokenSlide : Slide where
  title := "T"
  elements := [.textBlock [⟨"a", {}⟩], .columnBreak, .shape ⟨.oval, [("h", .int 2)]⟩, .columnBreak,
    .picture ⟨"q", ""⟩, .picture ⟨"r", ""⟩]

theorem placeSlide_fills_brokenSlide :
    HasSizes shapeSize brokenSlide.elements ∧
      ∃ placed, placeSlide shapeSize brokenSlide = .ok placed ∧
      (placed.inColumn 0).map Placed.element = [.textBlock [⟨"a", {}⟩]] ∧
      (placed.inColumn 1).map Placed.element =
        [.shape ⟨.oval, [("h", .int 2)]⟩, .picture ⟨"q", ""⟩] ∧
      Fills shapeSize leftColumn [.textBlock [⟨"a", {}⟩]] contentTop (placed.inColumn 0) ∧
      Fills shapeSize rightColumn
        [.shape ⟨.oval, [("h", .int 2)]⟩, .picture ⟨"q", ""⟩, .picture ⟨"r", ""⟩] contentTop
        (placed.inColumn 1) ∧
      placeSlide shapeSize { brokenSlide with
        elements := [.textBlock [⟨"a", {}⟩], .columnBreak, .shape ⟨.oval, [("h", .int 2)]⟩,
          .picture ⟨"q", ""⟩, .picture ⟨"r", ""⟩] } = .ok placed := by
  have hsizes : HasSizes shapeSize brokenSlide.elements := by
    intro shape hs
    simp only [brokenSlide, List.mem_cons, reduceCtorEq, false_or, Element.shape.injEq,
      List.not_mem_nil, or_false] at hs
    rw [hs]
    exact ⟨⟨none, some (nearest 2 1)⟩, rfl⟩
  obtain ⟨-, hreturns, hfills, -, hbreaks⟩ := placeSlide_fills brokenSlide
  obtain ⟨placed, hplaced⟩ := hreturns hsizes
  obtain ⟨-, -, hfirst, hsecond⟩ := hfills placed hplaced
  have hrest := hbreaks [.textBlock [⟨"a", {}⟩]] _ [.shape ⟨.oval, [("h", .int 2)]⟩,
    .picture ⟨"q", ""⟩, .picture ⟨"r", ""⟩] rfl rfl
  have heval : placeSlide shapeSize brokenSlide = .ok ⟨"T", none,
      [⟨.textBlock [⟨"a", {}⟩], ⟨0.5, 1.2, 4.5, 0.5⟩, 0⟩,
        ⟨.shape ⟨.oval, [("h", .int 2)]⟩, ⟨5.2, 1.2, 4.5, 2.0⟩, 1⟩,
        ⟨.picture ⟨"q", ""⟩, ⟨5.2, 1.2 + (2.0 + 0.2), 4.5, 3.0⟩, 1⟩]⟩ := rfl
  obtain rfl := Except.ok.inj (heval.symm.trans hplaced)
  exact ⟨hsizes, _, hplaced, rfl, rfl, hfirst, hsecond, hrest.trans hplaced⟩

/-- An element that is appended moves nothing. It is placed after all the others or dropped, and if
it is dropped, so is all that follows it. One more break changes nothing. -/
theorem placeSlide_append (s : Slide) :
    (∀ e, isBreak e = false → HasSizes shapeSize (appended s [e]).elements →
      ∃ placed placed', placeSlide shapeSize s = .ok placed ∧
        placeSlide shapeSize (appended s [e]) = .ok placed' ∧
        (placed' = placed ∨
          ∃ p, p.element = e ∧
            placed' = ⟨placed.title, placed.notes, placed.elements ++ [p]⟩) ∧
        (placed'.elements = placed.elements → ∀ es, (∀ e' ∈ es, isBreak e' = false) →
          placeSlide shapeSize (appended s (e :: es)) = .ok placed)) ∧
    (s.elements.any isBreak →
      placeSlide shapeSize (appended s [.columnBreak]) = placeSlide shapeSize s) := by
  refine ⟨fun e he hsizes => ?_, placeSlide_append_break⟩
  have hsizes' : HasSizes shapeSize s.elements :=
    fun shape hs => hsizes shape (List.mem_append_left _ hs)
  obtain ⟨placed, hplaced⟩ := exists_placeSlide hsizes'
  obtain ⟨placed', hplaced'⟩ := exists_placeSlide hsizes
  refine ⟨placed, placed', hplaced, hplaced', ?_⟩
  have hone : ∀ e' ∈ [e], isBreak e' = false := by simpa using he
  have hmore (es : List Element) (hes : ∀ e' ∈ es, isBreak e' = false) :
      ∀ e' ∈ e :: es, isBreak e' = false := List.forall_mem_cons.mpr ⟨he, hes⟩
  obtain hdrop | ⟨c, z, hgo⟩ := placeSlide_appended hplaced
  · rw [hdrop [e] hone] at hplaced'
    cases hplaced'
    exact ⟨Or.inl rfl, fun _ es hes => hdrop (e :: es) (hmore es hes)⟩
  · rw [hgo [e] hone] at hplaced'
    cases hflow : flow shapeSize c [e] z with
    | error err =>
      rw [hflow] at hplaced'
      cases hplaced'
    | ok more =>
      rw [hflow] at hplaced'
      cases hplaced'
      obtain ⟨rfl, hfull⟩ | ⟨p, hp, rfl⟩ := flow_singleton hflow
      · refine ⟨Or.inl (by simp), fun _ es hes => ?_⟩
        rw [hgo (e :: es) (hmore es hes), hfull es]
        simp [Except.map]
      · exact ⟨Or.inr ⟨p, hp, rfl⟩, fun h => by simp at h⟩

/-- A slide on which one more picture has room. -/
def pictureSlide : Slide where
  title := "T"
  elements := [.textBlock [⟨"a", {}⟩], .columnBreak, .picture ⟨"q", ""⟩]

theorem placeSlide_append_pictureSlide :
    ∃ placed p, placeSlide shapeSize pictureSlide = .ok placed ∧ p.element = .picture ⟨"r", ""⟩ ∧
      placeSlide shapeSize (appended pictureSlide [.picture ⟨"r", ""⟩]) =
        .ok ⟨placed.title, placed.notes, placed.elements ++ [p]⟩ ∧
      (∀ es, (∀ e ∈ es, isBreak e = false) →
        placeSlide shapeSize
            (appended (appended pictureSlide [.picture ⟨"r", ""⟩]) (.picture ⟨"s", ""⟩ :: es)) =
          .ok ⟨placed.title, placed.notes, placed.elements ++ [p]⟩) ∧
      placeSlide shapeSize (appended pictureSlide [.columnBreak]) = .ok placed := by
  obtain ⟨happend, hbreak⟩ := placeSlide_append pictureSlide
  obtain ⟨happend', -⟩ := placeSlide_append (appended pictureSlide [.picture ⟨"r", ""⟩])
  have hsizes : HasSizes shapeSize (appended pictureSlide [.picture ⟨"r", ""⟩]).elements := by
    intro shape hs
    simp [appended, pictureSlide] at hs
  have hsizes' : HasSizes shapeSize
      (appended (appended pictureSlide [.picture ⟨"r", ""⟩]) [.picture ⟨"s", ""⟩]).elements := by
    intro shape hs
    simp [appended, pictureSlide] at hs
  obtain ⟨placed, placed', hplaced, hplaced', hone, -⟩ := happend (.picture ⟨"r", ""⟩) rfl hsizes
  obtain ⟨again, placed'', hagain, hplaced'', -, hmore⟩ := happend' (.picture ⟨"s", ""⟩) rfl hsizes'
  have heval : placeSlide shapeSize pictureSlide = .ok ⟨"T", none,
      [⟨.textBlock [⟨"a", {}⟩], ⟨0.5, 1.2, 4.5, 0.5⟩, 0⟩,
        ⟨.picture ⟨"q", ""⟩, ⟨5.2, 1.2, 4.5, 3.0⟩, 1⟩]⟩ := rfl
  have heval' : placeSlide shapeSize (appended pictureSlide [.picture ⟨"r", ""⟩]) =
      .ok ⟨"T", none, [⟨.textBlock [⟨"a", {}⟩], ⟨0.5, 1.2, 4.5, 0.5⟩, 0⟩,
        ⟨.picture ⟨"q", ""⟩, ⟨5.2, 1.2, 4.5, 3.0⟩, 1⟩,
        ⟨.picture ⟨"r", ""⟩, ⟨5.2, 1.2 + (3.0 + 0.2), 4.5, 3.0⟩, 1⟩]⟩ := rfl
  have hfull : placeSlide shapeSize
      (appended (appended pictureSlide [.picture ⟨"r", ""⟩]) [.picture ⟨"s", ""⟩]) =
      placeSlide shapeSize (appended pictureSlide [.picture ⟨"r", ""⟩]) := rfl
  obtain rfl := Except.ok.inj (hplaced'.symm.trans hagain)
  obtain rfl := Except.ok.inj (hplaced'.symm.trans (hfull.symm.trans hplaced''))
  obtain rfl | ⟨p, hp, rfl⟩ := hone
  · cases heval'.symm.trans (hplaced'.trans (hplaced.symm.trans heval))
  · exact ⟨placed, p, hplaced, hp, hplaced', hmore rfl, (hbreak rfl).trans hplaced⟩

end SlideDeck.Layout
