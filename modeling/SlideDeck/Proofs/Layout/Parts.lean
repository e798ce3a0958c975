import SlideDeck.Proofs.Layout.Cursor

/-!
A slide in two parts: the elements before its first break, which fill the first column, and those
after it, which fill the second. Later breaks do not count, and what is appended comes to the last
column.
-/

namespace SlideDeck.Layout

open Deck

theorem firstPart_append_of_any {es : List Element} (h : es.any isBreak) (es' : List Element) :
    firstPart (es ++ es') = firstPart es := by
  induction es with
  | nil => simp at h
  | cons e es ih =>
    cases he : isBreak e with
    | true => simp [firstPart, he]
    | false =>
      have hes : es.any isBreak := by simpa [he] using h
      simpa [firstPart, he] using ih hes

theorem secondPart_append_of_any {es : List Element} (h : es.any isBreak) (es' : List Element) :
    secondPart (es ++ es') = secondPart es ++ es'.filter (!isBreak ·) := by
  induction es with
  | nil => simp at h
  | cons e es ih =>
    cases he : isBreak e with
    | true => simp [secondPart, he]
    | false =>
      have hes : es.any isBreak := by simpa [he] using h
      simpa [secondPart, he] using ih hes

theorem exists_eq_append_of_any {es : List Element} (h : es.any isBreak) :
    ∃ before after, es = before ++ .columnBreak :: after := by
  obtain ⟨e, he, hb⟩ := List.any_eq_true.mp h
  cases e with
  | columnBreak => exact List.append_of_mem he
  | textBlock runs | picture p | table t | shape shape => cases hb

variable {α : Type} [OfScientific α]

/-- The column before the first break; without a break it is the only one. -/
def firstColumn (es : List Element) : Column α :=
  if es.any isBreak then leftColumn else singleColumn

theorem firstColumn_number (es : List Element) : (firstColumn es : Column α).number = 0 := by
  rw [firstColumn]
  split <;> rfl

/-- What a slide places in one of its columns. -/
def PlacedSlide.inColumn (s : PlacedSlide α) (n : Int) : List (Placed α) :=
  s.elements.filter (·.column = n)

omit [OfScientific α] in
theorem inColumn_of_append (title : String) (notes : Option String)
    {first second : List (Placed α)} (hfirst : ∀ p ∈ first, p.column = 0)
    (hsecond : ∀ p ∈ second, p.column = 1) :
    PlacedSlide.inColumn ⟨title, notes, first ++ second⟩ 0 = first ∧
      PlacedSlide.inColumn ⟨title, notes, first ++ second⟩ 1 = second := by
  have hself : ∀ (n : Int) (ps : List (Placed α)), (∀ p ∈ ps, p.column = n) →
      ps.filter (fun p => p.column = n) = ps := by
    intro n ps h
    exact List.filter_eq_self.mpr fun p hp => decide_eq_true (h p hp)
  have hnil : ∀ (n m : Int) (ps : List (Placed α)), n ≠ m → (∀ p ∈ ps, p.column = n) →
      ps.filter (fun p => p.column = m) = [] := by
    intro n m ps hne h
    exact List.filter_eq_nil_iff.mpr fun p hp => by simpa [h p hp] using hne
  constructor
  · rw [PlacedSlide.inColumn, List.filter_append, hself 0 first hfirst,
      hnil 1 0 second (by decide) hsecond, List.append_nil]
  · rw [PlacedSlide.inColumn, List.filter_append, hnil 0 1 first (by decide) hfirst,
      hself 1 second hsecond, List.nil_append]

/-- A slide with more elements at its end. -/
def appended (s : Slide) (es : List Element) : Slide := { s with elements := s.elements ++ es }

variable [Add α] [Sub α] [Mul α] [NatCast α] [LT α] [DecidableLT α] [LE α] [DecidableLE α]
variable {sizes : Shape → Except LayoutError (Size α)} {s : Slide} {placed : PlacedSlide α}

/-- A slide is placed part by part. -/
theorem placeSlide_eq_parts (sizes : Shape → Except LayoutError (Size α)) (s : Slide) :
    placeSlide sizes s =
      match flow sizes (firstColumn s.elements) (firstPart s.elements) contentTop with
      | .error err => .error err
      | .ok first =>
        (flow sizes rightColumn (secondPart s.elements) contentTop).map
          fun second => ⟨s.title, s.notes, first ++ second⟩ := by
  rw [placeSlide, splitColumns_eq, firstColumn]
  cases hb : s.elements.any isBreak with
  | false =>
    have hnil : flow sizes rightColumn [] contentTop = .ok [] := rfl
    rw [firstPart_eq_self hb, secondPart_eq_nil hb, hnil]
    simp only [Bool.false_eq_true, if_false]
    cases flow sizes singleColumn s.elements contentTop with
    | error err => rfl
    | ok first => simp [Except.map, pure, Except.pure, bind, Except.bind]
  | true =>
    simp only [if_true]
    cases flow sizes leftColumn (firstPart s.elements) contentTop with
    | error err => rfl
    | ok first =>
      cases flow sizes rightColumn (secondPart s.elements) contentTop <;>
        simp [Except.map, pure, Except.pure, bind, Except.bind]

theorem exists_placeSlide (h : HasSizes sizes s.elements) :
    ∃ placed, placeSlide sizes s = .ok placed := by
  obtain ⟨first, hfirst⟩ := exists_flow (c := firstColumn s.elements)
    (fun _ he => not_isBreak_of_mem_firstPart he)
    (fun shape hs => h shape (mem_of_mem_firstPart hs))
    contentTop
  obtain ⟨second, hsecond⟩ := exists_flow (c := rightColumn)
    (fun _ he => not_isBreak_of_mem_secondPart he)
    (fun shape hs => h shape (mem_of_mem_secondPart hs)) contentTop
  rw [placeSlide_eq_parts, hfirst, hsecond]
  exact ⟨_, rfl⟩

theorem placeSlide_eq_ok (h : placeSlide sizes s = .ok placed) :
    placed.title = s.title ∧ placed.notes = s.notes ∧
      placed.elements = placed.inColumn 0 ++ placed.inColumn 1 ∧
      flow sizes (firstColumn s.elements) (firstPart s.elements) contentTop =
        .ok (placed.inColumn 0) ∧
      flow sizes rightColumn (secondPart s.elements) contentTop = .ok (placed.inColumn 1) := by
  rw [placeSlide_eq_parts] at h
  cases hfirst : flow sizes (firstColumn s.elements) (firstPart s.elements) contentTop with
  | error err =>
    rw [hfirst] at h
    cases h
  | ok first =>
    cases hsecond : flow sizes rightColumn (secondPart s.elements) contentTop with
    | error err =>
      simp only [hfirst, hsecond] at h
      cases h
    | ok second =>
      simp only [hfirst, hsecond] at h
      cases h
      obtain ⟨hzero, hone⟩ := inColumn_of_append s.title s.notes
        (fun p hp => (column_of_mem_flow hfirst hp).trans (firstColumn_number s.elements))
        (fun p hp => column_of_mem_flow hsecond hp)
      rw [hzero, hone]
      exact ⟨rfl, rfl, rfl, rfl, rfl⟩

theorem flow_of_mem_columns (h : placeSlide sizes s = .ok placed) {c : Column α × List Element}
    (hc : c ∈ columns s) : flow sizes c.1 c.2 contentTop = .ok (placed.inColumn c.1.number) := by
  obtain ⟨-, -, -, hfirst, hsecond⟩ := placeSlide_eq_ok h
  rw [columns_eq] at hc
  rw [firstColumn] at hfirst
  split at hc
  · rename_i hb
    rw [if_pos hb] at hfirst
    rw [List.mem_cons, List.mem_singleton] at hc
    obtain rfl | rfl := hc
    · exact hfirst
    · exact hsecond
  · rename_i hb
    rw [if_neg hb, firstPart_eq_self (Bool.not_eq_true _ |>.mp hb)] at hfirst
    rw [List.mem_singleton] at hc
    subst hc
    exact hfirst

theorem exists_mem_columns (h : placeSlide sizes s = .ok placed) {p : Placed α}
    (hp : p ∈ placed.elements) :
    ∃ c : Column α × List Element, c ∈ columns s ∧ p ∈ placed.inColumn c.1.number := by
  obtain ⟨-, -, helements, -, hsecond⟩ := placeSlide_eq_ok h
  rw [helements, List.mem_append] at hp
  rw [columns_eq]
  split
  · obtain hp | hp := hp
    · exact ⟨_, List.mem_cons_self, hp⟩
    · exact ⟨_, List.mem_cons_of_mem _ List.mem_cons_self, hp⟩
  · rename_i hb
    rw [secondPart_eq_nil (Bool.not_eq_true _ |>.mp hb)] at hsecond
    obtain hp | hp := hp
    · exact ⟨_, List.mem_cons_self, hp⟩
    · rw [← Except.ok.inj hsecond] at hp
      cases hp

/-- Of the elements after a break only those that are no breaks count. -/
theorem placeSlide_congr_after (title : String) (notes : Option String) (before : List Element)
    {after after' : List Element} (h : after.filter (!isBreak ·) = after'.filter (!isBreak ·)) :
    placeSlide sizes ⟨title, before ++ .columnBreak :: after, notes⟩ =
      placeSlide sizes ⟨title, before ++ .columnBreak :: after', notes⟩ := by
  have hany : (before ++ [Element.columnBreak]).any isBreak := by
    rw [List.any_append, List.any_cons, isBreak, Bool.true_or, Bool.or_true]
  have hsplit (es : List Element) :
      before ++ .columnBreak :: es = before ++ [.columnBreak] ++ es := by
    simp
  have hcolumn (es : List Element) :
      (firstColumn (before ++ [.columnBreak] ++ es) : Column α) = leftColumn := by
    rw [firstColumn, List.any_append, hany, Bool.true_or, if_pos rfl]
  rw [placeSlide_eq_parts, placeSlide_eq_parts, hsplit after, hsplit after']
  simp only [hcolumn, firstPart_append_of_any hany, secondPart_append_of_any hany, h]

theorem placeSlide_append_break (h : s.elements.any isBreak) :
    placeSlide sizes (appended s [.columnBreak]) = placeSlide sizes s := by
  obtain ⟨title, elements, notes⟩ := s
  obtain ⟨before, after, rfl⟩ := exists_eq_append_of_any h
  have hafter :
      (after ++ [Element.columnBreak]).filter (!isBreak ·) = after.filter (!isBreak ·) := by
    simp [isBreak]
  rw [appended, List.append_assoc, List.cons_append]
  exact placeSlide_congr_after title notes before hafter

/-- What is appended flows down the last column, after all that is there. -/
theorem exists_lastColumn (h : placeSlide sizes s = .ok placed) :
    ∃ (c : Column α) (part : List Element) (earlier last : List (Placed α)),
      placed = ⟨s.title, s.notes, earlier ++ last⟩ ∧ flow sizes c part contentTop = .ok last ∧
      ∀ es, (∀ e ∈ es, isBreak e = false) →
        placeSlide sizes (appended s es) =
          (flow sizes c (part ++ es) contentTop).map
            fun last => ⟨s.title, s.notes, earlier ++ last⟩ := by
  obtain ⟨htitle, hnotes, helements, hfirst, hsecond⟩ := placeSlide_eq_ok h
  have hplaced : placed = ⟨s.title, s.notes, placed.inColumn 0 ++ placed.inColumn 1⟩ := by
    rw [← htitle, ← hnotes, ← helements]
  cases hb : s.elements.any isBreak with
  | false =>
    have hcolumn : (firstColumn s.elements : Column α) = singleColumn := by
      rw [firstColumn, hb]
      rfl
    have hnil : placed.inColumn 1 = [] := by
      rw [secondPart_eq_nil hb] at hsecond
      exact (Except.ok.inj hsecond).symm
    rw [hnil, List.append_nil] at hplaced
    rw [firstPart_eq_self hb, hcolumn] at hfirst
    refine ⟨singleColumn, s.elements, [], placed.inColumn 0, hplaced, hfirst, fun es hes => ?_⟩
    -- without a break the second part stays empty, so nothing comes after the one column
    have hb' : (s.elements ++ es).any isBreak = false := by
      rw [List.any_append, hb, Bool.false_or, List.any_eq_false]
      simpa using hes
    have hcolumn' : (firstColumn (s.elements ++ es) : Column α) = singleColumn := by
      rw [firstColumn, hb']
      rfl
    have hnone : flow sizes rightColumn [] contentTop = .ok [] := rfl
    rw [placeSlide_eq_parts, appended]
    dsimp only
    rw [hcolumn', firstPart_eq_self hb', secondPart_eq_nil hb', hnone]
    cases flow sizes singleColumn (s.elements ++ es) contentTop <;> simp [Except.map]
  | true =>
    refine ⟨rightColumn, secondPart s.elements, placed.inColumn 0, placed.inColumn 1, hplaced,
      hsecond, fun es hes => ?_⟩
    have hself : es.filter (!isBreak ·) = es := by simpa using hes
    have hcolumn : (firstColumn (s.elements ++ es) : Column α) = firstColumn s.elements := by
      rw [firstColumn, firstColumn, List.any_append, hb, Bool.true_or]
    rw [placeSlide_eq_parts, appended]
    dsimp only
    rw [hcolumn, firstPart_append_of_any hb, secondPart_append_of_any hb, hself, hfirst]

/-- Either all that is appended is dropped, or it goes on in the last column. -/
theorem placeSlide_appended (h : placeSlide sizes s = .ok placed) :
    (∀ es, (∀ e ∈ es, isBreak e = false) → placeSlide sizes (appended s es) = .ok placed) ∨
      ∃ (c : Column α) (z : α), ∀ es, (∀ e ∈ es, isBreak e = false) →
        placeSlide sizes (appended s es) =
          (flow sizes c es z).map fun more =>
            ⟨placed.title, placed.notes, placed.elements ++ more⟩ := by
  obtain ⟨c, part, earlier, last, rfl, hlast, hes⟩ := exists_lastColumn h
  obtain hfull | ⟨z, hz⟩ := flow_append hlast
  · refine Or.inl fun es hnone => ?_
    rw [hes es hnone, hfull]
    rfl
  · refine Or.inr ⟨c, z, fun es hnone => ?_⟩
    rw [hes es hnone, hz]
    cases flow sizes c es z <;> simp [Except.map]

end SlideDeck.Layout
