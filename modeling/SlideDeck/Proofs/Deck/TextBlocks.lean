import SlideDeck.Proofs.Deck.Build

/-!
The text blocks that are built, and the phrases they come from. A link is dead if its address is
empty; whether a block shows a dead link is told from its phrases.
-/

namespace SlideDeck.Deck

/-- The runs of a text block of a passage, with the phrases they come from. -/
inductive Makes : Passage → List Phrase → List Run → Prop
  | paragraph {text : String} {phrases : List Phrase} (h : formOf text = .text) :
      Makes (.paragraph text phrases) phrases (resolveAll {} phrases)
  | item {ordered : Bool} {items : List Item} {i : Item} (h : i ∈ items) :
      Makes (.list ordered items) i.phrases (itemRuns i)

/-- Phrases without runs make no block. -/
theorem exists_makes {p : Passage} {runs : List Run} (h : .textBlock runs ∈ p.elements) :
    ∃ phrases, Makes p phrases runs ∧ resolveAll {} phrases ≠ [] := by
  cases p with
  | paragraph text phrases =>
    rw [Passage.elements] at h
    split at h
    · cases h
    · cases List.mem_singleton.mp h
    · split at h
      · cases List.mem_singleton.mp h
      · cases h
    · rename_i hf
      split at h
      · cases h
      · rename_i hne
        cases List.mem_singleton.mp h
        exact ⟨phrases, .paragraph hf, hne⟩
  | list ordered items =>
    obtain ⟨i, hi, he⟩ := List.mem_map.mp h
    cases he
    obtain ⟨hi, hne⟩ := List.mem_filter.mp hi
    exact ⟨i.phrases, .item hi, of_decide_eq_true hne⟩
  | table header rows | rule => cases List.mem_singleton.mp h
  | heading depth text | other kind => cases h

theorem ne_nil_of_makes {p : Passage} {phrases : List Phrase} {runs : List Run}
    (h : Makes p phrases runs) (hne : resolveAll {} phrases ≠ []) : runs ≠ [] := by
  cases h with
  | paragraph h => exact hne
  | item h => exact fun hnil => hne ((itemRuns_eq_nil _).mp hnil)

theorem exists_mem_elements {ps : List Passage} {slides : List Slide}
    (hb : (build ps).slides = .ok slides) {s : Slide} (hs : s ∈ slides) {e : Element}
    (h : e ∈ s.elements) : ∃ p ∈ ps, e ∈ p.elements := by
  obtain ⟨-, rfl⟩ := build_slides_eq_ok.mp hb
  obtain ⟨seg, hseg, rfl⟩ := List.mem_map.mp hs
  obtain ⟨p, hp, he⟩ := List.mem_flatMap.mp h
  refine ⟨p, ?_, he⟩
  rw [← preamble_append_segments ps]
  exact List.mem_append_right _
    (List.mem_flatMap.mpr ⟨seg, hseg, List.mem_cons_of_mem _ hp⟩)

/-- Every text block on a slide is one of a passage of the stream. -/
theorem exists_makes_of_mem_slide {ps : List Passage} {slides : List Slide}
    (hb : (build ps).slides = .ok slides) {s : Slide} (hs : s ∈ slides) {runs : List Run}
    (h : .textBlock runs ∈ s.elements) : ∃ p ∈ ps, ∃ phrases, Makes p phrases runs := by
  obtain ⟨p, hp, he⟩ := exists_mem_elements hb hs h
  obtain ⟨phrases, hmakes, -⟩ := exists_makes he
  exact ⟨p, hp, phrases, hmakes⟩

/-- A run that a text box shows: it has text and does not break the line. -/
def Run.isShown (r : Run) : Bool := !r.text.isEmpty && !r.style.breaksLine

def Style.isDead (style : Style) : Bool := style.hyperlink.any fun l => l.url.isEmpty

/-- A run that is shown as a link to an empty address. -/
def Run.isDead (r : Run) : Bool := r.isShown && r.style.isDead

mutual

/-- Whether a phrase shows text in a dead link. The innermost link counts, and raw text is in no
link. -/
def showsDead (inDead : Bool) : Phrase → Bool
  | .bold inner | .italic inner | .wrapped _ inner => anyShowsDead inDead inner
  | .code _ => inDead
  | .link url _ inner => anyShowsDead url.isEmpty inner
  | .text s => inDead && !s.isEmpty
  | .lineBreak | .raw _ => false

def anyShowsDead (inDead : Bool) : List Phrase → Bool
  | [] => false
  | p :: ps => showsDead inDead p || anyShowsDead inDead ps

end

mutual

theorem any_isDead_resolve (style : Style) (h : style.breaksLine = false) :
    (p : Phrase) → (resolve style p).any Run.isDead = showsDead style.isDead p
  | .bold inner => by
    rw [resolve, showsDead]
    exact any_isDead_resolveAll { style with bold := true } h inner
  | .italic inner => by
    rw [resolve, showsDead]
    exact any_isDead_resolveAll { style with italic := true } h inner
  | .code s => by
    simp [resolve, showsDead, Run.isDead, Run.isShown, Style.isDead, h]
  | .link url title inner => by
    rw [resolve, showsDead]
    exact any_isDead_resolveAll { style with hyperlink := some (.to url title) } h inner
  | .text s => by
    simp [resolve, showsDead, Run.isDead, Run.isShown, h, Bool.and_comm]
  | .wrapped s inner => by
    rw [resolve, showsDead]
    exact any_isDead_resolveAll style h inner
  | .lineBreak => by
    simp [resolve, showsDead, Run.isDead, Run.isShown]
  | .raw s => by
    rw [resolve, showsDead]
    split
    · rfl
    · simp [Run.isDead, Style.isDead]

theorem any_isDead_resolveAll (style : Style) (h : style.breaksLine = false) :
    (ps : List Phrase) → (resolveAll style ps).any Run.isDead = anyShowsDead style.isDead ps
  | [] => rfl
  | p :: ps => by
    rw [resolveAll, anyShowsDead, List.any_append, any_isDead_resolve style h p,
      any_isDead_resolveAll style h ps]

end

/-- A glyph before the text of a run neither makes a link nor hides one. -/
theorem any_isDead_taskRuns (isDone : Bool) (runs : List Run) :
    (taskRuns isDone runs).any Run.isDead = runs.any Run.isDead := by
  cases runs with
  | nil => simp [taskRuns, Run.isDead, Style.isDead]
  | cons first rest =>
    by_cases ht : first.text.isEmpty
    · simp [taskRuns, Run.isDead, Style.isDead, ht]
    · have hlong (glyph : String) : (glyph ++ first.text).isEmpty = first.text.isEmpty := by
        rw [Bool.eq_iff_iff, String.isEmpty_iff, String.isEmpty_iff, String.append_eq_empty_iff]
        exact and_iff_right_of_imp fun h => absurd (String.isEmpty_iff.mpr h) ht
      simp [taskRuns, Run.isDead, Run.isShown, ht, hlong]

theorem any_isDead_bulletRuns (runs : List Run) :
    (bulletRuns runs).any Run.isDead = runs.any Run.isDead := by
  cases runs with
  | nil => rfl
  | cons first rest => rfl

theorem any_isDead_itemRuns (i : Item) :
    (itemRuns i).any Run.isDead = anyShowsDead false i.phrases := by
  have h : (resolveAll {} i.phrases).any Run.isDead = anyShowsDead false i.phrases :=
    any_isDead_resolveAll {} rfl i.phrases
  rw [← h, itemRuns]
  split
  · rename_i hr
    rw [List.isEmpty_iff.mp hr]
  · split
    · exact any_isDead_taskRuns i.isDone _
    · exact any_isDead_bulletRuns _

theorem any_isDead_of_makes {p : Passage} {phrases : List Phrase} {runs : List Run}
    (h : Makes p phrases runs) : runs.any Run.isDead = anyShowsDead false phrases := by
  cases h with
  | paragraph h => exact any_isDead_resolveAll {} rfl phrases
  | item h => exact any_isDead_itemRuns _

end SlideDeck.Deck
