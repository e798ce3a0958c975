import SlideDeck.Proofs.Deck.ShownText

/-!
The text blocks of lists. Each item with runs makes one; what is put before its text and which of
its runs carries a bullet depends on whether the item is a task, and nothing else is changed.
-/

namespace SlideDeck.Deck

/-- The text blocks of items, in their order. An item without runs has none. -/
def itemBlocks (items : List Item) : List Element :=
  (items.filter fun i => resolveAll {} i.phrases ≠ []).map fun i => .textBlock (itemRuns i)

mutual

/-- Phrases give no bullets. -/
theorem isBullet_resolve (style : Style) (h : style.isBullet = false) {r : Run} :
    (p : Phrase) → r ∈ resolve style p → r.style.isBullet = false
  | .bold inner, hr => by
    rw [resolve] at hr
    exact isBullet_resolveAll { style with bold := true } h inner hr
  | .italic inner, hr => by
    rw [resolve] at hr
    exact isBullet_resolveAll { style with italic := true } h inner hr
  | .link url title inner, hr => by
    rw [resolve] at hr
    exact isBullet_resolveAll { style with hyperlink := some (.to url title) } h inner hr
  | .wrapped s inner, hr => by
    rw [resolve] at hr
    exact isBullet_resolveAll style h inner hr
  | .code s, hr | .text s, hr | .lineBreak, hr => by
    rw [resolve, List.mem_singleton] at hr
    rw [hr, h]
  | .raw s, hr => by
    rw [resolve] at hr
    split at hr
    · cases hr
    · rw [List.mem_singleton] at hr
      rw [hr]

theorem isBullet_resolveAll (style : Style) (h : style.isBullet = false) {r : Run} :
    (ps : List Phrase) → r ∈ resolveAll style ps → r.style.isBullet = false
  | [], hr => by
    rw [resolveAll] at hr
    cases hr
  | p :: ps, hr => by
    rw [resolveAll, List.mem_append] at hr
    obtain hr | hr := hr
    · exact isBullet_resolve style h p hr
    · exact isBullet_resolveAll style h ps hr

end

/-- All of a style but the bullet. -/
def Style.unbulleted (style : Style) : Style := { style with isBullet := false }

/-- The glyph of a task whose first run has no text is a run of its own. -/
def Item.hasGlyphRun (i : Item) : Bool :=
  i.isTask && (resolveAll {} i.phrases).head?.any fun r => r.text.isEmpty

/-- Runs that show an item: its glyph and its text, in the styles of its phrases. Its first run
carries the bullet, unless the item is a task. -/
structure Item.IsShownBy (i : Item) (runs : List Run) : Prop where
  text : plainText runs = i.glyph ++ plainText (resolveAll {} i.phrases)
  styles : runs.map (·.style.unbulleted) =
    (if i.hasGlyphRun then [({} : Style)] else []) ++ (resolveAll {} i.phrases).map Run.style
  bullets : ∃ first rest, runs = first :: rest ∧ first.style.isBullet = !i.isTask ∧
    ∀ r ∈ rest, r.style.isBullet = false

theorem unbulleted_eq {r : Run} (h : r.style.isBullet = false) : r.style.unbulleted = r.style := by
  rw [Style.unbulleted, ← h]

theorem isShownBy_itemRuns {i : Item} (h : resolveAll {} i.phrases ≠ []) :
    i.IsShownBy (itemRuns i) := by
  have hplain : ∀ r ∈ resolveAll {} i.phrases, r.style.isBullet = false :=
    fun r hr => isBullet_resolveAll {} rfl i.phrases hr
  have hruns : itemRuns i = if i.isTask then taskRuns i.isDone (resolveAll {} i.phrases)
      else bulletRuns (resolveAll {} i.phrases) := by
    rw [itemRuns, if_neg (by simpa using h)]
  obtain ⟨first, rest, hresolve⟩ := List.exists_cons_of_ne_nil h
  rw [hresolve, List.forall_mem_cons] at hplain
  have hfirst := unbulleted_eq hplain.1
  have hrest : rest.map (·.style.unbulleted) = rest.map Run.style :=
    List.map_congr_left fun r hr => unbulleted_eq (hplain.2 r hr)
  refine ⟨plainText_itemRuns h, ?_, ?_⟩
  · rw [hruns, Item.hasGlyphRun, hresolve]
    cases htask : i.isTask with
    | false =>
      have hbullet : ({ first.style with isBullet := true } : Style).unbulleted = first.style :=
        hfirst
      simp [bulletRuns, hrest, hbullet]
    | true =>
      have hglyph : ({} : Style).unbulleted = {} := rfl
      by_cases ht : first.text.isEmpty <;> simp [taskRuns, ht, hrest, hfirst, hglyph]
  · rw [hruns, hresolve]
    cases htask : i.isTask with
    | false => exact ⟨_, rest, rfl, rfl, hplain.2⟩
    | true =>
      by_cases ht : first.text.isEmpty
      · refine ⟨⟨if i.isDone then doneGlyph else openGlyph, {}⟩, first :: rest, ?_, rfl, ?_⟩
        · simp [taskRuns, ht]
        · exact List.forall_mem_cons.mpr hplain
      · refine ⟨{ first with text := (if i.isDone then doneGlyph else openGlyph) ++ first.text },
          rest, ?_, hplain.1, hplain.2⟩
        simp [taskRuns, ht]

/-- The runs of an item of a segment that is no task. -/
def Segment.IsPoint (s : Segment) (runs : List Run) : Prop :=
  ∃ ordered items i, .list ordered items ∈ s.body ∧ i ∈ items ∧ i.isTask = false ∧
    runs = itemRuns i

/-- A text block on a slide has a bullet in its first run if it is that of an item which is no task,
and no other bullets. -/
theorem bullets_of_mem_slide {s : Segment} {runs : List Run}
    (h : .textBlock runs ∈ s.slide.elements) :
    ∃ first rest, runs = first :: rest ∧ (first.style.isBullet ↔ s.IsPoint runs) ∧
      ∀ r ∈ rest, r.style.isBullet = false := by
  obtain ⟨p, hp, he⟩ := List.mem_flatMap.mp h
  obtain ⟨phrases, hmakes, hne⟩ := exists_makes he
  have hruns : runs ≠ [] := ne_nil_of_makes hmakes hne
  -- Runs of a point have a bullet, whatever else they might come from.
  have hpoint {first : Run} {rest : List Run} (hcons : runs = first :: rest)
      (h : s.IsPoint runs) : first.style.isBullet := by
    obtain ⟨ordered, items, i, -, -, htask, hi⟩ := h
    have hresolve : resolveAll {} i.phrases ≠ [] := fun hnil =>
      hruns (hi.trans ((itemRuns_eq_nil i).mpr hnil))
    obtain ⟨first', rest', hcons', hbullet, -⟩ := (isShownBy_itemRuns hresolve).bullets
    rw [hi, hcons'] at hcons
    obtain ⟨rfl, -⟩ := List.cons.inj hcons
    rw [hbullet, htask, Bool.not_false]
  cases hmakes with
  | paragraph hform =>
    have hplain : ∀ r ∈ resolveAll {} phrases, r.style.isBullet = false :=
      fun r hr => isBullet_resolveAll {} rfl phrases hr
    obtain ⟨first, rest, hcons⟩ := List.exists_cons_of_ne_nil hne
    have hpoint := hpoint hcons
    rw [hcons] at hplain ⊢
    rw [List.forall_mem_cons] at hplain
    refine ⟨first, rest, rfl, ⟨fun hbullet => ?_, fun h => hpoint (by rwa [hcons])⟩, hplain.2⟩
    rw [hplain.1] at hbullet
    cases hbullet
  | @item ordered items i hi =>
    obtain ⟨first, rest, hcons, hbullet, hrest⟩ := (isShownBy_itemRuns hne).bullets
    refine ⟨first, rest, hcons, ⟨fun h => ?_, hpoint hcons⟩, hrest⟩
    rw [hbullet, Bool.not_eq_true'] at h
    exact ⟨ordered, items, i, hp, hi, h, rfl⟩

end SlideDeck.Deck
