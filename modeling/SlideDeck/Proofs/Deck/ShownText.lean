import SlideDeck.Proofs.Deck.TextBlocks

/-!
The text that a text block shows, line by line. It is the plain text of the block unless a line
break holds more than a line feed, and a built line break does so only if it is the first run of a
task, whose glyph is written into it.
-/

namespace SlideDeck.Deck

/-- The runs with text between the line breaks. -/
def drawnLines (runs : List Run) : List (List Run) :=
  (runs.splitOnP fun r => r.style.breaksLine).map fun line => line.filter fun r => !r.text.isEmpty

/-- The text of the lines. What a line break holds is not shown. -/
def shownText (runs : List Run) : String :=
  String.intercalate "\n" ((drawnLines runs).map plainText)

@[simp]
theorem plainText_nil : plainText [] = "" := rfl

@[simp]
theorem plainText_cons (r : Run) (rs : List Run) :
    plainText (r :: rs) = r.text ++ plainText rs := by
  simp [plainText]

theorem drawnLines_ne_nil (runs : List Run) : drawnLines runs ≠ [] := by
  rw [drawnLines, Ne, List.map_eq_nil_iff]
  exact List.splitOnP_ne_nil _ runs

theorem drawnLines_cons (r : Run) (rs : List Run) :
    drawnLines (r :: rs) =
      if r.style.breaksLine then [] :: drawnLines rs
      else (drawnLines rs).modifyHead ((if r.text.isEmpty then [] else [r]) ++ ·) := by
  rw [drawnLines, List.splitOnP_cons_eq_if_modifyHead]
  split
  · rfl
  · obtain ⟨line, lines, hlines⟩ :=
      List.exists_cons_of_ne_nil (List.splitOnP_ne_nil (fun r => r.style.breaksLine) rs)
    by_cases ht : r.text.isEmpty <;> simp [drawnLines, hlines, ht]

theorem shownText_cons (r : Run) (rs : List Run) :
    shownText (r :: rs) = (if r.style.breaksLine then "\n" else r.text) ++ shownText rs := by
  obtain ⟨line, lines, hlines⟩ := List.exists_cons_of_ne_nil (drawnLines_ne_nil rs)
  rw [shownText, shownText, drawnLines_cons, hlines]
  by_cases hbreak : r.style.breaksLine
  · simp [hbreak, String.intercalate_cons_cons]
  · have hline : plainText ((if r.text.isEmpty then [] else [r]) ++ line) =
        r.text ++ plainText line := by
      by_cases ht : r.text.isEmpty
      · simp [String.isEmpty_iff.mp ht]
      · simp [ht]
    rw [if_neg hbreak, if_neg hbreak, List.modifyHead_cons, List.map_cons, List.map_cons, hline,
      String.intercalate_cons_append]

/-- If every line break holds a line feed and nothing else, nothing of the text is lost. -/
theorem shownText_eq_plainText {runs : List Run}
    (h : ∀ r ∈ runs, r.style.breaksLine → r.text = "\n") : shownText runs = plainText runs := by
  induction runs with
  | nil => rfl
  | cons r rs ih =>
    rw [List.forall_mem_cons] at h
    rw [shownText_cons, plainText_cons, ih h.2]
    split
    · rename_i hbreak
      rw [h.1 hbreak]
    · rfl

mutual

theorem text_of_mem_resolve (style : Style) (h : style.breaksLine = false) {r : Run} :
    (p : Phrase) → r ∈ resolve style p → r.style.breaksLine → r.text = "\n"
  | .bold inner, hr, hb => by
    rw [resolve] at hr
    exact text_of_mem_resolveAll { style with bold := true } h inner hr hb
  | .italic inner, hr, hb => by
    rw [resolve] at hr
    exact text_of_mem_resolveAll { style with italic := true } h inner hr hb
  | .code s, hr, hb => by
    rw [resolve, List.mem_singleton] at hr
    simp [hr, h] at hb
  | .link url title inner, hr, hb => by
    rw [resolve] at hr
    exact text_of_mem_resolveAll { style with hyperlink := some (.to url title) } h inner hr hb
  | .text s, hr, hb => by
    rw [resolve, List.mem_singleton] at hr
    simp [hr, h] at hb
  | .wrapped s inner, hr, hb => by
    rw [resolve] at hr
    exact text_of_mem_resolveAll style h inner hr hb
  | .lineBreak, hr, _ => by
    rw [resolve, List.mem_singleton] at hr
    rw [hr]
  | .raw s, hr, hb => by
    rw [resolve] at hr
    split at hr
    · cases hr
    · rw [List.mem_singleton] at hr
      simp [hr] at hb

theorem text_of_mem_resolveAll (style : Style) (h : style.breaksLine = false) {r : Run} :
    (ps : List Phrase) → r ∈ resolveAll style ps → r.style.breaksLine → r.text = "\n"
  | [], hr, _ => by
    rw [resolveAll] at hr
    cases hr
  | p :: ps, hr, hb => by
    rw [resolveAll, List.mem_append] at hr
    obtain hr | hr := hr
    · exact text_of_mem_resolve style h p hr hb
    · exact text_of_mem_resolveAll style h ps hr hb

end

theorem shownText_resolveAll (ps : List Phrase) :
    shownText (resolveAll {} ps) = plainText (resolveAll {} ps) :=
  shownText_eq_plainText fun _ hr => text_of_mem_resolveAll {} rfl ps hr

namespace Item

/-- What stands before the text of an item. -/
def glyph (i : Item) : String :=
  if i.isTask then if i.isDone then doneGlyph else openGlyph else ""

/-- The glyph of a task that starts with a line break goes into the break. -/
def losesGlyph (i : Item) : Bool :=
  i.isTask && (resolveAll {} i.phrases).head?.any fun r => r.style.breaksLine

end Item

theorem plainText_taskRuns (isDone : Bool) (runs : List Run) :
    plainText (taskRuns isDone runs) =
      (if isDone then doneGlyph else openGlyph) ++ plainText runs := by
  cases runs with
  | nil => simp [taskRuns]
  | cons first rest =>
    by_cases ht : first.text.isEmpty <;> simp [taskRuns, ht, String.append_assoc]

theorem plainText_bulletRuns (runs : List Run) : plainText (bulletRuns runs) = plainText runs := by
  cases runs <;> simp [bulletRuns]

theorem plainText_itemRuns {i : Item} (h : resolveAll {} i.phrases ≠ []) :
    plainText (itemRuns i) = i.glyph ++ plainText (resolveAll {} i.phrases) := by
  rw [itemRuns, if_neg (by simpa using h), Item.glyph]
  split
  · exact plainText_taskRuns _ _
  · rw [plainText_bulletRuns, String.empty_append]

/-- All of an item is shown but the glyph that goes into a line break. -/
theorem shownText_itemRuns {i : Item} (h : resolveAll {} i.phrases ≠ []) :
    shownText (itemRuns i) =
      (if i.losesGlyph then "" else i.glyph) ++ plainText (resolveAll {} i.phrases) := by
  have hfeed : ∀ r ∈ resolveAll {} i.phrases, r.style.breaksLine → r.text = "\n" :=
    fun _ hr => text_of_mem_resolveAll {} rfl i.phrases hr
  rw [itemRuns, if_neg (by simpa using h), Item.glyph, Item.losesGlyph]
  cases hruns : resolveAll {} i.phrases with
  | nil => exact absurd hruns h
  | cons first rest =>
    rw [hruns] at hfeed
    have hrest := shownText_eq_plainText fun r hr => hfeed r (List.mem_cons_of_mem _ hr)
    have hfirst := hfeed first List.mem_cons_self
    cases i.isTask with
    | false =>
      by_cases hb : first.style.breaksLine <;>
        simp [bulletRuns, shownText_cons, hrest, hb, hfirst]
    | true =>
      by_cases hb : first.style.breaksLine
      · simp [taskRuns, shownText_cons, hrest, hb, hfirst hb]
      · by_cases ht : first.text.isEmpty <;>
          simp [taskRuns, shownText_cons, hrest, hb, ht, String.append_assoc]

theorem glyph_ne_empty {i : Item} (h : i.isTask) : i.glyph ≠ "" := by
  have hdone : doneGlyph ≠ "" := by decide
  have hopen : openGlyph ≠ "" := by decide
  rw [Item.glyph, if_pos h]
  split
  · exact hdone
  · exact hopen

theorem shownText_eq_plainText_iff {i : Item} (h : resolveAll {} i.phrases ≠ []) :
    shownText (itemRuns i) = plainText (itemRuns i) ↔ ¬i.losesGlyph := by
  rw [shownText_itemRuns h, plainText_itemRuns h]
  by_cases hlost : i.losesGlyph
  · have htask : i.isTask := by
      rw [Item.losesGlyph, Bool.and_eq_true] at hlost
      exact hlost.1
    have hglyph : i.glyph.toList ≠ [] :=
      fun h => glyph_ne_empty htask (String.toList_eq_nil_iff.mp h)
    rw [if_pos hlost, String.empty_append, ← String.toList_inj, String.toList_append]
    simpa [hlost] using hglyph
  · simp [hlost]

end SlideDeck.Deck
