import Mathlib.Algebra.GroupWithZero.Nat
import SlideDeck.Deck.Passages
import SlideDeck.Proofs.Deck.TextBlocks

/-!
The lines of text blocks, told from their phrases. A line ends at a line break, however deep it is
nested, and between two paragraphs that are joined; neither a glyph nor a bullet adds a line.
-/

namespace SlideDeck.Deck

open Markdown

mutual

/-- The number of line breaks in a phrase, at any depth. -/
def lineBreaks : Phrase → Nat
  | .bold inner | .italic inner | .link _ _ inner | .wrapped _ inner => allLineBreaks inner
  | .lineBreak => 1
  | .code _ | .text _ | .raw _ => 0

def allLineBreaks : List Phrase → Nat
  | [] => 0
  | p :: ps => lineBreaks p + allLineBreaks ps

end

theorem allLineBreaks_append (ps qs : List Phrase) :
    allLineBreaks (ps ++ qs) = allLineBreaks ps + allLineBreaks qs := by
  induction ps with
  | nil => rw [List.nil_append, allLineBreaks, Nat.zero_add]
  | cons p ps ih => rw [List.cons_append, allLineBreaks, allLineBreaks, ih, Nat.add_assoc]

mutual

theorem countP_resolve (style : Style) (h : style.breaksLine = false) :
    (p : Phrase) → (resolve style p).countP (fun r => r.style.breaksLine) = lineBreaks p
  | .bold inner => by
    rw [resolve, lineBreaks]
    exact countP_resolveAll { style with bold := true } h inner
  | .italic inner => by
    rw [resolve, lineBreaks]
    exact countP_resolveAll { style with italic := true } h inner
  | .link url title inner => by
    rw [resolve, lineBreaks]
    exact countP_resolveAll { style with hyperlink := some (.to url title) } h inner
  | .wrapped s inner => by
    rw [resolve, lineBreaks]
    exact countP_resolveAll style h inner
  | .lineBreak => rfl
  | .code s | .text s => by simp [resolve, lineBreaks, h]
  | .raw s => by
    rw [resolve, lineBreaks]
    split <;> rfl

theorem countP_resolveAll (style : Style) (h : style.breaksLine = false) :
    (ps : List Phrase) →
      (resolveAll style ps).countP (fun r => r.style.breaksLine) = allLineBreaks ps
  | [] => rfl
  | p :: ps => by
    rw [resolveAll, allLineBreaks, List.countP_append, countP_resolve style h p,
      countP_resolveAll style h ps]

end

theorem lineCount_resolveAll (ps : List Phrase) :
    lineCount (resolveAll {} ps) = 1 + allLineBreaks ps := by
  rw [lineCount, countP_resolveAll {} rfl]

theorem lineCount_taskRuns (isDone : Bool) (runs : List Run) :
    lineCount (taskRuns isDone runs) = lineCount runs := by
  cases runs with
  | nil => rfl
  | cons first rest =>
    by_cases ht : first.text.isEmpty <;> simp [taskRuns, lineCount, List.countP_cons, ht]

theorem lineCount_bulletRuns (runs : List Run) : lineCount (bulletRuns runs) = lineCount runs := by
  cases runs with
  | nil => rfl
  | cons first rest => simp [bulletRuns, lineCount, List.countP_cons]

theorem lineCount_itemRuns (i : Item) : lineCount (itemRuns i) = 1 + allLineBreaks i.phrases := by
  rw [← lineCount_resolveAll, itemRuns]
  split
  · rename_i hr
    rw [List.isEmpty_iff.mp hr]
  · split
    · exact lineCount_taskRuns i.isDone _
    · exact lineCount_bulletRuns _

theorem lineCount_of_makes {p : Passage} {phrases : List Phrase} {runs : List Run}
    (h : Makes p phrases runs) : lineCount runs = 1 + allLineBreaks phrases := by
  cases h with
  | paragraph h => exact lineCount_resolveAll phrases
  | item h => exact lineCount_itemRuns _

/-- Paragraphs that are joined have a line break between each two of them, and their own. -/
theorem allLineBreaks_joinParagraphs {parts : List (List Phrase)} (h : parts ≠ []) :
    1 + allLineBreaks (joinParagraphs parts) = parts.length + (parts.map allLineBreaks).sum := by
  induction parts with
  | nil => exact absurd rfl h
  | cons p parts ih =>
    cases parts with
    | nil => simp [joinParagraphs]
    | cons q parts =>
      have hrest := ih (List.cons_ne_nil q parts)
      have hjoin : allLineBreaks (joinParagraphs (p :: q :: parts)) =
          allLineBreaks p + (1 + allLineBreaks (joinParagraphs (q :: parts))) := by
        rw [joinParagraphs, allLineBreaks_append, allLineBreaks, lineBreaks]
        exact List.cons_ne_nil q parts
      simp only [List.length_cons, List.map_cons, List.sum_cons] at hrest ⊢
      omega

/-- The paragraphs of an item without its task marker. -/
def itemParagraphs (blocks : List Block) : List String :=
  match taskMarker? (String.intercalate "\n" (paragraphs blocks)).toList with
  | none => paragraphs blocks
  | some (_, n) => (paragraphs blocks).modifyHead fun c => String.ofList (c.toList.drop n)

theorem length_itemParagraphs (blocks : List Block) :
    (itemParagraphs blocks).length = (paragraphs blocks).length := by
  rw [itemParagraphs]
  split
  · rfl
  · exact List.length_modifyHead

theorem item_phrases (d : Document) (blocks : List Block) :
    (item d blocks).phrases = [.wrapped (item d blocks).text
      (joinParagraphs ((itemParagraphs blocks).map fun c => phraseList (d.inlines c)))] := by
  rw [item, itemParagraphs]
  dsimp only
  cases taskMarker? (String.intercalate "\n" (paragraphs blocks)).toList with
  | none => rfl
  | some marker => cases paragraphs blocks <;> rfl

/-- The number of line breaks in a paragraph of a document. -/
def breaksIn (d : Document) (content : String) : Nat :=
  allLineBreaks (phraseList (d.inlines content))

theorem allLineBreaks_join_map (d : Document) {contents : List String} (h : contents ≠ []) :
    1 + allLineBreaks (joinParagraphs (contents.map fun c => phraseList (d.inlines c))) =
      contents.length + (contents.map (breaksIn d)).sum := by
  have hmap : contents.map (breaksIn d) =
      (contents.map fun c => phraseList (d.inlines c)).map allLineBreaks := by
    rw [List.map_map]
    exact List.map_congr_left fun c _ => by rw [breaksIn, Function.comp_apply]
  rw [allLineBreaks_joinParagraphs (by simpa using h), List.length_map, hmap]

/-- The paragraphs of a block that come into one text box: those of a quote all together, and those
of each item of a list. -/
def boxedParagraphs : Block → List (List String)
  | .paragraph content => [[content]]
  | .quote _ _ inner => [paragraphs inner]
  | .list _ items => items.map itemParagraphs
  | .heading _ _ | .table _ _ | .rule | .fence | .indentedCode | .html => []

/-- What is made from a block of a document is made from its paragraphs, joined. -/
theorem exists_boxedParagraphs {source : String} {d : Document} {block : Block}
    {phrases : List Phrase} {runs : List Run} (h : Makes (passage source d block) phrases runs) :
    ∃ contents ∈ boxedParagraphs block, ∀ style,
      resolveAll style phrases =
        resolveAll style (joinParagraphs (contents.map fun c => phraseList (d.inlines c))) := by
  cases block with
  | paragraph content =>
    cases h
    refine ⟨[content], List.mem_singleton_self _, fun style => ?_⟩
    rw [List.map_cons, List.map_nil, joinParagraphs]
  | quote first last inner =>
    cases h
    exact ⟨paragraphs inner, List.mem_singleton_self _, fun style => rfl⟩
  | list ordered items =>
    cases h with
    | item hi =>
      obtain ⟨blocks, hblocks, rfl⟩ := List.mem_map.mp hi
      refine ⟨itemParagraphs blocks, List.mem_map_of_mem hblocks, fun style => ?_⟩
      rw [item_phrases, resolveAll, resolveAll, resolve, List.append_nil]
  | heading depth content | table header rows | rule | fence | indentedCode | html => cases h

/-- A text block that is made from paragraphs has a line for each of them and one for each line
break in them. -/
theorem lineCount_of_makes_passage {source : String} {d : Document} {block : Block}
    {phrases : List Phrase} {runs : List Run} (h : Makes (passage source d block) phrases runs) :
    ∃ contents ∈ boxedParagraphs block,
      resolveAll {} phrases =
        resolveAll {} (joinParagraphs (contents.map fun c => phraseList (d.inlines c))) ∧
      (contents ≠ [] → lineCount runs = contents.length + (contents.map (breaksIn d)).sum) := by
  obtain ⟨contents, hmem, hresolve⟩ := exists_boxedParagraphs h
  refine ⟨contents, hmem, hresolve {}, fun hcontents => ?_⟩
  rw [lineCount_of_makes h, ← lineCount_resolveAll, hresolve, lineCount_resolveAll,
    allLineBreaks_join_map d hcontents]

end SlideDeck.Deck
