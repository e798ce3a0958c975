import Mathlib.Order.Basic
import SlideDeck.Markdown.BlockText
import SlideDeck.Proofs.Markdown.DefinitionLines

/-!
Where the blocks of a container end: behind the line they start on, and not behind the last line
there is. Whether a line belongs to the block never matters for this.
-/

namespace SlideDeck.Markdown

/-- No line holds a line feed in its content. -/
def Tidy (lines : Array Line) : Prop := ∀ l ∈ lines, '\n' ∉ l.body

theorem Tidy.extract {lines : Array Line} (h : Tidy lines) (first last : Nat) :
    Tidy (lines.extract first last) := by
  intro l hl
  obtain ⟨k, hk, rfl⟩ := Array.mem_extract_iff_getElem.mp hl
  exact h _ (Array.getElem_mem _)

namespace Region

variable {r : Region} {stop fuel i : Nat}

theorem lt_size_of_line? {l : Line} (h : r.line? i = some l) : i < r.lines.size :=
  (Array.getElem?_eq_some_iff.mp h).1

theorem not_mem_body_of_line? {l : Line} (h : Tidy r.lines) (hl : r.line? i = some l) :
    '\n' ∉ l.body :=
  h l (Array.mem_of_getElem? hl)

theorem skipEmpty_mem (h : i ≤ r.lines.size) :
    i ≤ r.skipEmpty i ∧ r.skipEmpty i ≤ r.lines.size := by
  fun_induction skipEmpty r i with
  | case1 i hi _ ih => exact ⟨(Nat.le_succ i).trans (ih hi).1, (ih hi).2⟩
  | case2 | case3 => exact ⟨Nat.le_refl _, h⟩

theorem not_isEmpty_of_skipEmpty {l : Line} (h : r.line? (r.skipEmpty i) = some l) :
    l.isEmpty = false := by
  fun_induction skipEmpty r i with
  | case1 i hi _ ih => exact ih h
  | case2 i hi hempty =>
    rw [line?, Array.getElem?_eq_getElem hi] at h
    rw [← Option.some.inj h]
    exact Bool.not_eq_true _ ▸ hempty
  | case3 i hi => exact absurd (lt_size_of_line? h) hi

theorem codeEnd_mem {last : Nat} (h : last ≤ i) (hlast : last ≤ r.lines.size) :
    last ≤ r.codeEnd stop fuel i last ∧ r.codeEnd stop fuel i last ≤ r.lines.size := by
  fun_induction r.codeEnd stop fuel i last with
  | case1 | case2 | case3 | case6 => exact ⟨Nat.le_refl _, hlast⟩
  | case4 fuel i last l hl _ _ ih => exact ih (h.trans (Nat.le_succ i)) hlast
  | case5 fuel i last l hl _ _ _ ih =>
    obtain ⟨hle, hsize⟩ := ih (Nat.le_refl _) (lt_size_of_line? hl)
    exact ⟨(h.trans (Nat.le_succ i)).trans hle, hsize⟩

theorem fenceEnd_mem {f : FenceMark} (h : i ≤ r.lines.size) :
    i ≤ r.fenceEnd f stop fuel i ∧ r.fenceEnd f stop fuel i ≤ r.lines.size := by
  fun_induction r.fenceEnd f stop fuel i with
  | case1 | case2 | case3 => exact ⟨Nat.le_refl _, h⟩
  | case4 fuel i l hl => exact ⟨Nat.le_succ i, lt_size_of_line? hl⟩
  | case5 fuel i l hl _ _ ih =>
    obtain ⟨hle, hsize⟩ := ih (lt_size_of_line? hl)
    exact ⟨(Nat.le_succ i).trans hle, hsize⟩

theorem htmlEnd_mem {b : Html.Block} (h : i ≤ r.lines.size) :
    i ≤ r.htmlEnd b stop fuel i ∧ r.htmlEnd b stop fuel i ≤ r.lines.size := by
  fun_induction r.htmlEnd b stop fuel i with
  | case1 | case2 | case3 | case4 => exact ⟨Nat.le_refl _, h⟩
  | case5 fuel i l hl => exact ⟨Nat.le_succ i, lt_size_of_line? hl⟩
  | case6 fuel i l hl _ _ ih =>
    obtain ⟨hle, hsize⟩ := ih (lt_size_of_line? hl)
    exact ⟨(Nat.le_succ i).trans hle, hsize⟩

theorem lt_size_of_continues {inParagraph : Bool} (h : r.continues i stop inParagraph) :
    i < r.lines.size := by
  rw [continues] at h
  split at h
  · cases h
  · next l hl => exact lt_size_of_line? hl

theorem paragraphEnd_mem {inParagraph : Bool} (h : i ≤ r.lines.size) :
    i ≤ r.paragraphEnd inParagraph fuel i ∧ r.paragraphEnd inParagraph fuel i ≤ r.lines.size := by
  fun_induction r.paragraphEnd inParagraph fuel i with
  | case1 | case3 => exact ⟨Nat.le_refl _, h⟩
  | case2 fuel i hi ih =>
    obtain ⟨hle, hsize⟩ := ih (lt_size_of_continues hi)
    exact ⟨(Nat.le_succ i).trans hle, hsize⟩

theorem mem_of_underline? {last depth : Nat} (h : r.underline? stop fuel i = some (last, depth)) :
    i ≤ last ∧ last < r.lines.size := by
  fun_induction r.underline? stop fuel i with
  | case1 | case2 | case3 | case7 => cases h
  | case4 fuel i l hl _ _ ih => exact ⟨(Nat.le_succ i).trans (ih h).1, (ih h).2⟩
  | case5 fuel i l hl =>
    cases h
    exact ⟨Nat.le_refl _, lt_size_of_line? hl⟩
  | case6 fuel i l hl _ _ _ _ ih => exact ⟨(Nat.le_succ i).trans (ih h).1, (ih h).2⟩

theorem lt_size_of_tableHeader? {header : List (List Char)}
    (h : r.tableHeader? i stop = some header) : i + 1 < r.lines.size := by
  rw [tableHeader?] at h
  split at h
  · cases h
  · obtain ⟨below, hbelow, -⟩ := Option.bind_eq_some_iff.mp h
    exact lt_size_of_line? hbelow

theorem tableRows_mem {columns : Nat} {filled : Int} (h : i ≤ r.lines.size) :
    i ≤ (r.tableRows columns stop fuel i filled).2 ∧
      (r.tableRows columns stop fuel i filled).2 ≤ r.lines.size := by
  fun_induction r.tableRows columns stop fuel i filled with
  | case1 | case2 | case3 | case4 => exact ⟨Nat.le_refl _, h⟩
  | case5 fuel i filled l hl _ _ _ _ _ _ _ hrest ih =>
    rw [hrest] at ih
    obtain ⟨hle, hsize⟩ := ih (lt_size_of_line? hl)
    exact ⟨(Nat.le_succ i).trans hle, hsize⟩

theorem definition?_mem {l : Line} {found : LinkDefinition} (hr : Tidy r.lines)
    (hl : r.line? i = some l) (h : r.definition? i l = some found) :
    i + 1 ≤ i + found.lineCount ∧ i + found.lineCount ≤ r.lines.size := by
  rw [definition?] at h
  split at h
  · have hend := (@paragraphEnd_mem r r.lines.size (i + 1) false (lt_size_of_line? hl)).2
    have hcount : found.lineCount ≤ ((r.lines.extract i
        (r.paragraphEnd false r.lines.size (i + 1))).toList.map Line.body).length := by
      apply LinkDefinition.lineCount_le _ h
      intro body hbody
      obtain ⟨l, hl, rfl⟩ := List.mem_map.mp hbody
      exact hr.extract _ _ l (Array.mem_toList_iff.mp hl)
    rw [List.length_map, Array.length_toList, Array.size_extract] at hcount
    have hpos := LinkDefinition.lineCount_pos h
    have hi := lt_size_of_line? hl
    omega
  · cases h

end Region

end SlideDeck.Markdown
