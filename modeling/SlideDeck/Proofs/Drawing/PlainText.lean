import SlideDeck.Proofs.Drawing.ShownText
import SlideDeck.Proofs.Text.Lines

/-!
The text of the paragraphs that a plain text is drawn as, in a cell of a table or in a shape. Read
back with a line feed between paragraphs, it is the text itself with its controls escaped.
-/

namespace SlideDeck.Drawing

open Text Layout

/-- A vertical tab breaks a line and a line feed ends a paragraph; other controls are escaped. -/
def plainChar (c : Char) : List Char := if c = '\u000b' then [c] else escapeControl c

def plainShown (s : String) : String := String.ofList (s.toList.flatMap plainChar)

/-- The text of pieces, with a vertical tab for each break. -/
def piecesText (ps : List Piece) : List Char := (String.join (ps.map Piece.text)).toList

theorem piecesText_append (ps qs : List Piece) :
    piecesText (ps ++ qs) = piecesText ps ++ piecesText qs := by
  rw [piecesText, List.map_append, String.join_append, String.toList_append]
  rfl

theorem piecesText_joinWith (parts : List (List Piece)) :
    piecesText (joinWith [.lineBreak] parts) = joinWith ['\u000b'] (parts.map piecesText) := by
  induction parts with
  | nil => rfl
  | cons part parts ih =>
    cases parts with
    | nil => rfl
    | cons part' parts =>
      have hbreak : piecesText [.lineBreak] = ['\u000b'] := rfl
      rw [joinWith, piecesText_append, piecesText_append, hbreak, ih]
      · rfl
      · exact List.cons_ne_nil part' parts

theorem piecesText_textPieces {s : List Char} {ps : List Piece} (h : textPieces s = .ok ps) :
    piecesText ps = s.flatMap escapeControl := by
  rw [textPieces] at h
  split at h
  · next hs =>
    cases h
    rw [List.isEmpty_iff.mp hs]
    rfl
  · rw [writtenText] at h
    split at h
    · cases h
      simp [piecesText, Piece.text]
    · cases h

/-- A part between vertical tabs holds none itself. -/
theorem flatMap_escapeControl {s p : List Char} (h : p ∈ splitOn '\u000b' s) :
    p.flatMap escapeControl = p.flatMap plainChar := by
  refine List.flatMap_congr fun c hc => ?_
  rw [plainChar, if_neg]
  rintro rfl
  exact not_mem_of_mem_splitOn h hc

theorem text_of_lineParagraph {s : List Char} {p : Paragraph} (h : lineParagraph s = .ok p) :
    p.text = String.ofList (s.flatMap plainChar) := by
  rw [lineParagraph] at h
  cases hparts : (splitOn '\u000b' s).mapM textPieces with
  | error e =>
    rw [hparts] at h
    cases h
  | ok parts =>
    rw [hparts] at h
    cases h
    have htexts := map_of_mapM (fun _ _ => piecesText_textPieces) hparts
    rw [List.map_congr_left fun p hp => flatMap_escapeControl hp] at htexts
    have htab : plainChar '\u000b' = ['\u000b'] := rfl
    rw [← String.toList_inj, String.toList_ofList, ← joinWith_flatMap_splitOn htab, ← htexts,
      ← piecesText_joinWith]
    rfl

/-- Nothing of a plain text is lost in its paragraphs. -/
theorem notesText_textParagraphs {s : String} {ps : List Paragraph}
    (h : textParagraphs s = .ok ps) : notesText ps = plainShown s := by
  have hlines := map_of_mapM (fun _ _ => text_of_lineParagraph) h
  have hfeed : plainChar '\n' = ['\n'] := by decide
  rw [notesText, hlines, plainShown, ← String.toList_inj, String.toList_ofList,
    String.toList_intercalate, List.map_map, ← joinWith_flatMap_splitOn hfeed, joinWith_eq]
  refine congrArg _ (List.map_congr_left fun l _ => ?_)
  rw [Function.comp_apply, String.toList_ofList]

end SlideDeck.Drawing
