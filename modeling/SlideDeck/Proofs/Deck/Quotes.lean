import Mathlib.Data.List.Infix
import SlideDeck.Deck.Form
import SlideDeck.Deck.Passages
import SlideDeck.Proofs.Markdown.ReadLines

/-!
The text of a quote is cut out of the document by the numbers of its lines. The reader of blocks
counts lines as line feeds and carriage returns end them, but the lines that are cut out end at
every boundary, so that another boundary further up shifts the text.
-/

namespace SlideDeck.Deck

open Markdown

/-- The lines of a text from one up to another, one below the other. -/
def rangeText (lines : List (List Char)) (first last : Nat) : String :=
  String.ofList (Text.joinWith ['\n'] ((lines.take last).drop first))

/-- A line that opens a speaker note. -/
def OpensNote (l : List Char) : Prop :=
  ∃ front gap rest, l = front ++ ('>' :: gap ++ ['N', 'o', 't', 'e', ':']) ++ rest ∧
    front.all Text.isBlank ∧ gap.all Text.isBlank

theorem dropEndWhile_append {p : Char → Bool} {s : List Char} {c : Char} (hc : p c = false)
    (s' : List Char) :
    Text.dropEndWhile p (s ++ [c] ++ s') = s ++ [c] ++ Text.dropEndWhile p s' := by
  simp [Text.dropEndWhile, List.dropWhile_append, hc]

theorem exists_joinWith_cons (sep l : List Char) (ls : List (List Char)) :
    ∃ rest, Text.joinWith sep (l :: ls) = l ++ rest := by
  cases ls with
  | nil => exact ⟨[], (List.append_nil l).symm⟩
  | cons l' ls => exact ⟨sep ++ Text.joinWith sep (l' :: ls), List.append_assoc ..⟩

theorem trim_note {front : List Char} (gap rest : List Char) (hfront : front.all Text.isBlank) :
    Text.trim (front ++ ('>' :: gap ++ ['N', 'o', 't', 'e', ':']) ++ rest) =
      '>' :: (gap ++ ['N', 'o', 't', 'e', ':'] ++ Text.dropEndWhile Text.isBlank rest) := by
  rw [List.all_eq_true] at hfront
  have hstart : ('>' :: gap ++ ['N', 'o', 't', 'e', ':'] ++ rest).dropWhile Text.isBlank =
      '>' :: gap ++ ['N', 'o', 't', 'e'] ++ [':'] ++ rest := by
    rw [List.append_assoc _ ['N', 'o', 't', 'e'] [':']]
    rfl
  rw [Text.trim, List.append_assoc, List.dropWhile_append_of_pos hfront, hstart,
    dropEndWhile_append (by decide), List.append_assoc _ ['N', 'o', 't', 'e'] [':']]
  rfl

theorem formOf_of_opensNote {l : List Char} (ls : List (List Char)) (h : OpensNote l) :
    ∃ note, formOf (String.ofList (Text.joinWith ['\n'] (l :: ls))) = .note note := by
  obtain ⟨front, gap, rest, rfl, hfront, hgap⟩ := h
  obtain ⟨below, hbelow⟩ := exists_joinWith_cons ['\n']
    (front ++ ('>' :: gap ++ ['N', 'o', 't', 'e', ':']) ++ rest) ls
  rw [formOf, hbelow, String.toList_ofList, List.append_assoc _ rest below, trim_note _ _ hfront,
    noteText?, List.append_assoc, List.dropWhile_append_of_pos (List.all_eq_true.mp hgap)]
  exact ⟨_, rfl⟩

/-- A quote comes from lines that there are, and its text is what stands between as many
boundaries as those lines are numbered by. It is the source of the quote, and a note if its first
line opens one, if no boundary but line ends stands further up. -/
theorem passages_quote {source : String} {i first last : Nat} {inner : List Block}
    (h : (Document.parse source).blocks[i]? = some (.quote first last inner)) :
    first < last ∧ last ≤ (Text.plainLines source.toList).length ∧
      ∃ text phrases, (passages source)[i]? = some (.paragraph text phrases) ∧
        text = rangeText ((Text.plainLines source.toList).flatMap Text.pieces) first last ∧
        ((∀ l ∈ (Text.plainLines source.toList).take last, l.all (!Text.isLineEnd ·)) →
          text = rangeText (Text.plainLines source.toList) first last ∧
          ((∀ l, (Text.plainLines source.toList)[first]? = some l → OpensNote l) →
            ∃ note, formOf text = .note note)) := by
  obtain ⟨hlt, hlast⟩ := Document.range_of_quote (List.mem_of_getElem? h)
  have hcount : last ≤ (Text.plainLines source.toList).length :=
    hlast.trans (Text.dropLastEmpty_isPrefix _).length_le
  refine ⟨hlt, hcount, sourceLines source first last,
    joinParagraphs ((paragraphs inner).map fun c => phraseList ((Document.parse source).inlines c)),
    ?_, ?_, fun hplain => ?_⟩
  · rw [passages, List.getElem?_map, h]
    rfl
  · rw [sourceLines, Text.take_lines hlast]
    rfl
  · have htext : sourceLines source first last =
        rangeText (Text.plainLines source.toList) first last := by
      rw [sourceLines, Text.take_lines_of_plain hlast hplain]
      rfl
    refine ⟨htext, fun hnote => ?_⟩
    have hfirst : first < (Text.plainLines source.toList).length := hlt.trans_le hcount
    have hopens := hnote _ (List.getElem?_eq_getElem hfirst)
    obtain ⟨note, hform⟩ := formOf_of_opensNote
      (((Text.plainLines source.toList).take last).drop (first + 1)) hopens
    refine ⟨note, ?_⟩
    rw [htext, rangeText, List.drop_eq_getElem_cons (by simp; omega), List.getElem_take]
    exact hform

/-- The lines and the text of a quote with one paragraph in it. -/
def paragraphQuote? : Block → Option (Nat × Nat × String)
  | .quote first last [.paragraph content] => some (first, last, content)
  | _ => none

theorem getElem?_of_paragraphQuote? {blocks : List Block} {i first last : Nat} {content : String}
    (h : blocks[i]?.bind paragraphQuote? = some (first, last, content)) :
    blocks[i]? = some (.quote first last [.paragraph content]) := by
  obtain ⟨b, hb, hquote⟩ := Option.bind_eq_some_iff.mp h
  unfold paragraphQuote? at hquote
  split at hquote <;> cases hquote
  exact hb

/-- A note of a document whose only boundaries are line ends. -/
theorem passages_quote_hi :
    (Document.parse "# T\n\n> Note: hi").blocks[1]? =
        some (.quote 2 3 [.paragraph "Note: hi"]) ∧
      ∃ phrases note, (passages "# T\n\n> Note: hi")[1]? =
        some (.paragraph "> Note: hi" phrases) ∧ formOf "> Note: hi" = .note note := by
  have hquote : (Document.parse "# T\n\n> Note: hi").blocks[1]? =
      some (.quote 2 3 [.paragraph "Note: hi"]) :=
    getElem?_of_paragraphQuote? (by decide +kernel)
  obtain ⟨-, -, text, phrases, hpassage, -, hplain⟩ := passages_quote hquote
  obtain ⟨htext, hnote⟩ := hplain (by decide)
  have hopens : ∀ l, (Text.plainLines "# T\n\n> Note: hi".toList)[2]? = some l → OpensNote l := by
    rintro _ ⟨⟩
    exact ⟨[], [' '], [' ', 'h', 'i'], rfl, rfl, by decide⟩
  obtain ⟨note, hform⟩ := hnote hopens
  obtain rfl : text = "> Note: hi" := htext.trans (by decide)
  exact ⟨hquote, phrases, note, hpassage, hform⟩

/-- A line separator in a paragraph counts for the text of the quote below it, which becomes the
empty line between them. -/
theorem not_forall_quote_source :
    ¬∀ (source : String) (i first last : Nat) (inner : List Block),
      (Document.parse source).blocks[i]? = some (.quote first last inner) →
        ∃ phrases, (passages source)[i]? =
          some (.paragraph (rangeText (Text.plainLines source.toList) first last) phrases) := by
  intro h
  have hquote : (Document.parse "a\u2028b\n\n> Note: hi").blocks[1]? =
      some (.quote 2 3 [.paragraph "Note: hi"]) :=
    getElem?_of_paragraphQuote? (by decide +kernel)
  obtain ⟨phrases, hpassage⟩ := h _ _ _ _ _ hquote
  rw [passages, List.getElem?_map, hquote] at hpassage
  have htext : sourceLines "a\u2028b\n\n> Note: hi" 2 3 =
      rangeText (Text.plainLines "a\u2028b\n\n> Note: hi".toList) 2 3 :=
    (Passage.paragraph.inj (Option.some.inj hpassage)).1
  revert htext
  decide

end SlideDeck.Deck
