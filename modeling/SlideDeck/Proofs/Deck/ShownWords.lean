import Mathlib.Data.List.Permutation
import SlideDeck.Deck.Passages
import SlideDeck.Proofs.Deck.Leaves
import SlideDeck.Proofs.Markdown.Leaves
import SlideDeck.Proofs.Text.Words

/-!
The two readings of inline nodes: the words that a heading takes, and the runs that a paragraph
shows. Both go leaf by leaf, and they differ in code spans and hard breaks only.
-/

namespace SlideDeck.Deck

open Markdown Text

/-- A leaf as a paragraph shows it: a code span stands between spaces, a hard break ends a line. -/
def shownLeaf : Inline → String
  | .code s => " " ++ s ++ " "
  | .hardBreak => "\n"
  | n => n.words

/-- Whether a paragraph shows a leaf in another way than a heading. -/
def isSetApart : Inline → Bool
  | .code _ | .hardBreak => true
  | _ => false

def isCode : Inline → Bool
  | .code _ => true
  | _ => false

mutual

theorem plainText_phrase (style : Style) : (n : Inline) → n.hasForm →
    plainText (resolve style (phrase n)) = String.join (n.leaves.map shownLeaf)
  | .strong _ inner, h => by
    rw [Inline.hasForm] at h
    rw [phrase, resolve, Inline.leaves]
    exact plainText_phraseList { style with bold := true } inner h
  | .emphasis _ inner, h => by
    rw [Inline.hasForm] at h
    rw [phrase, resolve, Inline.leaves]
    exact plainText_phraseList { style with italic := true } inner h
  | .link _ _ inner, h => by
    rw [Inline.hasForm] at h
    rw [phrase, resolve, Inline.leaves]
    exact plainText_phraseList _ inner h
  | .text s, _ | .code s, _ => by
    simp [phrase, resolve, Inline.leaves, shownLeaf, Inline.words]
  | .softBreak, _ | .hardBreak, _ => by
    simp [phrase, resolve, Inline.leaves, shownLeaf, Inline.words]
  | .escaped _, h | .html _, h | .strike _, h | .image _ _ _, h => by
    rw [Inline.hasForm] at h
    cases h

/-- What a paragraph shows of nodes is what it shows of their leaves. -/
theorem plainText_phraseList (style : Style) : (ns : List Inline) → Inline.haveForm ns →
    plainText (resolveAll style (phraseList ns)) =
      String.join ((Inline.leavesList ns).map shownLeaf)
  | [], _ => by
    rw [phraseList, resolveAll, Inline.leavesList]
    rfl
  | n :: ns, h => by
    obtain ⟨hn, hns⟩ := (Inline.haveForm_cons n ns).mp h
    rw [phraseList, resolveAll, Inline.leavesList, plainText_append, List.map_append,
      String.join_append, plainText_phrase style n hn, plainText_phraseList style ns hns]

end

theorem length_words_le {l : Inline} (h : l.IsPlainLeaf) :
    l.words.length ≤ (shownLeaf l).length := by
  cases h with
  | text s | softBreak | hardBreak => exact Nat.le_refl _
  | code s =>
    rw [Inline.words, shownLeaf, String.length_append, String.length_append]
    omega

theorem words_eq_shownLeaf_iff {l : Inline} (h : l.IsPlainLeaf) :
    l.words = shownLeaf l ↔ isSetApart l = false := by
  cases h with
  | text s | softBreak => exact iff_of_true rfl rfl
  | hardBreak => exact iff_of_false (by decide) Bool.noConfusion
  | code s =>
    refine iff_of_false (fun heq => ?_) Bool.noConfusion
    have hlength := congrArg String.length heq
    rw [Inline.words, shownLeaf, String.length_append, String.length_append] at hlength
    have hspace : " ".length = 1 := rfl
    omega

theorem letters_shownLeaf {l : Inline} (h : l.IsPlainLeaf) :
    letters (shownLeaf l) = letters l.words := by
  cases h with
  | text s | softBreak => rfl
  | hardBreak => decide
  | code s =>
    have hspace : letters " " = [] := by decide
    rw [shownLeaf, letters_append, letters_append, hspace, List.nil_append, List.append_nil]
    rfl

/-- A hard break keeps words apart as a space does. The text in front of the leaves may end in a
word that goes on in them. -/
theorem wordsOf_join_shownLeaf {ls : List Inline}
    (h : ∀ l ∈ ls, l.IsPlainLeaf ∧ isCode l = false) (front : List Char) :
    wordsOf (front ++ (String.join (ls.map shownLeaf)).toList) =
      wordsOf (front ++ (String.join (ls.map Inline.words)).toList) := by
  induction ls generalizing front with
  | nil => rfl
  | cons l ls ih =>
    rw [List.forall_mem_cons] at h
    obtain ⟨⟨hplain, hcode⟩, hls⟩ := h
    rw [List.map_cons, List.map_cons, String.join_cons, String.join_cons, String.toList_append,
      String.toList_append]
    cases hplain with
    | text s | softBreak =>
      rw [← List.append_assoc, ← List.append_assoc]
      exact ih hls _
    | code s => cases hcode
    | hardBreak =>
      have hfeed : (shownLeaf .hardBreak).toList = ['\n'] := rfl
      have hspace : (Inline.words .hardBreak).toList = [' '] := rfl
      rw [hfeed, hspace, List.singleton_append, List.singleton_append,
        wordsOf_append_cons (by decide), wordsOf_append_cons (by decide)]
      exact congrArg _ (ih hls [])

/-- A heading and a paragraph read the same nodes leaf by leaf, and show the same unless there is a
code span or a hard break. So from one source a heading takes the letters that a paragraph shows,
the same words if no code span stands in it, and the same text if no hard break does either. -/
theorem readings_of_leaves {ns : List Inline} (h : Inline.haveForm ns) (style : Style) :
    Inline.wordsList ns = String.join ((Inline.leavesList ns).map Inline.words) ∧
    plainText (resolveAll style (phraseList ns)) =
      String.join ((Inline.leavesList ns).map shownLeaf) ∧
    (Inline.wordsList ns = plainText (resolveAll style (phraseList ns)) ↔
      ∀ l ∈ Inline.leavesList ns, isSetApart l = false) ∧
    ∀ (source content : String) (d : Document) (depth : Nat), d.inlines content = ns →
      ∃ title phrases, passage source d (.heading depth content) = .heading depth title ∧
        passage source d (.paragraph content) = .paragraph content phrases ∧
        letters title = letters (plainText (resolveAll {} phrases)) ∧
        ((∀ l ∈ Inline.leavesList ns, isCode l = false) →
          wordsOf title.toList = wordsOf (plainText (resolveAll {} phrases)).toList) ∧
        ((∀ l ∈ Inline.leavesList ns, isSetApart l = false) →
          title = trimmed (plainText (resolveAll {} phrases))) := by
  have hwords := Inline.wordsList_eq_leaves ns
  have hplain := Inline.isPlainLeaf_of_mem_leavesList ns h
  have hequal (style : Style) :
      Inline.wordsList ns = plainText (resolveAll style (phraseList ns)) ↔
        ∀ l ∈ Inline.leavesList ns, isSetApart l = false := by
    rw [hwords, plainText_phraseList style ns h,
      join_map_eq_iff fun l hl => length_words_le (hplain l hl)]
    exact forall₂_congr fun l hl => words_eq_shownLeaf_iff (hplain l hl)
  refine ⟨hwords, plainText_phraseList style ns h, hequal style, ?_⟩
  rintro source content d depth rfl
  refine ⟨_, _, rfl, rfl, ?_, fun hcode => ?_, fun hapart => ?_⟩
  · rw [letters_trimmed, hwords, plainText_phraseList {} _ h]
    exact letters_join_map fun l hl => (letters_shownLeaf (hplain l hl)).symm
  · have hsame := wordsOf_join_shownLeaf (fun l hl => ⟨hplain l hl, hcode l hl⟩) []
    rw [List.nil_append, List.nil_append] at hsame
    rw [wordsOf_trimmed, hwords, plainText_phraseList {} _ h, hsame]
  · exact congrArg trimmed ((hequal {}).mpr hapart)

/-- A strong span with a hard break and a code span in it, and a link behind a soft break. -/
def spannedNodes : List Inline :=
  [.strong '*' [.text "a", .hardBreak, .code "b"], .softBreak,
    .link ⟨"u", "t"⟩ false [.emphasis '_' [.text "c"]]]

theorem readings_of_leaves_spannedNodes :
    Inline.haveForm spannedNodes ∧ Inline.wordsList spannedNodes = "a b c" ∧
    plainText (resolveAll {} (phraseList spannedNodes)) = "a\n b  c" ∧
    ∃ d : Document, d.inlines "a  \nb\nc" =
        [.text "a", .hardBreak, .text "b", .softBreak, .text "c"] ∧
      ∃ title phrases, passage "" d (.heading 1 "a  \nb\nc") = .heading 1 title ∧
        passage "" d (.paragraph "a  \nb\nc") = .paragraph "a  \nb\nc" phrases ∧
        plainText (resolveAll {} phrases) = "a\nb c" ∧
        wordsOf title.toList = wordsOf "a\nb c".toList := by
  have hform : Inline.haveForm spannedNodes := rfl
  obtain ⟨hheading, hparagraph, -, -⟩ := readings_of_leaves hform {}
  refine ⟨hform, hheading, hparagraph, ⟨[], Definitions.empty⟩, ?_⟩
  have hread : Document.inlines ⟨[], Definitions.empty⟩ "a  \nb\nc" =
      [.text "a", .hardBreak, .text "b", .softBreak, .text "c"] := by cbv
  have hflat : Inline.haveForm [.text "a", .hardBreak, .text "b", .softBreak, .text "c"] := rfl
  obtain ⟨-, -, -, hpassage⟩ := readings_of_leaves hflat {}
  obtain ⟨title, phrases, ht, hp, -, hwords, -⟩ := hpassage "" _ _ 1 hread
  have hshown : plainText (resolveAll {} phrases) = "a\nb c" := by
    have hphrases := (Passage.paragraph.inj hp).2
    rw [← hphrases, hread]
    rfl
  refine ⟨hread, title, phrases, ht, hp, hshown, ?_⟩
  rw [← hshown]
  exact hwords (by decide)

end SlideDeck.Deck
