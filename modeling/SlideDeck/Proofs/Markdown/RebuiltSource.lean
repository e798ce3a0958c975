import SlideDeck.Proofs.Markdown.Leaves
import SlideDeck.Proofs.Text.Words

/-!
The source that a node is rebuilt to, against the words that it shows. With the marks left out the
source is what its leaves hold, and a line end holds nothing; so the two are the same unless a line
ends inside, and then the words around the line end are joined.
-/

namespace SlideDeck.Markdown

/-- A part of rebuilt source: a mark, or what stands between marks. -/
inductive SourcePart where
  | mark (s : String)
  | content (s : String)
deriving DecidableEq, Repr

namespace SourcePart

def text : SourcePart → String
  | .mark s | .content s => s

/-- What is left of a part without the marks. -/
def unmarked : SourcePart → String
  | .mark _ => ""
  | .content s => s

end SourcePart

namespace Inline

mutual

/-- The parts that the source of a node is rebuilt from. The label of an image is source already. -/
def sourceParts : Inline → List SourcePart
  | .text s | .escaped s | .code s | .html s => [.content s]
  | .softBreak | .hardBreak => []
  | .image t label _ => [.mark "![", .content label, .mark ("](" ++ t.href ++ ")")]
  | .emphasis m inner => sourcePartsBetween (String.ofList [m]) inner
  | .strong m inner => sourcePartsBetween (String.ofList [m, m]) inner
  | .strike inner => sourcePartsBetween "~~" inner
  | .link _ auto inner => sourcePartsBetween (if auto then "autolink" else "") inner

def sourcePartsList : List Inline → List SourcePart
  | [] => []
  | n :: ns => sourceParts n ++ sourcePartsList ns

def sourcePartsBetween (mark : String) : List Inline → List SourcePart
  | [] => []
  | n :: ns => .mark mark :: (sourceParts n ++ sourcePartsList ns) ++ [.mark mark]

end

/-- The source of a node with its marks left out. -/
def unmarkedSource (n : Inline) : String := String.join (n.sourceParts.map SourcePart.unmarked)

mutual

/-- Nothing but the parts goes into the source. -/
theorem source_eq_parts :
    (n : Inline) → n.source = String.join (n.sourceParts.map SourcePart.text)
  | .text _ | .escaped _ | .code _ | .html _ | .softBreak | .hardBreak => by
    simp [source, sourceParts, SourcePart.text]
  | .image _ _ _ => by simp [source, sourceParts, SourcePart.text, String.append_assoc]
  | .emphasis _ inner | .strong _ inner | .strike inner | .link _ _ inner => by
    rw [source, sourceParts]
    exact sourceBetween_eq_parts _ inner

theorem sourceList_eq_parts :
    (ns : List Inline) → sourceList ns = String.join ((sourcePartsList ns).map SourcePart.text)
  | [] => by
    rw [sourceList, sourcePartsList]
    rfl
  | n :: ns => by
    rw [sourceList, sourcePartsList, List.map_append, String.join_append, source_eq_parts n,
      sourceList_eq_parts ns]

theorem sourceBetween_eq_parts (mark : String) : (ns : List Inline) →
    sourceBetween mark ns = String.join ((sourcePartsBetween mark ns).map SourcePart.text)
  | [] => by
    rw [sourceBetween, sourcePartsBetween]
    rfl
  | n :: ns => by
    rw [sourceBetween, sourcePartsBetween, source_eq_parts n, sourceList_eq_parts ns]
    simp [SourcePart.text, String.append_assoc]

end

mutual

theorem unmarked_eq_leaves : (n : Inline) → n.hasForm →
    String.join (n.sourceParts.map SourcePart.unmarked) = String.join (n.leaves.map source)
  | .text _, _ | .code _, _ | .softBreak, _ | .hardBreak, _ => by
    simp [sourceParts, leaves, source, SourcePart.unmarked]
  | .emphasis _ inner, h | .strong _ inner, h | .link _ _ inner, h => by
    rw [hasForm] at h
    rw [sourceParts, leaves]
    exact unmarkedBetween_eq_leaves _ inner h
  | .escaped _, h | .html _, h | .strike _, h | .image _ _ _, h => by
    rw [hasForm] at h
    cases h

theorem unmarkedList_eq_leaves : (ns : List Inline) → haveForm ns →
    String.join ((sourcePartsList ns).map SourcePart.unmarked) =
      String.join ((leavesList ns).map source)
  | [], _ => by
    rw [sourcePartsList, leavesList]
    rfl
  | n :: ns, h => by
    obtain ⟨hn, hns⟩ := (haveForm_cons n ns).mp h
    rw [sourcePartsList, leavesList, List.map_append, List.map_append, String.join_append,
      String.join_append, unmarked_eq_leaves n hn, unmarkedList_eq_leaves ns hns]

theorem unmarkedBetween_eq_leaves (mark : String) : (ns : List Inline) → haveForm ns →
    String.join ((sourcePartsBetween mark ns).map SourcePart.unmarked) =
      String.join ((leavesList ns).map source)
  | [], _ => by
    rw [sourcePartsBetween, leavesList]
    rfl
  | n :: ns, h => by
    obtain ⟨hn, hns⟩ := (haveForm_cons n ns).mp h
    simp [sourcePartsBetween, leavesList, SourcePart.unmarked, unmarked_eq_leaves n hn,
      unmarkedList_eq_leaves ns hns]

end

theorem source_eq_words_iff {l : Inline} (h : l.IsPlainLeaf) :
    l.source = l.words ↔ l.isBreak = false := by
  cases h with
  | text s | code s => exact iff_of_true rfl rfl
  | softBreak | hardBreak => exact iff_of_false (by decide) Bool.noConfusion

theorem length_source_le {l : Inline} (h : l.IsPlainLeaf) : l.source.length ≤ l.words.length := by
  cases h with
  | text s | code s => exact Nat.le_refl _
  | softBreak | hardBreak => exact Nat.zero_le _

end Inline

end SlideDeck.Markdown
