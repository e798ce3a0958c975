import SlideDeck.Markdown.Inline

/-!
Inline nodes told from their leaves, the nodes with nothing inside. What a node shows is what its
leaves show, one after the other; the spans around them do not matter.
-/

namespace SlideDeck.Markdown.Inline

mutual

/-- The nodes with nothing inside, from left to right. A span around nothing has none. -/
def leaves : Inline → List Inline
  | .emphasis _ inner | .strong _ inner | .strike inner | .link _ _ inner | .image _ _ inner =>
    leavesList inner
  | .text s => [.text s]
  | .escaped s => [.escaped s]
  | .code s => [.code s]
  | .html s => [.html s]
  | .softBreak => [.softBreak]
  | .hardBreak => [.hardBreak]

def leavesList : List Inline → List Inline
  | [] => []
  | n :: ns => leaves n ++ leavesList ns

end

mutual

/-- Whether a node, and every node inside, is of a kind that has a form of its own on a slide. -/
def hasForm : Inline → Bool
  | .text _ | .code _ | .softBreak | .hardBreak => true
  | .emphasis _ inner | .strong _ inner | .link _ _ inner => haveForm inner
  | .escaped _ | .html _ | .strike _ | .image _ _ _ => false

def haveForm : List Inline → Bool
  | [] => true
  | n :: ns => hasForm n && haveForm ns

end

/-- A leaf that has a form on a slide. -/
inductive IsPlainLeaf : Inline → Prop
  | text (s : String) : IsPlainLeaf (.text s)
  | code (s : String) : IsPlainLeaf (.code s)
  | softBreak : IsPlainLeaf .softBreak
  | hardBreak : IsPlainLeaf .hardBreak

/-- A line end in the source, soft or hard. -/
def isBreak : Inline → Bool
  | .softBreak | .hardBreak => true
  | _ => false

theorem haveForm_cons (n : Inline) (ns : List Inline) :
    haveForm (n :: ns) ↔ n.hasForm ∧ haveForm ns := by
  rw [haveForm, Bool.and_eq_true]

mutual

theorem isPlainLeaf_of_mem_leaves : (n : Inline) → n.hasForm → ∀ l ∈ n.leaves, IsPlainLeaf l
  | .text s, _ => by
    rw [leaves, List.forall_mem_singleton]
    exact .text s
  | .code s, _ => by
    rw [leaves, List.forall_mem_singleton]
    exact .code s
  | .softBreak, _ => by
    rw [leaves, List.forall_mem_singleton]
    exact .softBreak
  | .hardBreak, _ => by
    rw [leaves, List.forall_mem_singleton]
    exact .hardBreak
  | .emphasis _ inner, h | .strong _ inner, h | .link _ _ inner, h => by
    rw [hasForm] at h
    rw [leaves]
    exact isPlainLeaf_of_mem_leavesList inner h
  | .escaped _, h | .html _, h | .strike _, h | .image _ _ _, h => by
    rw [hasForm] at h
    cases h

theorem isPlainLeaf_of_mem_leavesList :
    (ns : List Inline) → haveForm ns → ∀ l ∈ leavesList ns, IsPlainLeaf l
  | [], _ => by
    rw [leavesList]
    exact List.forall_mem_nil _
  | n :: ns, h => by
    obtain ⟨hn, hns⟩ := (haveForm_cons n ns).mp h
    rw [leavesList, List.forall_mem_append]
    exact ⟨isPlainLeaf_of_mem_leaves n hn, isPlainLeaf_of_mem_leavesList ns hns⟩

end

mutual

theorem words_eq_leaves : (n : Inline) → n.words = String.join (n.leaves.map words)
  | .emphasis _ inner | .strong _ inner | .strike inner | .link _ _ inner | .image _ _ inner => by
    rw [words, leaves]
    exact wordsList_eq_leaves inner
  | .text _ | .escaped _ | .code _ | .html _ | .softBreak | .hardBreak => by
    rw [leaves, List.map_singleton, String.join_cons, String.join_nil, String.append_empty]

/-- The words of nodes are those of their leaves. -/
theorem wordsList_eq_leaves :
    (ns : List Inline) → wordsList ns = String.join ((leavesList ns).map words)
  | [] => by
    rw [wordsList, leavesList]
    rfl
  | n :: ns => by
    rw [wordsList, leavesList, List.map_append, String.join_append, words_eq_leaves n,
      wordsList_eq_leaves ns]

end

end SlideDeck.Markdown.Inline
