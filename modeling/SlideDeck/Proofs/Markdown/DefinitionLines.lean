import Mathlib.Data.List.Infix
import SlideDeck.Markdown.LinkDefinition

/-!
A link definition takes no more lines than there are in the paragraph that it is read from.
-/

namespace SlideDeck.Markdown

theorem titleBody?_eq_some {close : Char} {s t : List Char} (h : titleBody? close s = some t) :
    ∃ u, s = t ++ close :: u := by
  fun_induction titleBody? close s generalizing t with
  | case1 => cases h
  | case2 c s ih =>
    obtain ⟨t, ht, rfl⟩ := Option.map_eq_some_iff.mp h
    obtain ⟨u, rfl⟩ := ih ht
    exact ⟨u, rfl⟩
  | case3 s hslash =>
    cases h
    exact ⟨s, rfl⟩
  | case4 => cases h
  | case5 c s hslash hclose hopen ih =>
    obtain ⟨t, ht, rfl⟩ := Option.map_eq_some_iff.mp h
    obtain ⟨u, rfl⟩ := ih ht
    exact ⟨u, rfl⟩

/-- The mark that closes a title is no line feed. -/
theorem title?_eq_some {s : List Char} {title : String} {n : Nat} (h : title? s = some (title, n)) :
    ∃ t close u, s = t ++ close :: u ∧ n = t.length + 1 ∧ close ≠ '\n' := by
  cases s with
  | nil => cases h
  | cons c s =>
    simp only [title?, Option.bind_eq_some_iff, Option.map_eq_some_iff] at h
    obtain ⟨close, hclose, t, ht, hn⟩ := h
    obtain ⟨u, rfl⟩ := titleBody?_eq_some ht
    refine ⟨c :: t, close, u, rfl, (congrArg Prod.snd hn).symm, ?_⟩
    rintro rfl
    split_ifs at hclose <;> simp_all

namespace LinkDefinition

theorem label?_suffix {s label rest : List Char} (h : label? s = some (label, rest)) :
    rest <:+ s := by
  fun_induction label? s generalizing label with
  | case1 | case2 => cases h
  | case3 s =>
    cases h
    exact List.suffix_cons _ _
  | case4 c s ih =>
    obtain ⟨⟨l, r⟩, hl, hr⟩ := Option.map_eq_some_iff.mp h
    cases hr
    exact (ih hl).trans ((List.suffix_cons c s).trans (List.suffix_cons _ _))
  | case5 c s _ _ _ ih =>
    obtain ⟨⟨l, r⟩, hl, hr⟩ := Option.map_eq_some_iff.mp h
    cases hr
    exact (ih hl).trans (List.suffix_cons c s)

theorem titleBehind?_eq_some {s tail : List Char} {title : String}
    (h : titleBehind? s = some (title, tail)) : ∃ close, close :: tail <:+ s ∧ close ≠ '\n' := by
  rw [titleBehind?] at h
  split_ifs at h
  obtain ⟨⟨title', n⟩, htitle, hcut⟩ := Option.map_eq_some_iff.mp h
  obtain ⟨t, close, u, hs, rfl, hclose⟩ := title?_eq_some htitle
  have htail : (s.dropWhile isLinkBlank).drop (t.length + 1) = tail := congrArg Prod.snd hcut
  rw [hs, ← List.drop_drop, List.drop_left, List.drop_one, List.tail_cons] at htail
  subst htail
  refine ⟨close, ?_, hclose⟩
  have hbehind : close :: u <:+ s.dropWhile isLinkBlank := by
    rw [hs]
    exact List.suffix_append t _
  exact hbehind.trans (List.dropWhile_suffix _)

/-- The lines of a paragraph, each closed by a line feed. -/
def closedLines (paragraph : List (List Char)) : List Char := paragraph.flatMap (· ++ ['\n'])

theorem getLast?_of_suffix_closedLines {paragraph : List (List Char)} {left : List Char}
    (h : left <:+ closedLines paragraph) (hleft : left ≠ []) : left.getLast? = some '\n' := by
  obtain ⟨before, hbefore⟩ := h
  obtain ⟨left, c, rfl⟩ := (List.eq_nil_or_concat' left).resolve_left hleft
  have hlast : (closedLines paragraph).getLast? = some c := by
    rw [← hbefore, ← List.append_assoc, List.getLast?_concat]
  rw [List.getLast?_concat, ← hlast]
  cases paragraph using List.reverseRecOn with
  | nil => cases hlast
  | append_singleton ls l => simp [closedLines]

theorem count_closedLines {paragraph : List (List Char)} (h : ∀ l ∈ paragraph, '\n' ∉ l) :
    (closedLines paragraph).count '\n' = paragraph.length := by
  induction paragraph with
  | nil => rfl
  | cons l ls ih =>
    rw [List.forall_mem_cons] at h
    rw [closedLines, List.flatMap_cons, List.count_append, List.count_append,
      List.count_eq_zero.mpr h.1, ← closedLines, ih h.2, List.length_cons,
      List.count_singleton_self]
    omega

/-- Behind a definition there is text left: the last line feed closes no title. -/
theorem exists_suffix_of_parse? {paragraph : List (List Char)} {found : LinkDefinition}
    (h : parse? paragraph = some found) :
    ∃ left, left <:+ closedLines paragraph ∧ left ≠ [] ∧
      found.lineCount = ((closedLines paragraph).take
        ((closedLines paragraph).length - left.length)).count '\n' + 1 := by
  unfold parse? at h
  have hlast := @getLast?_of_suffix_closedLines paragraph
  generalize htext : closedLines paragraph = text at hlast ⊢
  rw [closedLines] at htext
  simp only [htext, Option.bind_eq_bind] at h
  split at h
  case h_2 => cases h
  rename_i s
  rw [Option.bind_some, Option.bind_eq_some_iff] at h
  obtain ⟨⟨label, behind⟩, hlabel, h⟩ := h
  dsimp only at h
  split at h
  case h_2 => cases h
  rename_i s'
  rw [Option.bind_some, Option.bind_eq_some_iff] at h
  obtain ⟨⟨destination, n⟩, hd, h⟩ := h
  have hsuffix : s'.dropWhile isLinkBlank <:+ '[' :: s :=
    (List.dropWhile_suffix _).trans ((List.suffix_cons ':' s').trans
      ((label?_suffix hlabel).trans (List.suffix_cons '[' s)))
  generalize s'.dropWhile isLinkBlank = rest at h hd hsuffix
  have hrest : rest ≠ [] := by
    rintro rfl
    cases hd
  dsimp only at h
  split at h
  · cases h
  split at h
  · cases h
    exact ⟨rest, hsuffix, hrest, rfl⟩
  cases htitle : titleBehind? (rest.drop n) with
  | none =>
    rw [htitle] at h
    obtain ⟨-, h⟩ := Option.ite_none_right_eq_some.mp h
    cases h
    exact ⟨rest, hsuffix, hrest, rfl⟩
  | some behind =>
    obtain ⟨title, tail⟩ := behind
    rw [htitle] at h
    obtain ⟨close, htail, hclose⟩ := titleBehind?_eq_some htitle
    have hsuffix' : close :: tail <:+ '[' :: s :=
      htail.trans ((List.drop_suffix n rest).trans hsuffix)
    dsimp only at h
    split_ifs at h
    · cases h
      refine ⟨tail, (List.suffix_cons close tail).trans hsuffix', ?_, rfl⟩
      rintro rfl
      exact hclose (Option.some.inj (hlast hsuffix' (List.cons_ne_nil close [])))
    · cases h
      exact ⟨rest, hsuffix, hrest, rfl⟩

theorem lineCount_pos {paragraph : List (List Char)} {found : LinkDefinition}
    (h : parse? paragraph = some found) : 0 < found.lineCount := by
  obtain ⟨left, -, -, hcount⟩ := exists_suffix_of_parse? h
  omega

theorem lineCount_le {paragraph : List (List Char)} {found : LinkDefinition}
    (hparagraph : ∀ l ∈ paragraph, '\n' ∉ l) (h : parse? paragraph = some found) :
    found.lineCount ≤ paragraph.length := by
  obtain ⟨left, ⟨before, hbefore⟩, hleft, hcount⟩ := exists_suffix_of_parse? h
  have hfeed : 0 < left.count '\n' :=
    List.count_pos_iff.mpr
      (List.mem_of_getLast? (getLast?_of_suffix_closedLines ⟨before, hbefore⟩ hleft))
  have hall := count_closedLines hparagraph
  rw [← hbefore, List.length_append, Nat.add_sub_cancel, List.take_left] at hcount
  rw [← hbefore, List.count_append] at hall
  omega

end LinkDefinition

end SlideDeck.Markdown
