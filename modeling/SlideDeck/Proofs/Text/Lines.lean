import Mathlib.Data.List.Infix
import SlideDeck.Text.Lines
import SlideDeck.Text.Octets

/-!
The lines of a text in two senses. Cutting at every line boundary cuts each line that line feeds
bound into pieces, so the two senses agree as far as no other boundary occurs.
-/

namespace SlideDeck.Text

/-- The lines of a text that end at a line feed, a carriage return or the two together. -/
def plainLines (s : List Char) : List (List Char) := splitOn '\n' (unifyLineEnds s)

/-- What stands between the line boundaries of a text. -/
def pieces (s : List Char) : List (List Char) := s.splitOnP isLineEnd

/-- Lines without a last one that is empty. -/
def dropLastEmpty (ls : List (List Char)) : List (List Char) :=
  if ls.getLast? = some [] then ls.dropLast else ls

theorem splitOn_ne_nil {α : Type} [BEq α] (sep : α) (s : List α) : splitOn sep s ≠ [] := by
  cases s with
  | nil => nofun
  | cons c s =>
    rw [splitOn]
    split
    · nofun
    · split <;> nofun

theorem splitOn_cons {α : Type} [BEq α] (sep c : α) (s : List α) :
    splitOn sep (c :: s) =
      if c == sep then [] :: splitOn sep s else (splitOn sep s).modifyHead (c :: ·) := by
  obtain ⟨p, ps, hs⟩ := List.exists_cons_of_ne_nil (splitOn_ne_nil sep s)
  rw [splitOn, hs]
  rfl

/-- The parts of a text hold no separator. -/
theorem not_mem_of_mem_splitOn {α : Type} [BEq α] [LawfulBEq α] {sep : α} {s p : List α}
    (h : p ∈ splitOn sep s) : sep ∉ p := by
  induction s generalizing p with
  | nil =>
    rw [splitOn, List.mem_singleton] at h
    rw [h]
    exact List.not_mem_nil
  | cons c s ih =>
    obtain ⟨q, qs, hs⟩ := List.exists_cons_of_ne_nil (splitOn_ne_nil sep s)
    rw [splitOn_cons, hs] at h
    rw [hs] at ih
    split at h
    · obtain rfl | h := List.mem_cons.mp h
      · exact List.not_mem_nil
      · exact ih h
    next hc =>
      obtain rfl | h := List.mem_cons.mp h
      · rw [List.mem_cons, not_or]
        exact ⟨fun hsep => hc (beq_iff_eq.mpr hsep.symm), ih List.mem_cons_self⟩
      · exact ih (List.mem_cons_of_mem q h)

/-- The parts and the separators are all that a text has. -/
theorem forall_mem_splitOn_iff {α : Type} [BEq α] [LawfulBEq α] {P : α → Prop} {sep : α}
    (hsep : P sep) (s : List α) : (∀ p ∈ splitOn sep s, ∀ c ∈ p, P c) ↔ ∀ c ∈ s, P c := by
  induction s with
  | nil => simp [splitOn]
  | cons c s ih =>
    obtain ⟨q, qs, hs⟩ := List.exists_cons_of_ne_nil (splitOn_ne_nil sep s)
    rw [splitOn_cons, List.forall_mem_cons, ← ih, hs]
    split
    next hc =>
      obtain rfl := beq_iff_eq.mp hc
      simp [hsep]
    next => simp [and_assoc]

theorem splitOn_eq_self {α : Type} [BEq α] [LawfulBEq α] {sep : α} {s : List α} (h : sep ∉ s) :
    splitOn sep s = [s] := by
  induction s with
  | nil => rfl
  | cons c s ih =>
    rw [List.mem_cons, not_or] at h
    rw [splitOn_cons, ih h.2, if_neg (fun hc => h.1 (beq_iff_eq.mp hc).symm)]
    rfl

theorem splitOn_append_cons {α : Type} [BEq α] [LawfulBEq α] (sep : α) (s t : List α) :
    splitOn sep (s ++ sep :: t) = splitOn sep s ++ splitOn sep t := by
  induction s with
  | nil =>
    rw [List.nil_append, splitOn_cons, if_pos (beq_self_eq_true sep)]
    rfl
  | cons c s ih =>
    obtain ⟨p, ps, hs⟩ := List.exists_cons_of_ne_nil (splitOn_ne_nil sep s)
    rw [List.cons_append, splitOn_cons, splitOn_cons, ih, hs]
    split <;> rfl

/-- Renaming the other members does not move the separators. -/
theorem splitOn_map {α : Type} [BEq α] {sep : α} {f : α → α} (hf : ∀ c, (f c == sep) = (c == sep))
    (s : List α) : splitOn sep (s.map f) = (splitOn sep s).map (List.map f) := by
  induction s with
  | nil => rfl
  | cons c s ih =>
    obtain ⟨p, ps, hs⟩ := List.exists_cons_of_ne_nil (splitOn_ne_nil sep s)
    rw [List.map_cons, splitOn_cons, splitOn_cons, ih, hf, hs]
    split <;> rfl

theorem splitOn_eq {α : Type} [BEq α] (sep : α) (s : List α) : splitOn sep s = s.splitOn sep := by
  induction s with
  | nil => rfl
  | cons c s ih =>
    simp only [splitOn_cons, ih, List.splitOn, List.splitOnP_cons_eq_if_modifyHead]

theorem joinWith_eq {α : Type} (sep : List α) (ls : List (List α)) :
    joinWith sep ls = sep.intercalate ls := by
  induction ls with
  | nil => rfl
  | cons l ls ih =>
    cases ls with
    | nil => exact (List.intercalate_singleton ..).symm
    | cons l' ls =>
      rw [List.intercalate_cons_of_ne_nil (List.cons_ne_nil l' ls), ← ih]
      rfl

theorem joinWith_splitOn {α : Type} [BEq α] [LawfulBEq α] (sep : α) (s : List α) :
    joinWith [sep] (splitOn sep s) = s := by
  rw [joinWith_eq, splitOn_eq, List.intercalate_splitOn]

theorem splitOn_joinWith {α : Type} [BEq α] [LawfulBEq α] {sep : α} {ls : List (List α)}
    (h : ∀ l ∈ ls, sep ∉ l) (hne : ls ≠ []) : splitOn sep (joinWith [sep] ls) = ls := by
  rw [joinWith_eq, splitOn_eq, List.splitOn_intercalate sep h hne]

theorem joinWith_append_cons {α : Type} (sep front l : List α) (ls : List (List α)) :
    joinWith sep ((front ++ l) :: ls) = front ++ joinWith sep (l :: ls) := by
  cases ls with
  | nil => rfl
  | cons l' ls => simp [joinWith]

/-- Replacing the members of a list part by part comes to replacing them all, if the separator
stays as it is. -/
theorem joinWith_flatMap_splitOn {α : Type} [BEq α] [LawfulBEq α] {sep : α} {f : α → List α}
    (hsep : f sep = [sep]) (s : List α) :
    joinWith [sep] ((splitOn sep s).map (List.flatMap f)) = s.flatMap f := by
  induction s with
  | nil => rfl
  | cons c s ih =>
    obtain ⟨p, ps, hs⟩ := List.exists_cons_of_ne_nil (splitOn_ne_nil sep s)
    rw [hs, List.map_cons] at ih
    rw [splitOn_cons, hs, List.flatMap_cons]
    split
    next hc =>
      rw [beq_iff_eq.mp hc, hsep, ← ih]
      rfl
    next =>
      rw [List.modifyHead_cons, List.map_cons, List.flatMap_cons, joinWith_append_cons, ih]

/-- The last member with a property has none behind it. -/
theorem exists_last {α : Type} {P : α → Prop} {s : List α} (h : ∃ c ∈ s, P c) :
    ∃ before c after, s = before ++ c :: after ∧ P c ∧ ∀ x ∈ after, ¬P x := by
  induction s with
  | nil =>
    obtain ⟨c, ⟨⟩, -⟩ := h
  | cons d s ih =>
    by_cases hs : ∃ c ∈ s, P c
    · obtain ⟨before, c, after, rfl, hc, hafter⟩ := ih hs
      exact ⟨d :: before, c, after, rfl, hc, hafter⟩
    · have hd : P d := ((List.exists_mem_cons_iff ..).mp h).resolve_right hs
      exact ⟨[], d, s, rfl, hd, fun x hx hP => hs ⟨x, hx, hP⟩⟩

/-- A member of a list stands somewhere for the last time. -/
theorem exists_last_of_mem {α : Type} {c : α} {s : List α} (h : c ∈ s) :
    ∃ before after, s = before ++ c :: after ∧ c ∉ after := by
  obtain ⟨before, _, after, hs, rfl, hafter⟩ := exists_last ⟨c, h, rfl⟩
  exact ⟨before, after, hs, fun hmem => hafter _ hmem rfl⟩

/-- What stands behind a member for the last time. -/
theorem reverse_takeWhile_reverse {α : Type} [DecidableEq α] {c : α} {before after : List α}
    (h : c ∉ after) : ((before ++ c :: after).reverse.takeWhile (· ≠ c)).reverse = after := by
  have hreverse : (before ++ c :: after).reverse = after.reverse ++ c :: before.reverse := by simp
  have hpass : ∀ x ∈ after.reverse, decide (x ≠ c) = true := by
    intro x hx
    rw [decide_eq_true_eq]
    rintro rfl
    exact h (List.mem_reverse.mp hx)
  rw [hreverse, List.takeWhile_append_of_pos hpass]
  simp

/-- What stands in front of a member, by the length of what stands behind it. -/
theorem take_length_sub {α : Type} {c : α} (before after : List α) :
    (before ++ c :: after).take ((before ++ c :: after).length - after.length - 1) = before := by
  have hlength : (before ++ c :: after).length - after.length - 1 = before.length := by
    rw [List.length_append, List.length_cons]
    omega
  rw [hlength, List.take_left]

theorem pieces_ne_nil (s : List Char) : pieces s ≠ [] := List.splitOnP_ne_nil isLineEnd s

theorem pieces_cons (c : Char) (s : List Char) :
    pieces (c :: s) =
      if isLineEnd c then [] :: pieces s else (pieces s).modifyHead (c :: ·) :=
  List.splitOnP_cons_eq_if_modifyHead ..

theorem pieces_eq_self {s : List Char} (h : s.all (!isLineEnd ·)) : pieces s = [s] := by
  induction s with
  | nil => rfl
  | cons c s ih =>
    rw [List.all_cons, Bool.and_eq_true, Bool.not_eq_true'] at h
    rw [pieces_cons, ih h.2, h.1]
    rfl

theorem dropLastEmpty_cons {ls : List (List Char)} (l : List Char) (h : ls ≠ []) :
    dropLastEmpty (l :: ls) = l :: dropLastEmpty ls := by
  obtain ⟨l', ls, rfl⟩ := List.exists_cons_of_ne_nil h
  rw [dropLastEmpty, dropLastEmpty, List.getLast?_cons_cons]
  split <;> rfl

theorem dropLastEmpty_isPrefix (ls : List (List Char)) : dropLastEmpty ls <+: ls := by
  rw [dropLastEmpty]
  split
  · exact List.dropLast_prefix ls
  · exact List.prefix_rfl

theorem dropLastEmpty_modifyHead_pieces (l s : List Char) {c : Char} (hc : isLineEnd c) :
    dropLastEmpty ((pieces (c :: s)).modifyHead (l ++ ·)) = l :: dropLastEmpty (pieces s) := by
  rw [pieces_cons, if_pos hc, List.modifyHead_cons, List.append_nil,
    dropLastEmpty_cons l (pieces_ne_nil s)]

/-- The open line stands before the first piece of what is still to come. -/
theorem linesFrom_eq (o : Option (List Char)) (s : List Char) (h : o ≠ some []) :
    linesFrom o s =
      dropLastEmpty ((pieces (unifyLineEnds s)).modifyHead ((o.getD []).reverse ++ ·)) := by
  have hid (t : List Char) : (pieces t).modifyHead ([] ++ ·) = pieces t := by
    obtain ⟨p, ps, hp⟩ := List.exists_cons_of_ne_nil (pieces_ne_nil t)
    rw [hp]
    rfl
  induction s using unifyLineEnds.induct generalizing o with
  | case1 s ih =>
    rw [unifyLineEnds, dropLastEmpty_modifyHead_pieces _ _ (by decide), linesFrom,
      ih none nofun, Option.getD_none, List.reverse_nil, hid]
  | case2 s hs ih =>
    rw [unifyLineEnds, dropLastEmpty_modifyHead_pieces _ _ (by decide), linesFrom,
      if_pos (by decide), ih none nofun, Option.getD_none, List.reverse_nil, hid]
    · exact fun t _ => hs t
    · exact hs
  | case3 c s hc hs ih =>
    rw [unifyLineEnds, linesFrom]
    by_cases hend : isLineEnd c
    · rw [if_pos hend, dropLastEmpty_modifyHead_pieces _ _ hend, ih none nofun,
        Option.getD_none, List.reverse_nil, hid]
    · rw [if_neg hend, ih (some (c :: o.getD [])) nofun, pieces_cons, if_neg hend,
        List.modifyHead_modifyHead]
      simp [Function.comp_def]
    all_goals assumption
  | case4 =>
    cases o with
    | none => rfl
    | some l =>
      have hl : l ≠ [] := fun hl => h (congrArg some hl)
      simp [linesFrom, unifyLineEnds, pieces, dropLastEmpty, hl]

theorem lines_eq (s : List Char) : lines s = dropLastEmpty (pieces (unifyLineEnds s)) := by
  obtain ⟨p, ps, hp⟩ := List.exists_cons_of_ne_nil (pieces_ne_nil (unifyLineEnds s))
  rw [lines, linesFrom_eq none s nofun, hp]
  rfl

/-- Every line feed is a boundary. -/
theorem flatMap_pieces_splitOn (s : List Char) : (splitOn '\n' s).flatMap pieces = pieces s := by
  induction s with
  | nil => rfl
  | cons c s ih =>
    rw [splitOn_cons, pieces_cons]
    by_cases hfeed : c = '\n'
    · subst hfeed
      rw [if_pos (beq_self_eq_true _), if_pos (by decide), List.flatMap_cons, ih]
      rfl
    · obtain ⟨p, ps, hp⟩ := List.exists_cons_of_ne_nil (splitOn_ne_nil '\n' s)
      obtain ⟨q, qs, hq⟩ := List.exists_cons_of_ne_nil (pieces_ne_nil p)
      rw [hp, List.flatMap_cons, hq] at ih
      rw [if_neg (by simpa using hfeed), hp, List.modifyHead_cons, List.flatMap_cons, pieces_cons,
        hq, ← ih]
      split <;> rfl

theorem lines_eq_flatMap_pieces (s : List Char) :
    lines s = dropLastEmpty ((plainLines s).flatMap pieces) := by
  rw [lines_eq, plainLines, flatMap_pieces_splitOn]

theorem dropLastEmpty_append (ls : List (List Char)) {ls' : List (List Char)} (h : ls' ≠ []) :
    dropLastEmpty (ls ++ ls') = ls ++ dropLastEmpty ls' := by
  induction ls with
  | nil => rfl
  | cons l ls ih =>
    rw [List.cons_append, dropLastEmpty_cons l (List.append_ne_nil_of_right_ne_nil ls h), ih]
    rfl

theorem flatMap_pieces_ne_nil {ls : List (List Char)} (h : ls ≠ []) : ls.flatMap pieces ≠ [] := by
  obtain ⟨l, ls, rfl⟩ := List.exists_cons_of_ne_nil h
  exact List.append_ne_nil_of_left_ne_nil (pieces_ne_nil l) _

theorem dropLastEmpty_pieces_ne_nil {l : List Char} (h : l ≠ []) :
    dropLastEmpty (pieces l) ≠ [] := by
  obtain ⟨c, l, rfl⟩ := List.exists_cons_of_ne_nil h
  obtain ⟨p, ps, hp⟩ := List.exists_cons_of_ne_nil (pieces_ne_nil l)
  rw [pieces_cons, hp]
  split
  · rw [dropLastEmpty_cons _ (List.cons_ne_nil p ps)]
    exact List.cons_ne_nil _ _
  · cases ps with
    | nil => exact List.cons_ne_nil _ _
    | cons p' ps =>
      rw [List.modifyHead_cons, dropLastEmpty_cons _ (List.cons_ne_nil p' ps)]
      exact List.cons_ne_nil _ _

/-- Cutting lines into pieces leaves at least as many. -/
theorem length_dropLastEmpty_le (ls : List (List Char)) :
    (dropLastEmpty ls).length ≤ (dropLastEmpty (ls.flatMap pieces)).length := by
  induction ls with
  | nil => exact Nat.le_refl _
  | cons l ls ih =>
    by_cases hls : ls = []
    · subst hls
      by_cases hl : l = []
      · subst hl
        exact Nat.zero_le _
      · rw [List.flatMap_singleton]
        exact (dropLastEmpty_isPrefix [l]).length_le.trans
          (List.length_pos_of_ne_nil (dropLastEmpty_pieces_ne_nil hl))
    · rw [List.flatMap_cons, dropLastEmpty_cons l hls,
        dropLastEmpty_append _ (flatMap_pieces_ne_nil hls), List.length_append, List.length_cons]
      have := List.length_pos_of_ne_nil (pieces_ne_nil l)
      omega

/-- As long as no more lines are asked for than there are, the pieces count the same. -/
theorem take_lines {s : List Char} {n : Nat} (h : n ≤ (dropLastEmpty (plainLines s)).length) :
    (lines s).take n = ((plainLines s).flatMap pieces).take n := by
  have hlength := length_dropLastEmpty_le (plainLines s)
  rw [← lines_eq_flatMap_pieces] at hlength
  have hprefix := dropLastEmpty_isPrefix ((plainLines s).flatMap pieces)
  rw [← lines_eq_flatMap_pieces] at hprefix
  obtain ⟨rest, hrest⟩ := hprefix
  rw [← hrest, List.take_append_of_le_length (h.trans hlength)]

/-- Up to a line before which no other boundary occurs, the lines are those of line feeds. -/
theorem take_lines_of_plain {s : List Char} {n : Nat}
    (h : n ≤ (dropLastEmpty (plainLines s)).length)
    (hplain : ∀ l ∈ (plainLines s).take n, l.all (!isLineEnd ·)) :
    (lines s).take n = (plainLines s).take n := by
  have hself : ((plainLines s).take n).flatMap pieces = (plainLines s).take n := by
    rw [List.flatMap_congr fun l hl => pieces_eq_self (hplain l hl), List.flatMap_singleton']
  have hcount : n ≤ (plainLines s).length := h.trans (dropLastEmpty_isPrefix _).length_le
  have hcut : (plainLines s).flatMap pieces =
      (plainLines s).take n ++ ((plainLines s).drop n).flatMap pieces := by
    nth_rewrite 1 [← List.take_append_drop n (plainLines s)]
    rw [List.flatMap_append, hself]
  rw [take_lines h, hcut, List.take_append_of_le_length (List.length_take_of_le hcount).ge,
    List.take_take, Nat.min_self]

end SlideDeck.Text
