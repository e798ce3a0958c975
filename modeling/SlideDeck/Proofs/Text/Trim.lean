import Mathlib.Data.List.DropRight
import SlideDeck.Text.Blank
import SlideDeck.Text.Lines

/-!
Trimming, and texts put together from lines. White space around a text does not count; a text of
several lines is trimmed to one of them only if all others are blank.
-/

namespace SlideDeck.Text

theorem dropEndWhile_eq (p : Char → Bool) (s : List Char) : dropEndWhile p s = s.rdropWhile p := rfl

theorem dropEndWhile_append_of_all {p : Char → Bool} {back : List Char} (s : List Char)
    (h : back.all p) : dropEndWhile p (s ++ back) = dropEndWhile p s := by
  have hback : ∀ c ∈ back.reverse, p c := fun c hc => List.all_eq_true.mp h c (by simpa using hc)
  rw [dropEndWhile, List.reverse_append, List.dropWhile_append_of_pos hback, dropEndWhile]

theorem dropEndWhile_append_of_not_all {p : Char → Bool} {back : List Char} (s : List Char)
    (h : ¬back.all p) : dropEndWhile p (s ++ back) = s ++ dropEndWhile p back := by
  have hne : ¬(back.reverse.dropWhile p).isEmpty := by
    rw [List.isEmpty_iff, List.dropWhile_eq_nil_iff]
    simpa using h
  rw [dropEndWhile, List.reverse_append, List.dropWhile_append, if_neg hne, List.reverse_append,
    List.reverse_reverse, dropEndWhile]

/-- What goes from both ends of a text is not looked at. -/
theorem dropEndWhile_dropWhile_append {p : Char → Bool} {front back : List Char}
    (hfront : front.all p) (s : List Char) (hback : back.all p) :
    dropEndWhile p ((front ++ s ++ back).dropWhile p) = dropEndWhile p (s.dropWhile p) := by
  rw [List.append_assoc, List.dropWhile_append_of_pos (List.all_eq_true.mp hfront),
    List.dropWhile_append]
  split
  · next hs =>
    rw [List.isEmpty_iff.mp hs, List.dropWhile_eq_nil_iff.mpr (List.all_eq_true.mp hback)]
  · exact dropEndWhile_append_of_all _ hback

theorem trim_append_left {front : List Char} (h : front.all isBlank) (s : List Char) :
    trim (front ++ s) = trim s := by
  have hblank : trim (front ++ s ++ []) = trim s := dropEndWhile_dropWhile_append h s rfl
  rwa [List.append_nil] at hblank

theorem trim_append_right {back : List Char} (s : List Char) (h : back.all isBlank) :
    trim (s ++ back) = trim s := by
  have hblank : trim ([] ++ s ++ back) = trim s := dropEndWhile_dropWhile_append rfl s h
  exact hblank

/-- What goes from both ends of a text is all that goes. -/
theorem exists_dropEndWhile_dropWhile (p : Char → Bool) (s : List Char) :
    ∃ front back, s = front ++ dropEndWhile p (s.dropWhile p) ++ back ∧
      front.all p ∧ back.all p := by
  refine ⟨s.takeWhile p, (s.dropWhile p).rtakeWhile p, ?_, List.all_takeWhile, ?_⟩
  · rw [dropEndWhile_eq, List.append_assoc, List.rdropWhile_append_rtakeWhile,
      List.takeWhile_append_dropWhile]
  · exact List.all_eq_true.mpr fun c hc => List.mem_rtakeWhile_imp hc

/-- Only white space is lost around a trimmed text. -/
theorem exists_trim (s : List Char) :
    ∃ front back, s = front ++ trim s ++ back ∧ front.all isBlank ∧ back.all isBlank :=
  exists_dropEndWhile_dropWhile isBlank s

theorem trim_cons {c : Char} (hc : isBlank c = false) (s : List Char) :
    trim (c :: s) = c :: dropEndWhile isBlank s := by
  rw [trim, List.dropWhile_cons_of_neg (by simp [hc])]
  by_cases hs : s.all isBlank
  · rw [← List.singleton_append, dropEndWhile_append_of_all _ hs, dropEndWhile_eq, dropEndWhile_eq,
      List.rdropWhile_eq_nil_iff.mpr (List.all_eq_true.mp hs)]
    simp [hc]
  · rw [← List.singleton_append, dropEndWhile_append_of_not_all _ hs]
    rfl

theorem head?_dropEndWhile {p : Char → Bool} {s : List Char} {c : Char}
    (h : (dropEndWhile p s).head? = some c) : s.head? = some c := by
  obtain ⟨back, hback⟩ := List.rdropWhile_prefix p (l := s)
  rw [← hback, List.head?_append, ← dropEndWhile_eq, h]
  rfl

theorem trim_trim (s : List Char) : trim (trim s) = trim s := by
  obtain ⟨front, back, hs, hfront, hback⟩ := exists_trim s
  nth_rewrite 2 [hs]
  rw [trim_append_right _ hback, trim_append_left hfront]

theorem length_trim_le (s : List Char) : (trim s).length ≤ (dropEndWhile isBlank s).length := by
  obtain ⟨front, hs⟩ := List.dropWhile_suffix isBlank (l := s)
  by_cases hrest : (s.dropWhile isBlank).all isBlank
  · rw [trim, dropEndWhile_eq, List.rdropWhile_eq_nil_iff.mpr (List.all_eq_true.mp hrest)]
    exact Nat.zero_le _
  · nth_rewrite 2 [← hs]
    rw [dropEndWhile_append_of_not_all _ hrest, List.length_append, trim]
    exact Nat.le_add_left _ _

theorem joinWith_cons_eq (l : List Char) (ls : List (List Char)) :
    joinWith ['\n'] (l :: ls) = l ++ ls.flatMap ('\n' :: ·) := by
  induction ls generalizing l with
  | nil => rw [joinWith, List.flatMap_nil, List.append_nil]
  | cons l' ls ih =>
    rw [joinWith, ih, List.flatMap_cons, List.append_assoc]
    · rfl
    · exact List.cons_ne_nil l' ls

theorem joinWith_append (front : List (List Char)) (l : List Char) (back : List (List Char)) :
    joinWith ['\n'] (front ++ l :: back) =
      front.flatMap (· ++ ['\n']) ++ (l ++ back.flatMap ('\n' :: ·)) := by
  induction front with
  | nil => exact joinWith_cons_eq l back
  | cons f front ih =>
    rw [List.cons_append, joinWith, ih, List.flatMap_cons, List.append_assoc (f ++ ['\n'])]
    simp

theorem all_below_iff (ls : List (List Char)) :
    (ls.flatMap ('\n' :: ·)).all isBlank ↔ ∀ l ∈ ls, l.all isBlank := by
  have hfeed : isBlank '\n' = true := by decide
  simp [hfeed]

theorem all_above_iff (ls : List (List Char)) :
    (ls.flatMap (· ++ ['\n'])).all isBlank ↔ ∀ l ∈ ls, l.all isBlank := by
  have hfeed : isBlank '\n' = true := by decide
  simp [hfeed]

theorem all_joinWith_iff (ls : List (List Char)) :
    (joinWith ['\n'] ls).all isBlank ↔ ∀ l ∈ ls, l.all isBlank := by
  cases ls with
  | nil => exact iff_of_true rfl (List.forall_mem_nil _)
  | cons l ls =>
    rw [joinWith_cons_eq, List.all_append, Bool.and_eq_true, all_below_iff, List.forall_mem_cons]

/-- Lines of which all but one are blank show that one. -/
theorem trim_joinWith {front back : List (List Char)} (l : List Char)
    (hfront : ∀ x ∈ front, x.all isBlank) (hback : ∀ x ∈ back, x.all isBlank) :
    trim (joinWith ['\n'] (front ++ l :: back)) = trim l := by
  rw [joinWith_append, trim_append_left ((all_above_iff front).mpr hfront),
    trim_append_right _ ((all_below_iff back).mpr hback)]

/-- What stands on both sides of a line feed keeps it in the trimmed text. -/
theorem mem_trim_of_not_all {s t : List Char} (hs : ¬s.all isBlank) (ht : ¬t.all isBlank) :
    '\n' ∈ trim (s ++ '\n' :: t) := by
  have hfront : ¬(s.dropWhile isBlank).isEmpty := by
    rw [List.isEmpty_iff, List.dropWhile_eq_nil_iff]
    simpa using hs
  have hline : s.dropWhile isBlank ++ '\n' :: t = (s.dropWhile isBlank ++ ['\n']) ++ t := by simp
  rw [trim, List.dropWhile_append, if_neg hfront, hline, dropEndWhile_append_of_not_all _ ht]
  simp

/-- Two lines that are not blank stay apart. -/
theorem mem_trim_joinWith {front back : List (List Char)} {l : List Char} (hl : ¬l.all isBlank)
    (hback : ¬∀ x ∈ back, x.all isBlank) :
    '\n' ∈ trim (joinWith ['\n'] (front ++ l :: back)) := by
  cases back with
  | nil => exact absurd (List.forall_mem_nil _) hback
  | cons b back =>
    rw [joinWith_append, List.flatMap_cons, List.cons_append, ← List.append_assoc]
    refine mem_trim_of_not_all (fun h => hl ?_) (fun h => hback ?_)
    · rw [List.all_append, Bool.and_eq_true] at h
      exact h.2
    · rw [List.all_append, Bool.and_eq_true, all_below_iff] at h
      exact List.forall_mem_cons.mpr h

end SlideDeck.Text
