import SlideDeck.Proofs.Text.Trim

/-!
The words of a text, and texts put together from parts. Words are told apart by white space, however
much of it stands between them and around them.
-/

namespace SlideDeck.Text

/-- The characters of a text that are no white space. -/
def letters (s : String) : List Char := s.toList.filter (!isBlank ·)

/-- The words of a text, between its white space. -/
def wordsOf (s : List Char) : List (List Char) := (s.splitOnP isBlank).filter (!·.isEmpty)

theorem letters_append (s t : String) : letters (s ++ t) = letters s ++ letters t := by
  rw [letters, String.toList_append, List.filter_append]
  rfl

theorem filter_not_isBlank {s : List Char} (h : s.all isBlank) : s.filter (!isBlank ·) = [] := by
  rw [List.filter_eq_nil_iff]
  intro c hc
  rw [List.all_eq_true.mp h c hc]
  exact Bool.false_ne_true

theorem letters_trimmed (s : String) : letters (trimmed s) = letters s := by
  obtain ⟨front, back, hs, hfront, hback⟩ := exists_trim s.toList
  rw [letters, letters, trimmed, String.toList_ofList]
  nth_rewrite 2 [hs]
  rw [List.filter_append, List.filter_append, filter_not_isBlank hfront, filter_not_isBlank hback,
    List.nil_append, List.append_nil]

/-- White space between two texts keeps their words apart. -/
theorem wordsOf_append_cons {c : Char} (hc : isBlank c) (s t : List Char) :
    wordsOf (s ++ c :: t) = wordsOf s ++ wordsOf t := by
  rw [wordsOf, List.splitOnP_append_cons s t hc, List.filter_append]
  rfl

theorem wordsOf_of_all {s : List Char} (h : s.all isBlank) : wordsOf s = [] := by
  induction s with
  | nil => rfl
  | cons c s ih =>
    rw [List.all_cons, Bool.and_eq_true] at h
    have hs := wordsOf_append_cons h.1 [] s
    rw [ih h.2] at hs
    exact hs

theorem wordsOf_append_left {front : List Char} (h : front.all isBlank) (s : List Char) :
    wordsOf (front ++ s) = wordsOf s := by
  induction front with
  | nil => rfl
  | cons c front ih =>
    rw [List.all_cons, Bool.and_eq_true] at h
    have hs := wordsOf_append_cons h.1 [] (front ++ s)
    rw [ih h.2] at hs
    exact hs

theorem wordsOf_append_right {back : List Char} (h : back.all isBlank) (s : List Char) :
    wordsOf (s ++ back) = wordsOf s := by
  cases back with
  | nil => rw [List.append_nil]
  | cons c back =>
    rw [List.all_cons, Bool.and_eq_true] at h
    rw [wordsOf_append_cons h.1, wordsOf_of_all h.2, List.append_nil]

theorem wordsOf_trimmed (s : String) : wordsOf (trimmed s).toList = wordsOf s.toList := by
  obtain ⟨front, back, hs, hfront, hback⟩ := exists_trim s.toList
  rw [trimmed, String.toList_ofList]
  nth_rewrite 2 [hs]
  rw [wordsOf_append_right hback, wordsOf_append_left hfront]

variable {α : Type} {f g : α → String} {xs : List α}

theorem letters_join_map (h : ∀ x ∈ xs, letters (f x) = letters (g x)) :
    letters (String.join (xs.map f)) = letters (String.join (xs.map g)) := by
  induction xs with
  | nil => rfl
  | cons x xs ih =>
    rw [List.forall_mem_cons] at h
    rw [List.map_cons, List.map_cons, String.join_cons, String.join_cons, letters_append,
      letters_append, h.1, ih h.2]

theorem length_join_map_le (h : ∀ x ∈ xs, (f x).length ≤ (g x).length) :
    (String.join (xs.map f)).length ≤ (String.join (xs.map g)).length := by
  induction xs with
  | nil => exact Nat.le_refl _
  | cons x xs ih =>
    rw [List.forall_mem_cons] at h
    rw [List.map_cons, List.map_cons, String.join_cons, String.join_cons, String.length_append,
      String.length_append]
    exact Nat.add_le_add h.1 (ih h.2)

/-- Two texts that are put together in the same way, from parts none of which is longer in the
first than in the second, are equal only if all their parts are. -/
theorem join_map_eq_iff (h : ∀ x ∈ xs, (f x).length ≤ (g x).length) :
    String.join (xs.map f) = String.join (xs.map g) ↔ ∀ x ∈ xs, f x = g x := by
  constructor
  · intro heq
    induction xs with
    | nil => exact List.forall_mem_nil _
    | cons x xs ih =>
      rw [List.forall_mem_cons] at h
      rw [List.map_cons, List.map_cons, String.join_cons, String.join_cons] at heq
      have hrest := length_join_map_le h.2
      have hlength : (f x).length = (g x).length := by
        have htotal := congrArg String.length heq
        rw [String.length_append, String.length_append] at htotal
        have hfirst := h.1
        omega
      have hchars := congrArg String.toList heq
      rw [String.toList_append, String.toList_append] at hchars
      obtain ⟨hx, hxs⟩ := List.append_inj hchars hlength
      rw [List.forall_mem_cons]
      exact ⟨String.toList_inj.mp hx, ih h.2 (String.toList_inj.mp hxs)⟩
  · intro heq
    rw [List.map_congr_left heq]

end SlideDeck.Text
