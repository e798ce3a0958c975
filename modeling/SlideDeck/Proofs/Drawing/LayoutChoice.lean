import SlideDeck.Drawing.Template

/-!
Which layout is chosen. Names are compared in lower case. A layout whose whole name is preferred
goes before one whose name only contains a preferred name; among the former the order of the
preferred names decides, among the latter the order of the layouts.
-/

namespace SlideDeck.Drawing

/-- A place in a list whose member is the first one with a property. -/
def IsFirst {α : Type} (P : α → Prop) (xs : List α) (i : Nat) : Prop :=
  (∃ x, xs[i]? = some x ∧ P x) ∧ ∀ j < i, ∀ x, xs[j]? = some x → ¬P x

/-- Whether a preferred name is all of a layout's name. -/
def IsNamed (p : String) (name : Option String) : Prop :=
  Text.lower (name.getD "").toList = Text.lower p.toList

/-- Whether a layout's name contains a preferred name. -/
def Mentions (name : Option String) (p : String) : Prop :=
  Text.lower p.toList <:+: Text.lower (name.getD "").toList

theorem occursIn_iff (p s : List Char) : occursIn p s ↔ p <:+: s := by
  induction s with
  | nil => rw [occursIn, List.isEmpty_iff, List.infix_nil]
  | cons c s ih =>
    rw [occursIn, Bool.or_eq_true, List.isPrefixOf_iff_prefix, ih, List.infix_cons_iff]

theorem findIdx?_eq_some_iff_isFirst {α : Type} {P : α → Prop} {f : α → Bool}
    (h : ∀ x, f x ↔ P x) (xs : List α) (i : Nat) : xs.findIdx? f = some i ↔ IsFirst P xs i := by
  rw [List.findIdx?_eq_some_iff_getElem]
  simp only [IsFirst, ← h]
  constructor
  · rintro ⟨hi, hx, hbefore⟩
    refine ⟨⟨xs[i], List.getElem?_eq_getElem hi, hx⟩, fun j hj x hxj => ?_⟩
    obtain ⟨_, rfl⟩ := List.getElem?_eq_some_iff.mp hxj
    exact hbefore j hj
  · rintro ⟨⟨x, hx, hfx⟩, hbefore⟩
    obtain ⟨hi, rfl⟩ := List.getElem?_eq_some_iff.mp hx
    exact ⟨hi, hfx, fun j hj => hbefore j hj _ (List.getElem?_eq_getElem (Nat.lt_trans hj hi))⟩

theorem findIdx?_eq_none_iff_not {α : Type} {P : α → Prop} {f : α → Bool}
    (h : ∀ x, f x ↔ P x) (xs : List α) : xs.findIdx? f = none ↔ ∀ x ∈ xs, ¬P x := by
  rw [List.findIdx?_eq_none_iff]
  simp only [← h, Bool.not_eq_true]

theorem isNamed_iff (p : String) (name : Option String) :
    (comparedName name == Text.lower p.toList) ↔ IsNamed p name := beq_iff_eq

theorem any_occursIn_iff (preferred : List String) (name : Option String) :
    (preferred.any fun p => occursIn (Text.lower p.toList) (comparedName name)) ↔
      ∃ p ∈ preferred, Mentions name p := by
  rw [List.any_eq_true]
  simp only [occursIn_iff, comparedName, Mentions]

theorem IsNamed.mentions {p : String} {name : Option String} (h : IsNamed p name) :
    Mentions name p :=
  ⟨[], [], by rw [List.nil_append, List.append_nil, h]⟩

/-- The first layout with the earliest of the preferred names that any layout has. -/
def IsNamedChoice (preferred : List String) (names : List (Option String)) (i : Nat) : Prop :=
  ∃ before p after, preferred = before ++ p :: after ∧
    (∀ q ∈ before, ∀ name ∈ names, ¬IsNamed q name) ∧ IsFirst (IsNamed p) names i

/-- The first layout whose name contains any of the preferred names. -/
def IsMentionChoice (preferred : List String) (names : List (Option String)) (i : Nat) : Prop :=
  IsFirst (fun name => ∃ p ∈ preferred, Mentions name p) names i

theorem findSome?_eq_some_iff_isNamedChoice (preferred : List String)
    (names : List (Option String)) (i : Nat) :
    (preferred.findSome? fun p =>
        names.findIdx? fun name => comparedName name == Text.lower p.toList) = some i ↔
      IsNamedChoice preferred names i := by
  rw [List.findSome?_eq_some_iff]
  simp only [findIdx?_eq_some_iff_isFirst (isNamed_iff _), findIdx?_eq_none_iff_not (isNamed_iff _)]
  constructor
  · rintro ⟨before, p, after, hpreferred, hfirst, hbefore⟩
    exact ⟨before, p, after, hpreferred, hbefore, hfirst⟩
  · rintro ⟨before, p, after, hpreferred, hbefore, hfirst⟩
    exact ⟨before, p, after, hpreferred, hfirst, hbefore⟩

/-- A layout is chosen by its whole name if there is one to choose, in the order of the preferred
names, and else by a part of its name, in the order of the layouts. None is chosen if and only if no
name of a layout contains a preferred name. -/
theorem preferredLayout?_choice (preferred : List String) (names : List (Option String)) :
    (∀ i, preferredLayout? preferred names = some i ↔ IsNamedChoice preferred names i ∨
      (∀ p ∈ preferred, ∀ name ∈ names, ¬IsNamed p name) ∧ IsMentionChoice preferred names i) ∧
    (preferredLayout? preferred names = none ↔
      ∀ name ∈ names, ∀ p ∈ preferred, ¬Mentions name p) := by
  have hnone : (preferred.findSome? fun p =>
      names.findIdx? fun name => comparedName name == Text.lower p.toList) = none ↔
        ∀ p ∈ preferred, ∀ name ∈ names, ¬IsNamed p name := by
    rw [List.findSome?_eq_none_iff]
    simp only [findIdx?_eq_none_iff_not (isNamed_iff _)]
  constructor
  · intro i
    rw [preferredLayout?, Option.or_eq_some_iff, findSome?_eq_some_iff_isNamedChoice, hnone,
      findIdx?_eq_some_iff_isFirst (any_occursIn_iff preferred), IsMentionChoice]
  · rw [preferredLayout?, Option.or_eq_none_iff, hnone,
      findIdx?_eq_none_iff_not (any_occursIn_iff preferred)]
    constructor
    · rintro ⟨-, h⟩ name hname p hp hmentions
      exact h name hname ⟨p, hp, hmentions⟩
    · intro h
      refine ⟨fun p hp name hname hnamed => h name hname p hp hnamed.mentions, ?_⟩
      rintro name hname ⟨p, hp, hmentions⟩
      exact h name hname p hp hmentions

example : preferredLayout? preferredNames [some "Not blank", none, some "TITLE only"] = some 2 := by
  decide

end SlideDeck.Drawing
