import Mathlib.Data.List.Infix
import SlideDeck.Deck.Form

/-!
How a paragraph that is a shape is taken apart. The last `](` in it divides the name from the
options; it is the first one only if the options hold none themselves.
-/

namespace SlideDeck.Deck

/-- What stands between the name of a shape and its options. -/
def optionsMark : List Char := [']', '(']

theorem splitAtLast?_eq_none {s : List Char} (h : ¬optionsMark <:+: s) : splitAtLast? s = none := by
  induction s with
  | nil => rfl
  | cons c s ih =>
    rw [List.infix_cons_iff, not_or] at h
    rw [splitAtLast?, ih h.2]
    rintro r rfl rfl
    exact h.1 (List.prefix_append optionsMark r)

theorem splitAtLast?_cons {s a b : List Char} (c : Char) (h : splitAtLast? s = some (a, b)) :
    splitAtLast? (c :: s) = some (c :: a, b) := by
  unfold splitAtLast?
  rw [h]

/-- A mark divides a text unless there is another one behind it. -/
theorem splitAtLast?_append (a b : List Char) :
    splitAtLast? (a ++ optionsMark ++ b) =
      match splitAtLast? b with
      | some (a', b') => some (a ++ optionsMark ++ a', b')
      | none => some (a, b) := by
  induction a with
  | nil =>
    cases h : splitAtLast? b with
    | some ab => exact splitAtLast?_cons ']' (splitAtLast?_cons '(' h)
    | none =>
      have hparen : splitAtLast? ('(' :: b) = none := by
        rw [splitAtLast?, h]
        rintro r ⟨⟩
      have hmark : [] ++ optionsMark ++ b = ']' :: '(' :: b := rfl
      rw [hmark, splitAtLast?, hparen]
  | cons c a ih =>
    cases h : splitAtLast? b with
    | some ab | none =>
      rw [h] at ih
      exact splitAtLast?_cons c ih

theorem trim_eq {front back : List Char} {c d : Char} (s : List Char)
    (hfront : front.all Text.isBlank) (hback : back.all Text.isBlank)
    (hc : Text.isBlank c = false) (hd : Text.isBlank d = false) :
    Text.trim (front ++ (c :: s ++ [d]) ++ back) = c :: s ++ [d] := by
  rw [List.all_eq_true] at hfront hback
  have hback' : ∀ x ∈ back.reverse, Text.isBlank x := fun x hx => hback x (List.mem_reverse.mp hx)
  rw [Text.trim, List.append_assoc, List.dropWhile_append_of_pos hfront, Text.dropEndWhile]
  simp [hc, List.dropWhile_append_of_pos hback', hd]

/-- A shape as it is written. -/
def writtenShape (name options : List Char) : List Char :=
  ['!', 's', 'h', 'a', 'p', 'e', '['] ++ name ++ optionsMark ++ options ++ [')']

theorem shapeOf?_writtenShape (name options : List Char) (hname : '\n' ∉ name)
    (hoptions : '\n' ∉ options) :
    shapeOf? (writtenShape name options) =
      match splitAtLast? options with
      | some (a, b) => some (String.ofList (name ++ optionsMark ++ a), String.ofList b)
      | none => some (String.ofList name, String.ofList options) := by
  have hstart : "!shape[".toList = ['!', 's', 'h', 'a', 'p', 'e', '['] := rfl
  have hline : (writtenShape name options).contains '\n' = false := by
    simp [writtenShape, optionsMark, hname, hoptions]
  have hlast : (writtenShape name options).getLast? = some ')' := List.getLast?_concat
  have hinner : ((writtenShape name options).drop 7).dropLast = name ++ optionsMark ++ options := by
    simp [writtenShape]
  rw [shapeOf?, hinner, splitAtLast?_append, hline, hlast, hstart, if_neg]
  · cases splitAtLast? options <;> rfl
  · simp [writtenShape]

theorem formOf_writtenShape {front back : String} (name options : String)
    (hfront : front.toList.all Text.isBlank) (hback : back.toList.all Text.isBlank)
    (hname : '\n' ∉ name.toList) (hoptions : '\n' ∉ options.toList) :
    formOf (front ++ "!shape[" ++ name ++ "](" ++ options ++ ")" ++ back) =
      match splitAtLast? options.toList with
      | some (a, b) => .shape (name ++ "](" ++ String.ofList a) (String.ofList b)
      | none => .shape name options := by
  have htext : (front ++ "!shape[" ++ name ++ "](" ++ options ++ ")" ++ back).toList =
      front.toList ++ writtenShape name.toList options.toList ++ back.toList := by
    simp [writtenShape, optionsMark]
  have htrim : Text.trim (front.toList ++ writtenShape name.toList options.toList ++ back.toList) =
      writtenShape name.toList options.toList :=
    trim_eq (['s', 'h', 'a', 'p', 'e', '['] ++ name.toList ++ optionsMark ++ options.toList) hfront
      hback rfl rfl
  have hnote : noteText? (writtenShape name.toList options.toList) = none := rfl
  have hpicture : pictureOf? (writtenShape name.toList options.toList) = none := rfl
  have hmark : String.ofList optionsMark = "](" := rfl
  rw [formOf, htext, htrim]
  simp only [hnote, hpicture, shapeOf?_writtenShape _ _ hname hoptions]
  cases splitAtLast? options.toList with
  | none => simp
  | some ab => simp [hmark, String.ofList_append, String.append_assoc]

end SlideDeck.Deck
