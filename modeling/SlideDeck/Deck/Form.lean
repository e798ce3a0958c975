import SlideDeck.Deck.Slide
import SlideDeck.Json.Reader
import SlideDeck.Text.Blank
import SlideDeck.Text.Lines

/-!
The forms of a paragraph: a speaker note `> Note: …`, a picture `![alt](href)` or a shape
`!shape[name](options)` that stands alone, and formatted text otherwise.
-/

namespace SlideDeck.Deck

inductive Form where
  | note (s : String)
  | picture (p : Picture)
  | shape (name options : String)
  | text
deriving DecidableEq, Repr, Inhabited

/-- The text of a note, which ends with its line. -/
def noteText? : List Char → Option (List Char)
  | '>' :: s =>
    match s.dropWhile Text.isBlank with
    | 'N' :: 'o' :: 't' :: 'e' :: ':' :: r =>
      some (Text.trim ((r.dropWhile Text.isBlank).takeWhile (· ≠ '\n')))
    | _ => none
  | _ => none

def pictureOf? : List Char → Option Picture
  | '!' :: '[' :: s =>
    match s.dropWhile (· ≠ ']') with
    | ']' :: '(' :: r =>
      let href := r.takeWhile (· ≠ ')')
      if r.drop href.length = [')'] && !href.isEmpty then
        some ⟨String.ofList href, String.ofList (s.takeWhile (· ≠ ']'))⟩
      else none
    | _ => none
  | _ => none

/-- Splits a text at its last `](`. -/
def splitAtLast? : List Char → Option (List Char × List Char)
  | [] => none
  | c :: s =>
    match splitAtLast? s with
    | some (a, b) => some (c :: a, b)
    | none =>
      match c, s with
      | ']', '(' :: r => some ([], r)
      | _, _ => none

/-- The name and the options of a shape, which stands on one line. The last `](` divides them, so
that the options may hold no `](` themselves. -/
def shapeOf? (t : List Char) : Option (String × String) :=
  if t.contains '\n' || t.getLast? ≠ some ')' || !"!shape[".toList.isPrefixOf t then none
  else
    (splitAtLast? (t.drop 7).dropLast).map fun (name, options) =>
      (String.ofList name, String.ofList options)

/-- The form of a paragraph, by its text without white space around it. -/
def formOf (text : String) : Form :=
  let t := Text.trim text.toList
  match noteText? t with
  | some s => .note (String.ofList s)
  | none =>
    match pictureOf? t with
    | some p => .picture p
    | none =>
      match shapeOf? t with
      | some (name, options) => .shape name options
      | none => .text

end SlideDeck.Deck
