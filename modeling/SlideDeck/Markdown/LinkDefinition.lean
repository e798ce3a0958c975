import SlideDeck.Markdown.LinkText
import SlideDeck.Text.Lines

/-!
Definitions of links: `[label]: destination "title"`, over one or several lines of a paragraph.
-/

namespace SlideDeck.Markdown

structure LinkDefinition where
  key : String
  target : Target
  lineCount : Nat

namespace LinkDefinition

/-- The label after its opening bracket, and the text behind the closing one. -/
def label? : List Char → Option (List Char × List Char)
  | [] => none
  | '[' :: _ => none
  | ']' :: s => some ([], s)
  | '\\' :: c :: s => (label? s).map fun (l, r) => ('\\' :: c :: l, r)
  | c :: s => (label? s).map fun (l, r) => (c :: l, r)

def isLinkBlank (c : Char) : Bool := isTabOrSpace c || c == '\n'

def endsLine (s : List Char) : Bool :=
  match s.dropWhile isTabOrSpace with
  | [] => true
  | c :: _ => c == '\n'

/-- The title behind a destination, if it stands apart from it, and the text behind the title. -/
def titleBehind? (s : List Char) : Option (String × List Char) :=
  if (s.takeWhile isLinkBlank).isEmpty then none
  else
    let s := s.dropWhile isLinkBlank
    (title? s).map fun (t, n) => (t, s.drop n)

/-- Reads a definition off the lines of a paragraph. A destination stays on its line. A title that
is followed by other text is no title, and then must start on a line of its own. -/
def parse? (paragraph : List (List Char)) : Option LinkDefinition := do
  let text := paragraph.flatMap (· ++ ['\n'])
  let rest ← match text with
    | '[' :: s => some s
    | _ => none
  let (label, rest) ← label? rest
  let rest ← match rest with
    | ':' :: s => some s
    | _ => none
  let rest := rest.dropWhile isLinkBlank
  let here := rest.takeWhile (· ≠ '\n')
  let (destination, n) ← destination? (if rest.isEmpty then [] else here ++ ['\n'])
  let href := Url.normalize (String.ofList destination)
  let key := labelKey label
  if !Url.isAllowed href || key.isEmpty then none
  else
    let linesTo (s : List Char) := (text.take (text.length - s.length)).count '\n' + 1
    let plain := some ⟨key, ⟨href, ""⟩, linesTo rest⟩
    let behind := rest.drop n
    if here.length < n then plain
    else match titleBehind? behind with
      | some (title, tail) =>
        if endsLine tail then some ⟨key, ⟨href, title⟩, linesTo tail⟩
        else if title.isEmpty then none
        else if endsLine behind then plain else none
      | none => if endsLine behind then plain else none

end LinkDefinition

end SlideDeck.Markdown
