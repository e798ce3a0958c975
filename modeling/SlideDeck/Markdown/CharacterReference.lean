import SlideDeck.Markdown.NamedCharacter
import SlideDeck.Text.Digit
import SlideDeck.Text.Octets
import SlideDeck.Text.Punctuation

/-!
Characters written by name or number (`&copy;`, `&#169;`, `&#xA9;`) and backslash escapes.
-/

namespace SlideDeck.Markdown

/-- Whether a number stands for a character that may be written by number: no surrogate, no
control except white space, no code point that is set aside forever. -/
def isReferable (n : Nat) : Bool :=
  n.isValidChar && !(0xfdd0 ≤ n && n ≤ 0xfdef) && n % 0x10000 < 0xfffe && !(n ≤ 8) && n != 0xb &&
    !(0xe ≤ n && n ≤ 0x1f) && !(0x7f ≤ n && n ≤ 0x9f)

/-- The number that digits in the given base stand for; none without digits or beyond `most`. -/
def numberIn? (base most : Nat) (s : List Char) : Option Nat :=
  if s.isEmpty || most < s.length then none
  else s.foldlM (fun n c => do
    let d ← Text.hexValue? c
    if d < base then some (base * n + d) else none) 0

/-- The number in `#169` or `#xA9`, with at most `dec` decimal or `hex` hexadecimal digits. -/
def codePoint? (dec hex : Nat) : List Char → Option Nat
  | '#' :: 'x' :: s | '#' :: 'X' :: s => numberIn? 16 hex s
  | '#' :: s => numberIn? 10 dec s
  | _ => none

/-- The body of a reference, between `&` and `;`: at least two characters, at most 32. -/
def referenceBody? (s : List Char) : Option (List Char) :=
  let body := (s.take 33).takeWhile fun c => c.isAlphanum || c == '#'
  match s.drop body.length, body with
  | ';' :: _, c :: r => if 1 ≤ r.length && body.length ≤ 32 && !r.contains '#' &&
      !c.isDigit then some body else none
  | _, _ => none

/-- The character reference at the start of a text, after its `&`: what it stands for and how many
characters it takes with the semicolon. A number that stands for no character gives the
replacement character. -/
def reference? (s : List Char) : Option (String × Nat) := do
  let body ← referenceBody? s
  match body with
  | '#' :: _ =>
    let n ← codePoint? 7 6 body
    let c := if isReferable n then Char.ofNat n else Text.replacement
    return (String.ofList [c], body.length + 1)
  | _ =>
    let text ← namedCharacter? (String.ofList body)
    return (text, body.length + 1)

/-- What a reference in an address or title stands for; a bad number leaves it as it is. -/
def referenceText (body : List Char) : List Char :=
  match namedCharacter? (String.ofList body) with
  | some text => text.toList
  | none =>
    match codePoint? 8 8 body with
    | some n => if isReferable n then [Char.ofNat n] else '&' :: body ++ [';']
    | none => '&' :: body ++ [';']

/-- An address or title with its escapes and references replaced; the first argument bounds the
number of steps. -/
def unescapeSteps : Nat → List Char → List Char
  | 0, s => s
  | _, [] => []
  | fuel + 1, '\\' :: c :: s =>
    if Text.isAsciiMark c then c :: unescapeSteps fuel s
    else '\\' :: unescapeSteps fuel (c :: s)
  | fuel + 1, '&' :: s =>
    match referenceBody? s with
    | some body => referenceText body ++ unescapeSteps fuel (s.drop (body.length + 1))
    | none => '&' :: unescapeSteps fuel s
  | fuel + 1, c :: s => c :: unescapeSteps fuel s

def unescape (s : List Char) : List Char := unescapeSteps s.length s

end SlideDeck.Markdown
