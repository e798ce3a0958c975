import SlideDeck.Markdown.CharacterReference
import SlideDeck.Markdown.Inline
import SlideDeck.Text.Blank
import SlideDeck.Text.Case
import SlideDeck.Url.Address

/-!
The parts of a link: where it points, its title, and the labels by which links refer to
definitions elsewhere in the document. Each reader takes the text from its place on and returns
what it read with the number of characters it took.
-/

namespace SlideDeck.Markdown

def isTabOrSpace (c : Char) : Bool := c == ' ' || c == '\t'

/-- Reads up to the closing `>` of a destination in angle brackets. -/
def bracketed? : List Char → Option (List Char × Nat)
  | [] => none
  | '\n' :: _ | '<' :: _ => none
  | '>' :: _ => some ([], 1)
  | '\\' :: c :: s => (bracketed? s).map fun (d, n) => ('\\' :: c :: d, n + 2)
  | c :: s => (bracketed? s).map fun (d, n) => (c :: d, n + 1)

/-- Reads a bare destination: up to white space, a control character or a closing parenthesis
without a partner. Parentheses may nest 32 deep. -/
def bare? : (depth : Nat) → List Char → Option (List Char)
  | 0, [] => some []
  | _ + 1, [] => none
  | depth, '\\' :: c :: s =>
    if c = ' ' then (if depth = 0 then some [] else none)
    else (bare? depth s).map fun d => '\\' :: c :: d
  | depth, '(' :: s => if 32 ≤ depth then none else (bare? (depth + 1) s).map ('(' :: ·)
  | 0, ')' :: _ => some []
  | depth + 1, ')' :: s => (bare? depth s).map (')' :: ·)
  | depth, c :: s =>
    if c.toNat ≤ 32 || c.toNat = 127 then (if depth = 0 then some [] else none)
    else (bare? depth s).map (c :: ·)

/-- The destination at the start of a text, not yet in normal form. -/
def destination? : List Char → Option (List Char × Nat)
  | '<' :: s => (bracketed? s).map fun (d, n) => (unescape d, n + 1)
  | s => (bare? 0 s).bind fun d => if d.isEmpty then none else some (unescape d, d.length)

/-- Reads up to the closing mark of a title. -/
def titleBody? (close : Char) : List Char → Option (List Char)
  | [] => none
  | '\\' :: c :: s => (titleBody? close s).map fun t => '\\' :: c :: t
  | c :: s =>
    if c = close then some []
    else if c = '(' && close = ')' then none
    else (titleBody? close s).map (c :: ·)

/-- The title at the start of a text, in quotes of either kind or in parentheses. -/
def title? : List Char → Option (String × Nat)
  | c :: s =>
    let close? := if c = '"' || c = '\'' then some c else if c = '(' then some ')' else none
    close?.bind fun close =>
      (titleBody? close s).map fun t => (String.ofList (unescape t), t.length + 2)
  | [] => none

/-- Runs of white space become one space each. -/
def collapseBlanks : List Char → List Char
  | [] => []
  | c :: s =>
    if Text.isBlank c then
      match collapseBlanks s with
      | ' ' :: t => ' ' :: t
      | t => ' ' :: t
    else c :: collapseBlanks s

/-- The form of a label by which definitions are found: letter case and the amount of white space
do not matter. -/
def labelKey (label : List Char) : String :=
  String.ofList (Text.upper (Text.lower (collapseBlanks (Text.trim label))))

/-- The definitions of a document by the keys of their labels; the first of a key counts. -/
structure Definitions where
  entries : List (String × Target)
deriving Inhabited

namespace Definitions

def empty : Definitions := ⟨[]⟩

def isEmpty (d : Definitions) : Bool := d.entries.isEmpty

def find? (d : Definitions) (label : List Char) : Option Target := d.entries.lookup (labelKey label)

def insert (d : Definitions) (key : String) (t : Target) : Definitions :=
  if (d.entries.lookup key).isSome then d else ⟨d.entries ++ [(key, t)]⟩

end Definitions

end SlideDeck.Markdown
