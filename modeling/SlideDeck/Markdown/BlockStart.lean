import SlideDeck.Decimal.Nearest
import SlideDeck.Markdown.HtmlTag
import SlideDeck.Markdown.Line

/-!
What a line can open inside its container, and which of these end a paragraph, quote or list that
the line would otherwise continue.
-/

namespace SlideDeck.Markdown

/-- The lines around the place that is read. `margin` is the column where the container's content
starts, `listMargin` that of the container around its list. -/
structure Region where
  lines : Array Line
  margin : Int
  listMargin : Option Int

namespace Region

def line? (r : Region) (i : Nat) : Option Line := r.lines[i]?

/-- Beyond the last line everything is empty. -/
def isEmpty (r : Region) (i : Nat) : Bool := (r.line? i).all Line.isEmpty

def isOutdented (r : Region) (l : Line) : Bool := l.indent < r.margin

def isCode (r : Region) (l : Line) : Bool := 4 ≤ l.indent - r.margin

/-- The first line from `i` on that is not empty. -/
def skipEmpty (r : Region) (i : Nat) : Nat :=
  if h : i < r.lines.size then
    if r.lines[i].isEmpty then r.skipEmpty (i + 1) else i
  else i
termination_by r.lines.size - i

end Region

structure FenceMark where
  symbol : Char
  length : Nat

def fenceMark? (body : List Char) : Option FenceMark :=
  match body with
  | c :: _ =>
    let n := (body.takeWhile (· == c)).length
    if (c = '~' || c = '\x60') && 3 ≤ n && !(c = '\x60' && (body.drop n).contains c) then
      some ⟨c, n⟩
    else none
  | [] => none

def FenceMark.closedBy (f : FenceMark) (body : List Char) : Bool :=
  let n := (body.takeWhile (· == f.symbol)).length
  0 < n && f.length ≤ n && (body.drop n).all isTabOrSpace

def isRule (body : List Char) : Bool :=
  match body with
  | c :: _ => (c = '*' || c = '-' || c = '_') && body.all (fun d => d == c || isTabOrSpace d) &&
      3 ≤ body.count c
  | [] => false

/-- The depth and the text of a heading line; closing number signs are no part of the text. -/
def headingText? (body : List Char) : Option (Nat × List Char) :=
  let depth := (body.takeWhile (· == '#')).length
  let rest := body.drop depth
  if depth = 0 || 6 < depth || !(rest.head?.all isTabOrSpace) then none
  else
    let text := Text.dropEndWhile isTabOrSpace rest
    let cut := Text.dropEndWhile (· == '#') text
    some (depth, Text.trimSpacing (if cut.getLast?.any isTabOrSpace then cut else text))

/-- The depth of the heading that a line of `=` or `-` makes of the lines above it. -/
def underlineDepth? (body : List Char) : Option Nat :=
  match body with
  | c :: _ =>
    if (c = '=' || c = '-') && (body.dropWhile (· == c)).all isTabOrSpace then
      some (if c = '=' then 1 else 2)
    else none
  | [] => none

/-- The marker of a list item: the number of an ordered list, the mark behind it, and the width. -/
structure ListMarker where
  number : Option Nat
  symbol : Char
  width : Nat
deriving DecidableEq

def ListMarker.isOrdered (m : ListMarker) : Bool := m.number.isSome

def listMarker? (body : List Char) : Option ListMarker :=
  let digits := body.takeWhile Char.isDigit
  match body.drop digits.length with
  | c :: s =>
    if !(s.head?.all isTabOrSpace) then none
    else if digits.isEmpty then
      if c = '*' || c = '-' || c = '+' then some ⟨none, c, 1⟩ else none
    else if digits.length ≤ 9 && (c = ')' || c = '.') then
      some ⟨some (Decimal.ofDigits digits), c, digits.length + 1⟩
    else none
  | [] => none

namespace Region

def fence? (r : Region) (l : Line) : Option FenceMark :=
  if r.isCode l then none else fenceMark? l.body

def quotes (r : Region) (l : Line) : Bool := !r.isCode l && l.body.head? = some '>'

def rules (r : Region) (l : Line) : Bool := !r.isCode l && isRule l.body

/-- The list marker on a line. A line that is indented far beyond its list but not as far as its
item's content continues a paragraph. Only an item that is not empty, and starts at one if it is
numbered, may end a paragraph. -/
def marker? (r : Region) (l : Line) (endsParagraph : Bool) : Option ListMarker :=
  if r.isCode l then none
  else if (r.listMargin.any fun c => 4 ≤ l.indent - c) && r.isOutdented l then none
  else
    (listMarker? l.body).filter fun m =>
      !(endsParagraph && !r.isOutdented l) ||
        ((m.number.all (· == 1)) && !(l.body.drop m.width).all isTabOrSpace)

def html? (r : Region) (l : Line) : Option Html.Block :=
  if r.isCode l then none else Html.Block.of? l.body

def heading? (r : Region) (l : Line) : Option (Nat × List Char) :=
  if r.isCode l then none else headingText? l.body

/-- Whether a line ends a list that it could continue. -/
def endsList (r : Region) (l : Line) : Bool := (r.fence? l).isSome || r.quotes l || r.rules l

/-- Whether a line ends a quote or table that it could continue. -/
def endsQuote (r : Region) (l : Line) (inParagraph : Bool) : Bool :=
  r.endsList l || (r.marker? l inParagraph).isSome || (r.html? l).any Html.Block.interrupts ||
    (r.heading? l).isSome

end Region

end SlideDeck.Markdown
