import SlideDeck.Markdown.LinkText
import SlideDeck.Text.Lines

/-!
Lines as the block structure sees them: indentation in columns, with tab stops every four, and
the marks of quotes and lists that have been read off.
-/

namespace SlideDeck.Markdown

/-- A line inside its containers. `lead` is what stands before the content: white space and, on
the first line of a list item, the marker. `indent` is the column of the content, counted from
where the innermost quote starts and negative where the line continues a paragraph lazily.
`origin` shifts the tab stops of a line that lost a quote mark. -/
structure Line where
  lead : List Char
  body : List Char
  indent : Int
  origin : Int
deriving Repr, Inhabited

/-- The column behind a character. -/
def advance (origin column : Int) (c : Char) : Int :=
  if c = '\t' then column + 4 - (column + origin) % 4 else column + 1

/-- The column behind a text. -/
def columnAfter (origin column : Int) (s : List Char) : Int := s.foldl (advance origin) column

namespace Line

def ofText (s : List Char) : Line :=
  let lead := s.takeWhile isTabOrSpace
  ⟨lead, s.dropWhile isTabOrSpace, columnAfter 0 0 lead, 0⟩

def isEmpty (l : Line) : Bool := l.body.isEmpty

/-- The line without its quote mark and one column of white space behind it. A tab that is wider
than one column stays and counts as narrower. -/
def unquote? (l : Line) : Option Line :=
  match l.body with
  | '>' :: s =>
    let column := l.indent + 1
    let (start, origin, spaced, s) := match s with
      | ' ' :: r => (column + 1, l.origin, true, r)
      | '\t' :: r =>
        if (l.origin + column) % 4 = 3 then (column + 1, l.origin, true, r)
        else (column, l.origin + 1, true, s)
      | _ => (column, l.origin, false, s)
    let lead := s.takeWhile isTabOrSpace
    some ⟨lead, s.dropWhile isTabOrSpace, columnAfter origin start lead - start,
      column + (if spaced then 1 else 0)⟩
  | _ => none

/-- A line that continues a paragraph although its container is not marked on it. -/
def lazily (l : Line) : Line := { l with indent := -1 }

/-- Cuts white space up to a column; a tab across that column becomes spaces. -/
def cutLead (origin column limit : Int) : List Char → List Char
  | [] => []
  | c :: s =>
    if column < limit then
      let next := advance origin column c
      if limit < next then List.replicate (next - limit).toNat ' ' ++ s
      else cutLead origin next limit s
    else c :: s

/-- The text of the line from a column on. -/
def textFrom (l : Line) (column : Int) : List Char := cutLead l.origin 0 column l.lead ++ l.body

end Line

/-- The lines of a document. A last line of white space alone does not count. -/
def linesOf (s : List Char) : List Line :=
  let parts := Text.splitOn '\n' s
  let parts := if (parts.getLast?.getD []).all isTabOrSpace then parts.dropLast else parts
  parts.map Line.ofText

/-- A document with one kind of line end and without NUL. -/
def normalize : List Char → List Char
  | [] => []
  | '\r' :: '\n' :: s => '\n' :: normalize s
  | c :: s => (if c = '\r' then '\n' else if c = '\x00' then '\ufffd' else c) :: normalize s

end SlideDeck.Markdown
