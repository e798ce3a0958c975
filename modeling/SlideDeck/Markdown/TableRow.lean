import SlideDeck.Markdown.BlockStart

/-!
Tables: a row of cells, a row of hyphens below it that has as many columns, and the rows of the
body, which are cut or filled up to that number.
-/

namespace SlideDeck.Markdown

/-- The cells of a row. A backslash before a bar keeps the bar in its cell and goes itself. -/
def splitCells : (cell : List Char) → List Char → List (List Char)
  | cell, [] => [cell.reverse]
  | '\\' :: cell, '|' :: s => splitCells ('|' :: cell) s
  | cell, '|' :: s => cell.reverse :: splitCells [] s
  | cell, c :: s => splitCells (c :: cell) s

/-- The cells of a line; bars at its ends enclose no cells. -/
def cellsOf (body : List Char) : List (List Char) :=
  let cells := splitCells [] (Text.trimSpacing body)
  let cells := if cells.head? = some [] then cells.drop 1 else cells
  if cells.getLast? = some [] then cells.dropLast else cells

/-- One column of the row below the header: hyphens, with a colon at an aligned end. -/
def isColumnRule (s : List Char) : Bool :=
  let s := if s.head? = some ':' then s.drop 1 else s
  let s := if s.getLast? = some ':' then s.dropLast else s
  !s.isEmpty && s.all (· == '-')

/-- The number of columns in the row below a header. -/
def columnCount? (body : List Char) : Option Nat :=
  match body with
  | a :: b :: _ =>
    if (a = '|' || a = '-' || a = ':') && !(a = '-' && isTabOrSpace b) &&
        body.all (fun c => c == '|' || c == '-' || c == ':' || isTabOrSpace c) then
      let columns := (Text.splitOn '|' body).map Text.trimSpacing
      let inner := if columns.head? = some [] then columns.drop 1 else columns
      let inner := if inner.getLast? = some [] then inner.dropLast else inner
      if inner.all isColumnRule then some inner.length else none
    else none
  | _ => none

namespace Region

/-- The header of a table that starts on line `i`, given where the container ends. -/
def tableHeader? (r : Region) (i stop : Nat) : Option (List (List Char)) := do
  if stop < i + 2 then none
  let below ← r.line? (i + 1)
  if r.isOutdented below || r.isCode below then none
  let count ← columnCount? below.body
  let head ← r.line? i
  if !(Text.trimSpacing head.body).contains '|' || r.isCode head then none
  let cells := cellsOf head.body
  if cells.length = 0 || cells.length ≠ count then none
  return cells.map Text.trim

/-- Whether a line ends a paragraph that it could continue. -/
def endsParagraph (r : Region) (i stop : Nat) (inParagraph : Bool) : Bool :=
  (r.tableHeader? i stop).isSome || (r.line? i).any fun l => r.endsQuote l inParagraph

/-- The most cells that rows shorter than the header may lack together. -/
def maxFilledCells : Int := 65536

/-- The rows of a table from line `i` on, and the line behind them. -/
def tableRows (r : Region) (columns stop : Nat) :
    Nat → (i : Nat) → (filled : Int) → List (List (List Char)) × Nat
  | 0, i, _ => ([], i)
  | fuel + 1, i, filled =>
    match r.line? i with
    | none => ([], i)
    | some l =>
      if stop ≤ i || r.isOutdented l || r.endsQuote l false || (Text.trimSpacing l.body).isEmpty ||
          r.isCode l then ([], i)
      else
        let cells := cellsOf l.body
        let filled := filled + columns - cells.length
        if maxFilledCells < filled then ([], i)
        else
          let row := (List.range columns).map fun c => Text.trim (cells.getD c [])
          let (rows, next) := r.tableRows columns stop fuel (i + 1) filled
          (row :: rows, next)

end Region

end SlideDeck.Markdown
