/-!
Cutting a text into lines. `lines` ends a line at every line boundary that Unicode knows, a
carriage return with a line feed counting once; a boundary at the end opens no further line.
-/

namespace SlideDeck.Text

def isLineEnd (c : Char) : Bool :=
  let n := c.toNat
  (10 ≤ n && n ≤ 13) || (28 ≤ n && n ≤ 30) || n == 0x85 || n == 0x2028 || n == 0x2029

/-- The first argument holds the characters of the line being read, last first; `none` before a
line starts. -/
def linesFrom : Option (List Char) → List Char → List (List Char)
  | none, [] => []
  | some l, [] => [l.reverse]
  | l, '\r' :: '\n' :: s => (l.getD []).reverse :: linesFrom none s
  | l, c :: s =>
    if isLineEnd c then (l.getD []).reverse :: linesFrom none s
    else linesFrom (some (c :: l.getD [])) s

def lines (s : List Char) : List (List Char) := linesFrom none s

/-- The pieces of a list between the members that equal `sep`; there is always at least one. -/
def splitOn [BEq α] (sep : α) : List α → List (List α)
  | [] => [[]]
  | c :: s =>
    if c == sep then [] :: splitOn sep s
    else match splitOn sep s with
      | [] => [[c]]
      | p :: ps => (c :: p) :: ps

/-- Puts `sep` between the members of a list and concatenates. -/
def joinWith (sep : List α) : List (List α) → List α
  | [] => []
  | [l] => l
  | l :: ls => l ++ sep ++ joinWith sep ls

end SlideDeck.Text
