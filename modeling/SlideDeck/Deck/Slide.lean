import SlideDeck.Deck.Run
import SlideDeck.Json.Value

/-!
Slides and the elements on them.
-/

namespace SlideDeck.Deck

inductive ShapeKind where
  | rectangle
  | oval
  | ellipse
  | line
  | triangle
deriving DecidableEq, Repr, Inhabited

/-- The options of a shape are kept as the author wrote them. -/
structure Shape where
  kind : ShapeKind
  options : Json.Object
deriving Inhabited

structure Table where
  header : List String
  rows : List (List String)
deriving DecidableEq, Repr, Inhabited

structure Picture where
  href : String
  alt : String
deriving DecidableEq, Repr, Inhabited

inductive Element where
  | textBlock (runs : List Run)
  | picture (p : Picture)
  | table (t : Table)
  | shape (s : Shape)
  | columnBreak
deriving Inhabited

structure Slide where
  title : String
  elements : List Element := []
  notes : Option String := none
deriving Inhabited

/-- The number of lines of a text block. -/
def lineCount (runs : List Run) : Nat := 1 + runs.countP fun r => r.style.breaksLine

end SlideDeck.Deck
