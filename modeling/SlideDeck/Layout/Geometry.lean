/-!
The canvas of a slide, in inches: ten by five and five eighths, with the title on top and the
content below it in one column or two. The numbers are generic so that the layout can be computed
in doubles and reasoned about in exact ones.
-/

namespace SlideDeck.Layout

variable {α : Type} [OfScientific α]

structure Box (α : Type) where
  x : α
  y : α
  width : α
  height : α
deriving Repr

/-- A column of content: its left edge, its width and its number. -/
structure Column (α : Type) where
  x : α
  width : α
  number : Int
deriving Repr

def slideHeight : α := 5.625

def titleBox : Box α := ⟨0.5, 0.3, 9.0, 0.75⟩

def contentTop : α := 1.2
def bottomMargin : α := 0.25

/-- A column with no more space than this is full. -/
def minRemaining : α := 0.1

def singleColumn : Column α := ⟨0.5, 9.0, 0⟩
def leftColumn : Column α := ⟨0.5, 4.5, 0⟩
def rightColumn : Column α := ⟨5.2, 4.5, 1⟩

def lineHeight : α := 0.5
def textSpacing : α := 0.1
def pictureHeight : α := 3.0
def pictureSpacing : α := 0.2
def tableHeadHeight : α := 0.5
def tableRowHeight : α := 0.5
def shapeHeight : α := 1.0
def shapeSpacing : α := 0.2

end SlideDeck.Layout
