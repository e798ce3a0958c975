import SlideDeck.Drawing.Color
import SlideDeck.Drawing.Template

/-!
What stands on a drawn slide: figures, each in its box, and at will notes for the speaker.
-/

namespace SlideDeck.Drawing

open Deck Layout

inductive Outline where
  | rectangle
  | ellipse
  | triangle
deriving DecidableEq, Repr, Inhabited

/-- The line of a shape as far as it was set. A width of zero is no width. -/
structure LineStyle where
  color : Option Color
  width : Option Int
deriving DecidableEq, Repr

inductive Figure where
  | textBox (box : Box Int) (paragraphs : List Paragraph)
  | placeholder (kind : PlaceholderKind) (box : Box Int) (paragraphs : List Paragraph)
  | shape (outline : Outline) (box : Box Int) (fill : Option Color) (line : Option LineStyle)
      (paragraphs : List Paragraph)
  | connector (box : Box Int) (line : Option LineStyle)
  | table (box : Box Int) (rows : List (List (List Paragraph)))
  | picture (box : Box Int) (octets : List UInt8)

structure DrawnSlide where
  layout : String
  notes : Option (List Paragraph)
  figures : List Figure

def Figure.links : Figure → List Hyperlink
  | .textBox _ ps => paragraphLinks ps
  | _ => []

/-- Notes as text: a line for each paragraph. -/
def notesText (ps : List Paragraph) : String := String.intercalate "\n" (ps.map Paragraph.text)

end SlideDeck.Drawing
