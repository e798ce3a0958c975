import SlideDeck.Drawing.Presentation

/-!
Descriptions of presentations: a line for each slide, and below it a line for each figure with its
place, its size and its text.
-/

namespace SlideDeck.Drawing

def describeBox (b : Layout.Box Int) : String :=
  String.intercalate " " ([b.x, b.y, b.width, b.height].map toString)

def describeText (ps : List Paragraph) : String := Text.quoted (notesText ps)

def describeFigure : Figure → String
  | .textBox b ps => "text " ++ describeBox b ++ " " ++ describeText ps
  | .placeholder _ b ps => "placeholder " ++ describeBox b ++ " " ++ describeText ps
  | .shape _ b _ _ ps => "shape " ++ describeBox b ++ " " ++ describeText ps
  | .connector b _ => "line " ++ describeBox b
  | .table b rows =>
    let cells := rows.map fun r => String.intercalate ", " (r.map describeText)
    "table " ++ describeBox b ++ " " ++ String.intercalate "; " cells
  | .picture b octets =>
    "picture " ++ describeBox b ++ " of " ++ toString octets.length ++ " octets"

def describeSlide (s : DrawnSlide) : List String :=
  ("slide " ++ Text.quoted s.layout) :: s.figures.map (fun f => "  " ++ describeFigure f) ++
    s.notes.toList.map fun ps => "  notes " ++ describeText ps

def describe (p : Presentation) : String :=
  String.join (("page " ++ toString p.width ++ " " ++ toString p.height ++ "\n") ::
    (p.slides.flatMap describeSlide).map (· ++ "\n"))

end SlideDeck.Drawing
