import SlideDeck.Json.Writer
import SlideDeck.Layout.Flow

/-!
Placed slides as JSON values: one object for each, with its elements, their runs and their boxes. An
answer leaves out the options of a shape whose keys start with `_sa`.
-/

namespace SlideDeck.Layout

open Deck
open Text (CodePoints)

def isLeftOut (key : CodePoints) : Bool := ['_', 's', 'a'].isPrefixOf key.start.toList

mutual

/-- What is answered of a value. -/
def answered : Json.Value → Json.Value
  | .array vs => .array (answeredItems vs)
  | .object o => .object (answeredMembers o)
  | v => v

def answeredItems : List Json.Value → List Json.Value
  | [] => []
  | v :: vs => answered v :: answeredItems vs

def answeredMembers : List (CodePoints × Json.Value) → List (CodePoints × Json.Value)
  | [] => []
  | (key, v) :: o =>
    if isLeftOut key then answeredMembers o else (key, answered v) :: answeredMembers o

end

def answeredElement : Element → Element
  | .shape s => .shape { s with options := answeredMembers s.options }
  | e => e

def answeredSlide (s : PlacedSlide Float) : PlacedSlide Float :=
  { s with elements := s.elements.map fun p => { p with element := answeredElement p.element } }

def optionalText (s : Option String) : Json.Value :=
  match s with
  | some s => .string s
  | none => .null

def textValues (ss : List String) : Json.Value := .array (ss.map fun s : String => .string s)

def linkValue (l : Option Hyperlink) : Json.Value :=
  match l with
  | some l => .object [("url", .string l.url), ("tooltip", .string l.tooltip)]
  | none => .null

def runValue (r : Run) : Json.Value :=
  .object [("text", .string r.text),
    ("style", .object [("bold", .bool r.style.bold), ("italic", .bool r.style.italic),
      ("monospace", .bool r.style.monospace), ("hyperlink", linkValue r.style.hyperlink),
      ("is_bullet", .bool r.style.isBullet), ("breaks_line", .bool r.style.breaksLine)])]

def kindName : ShapeKind → String
  | .rectangle => "rectangle"
  | .oval => "oval"
  | .ellipse => "ellipse"
  | .line => "line"
  | .triangle => "triangle"

def elementValue : Element → Json.Value
  | .textBlock runs =>
    .object [("type", .string "text_block"), ("runs", .array (runs.map runValue))]
  | .picture p =>
    .object [("type", .string "image"), ("href", .string p.href), ("alt", .string p.alt)]
  | .table t =>
    .object [("type", .string "table"), ("headers", textValues t.header),
      ("rows", .array (t.rows.map textValues))]
  | .shape s =>
    .object [("type", .string "shape"), ("kind", .string (kindName s.kind)),
      ("options", .object s.options)]
  | .columnBreak => .object [("type", .string "column_break")]

def boxMembers (b : Box Float) : Json.Object :=
  [("x", .float b.x), ("y", .float b.y), ("width", .float b.width), ("height", .float b.height)]

def placedValue (p : Placed Float) : Json.Value :=
  .object (("element", elementValue p.element) ::
    (boxMembers p.box ++ ([("column", .int p.column)] : Json.Object)))

def slideValue (s : PlacedSlide Float) : Json.Value :=
  .object [("title", .string s.title), ("title_box", .object (boxMembers titleBox)),
    ("notes", optionalText s.notes), ("elements", .array (s.elements.map placedValue))]

/-- The answer of the service to a request for an outline. -/
def outlineValue (slides : List (PlacedSlide Float)) (diagnostics : List String) : Json.Value :=
  .object [("slides", .array (slides.map slideValue)), ("diagnostics", textValues diagnostics)]

end SlideDeck.Layout
