import SlideDeck.Deck.Slide
import SlideDeck.Json.Reader

/-!
Shapes as an author writes them: a name from a short list, and options that are a JSON object.
-/

namespace SlideDeck.Deck

/-- What is wrong with the text of a shape. -/
inductive ShapeError where
  | unknownName (name : String)
  | badOptions (options : String) (fault : Json.Fault) (left : Nat)
  | noObject (typeName : String)
deriving DecidableEq, Repr

def ShapeError.message : ShapeError → String
  | .unknownName name => "Invalid shape name: " ++ name
  | .badOptions options fault left =>
    "Invalid shape options: " ++ (Json.Failure.fault fault left).message options.toList
  | .noObject typeName => "Shape options must be an object, got " ++ typeName

/-- A whole number in the options of a shape has more digits than are read. -/
structure LongNumber where
  digits : Nat
deriving DecidableEq, Repr

def LongNumber.message (n : LongNumber) : String := (Json.Failure.longNumber n.digits).message []

def shapeKind? (name : String) : Option ShapeKind :=
  match name with
  | "rect" => some .rectangle
  | "oval" => some .oval
  | "ellipse" => some .ellipse
  | "line" => some .line
  | "triangle" => some .triangle
  | _ => none

/-- Reads a shape: the shape, or what is wrong with its text. The name is looked at first. -/
def parseShape (name options : String) : Except LongNumber (Except ShapeError Shape) :=
  match shapeKind? name with
  | none => .ok (.error (.unknownName name))
  | some kind =>
    match Json.parse options.toList with
    | .ok (.object o) => .ok (.ok ⟨kind, o⟩)
    | .ok v => .ok (.error (.noObject v.typeName))
    | .error (.fault fault left) => .ok (.error (.badOptions options fault left))
    | .error (.longNumber digits) => .error ⟨digits⟩

end SlideDeck.Deck
