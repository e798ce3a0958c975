import SlideDeck.Decimal.Nearest
import SlideDeck.Json.Value
import SlideDeck.Layout.Geometry

/-!
Lengths in drawing units, of which an inch has 914400 and a point 12700. What is less than a unit
is cut off.
-/

namespace SlideDeck.Drawing

inductive LengthError where
  | infinite
  | undefined
  | outsideWord (units : Int)
  | outsideRange (units : Int)
deriving DecidableEq, Repr

/-- Longer numbers than this are not shown. -/
def maxShownDigits : Nat := 4300

def LengthError.message : LengthError → String
  | .infinite => "cannot convert float infinity to integer"
  | .undefined => "cannot convert float NaN to integer"
  | .outsideWord n =>
    if n.natAbs < Decimal.tenTo maxShownDigits then
      "value must be in range -2147483648 to 2147483647 inclusive, got " ++ toString n
    else
      "Exceeds the limit (4300 digits) for integer string conversion; " ++
        "use sys.set_int_max_str_digits() to increase the limit"
  | .outsideRange n =>
    "value must be in range 0-20116800 inclusive (0-1584 points), got " ++ toString n

def whole (x : Float) : Except LengthError Int :=
  match Decimal.binary? x with
  | some b => .ok b.truncate
  | none => .error (if x.isNaN then .undefined else .infinite)

def ofInches (x : Float) : Except LengthError Int := whole (x * 914400.0)

def boxOfInches (b : Layout.Box Float) : Except LengthError (Layout.Box Int) := do
  let x ← ofInches b.x
  let y ← ofInches b.y
  let width ← ofInches b.width
  let height ← ofInches b.height
  return ⟨x, y, width, height⟩

/-- A number of points as a length; what is no number is no length. -/
def pointsOption? : Json.Value → Option (Except LengthError Int)
  | .int n => some (.ok (n * 12700))
  | .bool b => some (.ok (if b then 12700 else 0))
  | .float x => some (whole (x * 12700.0))
  | _ => none

/-- A line is at most 1584 points wide. A length has to fit a word before it is compared. -/
def checkLineWidth (n : Int) : Except LengthError Int :=
  if n < -2147483648 || 2147483647 < n then .error (.outsideWord n)
  else if n < 0 || 20116800 < n then .error (.outsideRange n)
  else .ok n

end SlideDeck.Drawing
