import SlideDeck.Text.CodePoints

/-!
JSON values as the options of a shape hold them. Whole numbers are exact, and strings may hold
surrogates that stand alone; an object keeps its members in the order in which their keys first
appeared.
-/

namespace SlideDeck.Json

open Text (CodePoints)

inductive Value where
  | null
  | bool (b : Bool)
  | int (i : Int)
  | float (x : Float)
  | string (s : CodePoints)
  | array (items : List Value)
  | object (members : List (CodePoints × Value))
deriving Inhabited

abbrev Object := List (CodePoints × Value)

/-- Sets a member: a key that is there keeps its place and takes the new value. -/
def Object.set (key : CodePoints) (v : Value) : Object → Object
  | [] => [(key, v)]
  | (k, w) :: o => if k = key then (k, v) :: o else (k, w) :: Object.set key v o

def Object.get? (o : Object) (key : CodePoints) : Option Value := o.lookup key

/-- The name of a value's type in messages. -/
def Value.typeName : Value → String
  | .null => "NoneType"
  | .bool _ => "bool"
  | .int _ => "int"
  | .float _ => "float"
  | .string _ => "str"
  | .array _ => "list"
  | .object _ => "dict"

end SlideDeck.Json
