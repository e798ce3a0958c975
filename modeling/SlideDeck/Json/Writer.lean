import SlideDeck.Decimal.Shortest
import SlideDeck.Json.Value

/-!
Writing JSON without white space. Characters stay as they are, but for quotes, backslashes and
controls; so a text with a surrogate keeps it. A number that is not finite has no strict form.
-/

namespace SlideDeck.Json

open Text (CodePoints)

mutual

/-- Whether all numbers in a value are finite. -/
def isFinite : Value → Bool
  | .float x => x.isFinite
  | .array vs => areFinite vs
  | .object o => membersFinite o
  | _ => true

def areFinite : List Value → Bool
  | [] => true
  | v :: vs => isFinite v && areFinite vs

def membersFinite : List (CodePoints × Value) → Bool
  | [] => true
  | (_, v) :: o => isFinite v && membersFinite o

end

def escapeChar (c : Char) : List Char :=
  if c = '"' || c = '\\' then ['\\', c]
  else if c = '\n' then ['\\', 'n']
  else if c = '\r' then ['\\', 'r']
  else if c = '\t' then ['\\', 't']
  else if c = '\x08' then ['\\', 'b']
  else if c = '\x0c' then ['\\', 'f']
  else if c.toNat < 32 then '\\' :: 'u' :: Text.hexDigits 4 c.toNat
  else [c]

def escaped (s : String) : String := String.ofList (s.toList.flatMap escapeChar)

def writeString (s : CodePoints) : CodePoints :=
  let inner : CodePoints := ⟨escaped s.start, s.rest.map fun (h, t) => (h, escaped t)⟩
  ("\"" : CodePoints) ++ inner ++ ("\"" : CodePoints)

/-- Texts with commas between them. -/
def separated : List CodePoints → CodePoints
  | [] => ""
  | [s] => s
  | s :: ss => s ++ ("," : CodePoints) ++ separated ss

mutual

def write : Value → CodePoints
  | .null => "null"
  | .bool b => if b then "true" else "false"
  | .int i => toString i
  | .float x => Decimal.toText x
  | .string s => writeString s
  | .array vs => ("[" : CodePoints) ++ separated (writeItems vs) ++ ("]" : CodePoints)
  | .object o => ("\x7b" : CodePoints) ++ separated (writeMembers o) ++ ("\x7d" : CodePoints)

def writeItems : List Value → List CodePoints
  | [] => []
  | v :: vs => write v :: writeItems vs

def writeMembers : List (CodePoints × Value) → List CodePoints
  | [] => []
  | (key, v) :: o => (writeString key ++ (":" : CodePoints) ++ write v) :: writeMembers o

end

end SlideDeck.Json
