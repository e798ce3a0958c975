import SlideDeck.Json.Value
import SlideDeck.Notice
import SlideDeck.Text.Blank
import SlideDeck.Text.Case
import SlideDeck.Text.Digit
import SlideDeck.Text.Lines

/-!
Colors as an author writes them: red, green and blue in hexadecimal, two digits each. The three
numbers are read leniently, so that white space, a sign, a mark `0x` and single underscores between
digits pass.
-/

namespace SlideDeck.Drawing

structure Color where
  red : UInt8
  green : UInt8
  blue : UInt8
deriving DecidableEq, Repr, Inhabited

/-- Six digits in upper case. -/
def Color.text (c : Color) : String :=
  let digits := [c.red, c.green, c.blue].flatMap fun n => Text.hexDigits 2 n.toNat
  String.ofList (digits.map Char.toUpper)

/-- A character of a number in ASCII: white space outside ASCII is a space, and a digit of any
script is itself. -/
def plainCharacter? (c : Char) : Option Char :=
  if c.toNat < 0x80 then some c
  else if Text.isBlank c then some ' '
  else (Text.decimalDigit? c).map fun n => Char.ofNat (48 + n)

def isAsciiSpace (c : Char) : Bool := (9 ≤ c.toNat && c.toNat ≤ 13) || c = ' '

/-- The number that hexadecimal digits stand for, with single underscores between them. -/
def digits? (s : List Char) : Option Nat :=
  let groups := Text.splitOn '_' s
  if groups.any List.isEmpty then none
  else groups.flatten.foldlM (fun n c => (Text.hexValue? c).map (16 * n + ·)) 0

/-- A number behind its sign. -/
def unsigned? : List Char → Option Nat
  | '0' :: x :: s =>
    if x = 'x' || x = 'X' then
      match s with
      | '_' :: r => digits? r
      | _ => digits? s
    else digits? ('0' :: x :: s)
  | s => digits? s

def number? (s : List Char) : Option Int := do
  let s ← s.mapM plainCharacter?
  match Text.dropEndWhile isAsciiSpace (s.dropWhile isAsciiSpace) with
  | '-' :: r => (unsigned? r).map fun n => -(n : Int)
  | '+' :: r => (unsigned? r).map fun n => (n : Int)
  | r => (unsigned? r).map fun n => (n : Int)

def component? (s : List Char) : Option UInt8 :=
  match number? s with
  | some n => if 0 ≤ n && n ≤ 255 then some n.toNat.toUInt8 else none
  | none => none

/-- The color of a text of three numbers: the first two characters, the next two and all others. -/
def Color.ofDigits? (s : List Char) : Option Color := do
  let red ← component? (s.take 2)
  let green ← component? ((s.drop 2).take 2)
  let blue ← component? (s.drop 4)
  return ⟨red, green, blue⟩

/-- Number signs in front do not count, nor does letter case. -/
def Color.ofText? (s : String) : Option Color :=
  ofDigits? (Text.upper (s.toList.dropWhile (· == '#')))

/-- The color that a text names. A surrogate is no part of a number. -/
def Color.named? (s : Text.CodePoints) : Option Color := s.plain?.bind ofText?

/-- The text that names a color: a string, or the color of an object. -/
def colorText? : Json.Value → Option Text.CodePoints
  | .string s => some s
  | .object o =>
    match Json.Object.get? o "color" with
    | some (.string s) => some s
    | _ => none
  | _ => none

/-- The color that an option asks for. A text that names none is reported. -/
def colorOption {ε : Type} (v : Json.Value) : Logged ε (Option Color) :=
  match colorText? v with
  | none => pure none
  | some s =>
    match Color.named? s with
    | some c => pure (some c)
    | none => do
      Logged.give (.invalidColor s)
      return none

end SlideDeck.Drawing
