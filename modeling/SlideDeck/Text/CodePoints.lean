import SlideDeck.Text.Quoted

/-!
Texts with surrogates. A surrogate is no character, but an escape may name one that stands alone. A
text that holds one can be kept and quoted, but it has no form in UTF-8.
-/

namespace SlideDeck.Text

/-- A surrogate, counted from the first one on. -/
abbrev Surrogate := Fin 0x800

def Surrogate.number (h : Surrogate) : Nat := 0xd800 + h.val

/-- A text: the characters in front of its first surrogate, and every surrogate with the characters
behind it. -/
structure CodePoints where
  start : String
  rest : List (Surrogate × String)
deriving DecidableEq, Repr, Inhabited

instance coeCodePoints : Coe String CodePoints := ⟨fun s => ⟨s, []⟩⟩

/-- Surrogates that cannot be written: the place of the first one, and how many stand behind it
before the next character. -/
structure SurrogateFault where
  place : Nat
  first : Surrogate
  more : Nat
deriving DecidableEq, Repr

def SurrogateFault.message (f : SurrogateFault) : String :=
  "'utf-8' codec can't encode " ++
    (if f.more = 0 then
      "character '\\u" ++ String.ofList (hexDigits 4 f.first.number) ++ "' in position " ++
        toString f.place
    else "characters in position " ++ toString f.place ++ "-" ++ toString (f.place + f.more)) ++
    ": surrogates not allowed"

namespace CodePoints

/-- The characters of a text without surrogates. -/
def plain? (s : CodePoints) : Option String := if s.rest.isEmpty then some s.start else none

/-- How many surrogates stand behind a surrogate and the characters that follow it. -/
def following : String → List (Surrogate × String) → Nat
  | _, [] => 0
  | t, (_, t') :: r => if t.isEmpty then following t' r + 1 else 0

/-- The first surrogates, if there are any, in a text with so many characters in front of them. -/
def faultAt? (place : Nat) : List (Surrogate × String) → Option SurrogateFault
  | [] => none
  | (h, t) :: r => some ⟨place, h, following t r⟩

/-- What keeps a text from being written in UTF-8. -/
def fault? (s : CodePoints) : Option SurrogateFault := faultAt? s.start.length s.rest

def characters (s : CodePoints) : List Char :=
  s.start.toList ++ s.rest.flatMap fun (_, t) => t.toList

def quoted (s : CodePoints) : String :=
  let mark := quoteMark s.characters
  let shown (t : String) := t.toList.flatMap (quoteChar mark)
  String.ofList (mark :: shown s.start ++
    (s.rest.flatMap fun (h, t) => '\\' :: 'u' :: hexDigits 4 h.number ++ shown t) ++ [mark])

/-- Puts characters behind a text. -/
def appendFrom (start : String) : List (Surrogate × String) → CodePoints → CodePoints
  | [], t => ⟨start ++ t.start, t.rest⟩
  | (h, s) :: r, t =>
    let joined := appendFrom s r t
    ⟨start, (h, joined.start) :: joined.rest⟩

instance appendCodePoints : Append CodePoints := ⟨fun s t => appendFrom s.start s.rest t⟩

end CodePoints

end SlideDeck.Text
