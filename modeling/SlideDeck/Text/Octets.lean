import SlideDeck.Text.Quoted

/-!
Texts as octets in UTF-8. `ofOctets` reads a text and refuses what is no UTF-8, naming the place
and the kind of the fault.
-/

namespace SlideDeck.Text

/-- What stands for octets that are no text. -/
def replacement : Char := '\ufffd'

/-- The octets of a character. -/
def octets (c : Char) : List Nat :=
  let n := c.toNat
  if n < 0x80 then [n]
  else if n < 0x800 then [0xc0 + n / 64, 0x80 + n % 64]
  else if n < 0x10000 then [0xe0 + n / 4096, 0x80 + n / 64 % 64, 0x80 + n % 64]
  else [0xf0 + n / 262144, 0x80 + n / 4096 % 64, 0x80 + n / 64 % 64, 0x80 + n % 64]

def isContinuation (n : Nat) : Bool := n / 64 == 2

/-- What the first octet of a character tells: its share of the number of the character, how many
octets follow, and the bounds of the next one. Overlong forms, surrogates and numbers beyond the
last character are ruled out by the bounds. -/
structure Lead where
  share : Nat
  following : Nat
  low : Nat := 0x80
  high : Nat := 0xbf

def lead? (a : Nat) : Option Lead :=
  if a < 0x80 then some { share := a, following := 0 }
  else if a < 0xc2 then none
  else if a < 0xe0 then some { share := a - 0xc0, following := 1 }
  else if a = 0xe0 then some { share := 0, following := 2, low := 0xa0 }
  else if a = 0xed then some { share := 13, following := 2, high := 0x9f }
  else if a < 0xf0 then some { share := a - 0xe0, following := 2 }
  else if a = 0xf0 then some { share := 0, following := 3, low := 0x90 }
  else if a < 0xf4 then some { share := a - 0xf0, following := 3 }
  else if a = 0xf4 then some { share := 4, following := 3, high := 0x8f }
  else none

/-- The octets that follow the first one of a character, as far as they may. -/
def followers (l : Lead) : List Nat → List Nat
  | [] => []
  | b :: ns =>
    if 0 < l.following && l.low ≤ b && b ≤ l.high then
      b :: (ns.take (l.following - 1)).takeWhile isContinuation
    else []

inductive OctetFaultKind where
  | badStart
  | badContinuation
  | unexpectedEnd
deriving DecidableEq, Repr

def OctetFaultKind.text : OctetFaultKind → String
  | .badStart => "invalid start byte"
  | .badContinuation => "invalid continuation byte"
  | .unexpectedEnd => "unexpected end of data"

/-- A run of octets that are no character: the first of them, its position and their number. -/
structure OctetFault where
  kind : OctetFaultKind
  octet : Nat
  position : Nat
  count : Nat
deriving DecidableEq, Repr

def OctetFault.message (f : OctetFault) : String :=
  "'utf-8' codec can't decode " ++
    (if f.count = 1 then
      "byte 0x" ++ String.ofList (hexDigits 2 f.octet) ++ " in position " ++ toString f.position
    else
      "bytes in position " ++ toString f.position ++ "-" ++
        toString (f.position + f.count - 1)) ++
    ": " ++ f.kind.text

/-- The characters of octets that begin at a given position. -/
def ofOctetsFrom (position : Nat) : List Nat → Except OctetFault (List Char)
  | [] => .ok []
  | a :: ns =>
    match lead? a with
    | none => .error ⟨.badStart, a, position, 1⟩
    | some l =>
      let taken := followers l ns
      if taken.length = l.following then do
        let n := taken.foldl (fun n b => 64 * n + b % 64) l.share
        let rest ← ofOctetsFrom (position + 1 + taken.length) (ns.drop taken.length)
        return Char.ofNat n :: rest
      else if taken.length = ns.length then
        .error ⟨.unexpectedEnd, a, position, 1 + taken.length⟩
      else .error ⟨.badContinuation, a, position, 1 + taken.length⟩
termination_by ns => ns.length
decreasing_by simp only [List.length_drop, List.length_cons]; omega

def ofOctets (s : List UInt8) : Except OctetFault (List Char) :=
  ofOctetsFrom 0 (s.map UInt8.toNat)

/-- Every line end as a line feed: a carriage return, alone or before a line feed, counts as one. -/
def unifyLineEnds : List Char → List Char
  | '\r' :: '\n' :: s => '\n' :: unifyLineEnds s
  | '\r' :: s => '\n' :: unifyLineEnds s
  | c :: s => c :: unifyLineEnds s
  | [] => []

end SlideDeck.Text
