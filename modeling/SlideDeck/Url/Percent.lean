import SlideDeck.Text.Digit
import SlideDeck.Text.Octets

/-!
Percent encoding. Encoding writes each octet of the UTF-8 form as `%` and two hexadecimal digits,
except for the characters that an address may hold and for octets that are encoded already.
Decoding reads runs of such octets back, one replacement character for each that is no text.
-/

namespace SlideDeck.Url

/-- The marks that need no encoding in an address. -/
def plainMarks : List Char := ";/?:@&=+$,-_.!~*'()#".toList

def isPlain (c : Char) : Bool := c.isAlphanum || plainMarks.contains c

/-- The octet that two hexadecimal digits stand for. -/
def octet? (a b : Char) : Option Nat := do
  let a ← Text.hexValue? a
  let b ← Text.hexValue? b
  return 16 * a + b

def encodeOctet (n : Nat) : List Char := '%' :: (Text.hexDigits 2 n).map Char.toUpper

def encode : List Char → List Char
  | '%' :: a :: b :: s =>
    if (octet? a b).isSome then '%' :: a :: b :: encode s
    else encodeOctet 0x25 ++ encode (a :: b :: s)
  | c :: s => (if isPlain c then [c] else (Text.octets c).flatMap encodeOctet) ++ encode s
  | [] => []

/-- The marks that stay encoded when an address is shown. -/
def keptMarks : List Char := ";/?:@&=+$,#%".toList

/-- The octets of the run of encoded octets at the start of a text, and what follows the run. -/
def octetRun : List Char → List Nat × List Char
  | '%' :: a :: b :: s =>
    match octet? a b with
    | some n => let (ns, rest) := octetRun s; (n :: ns, rest)
    | none => ([], '%' :: a :: b :: s)
  | s => ([], s)

/-- One character for a well-formed sequence of octets, one replacement for each octet of a
sequence that is overlong, a surrogate or beyond the last character. -/
def characterOr (low n width : Nat) : List Char :=
  if low ≤ n && n.isValidChar then [Char.ofNat n] else List.replicate width Text.replacement

/-- What an octet stands for together with those after it, and how many of those it takes. -/
def decodeOctet (a : Nat) (ns : List Nat) : List Char × Nat :=
  if a < 0x80 then
    (if keptMarks.contains (Char.ofNat a) then encodeOctet a else [Char.ofNat a], 0)
  else match a / 32 == 6, a / 16 == 14, a / 8 == 30, ns.takeWhile Text.isContinuation with
    | true, _, _, b :: _ => (characterOr 0x80 (a % 32 * 64 + b % 64) 2, 1)
    | _, true, _, b :: c :: _ =>
      (characterOr 0x800 (a % 16 * 4096 + b % 64 * 64 + c % 64) 3, 2)
    | _, _, true, b :: c :: d :: _ =>
      (characterOr 0x10000 (a % 8 * 262144 + b % 64 * 4096 + c % 64 * 64 + d % 64) 4, 3)
    | _, _, _, _ => ([Text.replacement], 0)

def decodeOctets : List Nat → List Char
  | [] => []
  | a :: ns => (decodeOctet a ns).1 ++ decodeOctets (ns.drop (decodeOctet a ns).2)
termination_by ns => ns.length
decreasing_by simp only [List.length_drop, List.length_cons]; omega

/-- Decodes each run of encoded octets; the first argument bounds the number of steps. -/
def decodeRuns : Nat → List Char → List Char
  | 0, s => s
  | _, [] => []
  | fuel + 1, c :: s =>
    match octetRun (c :: s) with
    | ([], _) => c :: decodeRuns fuel s
    | (ns, rest) => decodeOctets ns ++ decodeRuns fuel rest

def decode (s : List Char) : List Char := decodeRuns s.length s

end SlideDeck.Url
