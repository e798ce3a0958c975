import SlideDeck.Decimal.Nearest
import SlideDeck.Json.Value
import SlideDeck.Text.Digit

/-!
Reading JSON. The reader is strict except that it knows the numbers `NaN`, `Infinity` and
`-Infinity`, and it says where and why it stops. Of members with the same key the last counts, at
the place of the first.
-/

namespace SlideDeck.Json

open Text (CodePoints Surrogate)

inductive Fault where
  | value
  | key
  | colon
  | comma
  | unterminatedString
  | controlCharacter
  | escape
  | unicodeEscape
  | extraData
  | byteOrderMark
deriving DecidableEq, Repr

def Fault.message : Fault → String
  | .value => "Expecting value"
  | .key => "Expecting property name enclosed in double quotes"
  | .colon => "Expecting ':' delimiter"
  | .comma => "Expecting ',' delimiter"
  | .unterminatedString => "Unterminated string starting at"
  | .controlCharacter => "Invalid control character at"
  | .escape => "Invalid \\escape"
  | .unicodeEscape => "Invalid \\uXXXX escape"
  | .extraData => "Extra data"
  | .byteOrderMark => "Unexpected UTF-8 BOM (decode using utf-8-sig)"

/-- Why a text is no JSON value. A fault keeps how many characters were left where it was found;
a whole number may have so many digits that it is refused. -/
inductive Failure where
  | fault (f : Fault) (left : Nat)
  | longNumber (digits : Nat)
deriving DecidableEq, Repr

def isBlank (c : Char) : Bool := c == ' ' || c == '\t' || c == '\n' || c == '\r'

def skipBlanks (s : List Char) : List Char := s.dropWhile isBlank

def maxDigits : Nat := 4300

/-- The value of four hexadecimal digits and the rest behind them, if something is left there. -/
def fourDigits? : List Char → Option (Nat × List Char)
  | a :: b :: c :: d :: e :: s => do
    let n ← [a, b, c, d].foldlM (fun n h => (Text.hexValue? h).map (16 * n + ·)) 0
    return (n, e :: s)
  | _ => none

def isHighSurrogate (n : Nat) : Bool := n / 0x400 == 0x36
def isLowSurrogate (n : Nat) : Bool := n / 0x400 == 0x37

/-- The character with a number below `0x10000`, or the surrogate. -/
def codePoint (n : Nat) : Char ⊕ Surrogate :=
  if n.isValidChar then .inl (Char.ofNat n) else .inr (Fin.ofNat 0x800 (n - 0xd800))

/-- What a numeric escape stands for, given what stands behind its `u`; two escapes of a surrogate
pair are one character. -/
def unicodeEscape (s : List Char) : Except Failure ((Char ⊕ Surrogate) × List Char) :=
  match fourDigits? s with
  | none => .error (.fault .unicodeEscape (s.length + 1))
  | some (n, rest) =>
    match rest with
    | '\\' :: 'u' :: low =>
      if isHighSurrogate n && 4 < low.length then
        match fourDigits? low with
        | none => .error (.fault .unicodeEscape (low.length + 1))
        | some (m, rest') =>
          if isLowSurrogate m then
            .ok (.inl (Char.ofNat (0x10000 + (n - 0xd800) * 0x400 + (m - 0xdc00))), rest')
          else .ok (codePoint n, rest)
      else .ok (codePoint n, rest)
    | _ => .ok (codePoint n, rest)

/-- The character that a letter behind a backslash stands for. -/
def shortEscape? (c : Char) : Option Char :=
  match c with
  | '"' | '\\' | '/' => some c
  | 'b' => some '\x08'
  | 'f' => some '\x0c'
  | 'n' => some '\n'
  | 'r' => some '\r'
  | 't' => some '\t'
  | _ => none

/-- Reads a string behind its opening quote; `start` is how much was left at that quote, and `done`
are the characters since then or since the last surrogate. The first number bounds the number of
code points. -/
def readString (start : Nat) :
    Nat → (done : List Char) → List Char → Except Failure (CodePoints × List Char)
  | 0, _, _ => .error (.fault .unterminatedString start)
  | _ + 1, _, [] => .error (.fault .unterminatedString start)
  | fuel + 1, done, c :: s =>
    if c = '"' then .ok (⟨String.ofList done.reverse, []⟩, s)
    else if c = '\\' then
      match s with
      | [] => .error (.fault .unterminatedString start)
      | 'u' :: r =>
        match unicodeEscape r with
        | .error e => .error e
        | .ok (.inl d, r) => readString start fuel (d :: done) r
        | .ok (.inr h, r) =>
          (readString start fuel [] r).map fun (t, r) =>
            (⟨String.ofList done.reverse, (h, t.start) :: t.rest⟩, r)
      | e :: r =>
        match shortEscape? e with
        | some d => readString start fuel (d :: done) r
        | none => .error (.fault .escape (s.length + 1))
    else if c.toNat < 32 then .error (.fault .controlCharacter (s.length + 1))
    else readString start fuel (c :: done) s

/-- The whole part of a number; a zero in front stands alone. -/
def wholeDigits (s : List Char) : List Char :=
  match s with
  | '0' :: _ => ['0']
  | _ => s.takeWhile Char.isDigit

/-- The places behind a point, if there are any, and the rest behind them. -/
def readFraction (s : List Char) : List Char × List Char :=
  match s with
  | '.' :: r =>
    let places := r.takeWhile Char.isDigit
    if places.isEmpty then ([], s) else (places, r.drop places.length)
  | _ => ([], s)

/-- An exponent, if there is one, and the rest behind it. -/
def readExponent? (s : List Char) : Option (Int × List Char) :=
  match s with
  | e :: r =>
    if e = 'e' || e = 'E' then
      let sign := r.head?.filter fun c => c = '-' || c = '+'
      let r := if sign.isSome then r.drop 1 else r
      let digits := r.takeWhile Char.isDigit
      if digits.isEmpty then none
      else
        let n : Int := Decimal.ofDigits digits
        some (if sign = some '-' then -n else n, r.drop digits.length)
    else none
  | [] => none

/-- Reads a number without its sign. A fraction or an exponent makes it a double. -/
def readUnsigned (negative : Bool) (s : List Char) : Except Failure (Value × List Char) :=
  let whole := wholeDigits s
  let (fraction, rest) := readFraction (s.drop whole.length)
  match readExponent? rest with
  | some (e, rest) =>
    .ok (.float (Decimal.ofScientific negative (whole ++ fraction) (e - fraction.length)), rest)
  | none =>
    if !fraction.isEmpty then
      .ok (.float (Decimal.ofScientific negative (whole ++ fraction) (-fraction.length)), rest)
    else if maxDigits < whole.length then .error (.longNumber whole.length)
    else
      let n : Int := Decimal.ofDigits whole
      .ok (.int (if negative then -n else n), rest)

/-- Reads a number: a sign, digits without a zero in front, and at will a fraction and an exponent.
-/
def readNumber (s : List Char) : Except Failure (Value × List Char) :=
  let negative := s.head? = some '-'
  let unsigned := if negative then s.drop 1 else s
  if (wholeDigits unsigned).isEmpty then .error (.fault .value s.length)
  else readUnsigned negative unsigned

/-- The values that are written as words. -/
def words : List (List Char × Value) :=
  [("null".toList, .null), ("true".toList, .bool true), ("false".toList, .bool false),
    ("NaN".toList, .float (0 / 0)), ("Infinity".toList, .float (1 / 0)),
    ("-Infinity".toList, .float (-1 / 0))]

mutual

/-- Reads a value at the start of a text. The first argument bounds the number of steps. -/
def readValue : Nat → List Char → Except Failure (Value × List Char)
  | 0, s => .error (.fault .value s.length)
  | fuel + 1, s =>
    match s with
    | '"' :: r => (readString s.length s.length [] r).map fun (t, r) => (.string t, r)
    | '\x7b' :: r =>
      match skipBlanks r with
      | '\x7d' :: r => .ok (.object [], r)
      | r => (readMembers fuel [] r).map fun (o, r) => (.object o, r)
    | '[' :: r =>
      match skipBlanks r with
      | ']' :: r => .ok (.array [], r)
      | r => (readItems fuel r).map fun (vs, r) => (.array vs, r)
    | _ =>
      match words.find? fun w => w.1.isPrefixOf s with
      | some (w, v) => .ok (v, s.drop w.length)
      | none => readNumber s

/-- Reads the members of an object, from a key on, after those in `done`. -/
def readMembers : Nat → (done : Object) → List Char → Except Failure (Object × List Char)
  | 0, _, s => .error (.fault .value s.length)
  | fuel + 1, done, s =>
    match s with
    | '"' :: r => do
      let (key, r) ← readString s.length s.length [] r
      match skipBlanks r with
      | ':' :: r =>
        let (v, r) ← readValue fuel (skipBlanks r)
        let done := done.set key v
        match skipBlanks r with
        | '\x7d' :: r => .ok (done, r)
        | ',' :: r => readMembers fuel done (skipBlanks r)
        | r => .error (.fault .comma r.length)
      | r => .error (.fault .colon r.length)
    | _ => .error (.fault .key s.length)

/-- Reads the items of an array. -/
def readItems : Nat → List Char → Except Failure (List Value × List Char)
  | 0, s => .error (.fault .value s.length)
  | fuel + 1, s => do
    let (v, r) ← readValue fuel s
    match skipBlanks r with
    | ']' :: r => .ok ([v], r)
    | ',' :: r =>
      let (vs, r) ← readItems fuel (skipBlanks r)
      .ok (v :: vs, r)
    | r => .error (.fault .comma r.length)

end

/-- Reads a text that holds one value. -/
def parse (s : List Char) : Except Failure Value :=
  if s.head? = some '\ufeff' then .error (.fault .byteOrderMark s.length)
  else do
    let (v, r) ← readValue (2 * s.length + 1) (skipBlanks s)
    match skipBlanks r with
    | [] => .ok v
    | r => .error (.fault .extraData r.length)

/-- Line and column of a place in a text, both from one on. -/
def position (s : List Char) (place : Nat) : Nat × Nat :=
  let before := s.take place
  (before.count '\n' + 1, (before.reverse.takeWhile (· ≠ '\n')).length + 1)

/-- The wording of a failure to read the given text. -/
def Failure.message (text : List Char) : Failure → String
  | .fault f left =>
    let place := text.length - left
    let (line, column) := position text place
    f.message ++ ": line " ++ toString line ++ " column " ++ toString column ++ " (char " ++
      toString place ++ ")"
  | .longNumber digits =>
    "Exceeds the limit (4300 digits) for integer string conversion: value has " ++
      toString digits ++ " digits; use sys.set_int_max_str_digits() to increase the limit"

end SlideDeck.Json
