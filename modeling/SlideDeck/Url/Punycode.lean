/-!
Punycode: host names of any script in ASCII letters, digits and hyphens. The ASCII characters come
first; the others follow in ascending order, each as the distance from the one before, in a
variable-length number whose digit limits adapt to the distances seen.
-/

namespace SlideDeck.Url.Punycode

def digitChar (d : Nat) : Char := if d < 26 then Char.ofNat (97 + d) else Char.ofNat (22 + d)

/-- The value of a digit in either letter case. -/
def digitValue? (c : Char) : Option Nat :=
  let n := c.toNat
  if 97 ≤ n && n ≤ 122 then some (n - 97)
  else if 65 ≤ n && n ≤ 90 then some (n - 65)
  else if 48 ≤ n && n ≤ 57 then some (n - 22)
  else none

/-- The limit of the digit at place `k`, counted in steps of 36. -/
def threshold (k bias : Nat) : Nat :=
  if k ≤ bias then 1 else if bias + 26 ≤ k then 26 else k - bias

theorem threshold_pos (k bias : Nat) : 1 ≤ threshold k bias := by
  unfold threshold; split
  · omega
  · split <;> omega

theorem threshold_le (k bias : Nat) : threshold k bias ≤ 26 := by
  unfold threshold; split
  · omega
  · split <;> omega

def scaleDown (delta k : Nat) : Nat :=
  if 455 < delta then scaleDown (delta / 35) (k + 36) else k + 36 * delta / (delta + 38)
termination_by delta
decreasing_by omega

/-- The bias after a distance, given how many characters are placed. -/
def adapt (delta placed : Nat) (first : Bool) : Nat :=
  let delta := if first then delta / 700 else delta / 2
  scaleDown (delta + delta / placed) 0

def encodeNumber (bias k q : Nat) : List Char :=
  let t := threshold k bias
  if q < t then [digitChar q]
  else digitChar (t + (q - t) % (36 - t)) :: encodeNumber bias (k + 36) ((q - t) / (36 - t))
termination_by q
decreasing_by
  have h₁ := threshold_pos k bias
  have h₂ := threshold_le k bias
  have h₃ := Nat.div_le_self (q - threshold k bias) (36 - threshold k bias)
  omega

structure Encoder where
  written : List Char
  delta : Nat
  bias : Nat
  placed : Nat

/-- Passes one character of the text while the code point `m` is being placed. -/
def Encoder.pass (basic m : Nat) (e : Encoder) (c : Char) : Encoder :=
  if c.toNat < m then { e with delta := e.delta + 1 }
  else if c.toNat = m then
    { written := e.written ++ encodeNumber e.bias 36 e.delta
      delta := 0
      bias := adapt e.delta (e.placed + 1) (e.placed == basic)
      placed := e.placed + 1 }
  else e

/-- Places the given code points, in ascending order; all below `n` are placed. -/
def Encoder.place (s : List Char) (basic : Nat) : List Nat → Nat → Encoder → Encoder
  | [], _, e => e
  | m :: ms, n, e =>
    let e := { e with delta := e.delta + (m - n) * (e.placed + 1) }
    let e := s.foldl (Encoder.pass basic m) e
    Encoder.place s basic ms (m + 1) { e with delta := e.delta + 1 }

def encode (s : List Char) : List Char :=
  let basic := s.filter fun c => c.toNat < 128
  let others := ((s.map Char.toNat).filter (128 ≤ ·)).mergeSort.eraseDups
  let start : Encoder := ⟨[], 0, 72, basic.length⟩
  basic ++ (if basic.isEmpty then [] else ['-']) ++
    (Encoder.place s basic.length others 128 start).written

/-- Reads a number: the index that it adds up to, and the rest. -/
def decodeNumber (bias : Nat) : List Char → (k weight i : Nat) → Option (Nat × List Char)
  | [], _, _, _ => none
  | c :: s, k, weight, i =>
    match digitValue? c with
    | none => none
    | some d =>
      let t := threshold k bias
      if d < t then some (i + d * weight, s)
      else decodeNumber bias s (k + 36) (weight * (36 - t)) (i + d * weight)

/-- Inserts the characters that the numbers stand for; the first argument bounds their count. -/
def insertAll (basic : Nat) : Nat → List Char → (n i bias : Nat) → List Char → Option (List Char)
  | _, [], _, _, _, out => some out
  | 0, _ :: _, _, _, _, _ => none
  | fuel + 1, s, n, i, bias, out =>
    match decodeNumber bias s 36 1 i with
    | none => none
    | some (j, rest) =>
      let len := out.length + 1
      let code := n + j / len
      if code.isValidChar then
        insertAll basic fuel rest code (j % len + 1) (adapt (j - i) len (out.length == basic))
          (out.insertIdx (j % len) (Char.ofNat code))
      else none

/-- The text that an encoded label stands for, if it is ASCII and well formed. -/
def decode? (s : List Char) : Option (List Char) :=
  if s.all fun c => c.toNat < 128 then
    let tail := s.reverse.takeWhile (· ≠ '-')
    let basic := (s.reverse.drop (tail.length + 1)).reverse
    insertAll basic.length s.length tail.reverse 128 0 72 basic
  else none

end SlideDeck.Url.Punycode
