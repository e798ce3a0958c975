/-!
From exact numbers to doubles and back. `nearest` is the double nearest to a ratio, a tie going to
the even neighbour; `fraction?` is the exact value of a double.
-/

namespace SlideDeck.Decimal

def twoTo (k : Nat) : Nat := Nat.pow 2 k

def tenTo (k : Nat) : Nat := Nat.pow 10 k

/-- The number that decimal digits stand for. -/
def ofDigits (s : List Char) : Nat := s.foldl (fun n c => 10 * n + (c.toNat - 48)) 0

/-- The quotient rounded to the nearest whole number, a half to the even neighbour. -/
def roundDiv (n d : Nat) : Nat :=
  let q := n / d
  let r := 2 * (n % d)
  if r < d || (r = d && q % 2 = 0) then q else q + 1

/-- `n / d` scaled by a power of two, as a ratio. -/
def scaled (n d : Nat) (k : Int) : Nat × Nat :=
  if 0 ≤ k then (n * twoTo k.toNat, d) else (n, d * twoTo (-k).toNat)

/-- The exponent of the greatest power of two that is at most `n / d`. -/
def binaryExponent (n d : Nat) : Int :=
  let e : Int := (n.log2 : Int) - d.log2
  let (a, b) := scaled n d (-e)
  if a < b then e - 1 else e

def infinityBits : Nat := 0x7ff0000000000000

/-- The bits of the double nearest to `n / d`. The last place of a double between `2 ^ e` and
`2 ^ (e + 1)` is worth `2 ^ (e - 52)`, but never less than `2 ^ (-1074)`. -/
def nearestBits (n d : Nat) : Nat :=
  if n = 0 then 0
  else
    let unit := max (binaryExponent n d - 52) (-1074)
    let (a, b) := scaled n d (-unit)
    min ((unit + 1074).toNat * twoTo 52 + roundDiv a b) infinityBits

/-- The double nearest to `n / d`, infinite from halfway to `2 ^ 1024` on. -/
def nearest (n d : Nat) : Float := Float.ofBits (nearestBits n d).toUInt64

/-- The double nearest to a whole number, if it is finite. -/
def ofInt? (i : Int) : Option Float :=
  let x := nearest i.natAbs 1
  if x.isInf then none else some (if i < 0 then -x else x)

/-- The double nearest to `digits * 10 ^ exponent`. A number that is far out of range is not
computed. -/
def ofScientific (negative : Bool) (digits : List Char) (exponent : Int) : Float :=
  let m := ofDigits digits
  let x :=
    if m = 0 then 0
    else
      if 400 < (m.log2 / 4 : Nat) + exponent then nearest (twoTo 1024) 1
      else if (m.log2 / 3 : Nat) + exponent < -400 then 0
      else if 0 ≤ exponent then nearest (m * tenTo exponent.toNat) 1
      else nearest m (tenTo (-exponent).toNat)
  if negative then -x else x

/-- A double as sign, significand and exponent of two. -/
structure Binary where
  negative : Bool
  significand : Nat
  exponent : Int
deriving Repr

/-- The exact value of a finite double. -/
def binary? (x : Float) : Option Binary :=
  let bits := x.toBits.toNat
  let e : Nat := bits / twoTo 52 % twoTo 11
  let m : Nat := bits % twoTo 52
  if e = 2047 then none
  else if e = 0 then some ⟨twoTo 63 ≤ bits, m, -1074⟩
  else some ⟨twoTo 63 ≤ bits, twoTo 52 + m, (e : Int) - 1075⟩

/-- The whole part of a finite double. -/
def Binary.truncate (b : Binary) : Int :=
  let (n, d) := scaled b.significand 1 b.exponent
  if b.negative then -(n / d : Nat) else (n / d : Nat)

end SlideDeck.Decimal
