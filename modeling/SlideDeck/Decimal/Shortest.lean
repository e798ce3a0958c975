import SlideDeck.Decimal.Nearest

/-!
Numbers as text: the fewest digits that read back as the same double, and a fixed number of places.
-/

namespace SlideDeck.Decimal

/-- The exponent of the greatest power of ten that is at most `n / d`, for `n / d` between
`10 ^ (-330)` and `10 ^ 310`. -/
def decimalExponent (n d : Nat) : Int :=
  let ups := ((List.range 310).takeWhile fun k => d * tenTo (k + 1) ≤ n).length
  let downs := ((List.range 330).takeWhile fun k => n * tenTo k < d).length
  (ups : Int) - downs

/-- The digits of a positive double that have a given count and read back, the nearer of the two
neighbours on the decimal grid first. -/
def digitsOf? (bits n d : Nat) (exponent : Int) (count : Nat) : Option (Nat × Int) :=
  let unit := exponent - (count - 1)
  let (a, b) := if 0 ≤ unit then (n, d * tenTo unit.toNat) else (n * tenTo (-unit).toNat, d)
  let readsBack (k : Nat) :=
    (if 0 ≤ unit then nearestBits (k * tenTo unit.toNat) 1 else nearestBits k (tenTo (-unit).toNat))
      == bits
  let near := roundDiv a b
  let far := if near = a / b then near + 1 else near - 1
  if readsBack near then some (near, unit) else if readsBack far then some (far, unit) else none

/-- The fewest digits that read back as a positive double, as a whole number and an exponent. -/
def shortest (x : Binary) : Nat × Int :=
  let (n, d) := scaled x.significand 1 x.exponent
  let found := (List.range 17).findSome? fun k =>
    digitsOf? (nearestBits n d) n d (decimalExponent n d) (k + 1)
  found.getD (n / d, 0)

/-- A whole number without zeros at its end. -/
def dropZeros : Nat → Nat × Int → Nat × Int
  | 0, x => x
  | fuel + 1, (n, e) => if n ≠ 0 && n % 10 = 0 then dropZeros fuel (n / 10, e + 1) else (n, e)

/-- A double in decimal notation: positional from `0.0001` up to below `10 ^ 16`, with at least one
place, else with an exponent of at least two digits. -/
def toText (x : Float) : String :=
  match binary? x with
  | none => if x.isNaN then "nan" else if x < 0 then "-inf" else "inf"
  | some b =>
    let mark := if b.negative then "-" else ""
    if b.significand = 0 then mark ++ "0.0"
    else
      let (n, e) := dropZeros 20 (shortest b)
      let digits := (toString n).toList
      let point := (digits.length : Int) + e
      let places (s : List Char) := if s.isEmpty then ['0'] else s
      let body :=
        if -4 < point && point ≤ 16 then
          if point ≤ 0 then '0' :: '.' :: List.replicate (-point).toNat '0' ++ digits
          else
            let whole := digits ++ List.replicate e.toNat '0'
            whole.take point.toNat ++ '.' :: places (whole.drop point.toNat)
        else
          let power := point - 1
          let tens := (toString power.natAbs).toList
          digits.take 1 ++ (if digits.length = 1 then [] else '.' :: digits.drop 1) ++
            ['e', if power < 0 then '-' else '+'] ++
            (if tens.length < 2 then '0' :: tens else tens)
      mark ++ String.ofList body

/-- A ratio with one place behind the point, rounded to nearest with ties to even. -/
def toTenths (n d : Nat) : String :=
  let t := roundDiv (10 * n) d
  toString (t / 10) ++ "." ++ toString (t % 10)

end SlideDeck.Decimal
