import ScanRelay.Decimal.Binary64

/-!
# Shortest decimals

The decimal text of a double: the fewest digits that read back as it, of those the nearest to it.
The reals that read back as a double are those nearer to it than to its neighbours, the midpoints
too when its significand is even. On the grid of decimals with `n` digits it is enough to try the
two points next to the double.
-/

namespace ScanRelay

/-- A decimal number `digits * 10 ^ exponent`. -/
structure Decimal where
  digits : Nat
  exponent : Int
deriving DecidableEq

namespace Decimal

/-- The decimal as a quotient. -/
def ratio (d : Decimal) : Nat × Nat :=
  if 0 ≤ d.exponent then (d.digits * tenTo d.exponent.toNat, 1)
  else (d.digits, tenTo (-d.exponent).toNat)

/-- Moves trailing zeros into the exponent. -/
def trim (digits : Nat) (exponent : Int) : Decimal :=
  if digits = 0 then ⟨0, 0⟩
  else if digits % 10 = 0 then trim (digits / 10) (exponent + 1)
  else ⟨digits, exponent⟩
termination_by digits
decreasing_by omega

end Decimal

namespace Magnitude

/-- Whether a decimal reads back as the double at place `m`. Everything is measured in quarters of
the last binary digit. -/
def readsBack (m : Nat) (d : Decimal) : Bool :=
  let s := significand m
  let lower := 4 * s - (if s = period && period < m then 1 else 2)
  let upper := 4 * s + 2
  let (n, k) := scale (d.ratio.1 * 4) d.ratio.2 (power m)
  if s % 2 = 0 then lower * k ≤ n && n ≤ upper * k else lower * k < n && n < upper * k

/-- The number of digits before the point of `num / den`, negative for zeros after it; the search
starts below the answer. -/
def leadingPlace (num den : Nat) : Nat → Int → Int
  | 0, k => k
  | fuel + 1, k =>
    let below : Bool :=
      if 0 ≤ k then num < den * tenTo k.toNat else num * tenTo (-k).toNat < den
    if below then k else leadingPlace num den fuel (k + 1)

/-- The point of the grid of `n` digits that reads back as the double at place `m`. -/
def gridPoint? (m : Nat) (place : Int) (n : Nat) : Option Decimal :=
  let e := place - n
  let (num, den) := ratio m
  let (a, b) := if 0 ≤ e then (num, den * tenTo e.toNat) else (num * tenTo (-e).toNat, den)
  let below := a / b
  let twice := 2 * (a % b)
  let nearFirst := twice < b || (twice = b && below % 2 = 0)
  let first := if nearFirst then below else below + 1
  let second := if nearFirst then below + 1 else below
  if readsBack m ⟨first, e⟩ then some (Decimal.trim first e)
  else if readsBack m ⟨second, e⟩ then some (Decimal.trim second e)
  else none

/-- The shortest decimal of the double at place `m`; seventeen digits always suffice. -/
def shortest (m : Nat) : Decimal :=
  if m = 0 then ⟨0, 0⟩
  else
    let (num, den) := ratio m
    let guess : Int := ((num.log2 : Int) - (den.log2 : Int)) * 30103 / 100000 - 2
    let place := leadingPlace num den 8 guess
    ((List.range 17).findSome? fun i => gridPoint? m place (i + 1)).getD ⟨0, 0⟩

end Magnitude

namespace Double

def zeros (n : Nat) : String := String.ofList (List.replicate n '0')

/-- A point stands where it falls among the first sixteen digits or has at most four zeros after
it; all else has an exponent. A whole number keeps one zero after its point. -/
def toText (x : Double) : String :=
  let sign := if x.negative then "-" else ""
  let d := Magnitude.shortest x.magnitude
  let digits := toString d.digits
  let count := digits.length
  let place : Int := count + d.exponent
  if x.magnitude = 0 then sign ++ "0.0"
  else if 0 ≤ d.exponent && place ≤ 16 then sign ++ digits ++ zeros d.exponent.toNat ++ ".0"
  else if 0 < place && place ≤ 16 then
    sign ++ String.ofList (digits.toList.take place.toNat) ++ "."
      ++ String.ofList (digits.toList.drop place.toNat)
  else if -5 < place && place ≤ 0 then sign ++ "0." ++ zeros (-place).toNat ++ digits
  else
    let mantissa :=
      if count = 1 then digits
      else String.ofList (digits.toList.take 1) ++ "." ++ String.ofList (digits.toList.drop 1)
    let e := place - 1
    sign ++ mantissa ++ "e" ++ (if 0 ≤ e then "+" else "-") ++ toString e.natAbs

end Double

end ScanRelay
