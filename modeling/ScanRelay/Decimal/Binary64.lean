/-!
# Double precision numbers

A finite double is a sign and a magnitude, and a magnitude is its place in the increasing list of
all non-negative doubles, which is also its bit pattern. So the neighbours of a magnitude are the
numbers before and after it. Every operation rounds an exact quotient to the nearest double, a tie
to the even one.
-/

namespace ScanRelay

/-- A power of ten. -/
def tenTo (n : Nat) : Nat := Nat.pow 10 n

namespace Magnitude

/-- How many doubles share a power of two: two to the 52nd. -/
def period : Nat := 1 <<< 52

/-- The place after the largest finite double. -/
def infinity : Nat := 2047 * period

/-- Significand and power of two: the double at place `m` is `significand * 2 ^ power`. -/
def significand (m : Nat) : Nat :=
  if m < period then m else period + m % period

def power (m : Nat) : Int :=
  if m < period then -1074 else (m / period : Nat) - 1075

/-- Scales `num / den` by `2 ^ -q`. -/
def scale (num den : Nat) (q : Int) : Nat × Nat :=
  if 0 ≤ q then (num, den <<< q.toNat) else (num <<< (-q).toNat, den)

/-- The double at place `m` as a quotient. -/
def ratio (m : Nat) : Nat × Nat := scale (significand m) 1 (-power m)

/-- The quotient rounded to a whole number, a half to the even neighbour. -/
def roundHalfEven (num den : Nat) : Nat :=
  let q := num / den
  let twice := 2 * (num % den)
  if twice < den then q else if den < twice then q + 1 else q + q % 2

/-- The power of two under which `num / den` has 53 binary digits before the point, or the least
power there is. -/
def powerFor (num den : Nat) : Int :=
  let q : Int := max (-1074) ((num.log2 : Int) - (den.log2 : Int) - 52)
  let (n, d) := scale num den q
  if n < d * period then max (-1074) (q - 1) else q

/-- The place of the double nearest to `num / den`; `infinity` if that is too large. -/
def ofRatio (num den : Nat) : Nat :=
  if num = 0 then 0
  else
    let q := powerFor num den
    let (n, d) := scale num den q
    min infinity ((q + 1074).toNat * period + roundHalfEven n d)

def mul (a b : Nat) : Nat :=
  ofRatio ((ratio a).1 * (ratio b).1) ((ratio a).2 * (ratio b).2)

def div (a b : Nat) : Nat :=
  ofRatio ((ratio a).1 * (ratio b).2) ((ratio a).2 * (ratio b).1)

end Magnitude

/-- A finite double precision number. -/
structure Double where
  negative : Bool
  magnitude : Nat
  finite : magnitude < Magnitude.infinity
deriving DecidableEq

namespace Double

/-- The number of that sign and magnitude, if it is finite. -/
def ofMagnitude? (negative : Bool) (m : Nat) : Option Double :=
  if h : m < Magnitude.infinity then some ⟨negative, m, h⟩ else none

/-- The nearest double to a whole number, if it is finite. -/
def ofNat? (negative : Bool) (n : Nat) : Option Double :=
  ofMagnitude? negative (Magnitude.ofRatio n 1)

/-- The double read for `digits * 10 ^ exponent`: the digits and the power of ten are rounded to
doubles first and combined after, powers of ten beyond 308 in steps. `none` is an overflow. -/
def scaleTen (negative : Bool) (m : Nat) (exponent : Int) : Option Double :=
  if exponent.natAbs ≤ 308 then
    let ten := Magnitude.ofRatio (tenTo exponent.natAbs) 1
    ofMagnitude? negative (if 0 ≤ exponent then Magnitude.mul m ten else Magnitude.div m ten)
  else if m = 0 then ofMagnitude? negative 0
  else if 0 ≤ exponent then none
  else
    scaleTen negative (Magnitude.div m (Magnitude.ofRatio (tenTo 308) 1)) (exponent + 308)
termination_by exponent.natAbs
decreasing_by omega

def ofDecimal? (negative : Bool) (digits : Nat) (exponent : Int) : Option Double :=
  scaleTen negative (Magnitude.ofRatio digits 1) exponent

end Double

end ScanRelay
