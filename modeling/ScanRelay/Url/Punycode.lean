/-!
# Punycode

A label with letters beyond ASCII as ASCII text: its ASCII characters, then the others in order of
code point, each as the distance from the one before, written in variable-length digits of base 36
whose thresholds follow a running bias.
-/

namespace ScanRelay.Punycode

/-- Digits 0 to 25 are letters, 26 to 35 are figures. -/
def digitChar (d : Nat) : Char := if d < 26 then Char.ofNat (97 + d) else Char.ofNat (22 + d)

def digitValue? (c : Char) : Option Nat :=
  let n := c.toNat
  if 97 ≤ n && n ≤ 122 then some (n - 97)
  else if 65 ≤ n && n ≤ 90 then some (n - 65)
  else if 48 ≤ n && n ≤ 57 then some (n - 22)
  else none

/-- The least value of the digit at position `k` that continues a number. -/
def threshold (k bias : Nat) : Nat :=
  if k ≤ bias then 1 else if bias + 26 ≤ k then 26 else k - bias

theorem threshold_pos (k bias : Nat) : 1 ≤ threshold k bias := by
  unfold threshold
  split
  · omega
  · split <;> omega

/-- Divides by 35 until the distance is small, counting 36 for each division. -/
def settle (delta k : Nat) : Nat × Nat :=
  if 455 < delta then settle (delta / 35) (k + 36) else (delta, k)
termination_by delta
decreasing_by omega

/-- The bias after a distance, with `count` characters written; the first distance is damped. -/
def adapt (delta count : Nat) (first : Bool) : Nat :=
  let d := if first then delta / 700 else delta / 2
  let (d, k) := settle (d + d / count) 0
  k + 36 * d / (d + 38)

/-- A distance as digits. -/
def writeNumber (bias k n : Nat) : List Char :=
  let t := threshold k bias
  if n < t then [digitChar n]
  else digitChar (t + (n - t) % (36 - t)) :: writeNumber bias (k + 36) ((n - t) / (36 - t))
termination_by n
decreasing_by
  have h₁ := threshold_pos k bias
  calc (n - threshold k bias) / (36 - threshold k bias)
      ≤ n - threshold k bias := Nat.div_le_self _ _
    _ < n := by omega

structure Writer where
  output : List Char
  delta : Nat
  bias : Nat
  count : Nat

/-- Passes one character of the label while the characters of code point `point` are placed. -/
def Writer.pass (basic point : Nat) (w : Writer) (c : Char) : Writer :=
  if c.toNat < point then { w with delta := w.delta + 1 }
  else if c.toNat = point then
    { output := w.output ++ writeNumber w.bias 36 w.delta
      delta := 0
      bias := adapt w.delta (w.count + 1) (w.count = basic)
      count := w.count + 1 }
  else w

/-- Places the code points of an increasing list, of which `next` is the least not yet passed. -/
def Writer.place (label : List Char) (basic : Nat) : List Nat → Nat → Writer → Writer
  | [], _, w => w
  | p :: rest, next, w =>
    let w := { w with delta := w.delta + (p - next) * (w.count + 1) }
    let w := label.foldl (Writer.pass basic p) w
    Writer.place label basic rest (p + 1) { w with delta := w.delta + 1 }

def insertPoint (x : Nat) : List Nat → List Nat
  | [] => [x]
  | y :: ys => if x < y then x :: y :: ys else if x = y then y :: ys else y :: insertPoint x ys

def encode (label : List Char) : List Char :=
  let basic := label.filter fun c => c.toNat < 128
  let points := (label.filter fun c => 128 ≤ c.toNat).foldl (fun ps c => insertPoint c.toNat ps) []
  let written := Writer.place label basic.length points 128 ⟨[], 0, 72, basic.length⟩
  basic ++ (if basic.isEmpty then [] else ['-']) ++ written.output

/-- Reads one distance, adding it to `i`. The weight of a digit has to fit into 32 bits. -/
def readNumber (bias : Nat) : List Char → Nat → Nat → Nat → Option (Nat × List Char)
  | [], _, _, _ => none
  | c :: rest, k, weight, i =>
    match digitValue? c with
    | none => none
    | some d =>
      let t := threshold k bias
      if d < t then some (i + d * weight, rest)
      else if UInt32.size ≤ weight * (36 - t) then none
      else readNumber bias rest (k + 36) (weight * (36 - t)) (i + d * weight)

/-- Reads distances until the text ends; each inserts one character. -/
def readPoints : Nat → List Char → Nat → Nat → Nat → List Char → Option (List Char)
  | _, [], _, _, _, out => some out
  | 0, _ :: _, _, _, _, _ => none
  | fuel + 1, cs, point, bias, i, out =>
    match readNumber bias cs 36 1 i with
    | none => none
    | some (j, rest) =>
      let size := out.length + 1
      let point := point + j / size
      let place := j % size
      if h : point.isValidChar then
        readPoints fuel rest point (adapt (j - i) size (i = 0)) (place + 1)
          (out.take place ++ Char.ofNatAux point h :: out.drop place)
      else none

def decode? (cs : List Char) : Option (List Char) :=
  let tail := (cs.reverse.takeWhile (· ≠ '-')).reverse
  let basic := cs.take (cs.length - tail.length - 1)
  if basic.all (fun c => c.toNat < 128) then readPoints cs.length tail 128 72 0 basic else none

end ScanRelay.Punycode
