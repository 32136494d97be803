import ScanRelay.Text.CodeSet
import ScanRelay.Text.CompositionTable

/-!
# Composed text

A letter with marks can be written as one character or as several. In composed text, each group of
characters that has a composed form stands in it, and the marks that follow one character stand in
the order of their classes. Composing takes all characters apart, sorts the marks, and puts
together what can be.
-/

namespace ScanRelay.Composition

/-! ## Pairs -/

/-- A composed character and the two that it is composed of. -/
structure Pair where
  whole : Char
  first : Char
  second : Char

/-- The pair that an entry such as `E0:61,300` stands for. -/
def Pair.read? (word : List Char) : Option Pair :=
  let char (cs : List Char) : Char := Char.ofNat (CodeSet.number cs)
  match splitAt ':' word with
  | [whole, parts] =>
    match splitAt ',' parts with
    | [first, second] => some ⟨char whole, char first, char second⟩
    | _ => none
  | _ => none

def pairs : List Pair := (CodeSet.words pairLines).filterMap Pair.read?

/-- The syllables of Hangul are composed of 19 leading consonants, 21 vowels and 27 trailing
consonants, or no trailing one. -/
def syllableBase : Nat := 0xAC00

def leadingBase : Nat := 0x1100

def vowelBase : Nat := 0x1161

/-- One less than the first trailing consonant. -/
def trailingBase : Nat := 0x11A7

/-- The two characters that one is composed of. -/
def parts? (c : Char) : Option (Char × Char) :=
  if c.toNat < 0xC0 then none
  else if syllableBase ≤ c.toNat && c.toNat < syllableBase + 19 * 21 * 28 then
    let n := c.toNat - syllableBase
    if n % 28 = 0 then
      some (Char.ofNat (leadingBase + n / (21 * 28)), Char.ofNat (vowelBase + n / 28 % 21))
    else some (Char.ofNat (c.toNat - n % 28), Char.ofNat (trailingBase + n % 28))
  else (pairs.find? fun p => p.whole = c).map fun p => (p.first, p.second)

/-- The character that two are composed to. -/
def whole? (a b : Char) : Option Char :=
  if b.toNat < 0x300 then none
  else if leadingBase ≤ a.toNat && a.toNat < leadingBase + 19 then
    if vowelBase ≤ b.toNat && b.toNat < vowelBase + 21 then
      let n := (a.toNat - leadingBase) * 21 + (b.toNat - vowelBase)
      some (Char.ofNat (syllableBase + n * 28))
    else none
  else if syllableBase ≤ a.toNat && a.toNat < syllableBase + 19 * 21 * 28
      && (a.toNat - syllableBase) % 28 = 0 then
    if trailingBase < b.toNat && b.toNat < trailingBase + 28 then
      some (Char.ofNat (a.toNat + (b.toNat - trailingBase)))
    else none
  else (pairs.find? fun p => p.first = a && p.second = b).map Pair.whole

/-! ## Marks -/

/-- The range and the class of an entry such as `300-314:E6`. -/
def readClass? (word : List Char) : Option ((Nat × Nat) × Nat) :=
  match splitAt ':' word with
  | [range, level] => some (CodeSet.range range, CodeSet.number level)
  | _ => none

def classes : List ((Nat × Nat) × Nat) := (CodeSet.words classLines).filterMap readClass?

/-- The class of a mark; other characters have class 0. -/
def markClass (c : Char) : Nat :=
  if c.toNat < 0x300 then 0
  else
    match classes.find? fun r => r.1.1 ≤ c.toNat && c.toNat ≤ r.1.2 with
    | some r => r.2
    | none => 0

/-! ## Composing -/

/-- Takes a character apart. None is composed of more than `depth + 1`. -/
def takeApart (depth : Nat) (c : Char) : List Char :=
  match depth with
  | 0 => [c]
  | depth + 1 =>
    match parts? c with
    | some (a, b) => takeApart depth a ++ [b]
    | none => [c]

/-- Puts a character in front of a text in which the marks are sorted. A mark moves behind all marks
of a lower class. -/
def insertSorted (x : Char × Nat) : List (Char × Nat) → List (Char × Nat)
  | [] => [x]
  | y :: ys => if y.2 ≠ 0 && y.2 < x.2 then y :: insertSorted x ys else x :: y :: ys

/-- The text in its smallest parts, each with its class, the marks sorted. -/
def sortedParts (cs : List Char) : List (Char × Nat) :=
  ((cs.flatMap (takeApart 4)).map fun c => (c, markClass c)).foldr insertSorted []

/-- Composes what follows the character `first`; `marks` are the marks after it, in reverse, that
it could not be composed with. A mark is out of reach behind one of its own class, and any other
character behind every mark. -/
def composeAfter (first : Char) (marks : List (Char × Nat)) : List (Char × Nat) → List Char
  | [] => first :: (marks.map Prod.fst).reverse
  | (c, k) :: rest =>
    let inReach : Bool := match marks with
      | [] => true
      | m :: _ => m.2 < k
    match if inReach then whole? first c else none with
    | some whole => composeAfter whole marks rest
    | none =>
      if k = 0 then first :: (marks.map Prod.fst).reverse ++ composeAfter c [] rest
      else composeAfter first ((c, k) :: marks) rest

/-- Composes a text in its smallest parts. Marks in front of all else stay as they are. -/
def composeParts : List (Char × Nat) → List Char
  | [] => []
  | (c, k) :: rest => if k = 0 then composeAfter c [] rest else c :: composeParts rest

/-- The composed form of a text. Text without marks and syllables is composed as it is. -/
def compose (cs : List Char) : List Char :=
  if cs.all (·.toNat < 0x300) then cs else composeParts (sortedParts cs)

end ScanRelay.Composition
