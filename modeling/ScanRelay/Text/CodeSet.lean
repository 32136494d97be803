import ScanRelay.Text.Pieces

/-!
# Sets of code points

A set of code points is a list of closed ranges. A long one is written as lines of words, each of
them a code point or a range such as `3041-3096`, in hexadecimal digits.
-/

namespace ScanRelay

/-- Closed ranges of code points. -/
abbrev CodeSet := List (Nat × Nat)

namespace CodeSet

def has (s : CodeSet) (c : Char) : Bool := s.any fun r => r.1 ≤ c.toNat && c.toNat ≤ r.2

/-! ## Written tables -/

def digitValue (c : Char) : Nat := if c.isDigit then c.toNat - 48 else c.toNat - 55

/-- The number that upper-case hexadecimal digits stand for. -/
def number (cs : List Char) : Nat := cs.foldl (fun n c => n * 16 + digitValue c) 0

/-- The range that a word stands for. -/
def range (word : List Char) : Nat × Nat :=
  match splitAt '-' word with
  | [first, last] => (number first, number last)
  | _ => (number word, number word)

/-- The words of a table, which stand between single spaces. -/
def words (lines : List String) : List (List Char) :=
  lines.flatMap fun line => splitAt ' ' line.toList

def ofLines (lines : List String) : CodeSet := (words lines).map range

example : ofLines ["41-5A 5F", "3C9"] = [(0x41, 0x5A), (0x5F, 0x5F), (0x3C9, 0x3C9)] := by decide

end CodeSet

end ScanRelay
