/-!
# Ranges of text

Positions are compared by line, then by character, both counted from zero. A range holds the
positions from its start up to, but not including, its end. A range that ends at or before its
start is empty and stands for a cursor at its start.
-/

namespace ScanRelay

structure Position where
  line : UInt32
  character : UInt32
deriving DecidableEq, Inhabited

namespace Position

instance : LT Position where
  lt p q := p.line < q.line ∨ p.line = q.line ∧ p.character < q.character

instance : LE Position where
  le p q := p.line < q.line ∨ p.line = q.line ∧ p.character ≤ q.character

instance (p q : Position) : Decidable (p < q) :=
  inferInstanceAs (Decidable (p.line < q.line ∨ p.line = q.line ∧ p.character < q.character))

instance (p q : Position) : Decidable (p ≤ q) :=
  inferInstanceAs (Decidable (p.line < q.line ∨ p.line = q.line ∧ p.character ≤ q.character))

/-- Where `p` lies seen from `q`. -/
def compare (p q : Position) : Ordering := if p < q then .lt else if p = q then .eq else .gt

end Position

structure Range where
  start : Position
  stop : Position
deriving DecidableEq, Inhabited

namespace Range

def isEmpty (r : Range) : Bool := r.stop ≤ r.start

/-- Whether the range holds the position. A cursor holds the one at which it stands. -/
def contains (r : Range) (p : Position) : Bool :=
  if r.isEmpty then p = r.start else r.start ≤ p && p < r.stop

/-- Whether two ranges meet. -/
def overlaps (a b : Range) : Bool :=
  match a.isEmpty, b.isEmpty with
  | true, true => a.start = b.start
  | true, false => b.contains a.start
  | false, true => a.contains b.start
  | false, false => a.start < b.stop && b.start < a.stop

def toText (r : Range) : String :=
  s!"{r.start.line.toNat}:{r.start.character.toNat}-{r.stop.line.toNat}:{r.stop.character.toNat}"

end Range

end ScanRelay
