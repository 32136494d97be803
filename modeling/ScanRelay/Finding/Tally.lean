import ScanRelay.Finding.Wire

/-!
# Tallies

How many issues of each severity were found, by product. A product may have an entry that counts
nothing yet.
-/

namespace ScanRelay

structure SeverityCount where
  critical : Nat
  high : Nat
  medium : Nat
  low : Nat
deriving DecidableEq

namespace SeverityCount

def zero : SeverityCount := ⟨0, 0, 0, 0⟩

def increment (c : SeverityCount) : Severity → SeverityCount
  | .critical => { c with critical := c.critical + 1 }
  | .high => { c with high := c.high + 1 }
  | .medium => { c with medium := c.medium + 1 }
  | .low => { c with low := c.low + 1 }

def of (c : SeverityCount) : Severity → Nat
  | .critical => c.critical
  | .high => c.high
  | .medium => c.medium
  | .low => c.low

def total (c : SeverityCount) : Nat := c.critical + c.high + c.medium + c.low

def toJson (c : SeverityCount) : Json :=
  .ofMembers [("critical", .nat c.critical), ("high", .nat c.high), ("medium", .nat c.medium),
    ("low", .nat c.low)]

end SeverityCount

/-- The count of each product that has one. -/
structure Tally where
  openSource : Option SeverityCount
  code : Option SeverityCount
  infrastructureAsCode : Option SeverityCount
  unknown : Option SeverityCount
deriving DecidableEq

namespace Tally

def empty : Tally := ⟨none, none, none, none⟩

def entry? (t : Tally) : Product → Option SeverityCount
  | .openSource => t.openSource
  | .code => t.code
  | .infrastructureAsCode => t.infrastructureAsCode
  | .unknown => t.unknown

def setEntry (t : Tally) (p : Product) (c : SeverityCount) : Tally :=
  match p with
  | .openSource => { t with openSource := some c }
  | .code => { t with code := some c }
  | .infrastructureAsCode => { t with infrastructureAsCode := some c }
  | .unknown => { t with unknown := some c }

/-- The count of a product, zero without an entry. -/
def get (t : Tally) (p : Option Product) : SeverityCount :=
  (t.entry? (Product.orUnknown p)).getD .zero

/-- Gives the product an entry. -/
def ensure (t : Tally) (p : Option Product) : Tally := t.setEntry (Product.orUnknown p) (t.get p)

def record (t : Tally) (i : Issue) : Tally :=
  t.setEntry (Product.orUnknown i.product) ((t.get i.product).increment i.severity)

def recordAll (t : Tally) (issues : List Issue) : Tally := issues.foldl record t

def isEmpty (t : Tally) : Bool := t = empty

end Tally

end ScanRelay
