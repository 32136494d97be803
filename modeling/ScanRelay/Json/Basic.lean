import ScanRelay.Data.Table
import ScanRelay.Decimal.Shortest

/-!
# JSON values

A number is a whole number within 64 bits or a double. The members of an object stand in the order
of their keys, each key once; `Json.object` builds one from any list of members.
-/

namespace ScanRelay

/-- A JSON number. Whole numbers keep their exact value from the least signed to the greatest
unsigned 64-bit integer. -/
inductive JsonNumber
  | natural (n : UInt64)
  /-- A number below zero. -/
  | negative (n : Int64)
  | double (x : Double)
deriving DecidableEq

inductive Json
  | null
  | bool (b : Bool)
  | number (n : JsonNumber)
  | text (s : String)
  | array (items : List Json)
  | object (members : List (String × Json))
deriving Inhabited

namespace Json

def nat (n : Nat) : Json := .number (.natural (UInt64.ofNat n))

def int (n : Int) : Json :=
  match n with
  | .ofNat k => nat k
  | .negSucc k => .number (.negative (Int64.ofInt (.negSucc k)))

/-- The object of the given members, a later member replacing an earlier one of its key. -/
def ofMembers (members : List (String × Json)) : Json :=
  .object (members.foldl (fun ms m => insertEntry m.1 m.2 ms) [])

/-- The member of an object. -/
def member? (key : String) : Json → Option Json
  | .object ms => lookupEntry key ms
  | _ => none

def text? : Json → Option String
  | .text s => some s
  | _ => none

def bool? : Json → Option Bool
  | .bool b => some b
  | _ => none

def isNull : Json → Bool
  | .null => true
  | _ => false

def isObject : Json → Bool
  | .object _ => true
  | _ => false

/-- The items of an array, none for any other value. -/
def items : Json → List Json
  | .array xs => xs
  | _ => []

/-- The value of an option, `null` for none. -/
def ofOption {α : Type} (f : α → Json) : Option α → Json
  | some a => f a
  | none => .null

end Json

end ScanRelay
