import ScanRelay.Json.Fault

/-!
# Documents

A document is what a schema is checked against: a finished value, members gathered from a larger
object, or a text that is still being read. All three show the same heads and differ in how they
word a few faults.
-/

namespace ScanRelay

/-- The head of a document. The items or members come with the fault that reading meets after the
last of them. -/
inductive View (ν : Type)
  | null
  | bool (b : Bool)
  | number (n : JsonNumber)
  | text (s : String)
  | array (items : List ν) (ending : Option Fault)
  | object (members : List (String × ν)) (ending : Option Fault)
  /-- Nothing can be read here. -/
  | broken (fault : Fault)

/-- What stands at the head, or the fault that hides it. -/
def View.found {ν : Type} : View ν → Except Fault Found
  | .null => .ok .null
  | .bool b => .ok (.bool b)
  | .number n => .ok (.number n)
  | .text s => .ok (.text s)
  | .array _ _ => .ok .sequence
  | .object _ _ => .ok .map
  | .broken f => .error f

/-- The fault of a head that is not what was expected. -/
def View.refuse {ν α : Type} (v : View ν) (expected : String) : Except Fault α :=
  match v.found with
  | .ok found => .error (.wrongType found expected)
  | .error f => .error f

class Document (ν : Type) where
  view : ν → View ν
  /-- Whether the document is null. -/
  absent : ν → Except Fault Bool
  /-- Whether the array may end after its first `taken` items. -/
  endAfter : ν → Nat → Except Fault Unit
  /-- The name and the content of a variant, and the fault that is met after the content. -/
  variant : ν → Except Fault (String × Option ν × Option Fault)
  /-- Passes over a document that nobody asked for. -/
  skip : ν → Except Fault Unit
  /-- Reads a document that may be anything. -/
  whole : ν → Except Fault Unit
  /-- The value of a document without faults. -/
  value : ν → Json

/-- The variant that a value names: a text, or an object of one member. -/
def variantOf {ν : Type} (v : View ν) : Except Fault (String × Option ν × Option Fault) :=
  match v with
  | .text s => .ok (s, none, none)
  | .object [(name, content)] _ => .ok (name, some content, none)
  | .object _ _ => .error (.wrongValue .map "map with a single key")
  | _ => v.refuse "string or map"

namespace Json

def view : Json → View Json
  | .null => .null
  | .bool b => .bool b
  | .number n => .number n
  | .text s => .text s
  | .array items => .array items none
  | .object members => .object members none

instance : Document Json where
  view := view
  absent j := .ok j.isNull
  endAfter j taken :=
    if j.items.length ≤ taken then .ok ()
    else .error (.wrongLength j.items.length "fewer elements in array")
  variant j := variantOf (view j)
  skip _ := .ok ()
  whole _ := .ok ()
  value j := j

end Json

/-- A value among the members that a record with merged fields has gathered. -/
structure Gathered where
  value : Json

namespace Gathered

def view (g : Gathered) : View Gathered :=
  match g.value with
  | .null => .null
  | .bool b => .bool b
  | .number n => .number n
  | .text s => .text s
  | .array items => .array (items.map Gathered.mk) none
  | .object members => .object (members.map fun m => (m.1, ⟨m.2⟩)) none

instance : Document Gathered where
  view := view
  absent g := .ok g.value.isNull
  endAfter g taken :=
    if g.value.items.length ≤ taken then .ok ()
    else .error (.wrongLength g.value.items.length (counted taken "element" ++ " in sequence"))
  variant g := variantOf (view g)
  skip _ := .ok ()
  whole _ := .ok ()
  value g := g.value

end Gathered

end ScanRelay
