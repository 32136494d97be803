import ScanRelay.Json.Document
import ScanRelay.Url.Basic

/-!
# Schemas

A schema says which documents are accepted. `Schema.check` reads a document from front to back and
reports the first fault. A record may stand as an object or as the array of its fields. In an
object unknown members are passed over, and missing fields are reported last, in the order of
their declaration. After a check without fault the functions at the end take values out of the
document.
-/

namespace ScanRelay

/-- Whether a field has to be there. -/
inductive Presence
  | required
  /-- May be missing in an object. -/
  | optional
  /-- May be missing in an object, and at the end of an array. -/
  | default
  /-- The fields of this record stand beside the others. Such a record is never an array. -/
  | merged
deriving DecidableEq

mutual

inductive Schema
  | any
  | bool
  /-- A whole number from zero up to `limit`, of the type with this name. -/
  | natural (name : String) (limit : Nat)
  | int32
  | text
  | path
  | url
  | optional (content : Schema)
  | list (item : Schema)
  | table (item : Schema)
  | variants (names : List String)
  | record (name : String) (fields : Fields)
  /-- The named choice between a 32-bit number and a text. -/
  | numberOrText (name : String)
  /-- The named choice between a truth value and an object. -/
  | boolOrObject (name : String) (content : Schema)
  /-- Null, a truth value, or else the content. -/
  | unlessBool (content : Schema)

inductive Fields
  | nil
  | cons (name : String) (presence : Presence) (schema : Schema) (rest : Fields)

end

def Schema.uint32 : Schema := .natural "u32" (UInt32.size - 1)

namespace Fields

def count : Fields → Nat
  | .nil => 0
  | .cons _ .merged _ rest => rest.count
  | .cons _ _ _ rest => rest.count + 1

def hasMerged : Fields → Bool
  | .nil => false
  | .cons _ p _ rest => p = .merged || rest.hasMerged

/-- Whether a member of this name is a field. -/
def declares (key : String) : Fields → Bool
  | .nil => false
  | .cons name p _ rest => (name = key && p ≠ .merged) || rest.declares key

/-- The fault of the first field that may not be missing. -/
def missing (present : List String) : Fields → Except Fault Unit
  | .nil => .ok ()
  | .cons name .required _ rest =>
    if present.contains name then rest.missing present else .error (.missingField name)
  | .cons _ _ _ rest => rest.missing present

/-- Appends fields, all of which may be missing. -/
def ofOptional : List (String × Schema) → Fields
  | [] => .nil
  | (name, s) :: rest => .cons name .optional (.optional s) (ofOptional rest)

/-- Fields that have to be there, before others. -/
def ofRequired (fields : List (String × Schema)) (rest : Fields) : Fields :=
  fields.foldr (fun f rest => .cons f.1 .required f.2 rest) rest

def append : Fields → Fields → Fields
  | .nil, others => others
  | .cons name p s rest, others => .cons name p s (rest.append others)

/-- Fields each of which has a default. -/
def ofDefault : List (String × Schema) → Fields
  | [] => .nil
  | (name, s) :: rest => .cons name .default s (ofDefault rest)

end Fields

/-- What an array of too few fields should have been. -/
def recordOf (name : String) (count : Nat) : String :=
  "struct " ++ name ++ " with " ++ counted count "element"

def checkNatural (name : String) (limit : Nat) {ν : Type} (v : View ν) : Except Fault Unit :=
  match v with
  | .number (.natural n) =>
    if n.toNat ≤ limit then .ok () else .error (.wrongValue (.number (.natural n)) name)
  | .number (.negative n) => .error (.wrongValue (.number (.negative n)) name)
  | v => v.refuse name

/-- The first number beyond 32 signed bits. -/
def int32Limit : Nat := UInt32.size / 2

def checkInt32 {ν : Type} (v : View ν) : Except Fault Unit :=
  match v with
  | .number (.natural n) =>
    if n.toNat < int32Limit then .ok () else .error (.wrongValue (.number (.natural n)) "i32")
  | .number (.negative n) =>
    if -(int32Limit : Int) ≤ n.toInt then .ok ()
    else .error (.wrongValue (.number (.negative n)) "i32")
  | v => v.refuse "i32"

/-- The content of a variant, if there is one, is null. -/
def checkUnit {ν : Type} [Document ν] : Option ν → Except Fault Unit
  | none => .ok ()
  | some d =>
    match Document.view d with
    | .null => .ok ()
    | v => v.refuse "unit"

def checkUrl {ν : Type} (v : View ν) : Except Fault Unit :=
  match v with
  | .text s =>
    match Url.parse s with
    | .ok _ => .ok ()
    | .error f => .error (.badUrl f.message s)
  | v => v.refuse "a string representing an URL"

/-- A choice that fits neither way does not say why. -/
def checkNumberOrText (choice : String) {ν : Type} (v : View ν) : Except Fault Unit :=
  match v with
  | .text _ => .ok ()
  | v =>
    match checkInt32 v with
    | .ok _ => .ok ()
    | .error _ => .error (.noAlternative choice)

def checkVariant (names : List String) {ν : Type} [Document ν] (d : ν) : Except Fault Unit := do
  let (name, content, ending) ← Document.variant d
  if names.contains name then
    checkUnit content
    match ending with
    | some f => .error f
    | none => .ok ()
  else .error (.unknownVariant name names)

def checkEnding : Option Fault → Except Fault Unit
  | none => .ok ()
  | some f => .error f

def checkEach {α : Type} (check : α → Except Fault Unit) : List α → Except Fault Unit
  | [] => .ok ()
  | a :: rest => do check a; checkEach check rest

/-- Checks the members of an object in their order and returns the names of the fields met. -/
def checkMembers {ν : Type} [Document ν] (declares : String → Bool)
    (check : String → ν → Except Fault Unit) (present : List String) :
    List (String × ν) → Except Fault (List String)
  | [] => .ok present
  | (key, d) :: rest =>
    if declares key then
      if present.contains key then .error (.duplicateField key)
      else do
        check key d
        checkMembers declares check (key :: present) rest
    else do
      Document.skip d
      checkMembers declares check present rest

mutual

/-- The first fault of a document, if it has any. -/
def Schema.check : (s : Schema) → {ν : Type} → [Document ν] → ν → Except Fault Unit
  | .any, _, _, d => Document.whole d
  | .bool, _, _, d =>
    match Document.view d with
    | .bool _ => .ok ()
    | v => v.refuse "a boolean"
  | .natural name limit, _, _, d => checkNatural name limit (Document.view d)
  | .int32, _, _, d => checkInt32 (Document.view d)
  | .text, _, _, d =>
    match Document.view d with
    | .text _ => .ok ()
    | v => v.refuse "a string"
  | .path, _, _, d =>
    match Document.view d with
    | .text _ => .ok ()
    | v => v.refuse "path string"
  | .url, _, _, d => checkUrl (Document.view d)
  | .optional s, _, _, d => do
    if (← Document.absent d) then return
    s.check d
  | .list s, _, _, d =>
    match Document.view d with
    | .array items ending => do
      checkEach (fun item => s.check item) items
      checkEnding ending
    | v => v.refuse "a sequence"
  | .table s, _, _, d =>
    match Document.view d with
    | .object members ending => do
      checkEach (fun m => s.check m.2) members
      checkEnding ending
    | v => v.refuse "a map"
  | .variants names, _, _, d => checkVariant names d
  | .numberOrText choice, _, _, d => checkNumberOrText choice (Document.view d)
  | .boolOrObject choice s, _, _, d =>
    match Document.view d with
    | .bool _ => .ok ()
    | .object _ _ =>
      match s.check d with
      | .ok _ => .ok ()
      | .error _ => .error (.noAlternative choice)
    | _ => .error (.noAlternative choice)
  | .unlessBool s, _, _, d =>
    match Document.view d with
    | .null => .ok ()
    | .bool _ => .ok ()
    | _ => s.check d
  | .record name fields, _, _, d =>
    match Document.view d with
    | .object members ending => do
      let present ← checkMembers fields.declares (fun key d => fields.checkField key d) [] members
      checkEnding ending
      fields.missing present
      fields.checkMerged (members.map fun m => (m.1, Document.value m.2))
    | .array items ending =>
      if fields.hasMerged then .error (.wrongType .sequence ("struct " ++ name))
      else do
        fields.checkItems (recordOf name fields.count) 0 ending items
        if fields.count ≤ items.length then Document.endAfter d fields.count
    | v => v.refuse ("struct " ++ name)

/-- Checks the content of one field. -/
def Fields.checkField : (fields : Fields) → String → {ν : Type} → [Document ν] → ν →
    Except Fault Unit
  | .nil, _, _, _, _ => .ok ()
  | .cons name p s rest, key, _, _, d =>
    if name = key && p ≠ .merged then s.check d else rest.checkField key d

/-- Checks items as the fields of a record, in the order of declaration. -/
def Fields.checkItems : (fields : Fields) → (expected : String) → (index : Nat) →
    (ending : Option Fault) → {ν : Type} → [Document ν] → List ν → Except Fault Unit
  | .nil, _, _, _, _, _, _ => .ok ()
  | .cons _ _ s rest, expected, index, ending, _, _, d :: items => do
    s.check d
    rest.checkItems expected (index + 1) ending items
  | .cons _ p _ rest, expected, index, ending, ν, _, [] => do
    checkEnding ending
    if p = .default then rest.checkItems expected (index + 1) ending ([] : List ν)
    else .error (.wrongLength index expected)

/-- Checks the merged records on the members of the object. -/
def Fields.checkMerged : (fields : Fields) → List (String × Json) → Except Fault Unit
  | .nil, _ => .ok ()
  | .cons _ p s rest, members => do
    if p = .merged then s.check (Gathered.mk (.object members))
    rest.checkMerged members

end

/-- A document read by a schema. -/
def Schema.decode {ν α : Type} [Document ν] (s : Schema) (read : Json → α) (d : ν) :
    Except Fault α := do
  s.check d
  return read (Document.value d)

/-! ## Values of accepted documents -/

namespace Json

/-- The field of a record: the member of an object, or the item at its place. -/
def field (index : Nat) (name : String) : Json → Json
  | .object members => (lookupEntry name members).getD .null
  | .array items => items.getD index .null
  | _ => .null

def asNat : Json → Nat
  | .number (.natural n) => n.toNat
  | _ => 0

def asInt : Json → Int
  | .number (.natural n) => n.toNat
  | .number (.negative n) => n.toInt
  | _ => 0

def asBool (j : Json) : Bool := j.bool?.getD false

def asText (j : Json) : String := j.text?.getD ""

/-- An absent value is null. -/
def asOption {α : Type} (read : Json → α) : Json → Option α
  | .null => none
  | j => some (read j)

def asList {α : Type} (read : Json → α) (j : Json) : List α := j.items.map read

/-- A field with a default, which also a missing item or member has. -/
def fieldD {α : Type} (index : Nat) (name : String) (read : Json → α) (default : α) :
    Json → α
  | .object members => ((lookupEntry name members).map read).getD default
  | .array items => (items[index]?.map read).getD default
  | _ => default

/-- The name of a variant. -/
def variantName : Json → String
  | .text s => s
  | .object [(name, _)] => name
  | _ => ""

end Json

end ScanRelay
