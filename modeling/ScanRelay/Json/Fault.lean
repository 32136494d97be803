import ScanRelay.Json.Lexeme
import ScanRelay.Text.Quoted

/-!
# Faults of documents

Why a document is not what a reader expects. `Fault.message` puts each cause into words.
-/

namespace ScanRelay

/-- What stands where something else was expected. -/
inductive Found
  | bool (b : Bool)
  | number (n : JsonNumber)
  | text (s : String)
  | null
  | sequence
  | map

def Found.message : Found → String
  | bool b => "boolean `" ++ (if b then "true" else "false") ++ "`"
  | number (.natural n) => "integer `" ++ toString n.toNat ++ "`"
  | number (.negative n) => "integer `" ++ toString n.toInt ++ "`"
  | number (.double x) => "floating point `" ++ x.toText ++ "`"
  | text s => "string " ++ Quoted.quote s
  | null => "null"
  | sequence => "sequence"
  | map => "map"

inductive Fault
  | wrongType (found : Found) (expected : String)
  | wrongValue (found : Found) (expected : String)
  | wrongLength (length : Nat) (expected : String)
  | unknownVariant (name : String) (known : List String)
  | missingField (name : String)
  | duplicateField (name : String)
  /-- A text that should be a URL is none, for the given reason. -/
  | badUrl (reason text : String)
  /-- No alternative of the named choice fits. -/
  | noAlternative (choice : String)
  | malformed (fault : Json.SyntaxFault)

/-- `1 element`, `2 elements` and so on. -/
def counted (n : Nat) (noun : String) : String :=
  toString n ++ " " ++ noun ++ (if n = 1 then "" else "s")

/-- Names as the alternatives of a sentence. -/
def alternatives (names : List String) : String :=
  match names with
  | [] => "there are no variants"
  | [a] => "expected `" ++ a ++ "`"
  | [a, b] => "expected `" ++ a ++ "` or `" ++ b ++ "`"
  | _ => "expected one of " ++ ", ".intercalate (names.map fun n => "`" ++ n ++ "`")

def Fault.message : Fault → String
  | wrongType found expected => "invalid type: " ++ found.message ++ ", expected " ++ expected
  | wrongValue found expected => "invalid value: " ++ found.message ++ ", expected " ++ expected
  | wrongLength n expected => "invalid length " ++ toString n ++ ", expected " ++ expected
  | unknownVariant name known => "unknown variant `" ++ name ++ "`, " ++ alternatives known
  | missingField name => "missing field `" ++ name ++ "`"
  | duplicateField name => "duplicate field `" ++ name ++ "`"
  | badUrl reason text => reason ++ ": " ++ Quoted.quote text
  | noAlternative choice => "data did not match any variant of untagged enum " ++ choice
  | malformed fault => fault.message

end ScanRelay
