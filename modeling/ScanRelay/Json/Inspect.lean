import ScanRelay.Json.Printer
import ScanRelay.Text.Quoted

/-!
# Inspected values

The form in which a refusal shows a JSON value: every value stands under the name of its kind.
-/

namespace ScanRelay.Json

mutual

def inspect : Json → String
  | .null => "Null"
  | .bool b => if b then "Bool(true)" else "Bool(false)"
  | .number n => "Number(" ++ numberText n ++ ")"
  | .text s => "String(" ++ Quoted.quote s ++ ")"
  | .array xs => "Array [" ++ ", ".intercalate (inspectItems xs) ++ "]"
  | .object ms => "Object \x7b" ++ ", ".intercalate (inspectMembers ms) ++ "\x7d"

def inspectItems : List Json → List String
  | [] => []
  | x :: rest => inspect x :: inspectItems rest

def inspectMembers : List (String × Json) → List String
  | [] => []
  | (k, v) :: rest => (Quoted.quote k ++ ": " ++ inspect v) :: inspectMembers rest

end

end ScanRelay.Json
