import ScanRelay.Json.Basic

/-!
# Printing JSON

The compact text of a value. Only quotes, backslashes and control characters are escaped.
-/

namespace ScanRelay.Json

def escapeChar (c : Char) : String :=
  if c = '"' then "\\\""
  else if c = '\\' then "\\\\"
  else if c = '\n' then "\\n"
  else if c = '\r' then "\\r"
  else if c = '\t' then "\\t"
  else if c.toNat = 8 then "\\b"
  else if c.toNat = 12 then "\\f"
  else if c.toNat < 0x20 then
    "\\u00" ++ String.ofList [Nat.digitChar (c.toNat / 16), Nat.digitChar (c.toNat % 16)]
  else c.toString

def quoteText (s : String) : String := "\"" ++ String.join (s.toList.map escapeChar) ++ "\""

def numberText : JsonNumber → String
  | .natural n => toString n.toNat
  | .negative n => toString n.toInt
  | .double x => x.toText

mutual

/-- The text of a value. -/
def toText : Json → String
  | .null => "null"
  | .bool b => if b then "true" else "false"
  | .number n => numberText n
  | .text s => quoteText s
  | .array xs => "[" ++ itemsText xs ++ "]"
  | .object ms => "\x7b" ++ membersText ms ++ "\x7d"

def itemsText : List Json → String
  | [] => ""
  | [x] => toText x
  | x :: y :: rest => toText x ++ "," ++ itemsText (y :: rest)

def membersText : List (String × Json) → String
  | [] => ""
  | [(k, v)] => quoteText k ++ ":" ++ toText v
  | (k, v) :: m :: rest => quoteText k ++ ":" ++ toText v ++ "," ++ membersText (m :: rest)

end

end ScanRelay.Json
