import ScanRelay.Text.Printable

/-!
# Quoted text

The form in which an error message shows a piece of text: between double quotes, with everything
escaped that would not show.
-/

namespace ScanRelay.Quoted

/-- The hexadecimal digits of a code point, without leading zeros. -/
def hex (n : Nat) : String := String.ofList (Nat.toDigits 16 n)

def escape (c : Char) : String :=
  if c = '"' then "\\\""
  else if c = '\\' then "\\\\"
  else if c = '\n' then "\\n"
  else if c = '\r' then "\\r"
  else if c = '\t' then "\\t"
  else if c.toNat = 0 then "\\0"
  else if c.toNat < 0x20 || c.toNat = 0x7F || 0x80 ≤ c.toNat && !isPrintable c then
    "\\u\x7b" ++ hex c.toNat ++ "\x7d"
  else c.toString

def quote (s : String) : String := "\"" ++ String.join (s.toList.map escape) ++ "\""

end ScanRelay.Quoted
