/-!
# Blank characters

White space as the Unicode standard lists it, and text without the white space around it.
-/

namespace ScanRelay

def isBlank (c : Char) : Bool :=
  let n := c.toNat
  (0x09 ≤ n && n ≤ 0x0D) || n = 0x20 || n = 0x85 || n = 0xA0 || n = 0x1680
    || (0x2000 ≤ n && n ≤ 0x200A) || n = 0x2028 || n = 0x2029 || n = 0x202F || n = 0x205F
    || n = 0x3000

/-- Drops the characters that satisfy `p` at both ends. -/
def trimBoth (p : Char → Bool) (cs : List Char) : List Char :=
  (((cs.dropWhile p).reverse).dropWhile p).reverse

def trimBlank (s : String) : String := String.ofList (trimBoth isBlank s.toList)

/-- Whether a text is empty or all white space. -/
def allBlank (s : String) : Bool := s.toList.all isBlank

end ScanRelay
