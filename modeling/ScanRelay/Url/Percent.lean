import ScanRelay.Text.Utf8

/-!
# Percent encoding

Each part of a URL has a set of characters that are written as the hexadecimal values of their
UTF-8 bytes. Characters beyond ASCII are in every set. Reading turns each `%` with two hexadecimal
digits into a byte and leaves everything else as it is.
-/

namespace ScanRelay.Percent

/-- Controls, and everything beyond ASCII. -/
def isControl (c : Char) : Bool := c.toNat < 0x20 || 0x7F ≤ c.toNat

def inFragment (c : Char) : Bool :=
  isControl c || c = ' ' || c = '"' || c = '<' || c = '>' || c.toNat = 0x60

def inQuery (c : Char) : Bool :=
  isControl c || c = ' ' || c = '"' || c = '#' || c = '<' || c = '>'

/-- The query of a web address. -/
def inWebQuery (c : Char) : Bool := inQuery c || c = '\''

def inPath (c : Char) : Bool := inFragment c || c = '#' || c = '?' || c = '{' || c = '}'

/-- One component of a file path as one segment of a URL. -/
def inSegment (c : Char) : Bool := inPath c || c = '/' || c = '%' || c = '\\'

def inUserInfo (c : Char) : Bool :=
  inPath c || c = '/' || c = ':' || c = ';' || c = '=' || c = '@' || c = '[' || c = '\\'
    || c = ']' || c = '^' || c = '|'

/-- A hexadecimal digit in upper case. -/
def hexDigit (n : Nat) : Char := if n < 10 then Char.ofNat (48 + n) else Char.ofNat (55 + n)

def encodeByte (b : UInt8) : List Char :=
  ['%', hexDigit (b.toNat / 16), hexDigit (b.toNat % 16)]

def encodeChar (inSet : Char → Bool) (c : Char) : List Char :=
  if inSet c then (String.utf8EncodeChar c).flatMap encodeByte else [c]

def encode (inSet : Char → Bool) (cs : List Char) : List Char := cs.flatMap (encodeChar inSet)

def hexValue? (b : UInt8) : Option Nat :=
  let n := b.toNat
  if 48 ≤ n && n ≤ 57 then some (n - 48)
  else if 65 ≤ n && n ≤ 70 then some (n - 55)
  else if 97 ≤ n && n ≤ 102 then some (n - 87)
  else none

/-- The byte of two hexadecimal digits. -/
def byteOf? (a b : UInt8) : Option UInt8 :=
  match hexValue? a, hexValue? b with
  | some x, some y => some (UInt8.ofNat (x * 16 + y))
  | _, _ => none

def decodeBytes : List UInt8 → List UInt8
  | p :: a :: b :: rest =>
    match decide (p.toNat = 37), byteOf? a b with
    | true, some byte => byte :: decodeBytes rest
    | _, _ => p :: decodeBytes (a :: b :: rest)
  | bytes => bytes

/-- The bytes that a piece of a URL stands for. -/
def decode (cs : List Char) : List UInt8 := decodeBytes (Utf8.encode cs)

end ScanRelay.Percent
