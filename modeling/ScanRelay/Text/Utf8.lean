/-!
# UTF-8

Text as bytes. Reading is total: each longest piece of an ill-formed sequence that could still have
begun a character becomes one replacement character.
-/

namespace ScanRelay.Utf8

def encode (cs : List Char) : List UInt8 := cs.flatMap String.utf8EncodeChar

/-- Stands for bytes that are no character. -/
def replacement : Char := Char.ofNat 0xFFFD

/-- A byte that continues a character. -/
def isContinuation (b : UInt8) : Bool := 0x80 ≤ b.toNat && b.toNat < 0xC0

/-- The second bytes that keep the character begun by `lead` shortest, no surrogate, and within the
code space. -/
def isSecond (lead second : UInt8) : Bool :=
  if lead.toNat = 0xE0 then 0xA0 ≤ second.toNat && second.toNat < 0xC0
  else if lead.toNat = 0xED then 0x80 ≤ second.toNat && second.toNat < 0xA0
  else if lead.toNat = 0xF0 then 0x90 ≤ second.toNat && second.toNat < 0xC0
  else if lead.toNat = 0xF4 then 0x80 ≤ second.toNat && second.toNat < 0x90
  else isContinuation second

/-- How many bytes the character begun by `lead` has; 0 when none begins so. -/
def width (lead : UInt8) : Nat :=
  let n := lead.toNat
  if n < 0x80 then 1 else if n < 0xC2 then 0 else if n < 0xE0 then 2
  else if n < 0xF0 then 3 else if n < 0xF5 then 4 else 0

/-- The character at the head of the bytes, with the number of further bytes it takes. -/
def decodeHead (lead : UInt8) (rest : List UInt8) : Char × Nat :=
  let a := lead.toNat
  match width lead, rest with
  | 1, _ => (Char.ofNat a, 0)
  | 2, b :: _ =>
    if isContinuation b then (Char.ofNat (a % 32 * 64 + b.toNat % 64), 1) else (replacement, 0)
  | 3, b :: c :: _ =>
    if isSecond lead b then
      if isContinuation c then
        (Char.ofNat (a % 16 * 4096 + b.toNat % 64 * 64 + c.toNat % 64), 2)
      else (replacement, 1)
    else (replacement, 0)
  | 3, [b] => if isSecond lead b then (replacement, 1) else (replacement, 0)
  | 4, b :: c :: d :: _ =>
    if isSecond lead b then
      if isContinuation c then
        if isContinuation d then
          (Char.ofNat (a % 8 * 262144 + b.toNat % 64 * 4096 + c.toNat % 64 * 64 + d.toNat % 64), 3)
        else (replacement, 2)
      else (replacement, 1)
    else (replacement, 0)
  | 4, [b, c] =>
    if isSecond lead b then if isContinuation c then (replacement, 2) else (replacement, 1)
    else (replacement, 0)
  | 4, [b] => if isSecond lead b then (replacement, 1) else (replacement, 0)
  | _, _ => (replacement, 0)

def decode : List UInt8 → List Char
  | [] => []
  | lead :: rest =>
    let head := decodeHead lead rest
    head.1 :: decode (rest.drop head.2)
termination_by bytes => bytes.length
decreasing_by
  simp only [List.length_drop, List.length_cons]
  omega

def decodeText (bytes : List UInt8) : String := String.ofList (decode bytes)

end ScanRelay.Utf8
