import ScanRelay.Editor.Message
import ScanRelay.Json.Printer

/-!
# Frames

A message travels as a head and a body. The head is lines of a name and a value, among them the
number of bytes of the body, and ends with an empty line.
-/

namespace ScanRelay

/-- A line of a head. -/
inductive HeadLine
  /-- The end of the head. -/
  | blank
  | length (bytes : Nat)
  /-- Another name. -/
  | other
  | malformed
deriving DecidableEq

namespace HeadLine

def lengthName : String := "content-length"

/-- The least number of bytes that cannot be announced. -/
def lengthLimit : Nat := UInt64.size

def digit? (c : Char) : Option Nat := if c.isDigit then some (c.toNat - '0'.toNat) else none

/-- A number of at least one digit, with or without a plus sign before it. -/
def number? (cs : List Char) : Option Nat :=
  let digits :=
    match cs with
    | '+' :: rest => rest
    | _ => cs
  if digits.isEmpty then none
  else do
    let ds ← digits.mapM digit?
    let n := ds.foldl (fun n d => 10 * n + d) 0
    if n < lengthLimit then some n else none

/-- The parts before and after the first colon that a blank follows. -/
def cut : List Char → Option (List Char × List Char)
  | ':' :: ' ' :: rest => some ([], rest)
  | c :: rest => (cut rest).map fun p => (c :: p.1, p.2)
  | [] => none

/-- The line without the two characters that end it. -/
def content? (line : List Char) : Option (List Char) :=
  match line.reverse with
  | '\n' :: '\r' :: rest => some rest.reverse
  | _ => none

def ofText (line : String) : HeadLine :=
  match content? line.toList with
  | none => malformed
  | some [] => blank
  | some cs =>
    match cut cs with
    | none => malformed
    | some (name, value) =>
      if name.map Char.toLower = lengthName.toList then
        match number? value with
        | some n => length n
        | none => malformed
      else other

end HeadLine

/-- A message as JSON, with the version of the protocol. -/
def Message.toWire (m : Message) : Json :=
  match m.toJson with
  | .object members => .object (insertEntry "jsonrpc" (.text "2.0") members)
  | j => j

/-- The frame around a body. -/
def frame (body : String) : String :=
  "Content-Length: " ++ toString body.utf8ByteSize ++ "\r\n\r\n" ++ body

end ScanRelay
