import ScanRelay.Json.Basic
import ScanRelay.Text.Utf8

/-!
# Words of JSON

Numbers and quoted text inside a JSON text. A word is read in two ways: for its value, and only to
pass over it. Some words can be passed over though they have no value, such as a number out of
range, so a lexeme keeps both answers.
-/

namespace ScanRelay.Json

/-- Why a text is not JSON. -/
inductive SyntaxFault
  | eofInList
  | eofInObject
  | eofInText
  | eofInValue
  | expectedColon
  | expectedCommaOrBracket
  | expectedCommaOrBrace
  | expectedWord
  | expectedValue
  | invalidEscape
  | invalidNumber
  | numberOutOfRange
  | controlCharacter
  | keyNotText
  | loneSurrogate
  | endOfEscape
  | trailingComma
  | trailingCharacters
  | tooDeep
deriving DecidableEq, Inhabited

def SyntaxFault.message : SyntaxFault → String
  | eofInList => "EOF while parsing a list"
  | eofInObject => "EOF while parsing an object"
  | eofInText => "EOF while parsing a string"
  | eofInValue => "EOF while parsing a value"
  | expectedColon => "expected `:`"
  | expectedCommaOrBracket => "expected `,` or `]`"
  | expectedCommaOrBrace => "expected `,` or `\x7d`"
  | expectedWord => "expected ident"
  | expectedValue => "expected value"
  | invalidEscape => "invalid escape"
  | invalidNumber => "invalid number"
  | numberOutOfRange => "number out of range"
  | controlCharacter => "control character (\\u0000-\\u001F) found while parsing a string"
  | keyNotText => "key must be a string"
  | loneSurrogate => "lone leading surrogate in hex escape"
  | endOfEscape => "unexpected end of hex escape"
  | trailingComma => "trailing comma"
  | trailingCharacters => "trailing characters"
  | tooDeep => "recursion limit exceeded"

/-- A word read for its value, and passed over. `passing = none` means that reading can go on after
it. -/
structure Lexeme (α : Type) where
  value : Except SyntaxFault α
  passing : Option SyntaxFault

namespace Lexeme

/-- A word at which all reading ends: by `value` for its value, by `passing` when passed over. -/
def stop {α : Type} (value passing : SyntaxFault) : Lexeme α := ⟨.error value, some passing⟩

end Lexeme

/-! ## Numbers -/

/-- The parts of a written number. -/
structure Numeral where
  negative : Bool
  whole : List Nat
  fraction : List Nat
  exponent : Int
  /-- Neither a point nor an exponent is written. -/
  isWhole : Bool

namespace Numeral

/-- The greatest significand that is kept exactly. -/
def limit : Nat := UInt64.size - 1

/-- Appends digits to a significand while it stays within the limit, and returns the others. -/
def appendDigits (n : Nat) : List Nat → Nat × List Nat
  | [] => (n, [])
  | d :: rest => if limit < n * 10 + d then (n, d :: rest) else appendDigits (n * 10 + d) rest

/-- Whole numbers that fit are exact, minus zero and all else become doubles. Digits beyond the
limit of the significand count as zeros before the point and are dropped after it. -/
def toNumber? (x : Numeral) : Option JsonNumber :=
  let (n, rest) := appendDigits 0 x.whole
  if x.isWhole && rest.isEmpty then
    if !x.negative then some (.natural (UInt64.ofNat n))
    else if n = 0 || UInt64.size / 2 < n then (Double.ofNat? true n).map .double
    else some (.negative (Int64.ofInt (-(n : Int))))
  else
    let (m, dropped) := appendDigits n x.fraction
    let scale : Int := (rest.length : Int) - ((x.fraction.length - dropped.length : Nat) : Int)
    (Double.ofDecimal? x.negative m (scale + x.exponent)).map .double

end Numeral

def digits (cs : List Char) : List Nat := (cs.takeWhile Char.isDigit).map fun c => c.toNat - 48

def afterDigits (cs : List Char) : List Char := cs.dropWhile Char.isDigit

/-- Completes a number after its digits and fraction with its exponent. -/
def numberTail (x : Numeral) (cs : List Char) : Lexeme JsonNumber × List Char :=
  let finish (x : Numeral) (rest : List Char) : Lexeme JsonNumber × List Char :=
    match x.toNumber? with
    | some n => (⟨.ok n, none⟩, rest)
    | none => (⟨.error .numberOutOfRange, none⟩, rest)
  match cs with
  | c :: r =>
    if c = 'e' || c = 'E' then
      let (down, r) : Bool × List Char := match r with
        | '-' :: r => (true, r)
        | '+' :: r => (false, r)
        | _ => (false, r)
      match digits r with
      | [] => (if r.isEmpty then .stop .eofInValue .invalidNumber
          else .stop .invalidNumber .invalidNumber, [])
      | ds =>
        let e : Nat := ds.foldl (fun n d => n * 10 + d) 0
        let exponent : Int := if down then -(e : Int) else e
        finish { x with exponent := exponent, isWhole := false } (afterDigits r)
    else finish x cs
  | [] => finish x cs

/-- A number after its sign. -/
def unsignedNumber (negative : Bool) (cs : List Char) : Lexeme JsonNumber × List Char :=
  match digits cs with
  | [] => (if cs.isEmpty then .stop .eofInValue .invalidNumber
      else .stop .invalidNumber .invalidNumber, [])
  | ds =>
    if ds.head? = some 0 && 1 < ds.length then (.stop .invalidNumber .invalidNumber, [])
    else
      match afterDigits cs with
      | '.' :: r =>
        match digits r with
        | [] => (if r.isEmpty then .stop .eofInValue .invalidNumber
            else .stop .invalidNumber .invalidNumber, [])
        | fs => numberTail ⟨negative, ds, fs, 0, false⟩ (afterDigits r)
      | r => numberTail ⟨negative, ds, [], 0, true⟩ r

/-- The number at the head of a text that begins with a digit or a minus sign. -/
def numberLexeme : List Char → Lexeme JsonNumber × List Char
  | '-' :: r => unsignedNumber true r
  | cs => unsignedNumber false cs

/-! ## Quoted text -/

def hexDigit? (c : Char) : Option Nat :=
  if '0' ≤ c && c ≤ '9' then some (c.toNat - 48)
  else if 'a' ≤ c && c ≤ 'f' then some (c.toNat - 87)
  else if 'A' ≤ c && c ≤ 'F' then some (c.toNat - 55)
  else none

/-- The number of the four hexadecimal digits at the head of a text, which has to go on for at least
four bytes. -/
def hexEscape (cs : List Char) : Except SyntaxFault Nat :=
  if (Utf8.encode (cs.take 4)).length < 4 then .error .eofInText
  else
    match (cs.take 4).map hexDigit? with
    | [some a, some b, some c, some d] => .ok (((a * 16 + b) * 16 + c) * 16 + d)
    | _ => .error .invalidEscape

/-- The character that the second half of an escaped pair completes. -/
def secondHalf (first : Nat) : List Char → Except SyntaxFault Char
  | '\\' :: 'u' :: r =>
    match hexEscape r with
    | .ok n =>
      if 0xDC00 ≤ n && n ≤ 0xDFFF then
        .ok (Char.ofNat (0x10000 + (first - 0xD800) * 1024 + (n - 0xDC00)))
      else .error .loneSurrogate
    | .error f => .error f
  | '\\' :: _ :: _ => .error .endOfEscape
  | ['\\'] => .error .eofInText
  | _ :: _ => .error .endOfEscape
  | [] => .error .eofInText

/-- The character that a single letter after a backslash stands for. -/
def shortEscape? (c : Char) : Option Char :=
  if c = '"' || c = '\\' || c = '/' then some c
  else if c = 'b' then some (Char.ofNat 8)
  else if c = 'f' then some (Char.ofNat 12)
  else if c = 'n' then some '\n'
  else if c = 'r' then some '\r'
  else if c = 't' then some '\t'
  else none

/-- One step through quoted text. -/
inductive TextStep
  | closed (rest : List Char)
  | stopped (fault : SyntaxFault)
  /-- The next piece stands for a character, or only passes as text. -/
  | piece (value : Except SyntaxFault Char) (rest : List Char)

def textStep : List Char → TextStep
  | [] => .stopped .eofInText
  | '"' :: r => .closed r
  | '\\' :: 'u' :: r =>
    match hexEscape r with
    | .error f => .stopped f
    | .ok n =>
      let rest := r.drop 4
      if n < 0xD800 || 0xDFFF < n then .piece (.ok (Char.ofNat n)) rest
      else if 0xDC00 ≤ n then .piece (.error .loneSurrogate) rest
      else
        match secondHalf n rest with
        | .ok c => .piece (.ok c) (rest.drop 6)
        | .error f => .piece (.error f) rest
  | ['\\'] => .stopped .eofInText
  | '\\' :: c :: r =>
    match shortEscape? c with
    | some c => .piece (.ok c) r
    | none => .stopped .invalidEscape
  | c :: r => if c.toNat < 0x20 then .stopped .controlCharacter else .piece (.ok c) r

theorem textStep_length {cs rest : List Char} {value : Except SyntaxFault Char}
    (h : textStep cs = .piece value rest) : rest.length < cs.length := by
  unfold textStep at h
  split at h <;> try (simp at h; done)
  · split at h
    · simp at h
    · dsimp only at h
      split at h
      · simp only [TextStep.piece.injEq] at h
        simp only [← h.2, List.length_cons, List.length_drop]; omega
      · split at h
        · simp only [TextStep.piece.injEq] at h
          simp only [← h.2, List.length_cons, List.length_drop]; omega
        · split at h <;> simp only [TextStep.piece.injEq] at h <;>
            simp only [← h.2, List.length_cons, List.length_drop] <;> omega
  · split at h <;> simp at h
    simp only [← h.2, List.length_cons]; omega
  · split at h <;> simp at h
    simp only [← h.2, List.length_cons]; omega

/-- Quoted text after its opening quote; `read` is what came before, in reverse. -/
def textTail (read : Except SyntaxFault (List Char)) (cs : List Char) :
    Lexeme String × List Char :=
  match _h : textStep cs with
  | .closed rest => (⟨read.map fun r => String.ofList r.reverse, none⟩, rest)
  | .stopped f => (⟨match read with | .ok _ => .error f | .error e => .error e, some f⟩, [])
  | .piece value rest =>
    textTail (match read with
      | .ok r => value.map (· :: r)
      | .error e => .error e) rest
termination_by cs.length
decreasing_by exact textStep_length _h

/-- The quoted text at the head of a text, after its opening quote. -/
def textLexeme (cs : List Char) : Lexeme String × List Char := textTail (.ok []) cs

end ScanRelay.Json
