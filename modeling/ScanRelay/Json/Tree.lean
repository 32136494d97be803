import ScanRelay.Json.Document
import ScanRelay.Text.Blank

/-!
# JSON texts as trees

The tree of a text keeps all that reading may meet: words without a value, containers that do not
end, and how deep each container lies. A text that is no JSON at all still has a tree, and the tree
of a document that nobody asks for can be passed over more easily than it can be read.
-/

namespace ScanRelay.Json

/-- How a container goes on after its last item. -/
inductive Ending
  | closed
  /-- The text ends where the container should end or go on. -/
  | cut
  /-- Something other than a comma or the end of the container. -/
  | unseparated
  /-- The container ends after a comma. -/
  | trailingComma
  /-- No quote where a member should begin, after a comma or at the start. -/
  | noKey (afterComma : Bool)
  /-- The text ends after a comma. -/
  | cutAfterComma
deriving DecidableEq

inductive Tree
  | null
  | bool (b : Bool)
  | number (n : Lexeme JsonNumber)
  | text (s : Lexeme String)
  /-- `level` counts the containers around the items. -/
  | array (level : Nat) (items : List Tree) (ending : Ending)
  | object (level : Nat) (members : List (Lexeme String × Tree)) (ending : Ending)
  /-- No value stands here. -/
  | missing (fault : SyntaxFault)
  /-- The word `true` or `false`, begun and not ended. -/
  | broken (fault : SyntaxFault)
  /-- The word `null`, begun and not ended. -/
  | brokenNull (fault : SyntaxFault)

namespace Ending

/-- The fault of a list when it is read. -/
def listFault : Ending → Option SyntaxFault
  | closed => none
  | cut => some .eofInList
  | unseparated => some .expectedCommaOrBracket
  | trailingComma => some .trailingComma
  | noKey _ => some .expectedValue
  | cutAfterComma => some .eofInValue

/-- The fault of a list when it is passed over. -/
def listSkipFault : Ending → Option SyntaxFault
  | trailingComma => some .expectedValue
  | e => e.listFault

/-- The fault of a list whose items are all taken. -/
def listEndFault : Ending → Option SyntaxFault
  | closed => none
  | cut => some .eofInList
  | trailingComma => some .trailingComma
  | _ => some .trailingCharacters

def objectFault : Ending → Option SyntaxFault
  | closed => none
  | cut => some .eofInObject
  | unseparated => some .expectedCommaOrBrace
  | trailingComma => some .trailingComma
  | noKey _ => some .keyNotText
  | cutAfterComma => some .eofInValue

def objectSkipFault : Ending → Option SyntaxFault
  | trailingComma => some .keyNotText
  | cutAfterComma => some .eofInObject
  | e => e.objectFault

/-- The fault of an object that has to end after its first member. -/
def soleMemberFault : Ending → Option SyntaxFault
  | closed => none
  | cut => some .eofInObject
  | _ => some .expectedValue

end Ending

/-! ## Reading the text -/

def skipBlank (cs : List Char) : List Char := cs.dropWhile fun c =>
  c = ' ' || c = '\n' || c = '\t' || c = '\r'

/-- The rest of a word after its first letter, or the fault in it. -/
def wordTail (word cs : List Char) : Except SyntaxFault (List Char) :=
  match word, cs with
  | [], rest => .ok rest
  | _ :: _, [] => .error .eofInValue
  | w :: ws, c :: rest => if w = c then wordTail ws rest else .error .expectedWord

def wordTree (word cs : List Char) (tree : Tree) (broken : SyntaxFault → Tree) :
    Tree × List Char :=
  match wordTail word cs with
  | .ok rest => (tree, rest)
  | .error f => (broken f, [])

/-- Whether reading goes on after a tree. -/
def Tree.passable : Tree → Bool
  | null => true
  | bool _ => true
  | number n => n.passing.isNone
  | text s => s.passing.isNone
  | array _ _ e => e = .closed
  | object _ _ e => e = .closed
  | missing _ => false
  | broken _ => false
  | brokenNull _ => false

mutual

/-- The tree at the head of a text, and the text after it. The text is at most `fuel` long. -/
def readTree (fuel : Nat) (level : Nat) (cs : List Char) : Tree × List Char :=
  match fuel with
  | 0 => (.missing .eofInValue, [])
  | fuel + 1 =>
    match skipBlank cs with
    | [] => (.missing .eofInValue, [])
    | 'n' :: rest => wordTree ['u', 'l', 'l'] rest .null .brokenNull
    | 't' :: rest => wordTree ['r', 'u', 'e'] rest (.bool true) .broken
    | 'f' :: rest => wordTree ['a', 'l', 's', 'e'] rest (.bool false) .broken
    | '"' :: rest =>
      let (s, rest) := textLexeme rest
      (.text s, rest)
    | '[' :: rest =>
      let (items, ending, rest) := readItems fuel (level + 1) true rest
      (.array (level + 1) items ending, rest)
    | '\x7b' :: rest =>
      let (members, ending, rest) := readMembers fuel (level + 1) true rest
      (.object (level + 1) members ending, rest)
    | c :: rest =>
      if c = '-' || c.isDigit then
        let (n, rest) := numberLexeme (c :: rest)
        (.number n, rest)
      else (.missing .expectedValue, [])

/-- The items of an array from here on. -/
def readItems (fuel : Nat) (level : Nat) (first : Bool) (cs : List Char) :
    List Tree × Ending × List Char :=
  match fuel with
  | 0 => ([], .cut, [])
  | fuel + 1 =>
    let item (cs : List Char) : List Tree × Ending × List Char :=
      let (t, rest) := readTree fuel level cs
      if t.passable then
        let (items, ending, rest) := readItems fuel level false rest
        (t :: items, ending, rest)
      else ([t], .cut, [])
    match skipBlank cs with
    | [] => ([], .cut, [])
    | ']' :: rest => ([], .closed, rest)
    | c :: rest =>
      if first then item (c :: rest)
      else if c = ',' then
        match skipBlank rest with
        | [] => ([], .cutAfterComma, [])
        | ']' :: rest => ([], .trailingComma, rest)
        | rest => item rest
      else ([], .unseparated, [])

/-- The members of an object from here on. -/
def readMembers (fuel : Nat) (level : Nat) (first : Bool) (cs : List Char) :
    List (Lexeme String × Tree) × Ending × List Char :=
  match fuel with
  | 0 => ([], .cut, [])
  | fuel + 1 =>
    let member (cs : List Char) : List (Lexeme String × Tree) × Ending × List Char :=
      let (key, rest) := textLexeme cs
      if key.passing.isSome then ([(key, .missing .eofInText)], .cut, [])
      else
        match skipBlank rest with
        | [] => ([(key, .missing .eofInObject)], .cut, [])
        | ':' :: rest =>
          let (t, rest) := readTree fuel level rest
          if t.passable then
            let (members, ending, rest) := readMembers fuel level false rest
            ((key, t) :: members, ending, rest)
          else ([(key, t)], .cut, [])
        | _ => ([(key, .missing .expectedColon)], .cut, [])
    match skipBlank cs with
    | [] => ([], .cut, [])
    | '\x7d' :: rest => ([], .closed, rest)
    | c :: rest =>
      if first then
        if c = '"' then member rest else ([], .noKey false, [])
      else if c = ',' then
        match skipBlank rest with
        | [] => ([], .cutAfterComma, [])
        | '"' :: rest => member rest
        | '\x7d' :: rest => ([], .trailingComma, rest)
        | _ => ([], .noKey true, [])
      else ([], .unseparated, [])

end

/-- The tree of a text and what follows it. -/
def treeOf (s : String) : Tree × List Char := readTree (s.length + 1) 0 s.toList

/-! ## Trees as documents -/

namespace Tree

/-- The members whose names can be read, and the fault after them. -/
def readable (ending : Ending) :
    List (Lexeme String × Tree) → List (String × Tree) × Option SyntaxFault
  | [] => ([], ending.objectFault)
  | (key, t) :: rest =>
    match key.value with
    | .ok name => let (members, f) := readable ending rest; ((name, t) :: members, f)
    | .error f => ([], some f)

def view : Tree → View Tree
  | null => .null
  | bool b => .bool b
  | number n =>
    match n.value with
    | .ok n => .number n
    | .error f => .broken (.malformed f)
  | text s =>
    match s.value with
    | .ok s => .text s
    | .error f => .broken (.malformed f)
  | array _ items ending => .array items (ending.listFault.map .malformed)
  | object _ members ending =>
    let (members, f) := readable ending members
    .object members (f.map .malformed)
  | missing f => .broken (.malformed f)
  | broken f => .broken (.malformed f)
  | brokenNull f => .broken (.malformed f)

def absent : Tree → Except Fault Bool
  | null => .ok true
  | brokenNull f => .error (.malformed f)
  | _ => .ok false

def stopAt : Option SyntaxFault → Except Fault Unit
  | none => .ok ()
  | some f => .error (.malformed f)

mutual

/-- The fault of passing over a tree. -/
def skip : Tree → Option SyntaxFault
  | null => none
  | bool _ => none
  | number n => n.passing
  | text s => s.passing
  | array _ items ending => (skipItems items).or ending.listSkipFault
  | object _ members ending => (skipMembers members).or ending.objectSkipFault
  | missing f => some f
  | broken f => some f
  | brokenNull f => some f

def skipItems : List Tree → Option SyntaxFault
  | [] => none
  | t :: rest => (skip t).or (skipItems rest)

def skipMembers : List (Lexeme String × Tree) → Option SyntaxFault
  | [] => none
  | (key, t) :: rest => key.passing.or ((skip t).or (skipMembers rest))

end

/-- Containers may lie this deep in one another. -/
def deepest : Nat := 127

def lexemeFault {α : Type} (x : Lexeme α) : Option SyntaxFault :=
  match x.value with
  | .ok _ => none
  | .error f => some f

mutual

/-- The fault of reading a tree that may be anything. -/
def whole : Tree → Option SyntaxFault
  | null => none
  | bool _ => none
  | number n => lexemeFault n
  | text s => lexemeFault s
  | array level items ending =>
    if deepest < level then some .tooDeep else (wholeItems items).or ending.listFault
  | object level members ending =>
    if deepest < level then some .tooDeep else (wholeMembers members).or ending.objectFault
  | missing f => some f
  | broken f => some f
  | brokenNull f => some f

def wholeItems : List Tree → Option SyntaxFault
  | [] => none
  | t :: rest => (whole t).or (wholeItems rest)

def wholeMembers : List (Lexeme String × Tree) → Option SyntaxFault
  | [] => none
  | (key, t) :: rest => (lexemeFault key).or ((whole t).or (wholeMembers rest))

end

mutual

/-- The value of a tree. What has no value counts as null. -/
def value : Tree → Json
  | null => .null
  | bool b => .bool b
  | number n =>
    match n.value with
    | .ok n => .number n
    | .error _ => .null
  | text s =>
    match s.value with
    | .ok s => .text s
    | .error _ => .null
  | array _ items _ => .array (valueItems items)
  | object _ members _ => Json.ofMembers (valueMembers members)
  | missing _ => .null
  | broken _ => .null
  | brokenNull _ => .null

def valueItems : List Tree → List Json
  | [] => []
  | t :: rest => value t :: valueItems rest

def valueMembers : List (Lexeme String × Tree) → List (String × Json)
  | [] => []
  | (key, t) :: rest =>
    match key.value with
    | .ok name => (name, value t) :: valueMembers rest
    | .error _ => valueMembers rest

end

/-- A variant written as an object: its member, and what has to come after it. -/
def variant (t : Tree) : Except Fault (String × Option Tree × Option Fault) :=
  match t with
  | object _ [] .closed => .error (.malformed .expectedValue)
  | object _ [] .cut => .error (.malformed .eofInValue)
  | object _ [] _ => .error (.malformed .keyNotText)
  | object _ ((key, content) :: rest) ending =>
    match key.value with
    | .error f => .error (.malformed f)
    | .ok name =>
      let after := if rest.isEmpty then ending.soleMemberFault else some .expectedValue
      .ok (name, some content, after.map .malformed)
  | text s =>
    match s.value with
    | .ok s => .ok (s, none, none)
    | .error f => .error (.malformed f)
  | missing f => .error (.malformed f)
  | _ => .error (.malformed .expectedValue)

instance : Document Tree where
  view := view
  absent := absent
  endAfter t taken :=
    match t with
    | array _ items ending =>
      if items.length ≤ taken then stopAt ending.listEndFault
      else .error (.malformed .trailingCharacters)
    | _ => .ok ()
  variant := variant
  skip t := stopAt t.skip
  whole t := stopAt t.whole
  value := value

end Tree

/-- Reads a text that holds one document. -/
def decodeText {α : Type} (check : Tree → Except Fault Unit) (read : Json → α) (s : String) :
    Except Fault α := do
  let (tree, rest) := treeOf s
  check tree
  if (skipBlank rest).isEmpty then return read tree.value
  else .error (.malformed .trailingCharacters)

/-- The value of a text. -/
def parse (s : String) : Except Fault Json := decodeText Document.whole id s

end ScanRelay.Json
