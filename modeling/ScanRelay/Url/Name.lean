import ScanRelay.Url.FoldTable
import ScanRelay.Url.Label
import ScanRelay.Url.Percent
import ScanRelay.Url.Punycode

/-!
# Names of hosts

The name of a host in ASCII. A name is percent-decoded, folded, composed and cut at its dots. Each
label is checked by the rules of the Unicode standard for domain names, and written in Punycode if
it goes beyond ASCII. A label that is already written so has to stand for text that folding and
composing leave as it is.
-/

namespace ScanRelay.Name

/-! ## Folding -/

/-- Characters of a range, every `step`-th one, that stand for other text. -/
structure Folding where
  first : Nat
  last : Nat
  step : Nat
  /-- What the first character stands for. -/
  text : List Char
  /-- Whether the text of a later character lies as far behind as the character. -/
  moves : Bool

/-- The folding of an entry such as `C0-D6=E0`, `100-12E/2=101` or `132-133:69,6A`. -/
def Folding.read? (word : List Char) : Option Folding :=
  let moves := word.contains '='
  match splitAt (if moves then '=' else ':') word with
  | [source, text] =>
    let text := (splitAt ',' text).map fun cs => Char.ofNat (CodeSet.number cs)
    let build (characters : List Char) (step : Nat) : Folding :=
      let (first, last) := CodeSet.range characters
      ⟨first, last, step, text, moves⟩
    match splitAt '/' source with
    | [characters, step] => some (build characters (CodeSet.number step))
    | _ => some (build source 1)
  | _ => none

def foldings : List Folding := (CodeSet.words foldingLines).filterMap Folding.read?

def Folding.applies (f : Folding) (n : Nat) : Bool :=
  f.first ≤ n && n ≤ f.last && (n - f.first) % f.step = 0

def Folding.apply (f : Folding) (n : Nat) : List Char :=
  if f.moves then f.text.map fun c => Char.ofNat (c.toNat + (n - f.first)) else f.text

def dropped : CodeSet := .ofLines droppedLines

def kept : CodeSet := .ofLines keptLines

/-- The text that a character of a name stands for, unless it may not stand in a name. -/
def fold? (c : Char) : Option (List Char) :=
  if c.toNat < 128 then some [c.toLower]
  else
    match foldings.find? fun f => f.applies c.toNat with
    | some f => some (f.apply c.toNat)
    | none => if dropped.has c then some [] else if kept.has c then some [c] else none

/-- A name folded and composed. -/
def foldAll? (cs : List Char) : Option (List Char) :=
  (cs.mapM fold?).map fun texts => Composition.compose texts.flatten

/-! ## Labels -/

def isAscii (cs : List Char) : Bool := cs.all fun c => c.toNat < 128

/-- What a label in Punycode begins with. -/
def encodedMark : List Char := ['x', 'n', '-', '-']

/-- The most characters of a label in Punycode, after its mark, that are read. -/
def encodedLimit : Nat := 2000

/-- The most characters of a label that are written in Punycode. -/
def plainLimit : Nat := 1000

/-- The text that a folded label stands for. -/
def plainLabel? (label : List Char) : Option (List Char) :=
  if encodedMark.isPrefixOf label then
    let code := label.drop encodedMark.length
    if !isAscii code || encodedLimit < code.length || code.isEmpty || code.getLast? = some '-' then
      none
    else
      match Punycode.decode? code with
      | some plain => if foldAll? plain = some plain then some plain else none
      | none => none
  else some label

/-- A folded label in ASCII. -/
def asciiLabel? (label : List Char) : Option (List Char) :=
  if isAscii label then some label
  else if plainLimit < label.length then none
  else some (encodedMark ++ Punycode.encode label)

/-- Characters that no host may hold. -/
def isForbidden (c : Char) : Bool :=
  c.toNat = 0 || c = '\t' || c = '\n' || c = '\r' || c = ' ' || c = '#' || c = '/' || c = ':'
    || c = '<' || c = '>' || c = '?' || c = '@' || c = '[' || c = '\\' || c = ']' || c = '^'
    || c = '|'

/-- Characters that no name may hold. -/
def isForbiddenInName (c : Char) : Bool :=
  isForbidden c || c.toNat < 0x20 || c.toNat = 0x7F || c = '%'

/-- The text of a percent-decoded name, if its bytes are UTF-8. -/
def decoded? (cs : List Char) : Option (List Char) :=
  let bytes := Percent.decode cs
  let text := Utf8.decode bytes
  if Utf8.encode text = bytes then some text else none

/-- A name in ASCII, if it is one. -/
def toAscii? (cs : List Char) : Option (List Char) := do
  let folded ← foldAll? (← decoded? cs)
  let labels := splitAt '.' folded
  let plain ← labels.mapM plainLabel?
  let directed := plain.any Label.hasLeftward
  if plain.all fun p => !Label.beginsWithMark p && Label.joinersFit [] p
      && (!directed || Label.oneDirection p) then
    let ascii := joinWith '.' (← labels.mapM asciiLabel?)
    if ascii.any isForbiddenInName then none else some ascii
  else none

end ScanRelay.Name
