import ScanRelay.Text.Composition
import ScanRelay.Url.LabelTable

/-!
# Labels

What the text of a label must satisfy: it does not begin with a mark, invisible joiners stand only
where they show in the script, and in a name with letters from right to left each label keeps to
one direction.
-/

namespace ScanRelay.Label

/-! ## Marks and joiners -/

def marks : CodeSet := .ofLines markLines

def beginsWithMark : List Char → Bool
  | [] => false
  | c :: _ => 128 ≤ c.toNat && marks.has c

def dual : CodeSet := .ofLines dualLines

/-- The letters that join to the letter after them. -/
def joiningOn : CodeSet := .ofLines leftLines ++ dual

/-- The letters that join to the letter before them. -/
def joiningBack : CodeSet := .ofLines rightLines ++ dual

def transparent : CodeSet := .ofLines transparentLines

/-- Whether the first character that joining does not pass over is of the set. -/
def firstJoins (letters : CodeSet) (cs : List Char) : Bool :=
  match cs.dropWhile transparent.has with
  | c :: _ => letters.has c
  | [] => false

/-- The class of the marks that suppress a vowel. -/
def vowelKiller : Nat := 9

/-- Whether every joiner has its place, after the characters `before`, which stand in reverse: after
a mark that suppresses a vowel, or, if it keeps letters apart, between letters that would join. -/
def joinersFit (before : List Char) : List Char → Bool
  | [] => true
  | c :: rest =>
    let afterKiller : Bool := match before with
      | b :: _ => Composition.markClass b = vowelKiller
      | [] => false
    let fits : Bool :=
      if c.toNat = 0x200C then
        afterKiller || (firstJoins joiningOn before && firstJoins joiningBack rest)
      else if c.toNat = 0x200D then afterKiller
      else true
    fits && joinersFit (c :: before) rest

/-! ## Direction -/

inductive Direction
  /-- From left to right. -/
  | rightward
  | leftward
  | arabicNumber
  | europeanNumber
  | neutral
  | attached
deriving DecidableEq

def leftwardLetters : CodeSet := .ofLines leftwardLines

def arabicNumbers : CodeSet := .ofLines arabicNumberLines

def europeanNumbers : CodeSet := .ofLines europeanNumberLines

def neutrals : CodeSet := .ofLines neutralLines

def attachedMarks : CodeSet := .ofLines attachedLines

def direction (c : Char) : Direction :=
  if c.isAlpha then .rightward
  else if leftwardLetters.has c then .leftward
  else if arabicNumbers.has c then .arabicNumber
  else if europeanNumbers.has c then .europeanNumber
  else if neutrals.has c then .neutral
  else if attachedMarks.has c then .attached
  else .rightward

/-- Whether a text needs the rule on directions. -/
def hasLeftward (cs : List Char) : Bool :=
  cs.any fun c => 128 ≤ c.toNat && (direction c = .leftward || direction c = .arabicNumber)

/-- The rule on directions: a label begins with a letter, holds letters of the same direction only,
and ends in a letter or a number, marks aside. A label from right to left may hold numbers of both
kinds, but not both. -/
def oneDirection (cs : List Char) : Bool :=
  let all := cs.map direction
  let last? := all.reverse.find? fun d => d ≠ .attached
  match all.head? with
  | none => true
  | some .rightward =>
    !all.contains .leftward && !all.contains .arabicNumber
      && (last? = some .rightward || last? = some .europeanNumber)
  | some .leftward =>
    !all.contains .rightward
      && (last? = some .leftward || last? = some .europeanNumber || last? = some .arabicNumber)
      && !(all.contains .europeanNumber && all.contains .arabicNumber)
  | some _ => false

end ScanRelay.Label
