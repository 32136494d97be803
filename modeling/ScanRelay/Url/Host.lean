import ScanRelay.Url.Name

/-!
# Hosts

The host of a URL: a name, an IPv4 address or an IPv6 address. The name of a web address is written
in ASCII, and one that ends in a number has to be an IPv4 address. The host of any other URL is kept
as it is written.
-/

namespace ScanRelay

/-- Why a text is not a URL. -/
inductive UrlFault
  | emptyHost
  | invalidName
  | invalidPort
  | invalidIpv4
  | invalidIpv6
  | invalidHostCharacter
  | relative
deriving DecidableEq

def UrlFault.message : UrlFault → String
  | emptyHost => "empty host"
  | invalidName => "invalid international domain name"
  | invalidPort => "invalid port number"
  | invalidIpv4 => "invalid IPv4 address"
  | invalidIpv6 => "invalid IPv6 address"
  | invalidHostCharacter => "invalid domain character"
  | relative => "relative URL without a base"

inductive Host
  | name (s : String)
  | ipv4 (address : Nat)
  | ipv6 (pieces : List Nat)
deriving DecidableEq

namespace Host

/-! ## IPv4 -/

def valueIn (base : Nat) (digit? : Char → Option Nat) (cs : List Char) : Option Nat :=
  cs.foldl (fun acc c => match acc, digit? c with
    | some n, some d => if d < base then some (n * base + d) else none
    | _, _ => none) (some 0)

def hexDigit? (c : Char) : Option Nat :=
  if c.toNat < 128 then Percent.hexValue? (UInt8.ofNat c.toNat) else none

/-- A part of an IPv4 address: decimal, octal after `0`, hexadecimal after `0x`. -/
def ipv4Part? : List Char → Option Nat
  | [] => none
  | '0' :: 'x' :: r => valueIn 16 hexDigit? r
  | '0' :: 'X' :: r => valueIn 16 hexDigit? r
  | '0' :: c :: r => valueIn 8 hexDigit? (c :: r)
  | cs => valueIn 10 hexDigit? cs

/-- The labels of a name, an empty last one left out. -/
def labels (cs : List Char) : List (List Char) :=
  match (splitAt '.' cs).reverse with
  | [] :: rest@(_ :: _) => rest.reverse
  | all => all.reverse

/-- Whether a name can only be an IPv4 address. -/
def endsInNumber (cs : List Char) : Bool :=
  match (labels cs).getLast? with
  | some last =>
    !last.isEmpty && last.all Char.isDigit
      || (match last with
        | '0' :: x :: r => (x = 'x' || x = 'X') && r.all fun c => (hexDigit? c).isSome
        | _ => false)
  | none => false

def parseIpv4 (cs : List Char) : Except UrlFault Host :=
  let parts := labels cs
  match parts.mapM ipv4Part? with
  | none => .error .invalidIpv4
  | some values =>
    match values.reverse with
    | [] => .error .invalidIpv4
    | last :: before =>
      let count := values.length
      if 4 < count || before.any (255 < ·) || 1 <<< (8 * (5 - count)) ≤ last then
        .error .invalidIpv4
      else .ok (.ipv4 (before.reverse.foldr (fun v (acc : Nat × Nat) =>
        (acc.1 + v <<< (8 * (4 - acc.2)), acc.2 - 1)) (last, before.length)).1)

def ipv4Text (n : Nat) : String :=
  s!"{n / 16777216}.{n / 65536 % 256}.{n / 256 % 256}.{n % 256}"

/-! ## IPv6 -/

/-- The four numbers of a dotted ending, as two pieces. -/
def dottedPieces? (cs : List Char) : Option (List Nat) :=
  let parts := splitAt '.' cs
  let part (p : List Char) : Option Nat :=
    if p.isEmpty || 3 < p.length || (p.head? = some '0' && 1 < p.length) then none
    else
      match valueIn 10 hexDigit? p with
      | some n => if n ≤ 255 then some n else none
      | none => none
  match parts.mapM part with
  | some [a, b, c, d] => some [a * 256 + b, c * 256 + d]
  | _ => none

def pieces? (groups : List (List Char)) : Option (List Nat) :=
  match groups.reverse with
  | [] => some []
  | last :: before =>
    let piece (p : List Char) : Option Nat :=
      if p.isEmpty || 4 < p.length then none else valueIn 16 hexDigit? p
    match before.reverse.mapM piece with
    | none => none
    | some front =>
      if last.contains '.' then (dottedPieces? last).map (front ++ ·)
      else (piece last).map fun v => front ++ [v]

/-- The two sides of the first `::`. -/
def splitGap : List Char → Option (List Char × List Char)
  | ':' :: ':' :: r => some ([], r)
  | c :: r => (splitGap r).map fun s => (c :: s.1, s.2)
  | [] => none

def groups (cs : List Char) : List (List Char) := if cs.isEmpty then [] else splitAt ':' cs

def parseIpv6 (cs : List Char) : Except UrlFault Host :=
  match splitGap cs with
  | none =>
    match pieces? (groups cs) with
    | some ps => if ps.length = 8 then .ok (.ipv6 ps) else .error .invalidIpv6
    | none => .error .invalidIpv6
  | some (front, back) =>
    match pieces? (groups front), pieces? (groups back) with
    | some ps, some qs =>
      if front.contains '.' || 8 ≤ ps.length + qs.length then .error .invalidIpv6
      else .ok (.ipv6 (ps ++ List.replicate (8 - ps.length - qs.length) 0 ++ qs))
    | _, _ => .error .invalidIpv6

/-- The start and length of the first longest run of at least two zeros. -/
def longestRun (ps : List Nat) : Nat × Nat :=
  (List.range ps.length).foldl (fun best i =>
    let n := ((ps.drop i).takeWhile (· = 0)).length
    if best.2 < n && 2 ≤ n then (i, n) else best) (0, 0)

def hexText (n : Nat) : List Char := Nat.toDigits 16 n

def ipv6Text (ps : List Nat) : String :=
  let (start, count) := longestRun ps
  let write (qs : List Nat) : List Char := joinWith ':' (qs.map hexText)
  let body :=
    if count = 0 then write ps
    else write (ps.take start) ++ [':', ':'] ++ write (ps.drop (start + count))
  String.ofList ('[' :: body ++ [']'])

/-! ## Reading -/

/-- The host of a web address or a file. -/
def parse (cs : List Char) : Except UrlFault Host :=
  match cs with
  | '[' :: r =>
    if r.getLast? = some ']' then parseIpv6 r.dropLast else .error .invalidIpv6
  | _ =>
    match Name.toAscii? cs with
    | none => .error .invalidName
    | some ascii =>
      if ascii.isEmpty then .error .emptyHost
      else if endsInNumber ascii then parseIpv4 ascii
      else .ok (.name (String.ofList ascii))

/-- The host of any other URL. -/
def parsePlain (cs : List Char) : Except UrlFault Host :=
  match cs with
  | '[' :: r =>
    if r.getLast? = some ']' then parseIpv6 r.dropLast else .error .invalidIpv6
  | _ =>
    if cs.any Name.isForbidden then .error .invalidHostCharacter
    else .ok (.name (String.ofList (Percent.encode Percent.isControl cs)))

def toText : Host → String
  | .name s => s
  | .ipv4 n => ipv4Text n
  | .ipv6 ps => ipv6Text ps

end Host

end ScanRelay
