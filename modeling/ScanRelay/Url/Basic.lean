import ScanRelay.Url.Host
import ScanRelay.Text.Blank

/-!
# URLs

A URL in its parts, with its text. Reading is by the rules of the web: the scheme and the name of a
host fold to lower case, a default port and dot segments go, and each part is percent-encoded by
its own set. A URL with a host, and every web address or file, has a path of segments; any other
may have a bare path, which is just text.
-/

namespace ScanRelay

/-- What stands between the two slashes and the path. The host of a file on this machine is
empty. -/
structure Authority where
  username : String
  password : String
  host : Option Host
  port : Option Nat
deriving DecidableEq

inductive UrlPath
  /-- Segments, each after a slash. There are none only when the path is empty. -/
  | rooted (segments : List String)
  | bare (text : String)
deriving DecidableEq

structure Url where
  scheme : String
  authority : Option Authority
  path : UrlPath
  query : Option String
  fragment : Option String
deriving DecidableEq

namespace Url

def Authority.none : Authority := ⟨"", "", Option.none, Option.none⟩

def authorityText (a : Authority) : String :=
  let user :=
    if a.username = "" && a.password = "" then ""
    else a.username ++ (if a.password = "" then "" else ":" ++ a.password) ++ "@"
  let host := match a.host with
    | some h => h.toText
    | none => ""
  let port := match a.port with
    | some n => ":" ++ toString n
    | none => ""
  "//" ++ user ++ host ++ port

def pathText : UrlPath → String
  | .rooted segments => String.join (segments.map ("/" ++ ·))
  | .bare s => s

/-- The text of a URL. Without an authority, a path that begins with two slashes is set off by a
dot. -/
def toText (u : Url) : String :=
  let front := match u.authority with
    | some a => authorityText a
    | none => match u.path with
      | .rooted ("" :: _ :: _) => "/."
      | _ => ""
  let query := match u.query with
    | some q => "?" ++ q
    | none => ""
  let fragment := match u.fragment with
    | some f => "#" ++ f
    | none => ""
  u.scheme ++ ":" ++ front ++ pathText u.path ++ query ++ fragment

/-! ## Reading -/

def isSpecial (scheme : String) : Bool :=
  ["http", "https", "ws", "wss", "ftp", "file"].contains scheme

def defaultPort? (scheme : String) : Option Nat :=
  if scheme = "http" || scheme = "ws" then some 80
  else if scheme = "https" || scheme = "wss" then some 443
  else if scheme = "ftp" then some 21
  else none

/-- Tabs and line ends, which count as nothing nearly everywhere. -/
def isBreak (c : Char) : Bool := c = '\t' || c = '\n' || c = '\r'

def unbroken (cs : List Char) : List Char := cs.filter (!isBreak ·)

def dropBreaks (cs : List Char) : List Char := cs.dropWhile isBreak

/-- The text without control characters and spaces at its ends. -/
def trimControls (s : String) : List Char := trimBoth (fun c => c.toNat ≤ 0x20) s.toList

/-- The scheme in front of the first colon, in lower case, and the rest. -/
def readScheme (cs : List Char) : Option (String × List Char) :=
  let scheme := cs.takeWhile fun c => c.isAlphanum || c = '+' || c = '-' || c = '.'
  match cs.head?, cs.drop scheme.length with
  | some c, ':' :: rest =>
    if c.isAlpha then some (String.ofList (scheme.map Char.toLower), rest) else none
  | _, _ => none

/-- Query and fragment, from the character that ends the path. -/
def readTail (web : Bool) (cs : List Char) : Option String × Option String :=
  let encodeQuery := Percent.encode (if web then Percent.inWebQuery else Percent.inQuery)
  let fragment (r : List Char) : String := String.ofList (Percent.encode Percent.inFragment r)
  match cs with
  | '?' :: r =>
    let query := String.ofList (encodeQuery (r.takeWhile (· ≠ '#')))
    match r.dropWhile (· ≠ '#') with
    | _ :: f => (some query, some (fragment f))
    | [] => (some query, none)
  | '#' :: r => (none, some (fragment r))
  | _ => (none, none)

def endsPath (c : Char) : Bool := c = '?' || c = '#'

def isSlash (special : Bool) (c : Char) : Bool := c = '/' || (special && c = '\\')

/-- The pieces of a path between its slashes. -/
def pathPieces (special : Bool) (cs : List Char) : List (List Char) :=
  splitAt '/' (cs.map fun c => if isSlash special c then '/' else c)

/-- One dot, one of whose forms is encoded. -/
def dotForms : List (List Char) := [['.'], ['%', '2', 'e'], ['%', '2', 'E']]

def isDot (piece : List Char) : Bool := dotForms.contains piece

def isDoubleDot (piece : List Char) : Bool :=
  dotForms.any fun a => dotForms.any fun b => piece = a ++ b

/-- A letter with a colon or a bar. -/
def isDrive : List Char → Bool
  | [c, d] => c.isAlpha && (d = ':' || d = '|')
  | _ => false

/-- Drops the last of the segments, which stand in reverse; a drive stays. -/
def shorten : List (List Char) → List (List Char)
  | [] => []
  | segment :: before => if isDrive segment then segment :: before else before

/-- The drive that a piece begins with, when a break stands between it and the rest. -/
def splitDrive? (piece : List Char) : Option (List Char × List Char) :=
  match dropBreaks piece with
  | letter :: r =>
    match dropBreaks r with
    | ':' :: b :: rest =>
      if letter.isAlpha && isBreak b && !(unbroken rest).isEmpty then some ([letter, ':'], rest)
      else none
    | _ => none
  | [] => none

/-- A path while its pieces are added. -/
structure Trail where
  /-- The segments so far, in reverse. -/
  segments : List (List Char)
  /-- Whether a drive was met as the first segment. -/
  onDrive : Bool

namespace Trail

def start : Trail := ⟨[], false⟩

def push (t : Trail) (segment : List Char) : Trail := { t with segments := segment :: t.segments }

/-- Adds a piece of a path. Dots move within the path, and only the last piece leaves a segment for
them. In front of all other segments of a file, a drive is written with its colon. -/
def add (file final : Bool) (t : Trail) (piece : List Char) : Trail :=
  let encode (cs : List Char) : List Char := Percent.encode Percent.inPath (unbroken cs)
  let segment := encode piece
  let first : Bool := file && t.segments.isEmpty
  match if first then splitDrive? piece else none with
  | some (drive, rest) => (t.push drive).push (encode rest)
  | none =>
    let stay (t : Trail) : Trail := if final then t.push [] else t
    if isDoubleDot segment then stay { t with segments := shorten t.segments }
    else if isDot segment then stay t
    else if first && isDrive segment then ⟨[[segment.headD 'c', ':']], true⟩
    else t.push segment

def addAll (file : Bool) (t : Trail) : List (List Char) → Trail
  | [] => t
  | piece :: rest => (t.add file rest.isEmpty piece).addAll file rest

end Trail

/-- The segments of the path of a URL that is no file. -/
def webSegments (special : Bool) (cs : List Char) : List String :=
  (Trail.start.addAll false (pathPieces special cs)).segments.reverse.map String.ofList

/-- The segments of a file's path. Empty segments in front go. -/
def fileSegments (t : Trail) : List String :=
  match t.segments.reverse.dropWhile List.isEmpty with
  | [] => [""]
  | segments => segments.map String.ofList

/-- Cuts a text at the first character that ends a path. -/
def splitPath (cs : List Char) : List Char × List Char :=
  (cs.takeWhile (!endsPath ·), cs.dropWhile (!endsPath ·))

def readPort (scheme : String) (cs : List Char) : Except UrlFault (Option Nat × List Char) :=
  let ds := cs.takeWhile Char.isDigit
  let rest := cs.dropWhile Char.isDigit
  let n := ds.foldl (fun n c => n * 10 + (c.toNat - 48)) 0
  let ends := match rest with
    | [] => true
    | c :: _ => c = '/' || c = '\\' || endsPath c
  if 65535 < n || !ends then .error .invalidPort
  else if ds.isEmpty || defaultPort? scheme = some n then .ok (none, rest)
  else .ok (some n, rest)

/-- The user in front of the last `@` of an authority. -/
def readUser (special : Bool) (cs : List Char) : Except UrlFault ((String × String) × List Char) :=
  let inside (c : Char) : Bool := !(isSlash special c || endsPath c)
  let area := cs.takeWhile inside
  if !area.contains '@' then .ok (("", ""), cs)
  else
    let after := (area.reverse.takeWhile (· ≠ '@')).reverse
    let user := area.take (area.length - after.length - 1)
    let rest := cs.drop (user.length + 1)
    if user.isEmpty then
      match rest with
      | c :: _ => if inside c then .ok (("", ""), rest) else .error .emptyHost
      | [] => .ok (("", ""), rest)
    else
      let encode (p : List Char) : String := String.ofList (Percent.encode Percent.inUserInfo p)
      let name := user.takeWhile (· ≠ ':')
      .ok ((encode name, encode (user.drop (name.length + 1))), rest)

/-- The end of a host: a colon outside brackets, or what ends the authority. -/
def hostLength (special : Bool) : Bool → List Char → Nat
  | _, [] => 0
  | bracket, c :: cs =>
    if (c = ':' && !bracket) || isSlash special c || endsPath c then 0
    else 1 + hostLength special (if c = '[' then true else if c = ']' then false else bracket) cs

/-- The authority and all that follows it. -/
def readAuthority (scheme : String) (cs : List Char) : Except UrlFault Url := do
  let special := isSpecial scheme
  let ((username, password), r) ← readUser special cs
  let n := hostLength special false r
  let hostText := r.take n
  let rest := r.drop n
  if hostText.isEmpty && (special || rest.head? = some ':') then throw .emptyHost
  let host ← if special then Host.parse hostText else Host.parsePlain hostText
  let (port, rest) ← match rest with
    | ':' :: r => readPort scheme r
    | r => pure (none, r)
  let host := if hostText.isEmpty then none else some host
  if host.isNone && (username ≠ "" || password ≠ "") then throw .emptyHost
  let (path, tail) := splitPath rest
  let segments :=
    match path with
    | c :: p => webSegments special (if isSlash special c then p else path)
    | [] => if special then [""] else []
  let (query, fragment) := readTail special tail
  pure ⟨scheme, some ⟨username, password, host, port⟩, .rooted segments, query, fragment⟩

/-- The text after a slash at its head. -/
def afterSlash? (cs : List Char) : Option (List Char) :=
  match dropBreaks cs with
  | c :: rest => if isSlash true c then some rest else none
  | [] => none

/-- A file with the given host, from its path on. -/
def fileAt (host : Option Host) (cs : List Char) : Url :=
  let (path, tail) := splitPath cs
  let trail := Trail.start.addAll true (pathPieces true path)
  let (query, fragment) := readTail true (unbroken tail)
  let host := if trail.onDrive then none else host
  ⟨"file", some ⟨"", "", host, none⟩, .rooted (fileSegments trail), query, fragment⟩

/-- A file, from the text after its two slashes. A drive is no host, and the path of a file on this
machine begins with its slash. -/
def readFileHost (cs : List Char) : Except UrlFault Url := do
  let inHost (c : Char) : Bool := !(isSlash true c || endsPath c)
  let hostText := unbroken (cs.takeWhile inHost)
  let rest := cs.dropWhile inHost
  if isDrive hostText then return fileAt none cs
  if hostText.isEmpty then return fileAt none rest
  let host ← Host.parse hostText
  if host = .name "localhost" then return fileAt none rest
  return fileAt (some host) ((afterSlash? rest).getD rest)

/-- A file, from the text after `file:`, which may hold breaks. -/
def readFile (cs : List Char) : Except UrlFault Url :=
  match afterSlash? cs with
  | none => .ok (fileAt none cs)
  | some rest =>
    match afterSlash? rest with
    | none => .ok (fileAt none rest)
    | some rest => readFileHost rest

/-- A URL of a scheme that is not known to the web. -/
def readOther (scheme : String) (cs : List Char) : Except UrlFault Url :=
  match cs with
  | '/' :: '/' :: r => readAuthority scheme r
  | '/' :: r =>
    let (path, tail) := splitPath r
    let (query, fragment) := readTail false tail
    .ok ⟨scheme, none, .rooted (webSegments false path), query, fragment⟩
  | r =>
    let (path, tail) := splitPath r
    let (query, fragment) := readTail false tail
    let text := String.ofList (Percent.encode Percent.isControl path)
    .ok ⟨scheme, none, .bare text, query, fragment⟩

def parse (s : String) : Except UrlFault Url :=
  let text := trimControls s
  match readScheme (unbroken text) with
  | none => .error .relative
  | some (scheme, rest) =>
    if scheme = "file" then readFile ((text.dropWhile (· ≠ ':')).drop 1)
    else if isSpecial scheme then readAuthority scheme (rest.dropWhile (isSlash true))
    else readOther scheme rest

end Url

end ScanRelay
