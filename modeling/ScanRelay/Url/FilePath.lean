import ScanRelay.Url.Basic
import ScanRelay.Path.Basic

/-!
# Files as URLs

An absolute path becomes the `file` URL of its components, each one segment, dots kept. Any URL with
a path of segments and no host but this machine names the path of its decoded segments. A path that
would end like a drive, in a letter and a colon or a bar, gets a separator after it.
-/

namespace ScanRelay.Url

/-- A component after the root as a segment. -/
def segmentOf : Path.Component → String
  | .root => ""
  | .current => "."
  | .parent => ".."
  | .name s => String.ofList (Percent.encode Percent.inSegment s.toList)

/-- The URL of an absolute path. -/
def ofFilePath? (path : String) : Option Url :=
  match Path.components path with
  | .root :: rest =>
    let segments := if rest.isEmpty then [""] else rest.map segmentOf
    some ⟨"file", some ⟨"", "", none, none⟩, .rooted segments, none, none⟩
  | _ => none

def isThisMachine : Option Host → Bool
  | none => true
  | some h => h = .name "localhost"

/-- Adds a separator to bytes that end like a drive. -/
def closeDrive (bytes : List UInt8) : List UInt8 :=
  match bytes.reverse with
  | c :: d :: _ :: _ =>
    if (c.toNat = 58 || c.toNat = 124) && (Char.ofNat d.toNat).isAlpha then bytes ++ [47] else bytes
  | _ => bytes

/-- The path that a URL names. -/
def toFilePath? (u : Url) : Option String :=
  match u.path with
  | .bare _ => none
  | .rooted [] => none
  | .rooted segments =>
    if isThisMachine (u.authority.bind (·.host)) then
      some (Utf8.decodeText (closeDrive
        (segments.flatMap fun s => 47 :: Percent.decode s.toList)))
    else none

end ScanRelay.Url
