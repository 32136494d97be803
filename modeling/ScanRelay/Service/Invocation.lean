import ScanRelay.Editor.Diagnostic

/-!
# Invocations

What the arguments of the command line ask for. Only the first one counts.
-/

namespace ScanRelay

inductive Invocation
  | version
  | serve
deriving DecidableEq

namespace Invocation

def ofArguments : List String → Invocation
  | first :: _ => if first = "--version" || first = "-V" then version else serve
  | [] => serve

def versionLine : String := Diagnostic.sourceName ++ " 0.1.0"

end Invocation

end ScanRelay
