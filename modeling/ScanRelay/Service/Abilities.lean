import ScanRelay.Service.Server

/-!
# Abilities

What the server tells an editor about itself: the questions it answers, the commands it carries
out and the changes it wants to hear of.
-/

namespace ScanRelay.Abilities

/-- Files of any name. -/
def anyFile : Json :=
  .ofMembers [("filters", .array [.ofMembers [("scheme", .text "file"),
    ("pattern", .ofMembers [("glob", .text "**/*")])]])]

/-- Documents are heard of when they are opened, closed or saved, and never by their text. -/
def documents : Json :=
  .ofMembers [("openClose", .bool true), ("change", .nat 0),
    ("save", .ofMembers [("includeText", .bool false)])]

def workspace : Json :=
  .ofMembers [
    ("workspaceFolders", .ofMembers [("supported", .bool true),
      ("changeNotifications", .bool true)]),
    ("fileOperations", .ofMembers [("didDelete", anyFile), ("didRename", anyFile)])]

/-- The answer to an editor that opens a session. -/
def greeting : Json :=
  .ofMembers [("capabilities", .ofMembers [
    ("textDocumentSync", documents),
    ("hoverProvider", .bool true),
    ("codeActionProvider", .ofMembers [("codeActionKinds", .texts ["quickfix"]),
      ("resolveProvider", .bool false)]),
    ("inlineValueProvider", .bool true),
    ("executeCommandProvider", .ofMembers [("commands", .texts Server.commands)]),
    ("workspace", workspace)])]

end ScanRelay.Abilities
