import ScanRelay.Text.Pieces

/-!
# File paths

A path is text; what it names is its list of components. Repeated separators and single dots say
nothing, except that a dot in front marks a path as relative to the current directory. A double dot
is a component of its own.
-/

namespace ScanRelay.Path

inductive Component
  | root
  | current
  | parent
  | name (s : String)
deriving DecidableEq

/-- The component of one piece between separators. -/
def component? (piece : List Char) : Option Component :=
  if piece = [] || piece = ['.'] then none
  else if piece = ['.', '.'] then some .parent
  else some (.name (String.ofList piece))

def componentsOf : List Char → List Component
  | '/' :: rest => .root :: (splitAt '/' rest).filterMap component?
  | cs =>
    match splitAt '/' cs with
    | ['.'] :: pieces => .current :: pieces.filterMap component?
    | pieces => pieces.filterMap component?

def components (path : String) : List Component := componentsOf path.toList

/-- Whether `path` is `folder` or lies under it, by whole components. -/
def contains (folder path : String) : Bool := (components folder).isPrefixOf (components path)

def isAbsolute (path : String) : Bool := path.toList.head? = some '/'

/-- The path without separators at its end; the root keeps its one. -/
def normalize (path : String) : String :=
  match (path.toList.reverse.dropWhile (· = '/')).reverse with
  | [] => "/"
  | cs => String.ofList cs

/-- The last component, or the whole path when that is no name. -/
def folderName (path : String) : String :=
  match (components path).getLast? with
  | some (.name s) => s
  | _ => path

/-- `path` as seen from `base`. -/
def join (base path : String) : String :=
  if isAbsolute path then path
  else
    match base.toList.getLast? with
    | none => path
    | some c => if c = '/' then base ++ path else base ++ "/" ++ path

end ScanRelay.Path
