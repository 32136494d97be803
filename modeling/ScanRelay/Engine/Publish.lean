import ScanRelay.Engine.Event

/-!
# Publishing

Showing the visible issues of files in the editor. A file without visible issues is published too,
which takes its old marks away. A file whose path is no absolute path has no diagnostics, only
hovers.
-/

namespace ScanRelay.Publish

def diagnostics (path : String) (issues : List Issue) : List Event :=
  match Url.ofFilePath? path with
  | some url => [.send (.diagnostics (.ofIssues url issues))]
  | none => []

def hover (path : String) (issues : List Issue) : List Event :=
  [.hover (.ofIssues path issues)]

/-- Publishes one file. -/
def file (path : String) (issues : List Issue) : List Event :=
  diagnostics path issues ++ hover path issues

def clear (path : String) : List Event := file path []

/-- The result of a successful scan of a folder. -/
def scanResult (folder : String) (product : Option Product) (issues : List Issue) : Event :=
  .send (.scanStatus ⟨.success, product, folder, issues⟩)

/-- The issues that count for a product, all of them when none is given. -/
def ofProduct (product : Option Product) (issues : List Issue) : List Issue :=
  match product with
  | some p => issues.filter fun i => Product.orUnknown i.product = p
  | none => issues

/-- Publishes files in the order of their paths: first all diagnostics, then all hovers, then the
result for the whole folder. -/
def folder (path : String) (product : Option Product) (files : List (String × List Issue))
    (filter : FilterSettings) : List Event :=
  let shown := (files.mergeSort fun a b => a.1 ≤ b.1).map fun f => (f.1, filter.visible f.2)
  shown.flatMap (fun f => diagnostics f.1 f.2)
    ++ shown.flatMap (fun f => hover f.1 f.2)
    ++ [scanResult path product (ofProduct product (shown.flatMap (·.2)))]

end ScanRelay.Publish
