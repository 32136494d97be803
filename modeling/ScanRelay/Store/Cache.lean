import ScanRelay.Data.Table
import ScanRelay.Finding.Tally

/-!
# The cache of issues

The issues last reported for each file. `Cache.merge` adds the issues of a scan that are not known
yet: an issue is known when one of its identity is cached anywhere, or came before it in the scan.
-/

namespace ScanRelay

abbrev Cache := Table (List Issue)

namespace Cache

/-- The issues of a file, none when it has no entry. -/
def issuesOf (c : Cache) (path : String) : List Issue := (c.get? path).getD []

def append (c : Cache) (path : String) (issues : List Issue) : Cache :=
  c.insert path (c.issuesOf path ++ issues)

/-- The identities of all cached issues. -/
def identities (c : Cache) : List String := c.values.flatten.map Issue.identity

/-- Walks over the entries as they stand at the start, until a visit answers `false`. The visits
may change the cache that they carry along. -/
def walk {σ : Type} (c : Cache) (visit : σ → String → List Issue → σ × Bool) (s : σ) : σ :=
  go s c.entries
where
  go (s : σ) : List (String × List Issue) → σ
    | [] => s
    | (path, issues) :: rest =>
      let (s, goOn) := visit s path issues
      if goOn then go s rest else s

/-! ## Merging -/

/-- A merge under way. -/
structure Merge where
  cache : Cache
  /-- All identities met so far. -/
  known : List String
  tally : Tally
  accepted : Nat
  duplicates : Nat

namespace Merge

def start (c : Cache) (t : Tally) : Merge := ⟨c, c.identities, t, 0, 0⟩

/-- Merges one issue into the entry of its file, which held the identities `entry` when it was
opened. -/
def issue (entry : List String) (m : Merge) (i : Issue) : Merge :=
  if entry.contains i.identity || m.known.contains i.identity then
    { m with duplicates := m.duplicates + 1 }
  else
    { cache := m.cache.append i.path [i]
      known := i.identity :: m.known
      tally := m.tally.record i
      accepted := m.accepted + 1
      duplicates := m.duplicates }

/-- Merges the issues of one file, which has an entry from then on. -/
def file (batch : List Issue) (m : Merge) (path : String) : Merge :=
  (batch.filter fun i => i.path = path).foldl
    (issue ((m.cache.issuesOf path).map Issue.identity)) { m with cache := m.cache.append path [] }

end Merge

/-- Merges a batch, file by file in the given order. -/
def mergeIn (files : List String) (c : Cache) (t : Tally) (batch : List Issue) : Merge :=
  files.foldl (Merge.file batch) (Merge.start c t)

/-- The files of a batch, each once. -/
def filesOf (batch : List Issue) : List String :=
  (Table.ofList (batch.map fun i => (i.path, ()))).keys

/-- Merges a batch into the cache and counts what is new. -/
def merge (c : Cache) (t : Tally) (batch : List Issue) : Merge := mergeIn (filesOf batch) c t batch

end Cache

end ScanRelay
