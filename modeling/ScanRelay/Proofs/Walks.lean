import ScanRelay.Proofs.Deletion
import ScanRelay.Proofs.Merging
import ScanRelay.Proofs.Publishing

/-!
# Walks over a cache

A walk goes over the entries as they stood when it began, in some order, whatever its visits do to
the cache that they carry along (`Cache.walkIn`). A visitor that keeps a list of its visits tells
which they were: each entry once, with what it held at the start, up to the first visit that stops
the walk (`Cache.Walked`). Clearing under a path is such a walk, although its visits take entries
out of the cache that is walked over (`recursive_clear_is_exact`).
-/

namespace ScanRelay

namespace Cache

variable {σ : Type} {visit : σ → String → List Issue → σ × Bool}

/-- The entries of a cache in some order of its files. -/
def entriesIn (order : VisitOrder) (c : Cache) : List (String × List Issue) :=
  (order.arrange c.keys).map fun p => (p, c.issuesOf p)

/-- Walks over the entries as `walk` does, in some order. -/
def walkIn (order : VisitOrder) (c : Cache) (visit : σ → String → List Issue → σ × Bool) (s : σ) :
    σ :=
  walk.go visit s (c.entriesIn order)

theorem entriesIn_listed (c : Cache) : c.entriesIn .listed = c.entries := by
  show (c.entries.map (·.1)).map _ = _
  rw [List.map_map]
  conv_rhs => rw [← List.map_id c.entries]
  exact List.map_congr_left fun e he => Prod.ext rfl (issuesOf_eq_of_mem he)

theorem entriesIn_perm (order : VisitOrder) (c : Cache) : (c.entriesIn order).Perm c.entries := by
  rw [← entriesIn_listed]
  exact (order.perm c.keys).map _

theorem map_fst_entriesIn (c : Cache) (order : VisitOrder) :
    (c.entriesIn order).map (·.1) = order.arrange c.keys := by
  simp [entriesIn, Function.comp_def]

theorem walkIn_listed (c : Cache) (visit : σ → String → List Issue → σ × Bool) (s : σ) :
    c.walkIn .listed visit s = c.walk visit s := by
  rw [walkIn, entriesIn_listed, walk]

/-- A walk that never stops visits all keys. -/
theorem walkIn_keys_induction {motive : σ → List String → Prop} {c : Cache} {s : σ}
    (order : VisitOrder) (start : motive s [])
    (step : ∀ s p is visited, motive s visited →
      motive (visit s p is).1 (visited ++ [p]) ∧ (visit s p is).2 = true) :
    motive (c.walkIn order visit s) (order.arrange c.keys) :=
  c.map_fst_entriesIn order ▸ walk_go_induction step (c.entriesIn order) start

/-! ## Visits -/

/-- A visit: the entry that it was given, and whether it let the walk go on. -/
structure Visit where
  entry : String × List Issue
  goOn : Bool

/-- A visitor that also keeps a list of its visits. -/
def recorded (visit : σ → String → List Issue → σ × Bool) (s : σ × List Visit) (path : String)
    (issues : List Issue) : (σ × List Visit) × Bool :=
  let next := visit s.1 path issues
  ((next.1, s.2 ++ [⟨(path, issues), next.2⟩]), next.2)

/-- The visits of a walk over entries: these in turn, each once, up to the first visit that stops
the walk. -/
structure Walked (entries : List (String × List Issue)) (visits : List Visit) : Prop where
  inTurn : visits.map Visit.entry <+: entries
  onward : ∀ v ∈ visits.dropLast, v.goOn = true
  whole : (∀ v ∈ visits, v.goOn = true) → visits.map Visit.entry = entries

theorem Walked.nothing : Walked [] [] := ⟨List.nil_prefix, by simp, fun _ => rfl⟩

theorem Walked.stop (e : String × List Issue) (rest : List (String × List Issue)) :
    Walked (e :: rest) [⟨e, false⟩] := by
  refine ⟨by simp, by simp, fun h => ?_⟩
  exact absurd (h _ List.mem_cons_self) Bool.false_ne_true

theorem Walked.goOn {entries : List (String × List Issue)} {visits : List Visit}
    (h : Walked entries visits) (e : String × List Issue) :
    Walked (e :: entries) (⟨e, true⟩ :: visits) where
  inTurn := by
    rw [List.map_cons]
    exact List.cons_prefix_cons.2 ⟨rfl, h.inTurn⟩
  onward := by
    cases visits with
    | nil => simp
    | cons v rest =>
      rw [List.dropLast_cons_cons]
      exact List.forall_mem_cons.2 ⟨rfl, h.onward⟩
  whole := by
    intro hall
    rw [List.map_cons, h.whole (List.forall_mem_cons.1 hall).2]

/-- To keep a list of the visits changes nothing else, and it grows by those of the walk. -/
theorem walked_go (visit : σ → String → List Issue → σ × Bool)
    (entries : List (String × List Issue)) (s : σ) (before : List Visit) :
    ∃ visits, walk.go (recorded visit) (s, before) entries
      = (walk.go visit s entries, before ++ visits) ∧ Walked entries visits := by
  induction entries generalizing s before with
  | nil => exact ⟨[], by simp [walk.go], .nothing⟩
  | cons e rest ih =>
    unfold walk.go
    rcases hvisit : visit s e.1 e.2 with ⟨s', goOn⟩
    simp only [recorded, hvisit]
    cases goOn with
    | false => exact ⟨[⟨e, false⟩], rfl, .stop e rest⟩
    | true =>
      obtain ⟨visits, hgo, hwalked⟩ := ih s' (before ++ [⟨e, true⟩])
      exact ⟨⟨e, true⟩ :: visits, by simpa using hgo, hwalked.goOn e⟩

end Cache

/-! ## Clearing under a path -/

namespace Folder

/-- Forgets the files whose paths contain `root`, visiting all files in some order. -/
def clearUnderIn (order : VisitOrder) (inline : Bool) (f : Folder) (root : String) :
    Folder × List Event :=
  let next := f.cache.walkIn order (visitUnder inline root) (f, [])
  ({ next.1 with scanned := false }, next.2)

theorem clearUnderIn_listed (inline : Bool) (f : Folder) (root : String) :
    f.clearUnderIn .listed inline root = f.clearUnder inline root := by
  rw [clearUnderIn, Cache.walkIn_listed]
  rfl

theorem forgets_clearUnderIn (order : VisitOrder) (inline : Bool) (f : Folder) (root : String) :
    f.Forgets inline ((order.arrange f.cache.keys).filter fun k => occursIn root.toList k.toList)
      (f.clearUnderIn order inline root) := by
  refine (Cache.walkIn_keys_induction (motive := fun next visited => f.Forgets inline
    (visited.filter fun k => occursIn root.toList k.toList) next) order (.nothing inline f)
      ?_).unscanned
  exact fun _ p issues _ h => h.visitUnder p issues

end Folder

/-- Clearing under a path, in whatever order the files are visited, takes out of the cache the files
whose paths have it in their text, and makes the folder unscanned; nothing else of the folder
changes. Each of these files, and no other, is told of once: its inline values are cleared if the
scanner keeps any, then it gets an empty list of diagnostics if its path has a URL, and then an
empty hover document. A walk over a cache visits the entries that there were at the start, each once
and with what it held then, until the visitor stops it. So it is whatever the visitor does to the
state that is carried along, of which that cache may be a part. -/
theorem recursive_clear_is_exact (order : VisitOrder) :
    (∀ (inline : Bool) (f : Folder) (root : String),
      let next := f.clearUnderIn order inline root
      f.clearUnderIn .listed inline root = f.clearUnder inline root
      ∧ next.1 = { f with cache := next.1.cache, scanned := false }
      ∧ (∀ p, root.toList <:+: p.toList → next.1.cache.get? p = none)
      ∧ (∀ p, ¬ root.toList <:+: p.toList → next.1.cache.get? p = f.cache.get? p)
      ∧ ∃ files : List String, files.Nodup
        ∧ (∀ p, p ∈ files ↔ p ∈ f.cache.keys ∧ root.toList <:+: p.toList)
        ∧ next.2 = files.flatMap fun p =>
          (if inline then [.clearInline p] else [])
            ++ ((Url.ofFilePath? p).map fun u => .send (.diagnostics ⟨u, [], none⟩)).toList
            ++ [.hover ⟨p, []⟩])
    ∧ ∀ (σ : Type) (c : Cache) (visit : σ → String → List Issue → σ × Bool) (s : σ),
      c.walkIn .listed visit s = c.walk visit s
      ∧ (c.entriesIn order).Perm c.entries
      ∧ ∃ visits, Cache.Walked (c.entriesIn order) visits
        ∧ c.walkIn order (Cache.recorded visit) (s, []) = (c.walkIn order visit s, visits) := by
  refine ⟨fun inline f root => ?_, fun σ c visit s => ?_⟩
  · intro next
    have hforgets : f.Forgets inline _ next := f.forgets_clearUnderIn order inline root
    have hmem : ∀ p, p ∈ (order.arrange f.cache.keys).filter
        (fun k => Folder.occursIn root.toList k.toList) ↔ p ∈ f.cache.keys
          ∧ root.toList <:+: p.toList := fun p => by
      rw [List.mem_filter, (order.perm _).mem_iff, Folder.occursIn_iff]
    refine ⟨f.clearUnderIn_listed inline root, ?_, fun p hp => ?_, fun p hp => ?_,
      _, ?_, hmem, ?_⟩
    · exact hforgets.others
    · by_cases hcached : p ∈ f.cache.keys
      · exact hforgets.dropped p ((hmem p).2 ⟨hcached, hp⟩)
      · rw [hforgets.kept p fun h => hcached ((hmem p).1 h).1]
        exact Cache.get?_eq_none_of_not_mem_keys hcached
    · exact hforgets.kept p fun h => hp ((hmem p).1 h).2
    · exact ((order.perm _).nodup_iff.2 f.cache.keys_nodup).filter _
    · rw [hforgets.events]
      refine List.flatMap_congr fun p _ => ?_
      rw [Folder.farewell, Publish.clear, Publish.file, Publish.diagnostics_eq, List.append_assoc]
      rfl
  · obtain ⟨visits, hgo, hwalked⟩ := Cache.walked_go visit (c.entriesIn order) s []
    exact ⟨c.walkIn_listed visit s, c.entriesIn_perm order, visits, hwalked, hgo⟩

end ScanRelay
