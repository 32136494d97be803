import ScanRelay.Proofs.Containment
import ScanRelay.Proofs.Lookup

/-!
# Deleting a path

A deletion reaches the folders that the path is in and those that lie under it, which is told by
whole components. What such a folder forgets is told by text: every file whose path has the deleted
one anywhere in it (`deletions_drop_by_text`). So a file under a deleted path is forgotten by each
folder that it is in, if both are spelt tidily, and a file that only has the name of a deleted one
in its own is forgotten too (`namesake_is_dropped`).
-/

namespace ScanRelay

/-! ## Paths as text -/

namespace Path

/-- Whether a path is absolute and spelt with one separator before each component and no more. -/
def Tidy (p : String) : Prop :=
  ∃ rest, components p = .root :: rest
    ∧ p.toList = if rest.isEmpty then ['/'] else rest.flatMap fun c => '/' :: c.text

theorem Tidy.prefix_of_contains {p q : String} (hp : Tidy p) (hq : Tidy q)
    (h : contains p q = true) : p.toList <+: q.toList := by
  obtain ⟨rest, hrest, hptext⟩ := hp
  obtain ⟨rest', hrest', hqtext⟩ := hq
  rw [contains_iff, hrest, hrest', List.cons_prefix_cons] at h
  obtain ⟨-, more, rfl⟩ := h
  rw [hptext, hqtext]
  cases rest with
  | nil => cases more <;> simp
  | cons c rest => simp

/-- Whether a deletion reaches a folder. -/
def Reaches (path folder : String) : Prop :=
  contains folder path = true ∨ contains path folder = true

/-- Whether a deletion makes a folder forget a file. -/
def Drops (path folder file : String) : Prop :=
  Reaches path folder ∧ path.toList <:+: file.toList

/-- Of two paths around one file, one is around the other. -/
theorem reaches_of_contains {path folder file : String} (h : contains folder file = true)
    (h' : contains path file = true) : Reaches path folder :=
  contains_or_contains h h'

theorem Drops.of_contains {path folder file : String} (hpath : Tidy path) (hfile : Tidy file)
    (h : contains folder file = true) (h' : contains path file = true) : Drops path folder file :=
  ⟨reaches_of_contains h h', (hpath.prefix_of_contains hfile h').isInfix⟩

end Path

/-! ## One folder -/

namespace Folder

theorem occursIn_iff {part cs : List Char} : occursIn part cs = true ↔ part <:+: cs := by
  induction cs with
  | nil => simp [occursIn]
  | cons c rest ih =>
    rw [occursIn, Bool.or_eq_true, ih, List.infix_cons_iff, List.isPrefixOf_iff_prefix]

/-- What is sent when a file is forgotten. -/
def farewell (inline : Bool) (file : String) : List Event :=
  (if inline then [.clearInline file] else []) ++ Publish.clear file

/-- A folder forgets files, one after the other, and nothing else happens. -/
structure Forgets (inline : Bool) (f : Folder) (files : List String)
    (next : Folder × List Event) : Prop where
  others : next.1 = { f with cache := next.1.cache, scanned := next.1.scanned }
  dropped : ∀ k ∈ files, next.1.cache.get? k = none
  kept : ∀ k, k ∉ files → next.1.cache.get? k = f.cache.get? k
  events : next.2 = files.flatMap (farewell inline)

variable {inline : Bool} {f g : Folder} {files : List String} {es : List Event}
  {next : Folder × List Event}

theorem Forgets.ref (h : f.Forgets inline files next) : next.1.ref = f.ref := by
  rw [h.others]
  rfl

theorem Forgets.nothing (inline : Bool) (f : Folder) : f.Forgets inline [] (f, []) :=
  ⟨rfl, by simp, fun _ _ => rfl, rfl⟩

theorem Forgets.clearFile (h : f.Forgets inline files (g, es)) (p : String) :
    f.Forgets inline (files ++ [p])
      ((g.clearFile inline p).1, es ++ (g.clearFile inline p).2) where
  others := by
    rw [show g = _ from h.others]
    rfl
  dropped := by
    intro k hk
    show (g.cache.erase p).get? k = none
    rw [Table.get?_erase]
    split
    · rfl
    · rename_i hne
      exact h.dropped k ((List.mem_append.1 hk).resolve_right fun hp =>
        hne (List.mem_singleton.1 hp))
  kept := by
    intro k hk
    obtain ⟨hfiles, hp⟩ := not_or.1 fun hor => hk (List.mem_append.2 hor)
    show (g.cache.erase p).get? k = _
    rw [Table.get?_erase, if_neg fun heq => hp (List.mem_singleton.2 heq)]
    exact h.kept k hfiles
  events := by
    rw [List.flatMap_append, List.flatMap_singleton, show es = _ from h.events]
    rfl

theorem Forgets.unscanned (h : f.Forgets inline files next) :
    f.Forgets inline files ({ next.1 with scanned := false }, next.2) where
  others := by
    rw [h.others]
  dropped := h.dropped
  kept := h.kept
  events := h.events

/-- One visit while files are cleared under a path. -/
def visitUnder (inline : Bool) (root : String) :
    Folder × List Event → String → List Issue → (Folder × List Event) × Bool
  | (g, events), path, _ =>
    if occursIn root.toList path.toList then
      let (g, more) := g.clearFile inline path
      ((g, events ++ more), true)
    else ((g, events), true)

/-- A visit forgets its file or passes it over. -/
theorem Forgets.visitUnder {root : String} {visited : List String}
    (h : f.Forgets inline (visited.filter fun k => occursIn root.toList k.toList) next)
    (p : String) (issues : List Issue) :
    f.Forgets inline ((visited ++ [p]).filter fun k => occursIn root.toList k.toList)
        (Folder.visitUnder inline root next p issues).1
      ∧ (Folder.visitUnder inline root next p issues).2 = true := by
  obtain ⟨g, es⟩ := next
  rw [List.filter_append, List.filter_singleton, Folder.visitUnder]
  by_cases hoccurs : occursIn root.toList p.toList = true
  · simp only [hoccurs, if_true, cond_true]
    exact ⟨h.clearFile p, trivial⟩
  · simp only [hoccurs, if_false, Bool.false_eq_true, cond_false, List.append_nil]
    exact ⟨h, trivial⟩

/-- Clearing under a path forgets the files that the path occurs in, in their order. -/
theorem forgets_clearUnder (inline : Bool) (f : Folder) (root : String) :
    f.Forgets inline (f.cache.keys.filter fun k => occursIn root.toList k.toList)
      (f.clearUnder inline root) := by
  unfold clearUnder
  refine (Cache.walk_keys_induction (motive := fun next visited => f.Forgets inline
    (visited.filter fun k => occursIn root.toList k.toList) next) (.nothing inline f) ?_).unscanned
  exact fun _ p issues _ h => h.visitUnder p issues

/-- The files that the folder forgets when a path is deleted. -/
def doomed (f : Folder) (path : String) : List String :=
  if f.contains path || Path.contains path f.path then
    f.cache.keys.filter fun k => occursIn path.toList k.toList
  else []

theorem mem_doomed {path k : String} :
    k ∈ f.doomed path ↔ k ∈ f.cache.keys ∧ Path.Drops path f.path k := by
  unfold doomed Path.Drops Path.Reaches contains
  split
  · rename_i hreach
    simp [occursIn_iff, Bool.or_eq_true .. ▸ hreach]
  · rename_i hreach
    simp [not_or.1 (Bool.or_eq_true .. ▸ hreach)]

theorem forgets_doomed (inline : Bool) (f : Folder) (path : String) :
    f.Forgets inline (f.doomed path)
      (if f.contains path || Path.contains path f.path then f.clearUnder inline path
        else (f, [])) := by
  unfold doomed
  split
  · exact f.forgets_clearUnder inline path
  · exact .nothing inline f

end Folder

/-! ## All folders -/

namespace Workspace

/-- Each folder forgets the files that a property of the paths of folder and file tells. All that is
sent is that these files are cleared. -/
structure Forgets (w : Workspace) (drops : String → String → Prop)
    (next : Workspace × List Event) : Prop where
  others : { next.1 with folders := w.folders } = w
  keys : next.1.folders.keys = w.folders.keys
  folders : ∀ key f, w.folders.get? key = some f → ∃ g, next.1.folders.get? key = some g
    ∧ g.ref = f.ref ∧ (∀ k, drops f.path k → g.cache.get? k = none)
    ∧ ∀ k, ¬ drops f.path k → g.cache.get? k = f.cache.get? k
  events : ∃ gone : List String, next.2 = gone.flatMap (Folder.farewell w.hasInline)
    ∧ ∀ k, k ∈ gone ↔ ∃ key f, w.folders.get? key = some f ∧ k ∈ f.cache.keys ∧ drops f.path k

variable {w : Workspace} {next last : Workspace × List Event}
  {drops drops' : String → String → Prop}

theorem Forgets.nothing (w : Workspace) : w.Forgets (fun _ _ => False) (w, []) where
  others := rfl
  keys := rfl
  folders := fun _ f hf => ⟨f, hf, rfl, fun _ h => h.elim, fun _ _ => rfl⟩
  events := ⟨[], rfl, by simp⟩

theorem forgets_handleDeleted (w : Workspace) (path : String) :
    w.Forgets (Path.Drops path) (w.handleDeleted path) where
  others := rfl
  keys := Table.keys_mapValues _ _
  folders := by
    intro key f hf
    have hforgets := f.forgets_doomed w.hasInline path
    refine ⟨_, ?_, hforgets.ref, fun k hk => ?_, fun k hk => ?_⟩
    · exact (Table.get?_mapValues _ _ _).trans (by rw [hf]; rfl)
    · by_cases hmem : k ∈ f.cache.keys
      · exact hforgets.dropped k (Folder.mem_doomed.2 ⟨hmem, hk⟩)
      · rw [hforgets.kept k fun h => hmem (Folder.mem_doomed.1 h).1]
        exact Option.eq_none_iff_forall_ne_some.2 fun v hv => hmem (Table.mem_keys_iff.2 ⟨v, hv⟩)
    · exact hforgets.kept k fun h => hk (Folder.mem_doomed.1 h).2
  events := by
    refine ⟨w.folders.values.flatMap fun f => f.doomed path, ?_, fun k => ?_⟩
    · rw [List.flatMap_assoc]
      exact List.flatMap_congr fun f _ => (f.forgets_doomed w.hasInline path).events
    · rw [List.mem_flatMap]
      constructor
      · rintro ⟨f, hf, hk⟩
        obtain ⟨key, hkey⟩ := Table.mem_values_iff.1 hf
        exact ⟨key, f, hkey, Folder.mem_doomed.1 hk⟩
      · rintro ⟨key, f, hkey, hk⟩
        exact ⟨f, Table.mem_values_iff.2 ⟨key, hkey⟩, Folder.mem_doomed.2 hk⟩

theorem Forgets.exists_folder (h : w.Forgets drops next) {key : String} {g : Folder}
    (hg : next.1.folders.get? key = some g) : ∃ f, w.folders.get? key = some f ∧ g.path = f.path
      ∧ ∀ k, k ∈ g.cache.keys ↔ k ∈ f.cache.keys ∧ ¬ drops f.path k := by
  obtain ⟨f, hf⟩ := Table.mem_keys_iff.1 (h.keys ▸ Table.mem_keys_iff.2 ⟨g, hg⟩)
  obtain ⟨g', hg', href, hdropped, hkept⟩ := h.folders key f hf
  obtain rfl := Option.some.inj (hg.symm.trans hg')
  refine ⟨f, hf, congrArg FolderRef.path href, fun k => ?_⟩
  by_cases hk : drops f.path k
  · simp [Table.mem_keys_iff, hdropped k hk, hk]
  · simp [Table.mem_keys_iff, hkept k hk, hk]

/-- What is forgotten in two steps is what either of them forgets. -/
theorem Forgets.trans (h : w.Forgets drops next) (h' : next.1.Forgets drops' last) :
    w.Forgets (fun folder file => drops folder file ∨ drops' folder file)
      (last.1, next.2 ++ last.2) where
  others := by
    rw [← h.others, ← h'.others]
  keys := h'.keys.trans h.keys
  folders := by
    intro key f hf
    obtain ⟨g, hg, hgref, hdropped, hkept⟩ := h.folders key f hf
    obtain ⟨g', hg', hgref', hdropped', hkept'⟩ := h'.folders key g hg
    have hpath : g.path = f.path := congrArg FolderRef.path hgref
    rw [hpath] at hdropped' hkept'
    refine ⟨g', hg', hgref'.trans hgref, fun k hk => ?_, fun k hk => ?_⟩
    · by_cases hsecond : drops' f.path k
      · exact hdropped' k hsecond
      · rw [hkept' k hsecond]
        exact hdropped k (hk.resolve_right hsecond)
    · obtain ⟨hfirst, hsecond⟩ := not_or.1 hk
      rw [hkept' k hsecond, hkept k hfirst]
  events := by
    obtain ⟨gone, hes, hgone⟩ := h.events
    obtain ⟨gone', hes', hgone'⟩ := h'.events
    have hinline : next.1.hasInline = w.hasInline := by
      rw [← h.others]
      rfl
    refine ⟨gone ++ gone', ?_, fun k => ?_⟩
    · rw [hes', hes, hinline, List.flatMap_append]
    · rw [List.mem_append, hgone, hgone']
      constructor
      · rintro (⟨key, f, hf, hk, hdrops⟩ | ⟨key, g, hg, hk, hdrops⟩)
        · exact ⟨key, f, hf, hk, .inl hdrops⟩
        · obtain ⟨f, hf, hpath, hkeys⟩ := h.exists_folder hg
          exact ⟨key, f, hf, ((hkeys k).1 hk).1, .inr (hpath ▸ hdrops)⟩
      · rintro ⟨key, f, hf, hk, hdrops⟩
        by_cases hfirst : drops f.path k
        · exact .inl ⟨key, f, hf, hk, hfirst⟩
        · -- The first step has left the file to the second.
          obtain ⟨g, hg, -⟩ := h.folders key f hf
          obtain ⟨f', hf', hpath, hkeys⟩ := h.exists_folder hg
          obtain rfl := Option.some.inj (hf.symm.trans hf')
          exact .inr ⟨key, g, hg, (hkeys k).2 ⟨hk, hfirst⟩, hpath ▸ hdrops.resolve_left hfirst⟩

/-- Forgetting the files of some names, one after the other. -/
theorem forgets_chain (w : Workspace) (names : List String) :
    w.Forgets (fun folder file => ∃ name ∈ names, ∃ path, filePathOf name = .ok path
      ∧ Path.Drops path folder file) (chain forgetNamed w names) := by
  induction names generalizing w with
  | nil => simpa [chain] using Forgets.nothing w
  | cons name rest ih =>
    have hname : w.Forgets (fun folder file => ∃ path, filePathOf name = .ok path
        ∧ Path.Drops path folder file) (w.forgetNamed name) := by
      unfold forgetNamed
      rcases hpath : filePathOf name with e | path
      · simpa using Forgets.nothing w
      · simpa using w.forgets_handleDeleted path
    simpa [chain] using hname.trans (ih (w.forgetNamed name).1)

end Workspace

/-- The workspace after a handler, with what was sent. -/
def Handled.outcome (h : Handled) : Workspace × List Event := (h.server.workspace, h.events)

namespace Server

variable {server : Server} {params : Json} {names : List String}

theorem run_forget (names : List String) (h : Handled) : (forget names).run h
    = (.ok (), h.changed (chain Workspace.forgetNamed h.server.workspace names)) :=
  Handler.run_forM_change _ names h

/-- What a handler comes to that forgets files. -/
theorem outcome_of_forget {n : Notification} {schema : Schema} {read : Json → List String}
    (hhandler : notificationHandler n = do forget (← schema.readParams read n.params))
    (hread : schema.readParams read n.params = .ok names) :
    (server.notify n).outcome = chain Workspace.forgetNamed server.workspace names := by
  have hrun : (notificationHandler n).run server.unchanged
      = (.ok (), server.unchanged.changed (chain Workspace.forgetNamed server.workspace names)) := by
    rw [hhandler]
    exact (Handler.run_read_bind hread _ _).trans (run_forget names _)
  rw [notify_of_run hrun]
  rfl

end Server

/-- When a path is deleted, the folders that it is in and those under it, by whole components,
forget every file whose path has the deleted one in its text. All other files keep what is cached of
them, and nothing is sent but that the forgotten files are cleared. Among these is, if both are
spelt tidily, each file of a folder that lies under the path. A notification that files were deleted
or renamed does so for the path of each name in turn. -/
theorem deletions_drop_by_text (w : Workspace) :
    (∀ path, w.Forgets (Path.Drops path) (w.handleDeleted path))
      ∧ (∀ path folder file, Path.Tidy path → Path.Tidy file → Path.contains folder file = true →
        Path.contains path file = true → Path.Drops path folder file)
      ∧ ∀ (server : Server) (params : Json) (names : List String), server.workspace = w →
        let drops (folder file : String) : Prop :=
          ∃ name ∈ names, ∃ path, filePathOf name = .ok path ∧ Path.Drops path folder file
        (Params.deletedSchema.readParams Params.deletedOfJson params = .ok names →
          w.Forgets drops (server.notify ⟨"workspace/didDeleteFiles", params⟩).outcome)
        ∧ (Params.renamedSchema.readParams Params.renamedOfJson params = .ok names →
          w.Forgets drops (server.notify ⟨"workspace/didRenameFiles", params⟩).outcome) := by
  refine ⟨w.forgets_handleDeleted, fun _ _ _ => Path.Drops.of_contains, ?_⟩
  rintro server params names rfl
  refine ⟨fun hread => ?_, fun hread => ?_⟩
  · rw [Server.outcome_of_forget rfl hread]
    exact server.workspace.forgets_chain names
  · rw [Server.outcome_of_forget rfl hread]
    exact server.workspace.forgets_chain names

theorem Sample.tidy_path : Path.Tidy "/a/x.js" :=
  ⟨[.name "a", .name "x.js"], by decide +kernel, by decide +kernel⟩

/-- An editor tells that the file of an issue was deleted. -/
theorem deleted_file_is_dropped :
    let server : Server := ⟨(Sample.start.run Sample.acts).workspace, .new, false, 1⟩
    let params : Json := .object [("files", .array [.object [("uri", .text "file:///a/x.js")]])]
    let w := (server.notify ⟨"workspace/didDeleteFiles", params⟩).server.workspace
    ∃ g, w.folders.get? "/a" = some g ∧ g.ref = Sample.ref ∧ g.cache.get? "/a/x.js" = none := by
  intro server params w
  obtain ⟨-, hunder, hnotify⟩ := deletions_drop_by_text server.workspace
  have hdrops : Path.Drops "/a/x.js" "/a" "/a/x.js" :=
    hunder "/a/x.js" "/a" "/a/x.js" Sample.tidy_path Sample.tidy_path (by decide) (by decide)
  have hforgets := (hnotify server params ["file:///a/x.js"] rfl).1 rfl
  obtain ⟨g, hg, href, hdropped, -⟩ := hforgets.folders "/a" Sample.folder rfl
  exact ⟨g, hg, href, hdropped _ ⟨_, .head _, _, Sample.filePathOf_url, hdrops⟩⟩

/-- The deleted name begins the name of another file in the folder, which is dropped with it. -/
theorem namesake_is_dropped :
    let report : ScanReport :=
      ⟨some .code, .ok [{ Sample.issue with path := "/a/x.jsx" }], 0, none⟩
    let acts := [.add "/a" "a", .operate Sample.ref (.process .listed report)]
    let w := (Sample.start.run acts).workspace
    let next := w.handleDeleted "/a/x.js"
    Path.contains "/a/x.js" "/a/x.jsx" = false
      ∧ (w.folders.get? "/a").map (fun f => f.cache.keys) = some ["/a/x.jsx"]
      ∧ (next.1.folders.get? "/a").map (fun f => f.cache.keys) = some []
      ∧ Event.hovers next.2 = [.ofIssues "/a/x.jsx" []] := by
  decide +kernel

end ScanRelay
