import ScanRelay.Proofs.Lookup
import ScanRelay.Proofs.Rescan
import ScanRelay.Proofs.Traces

/-!
# Scans of saved files

A save makes a folder forget the file and starts a task that looks the folder up again. If nothing
was done to the folder and no folder was opened or closed meanwhile, the task finds that folder
(`Workspace.Has.folderContaining`), with nothing cached of the file, so it enters the scanner. From
then on it is polled now and then, and what else happens spares the folder, which the scan finds as
the save left it (`FileScan`). So what is cached of the file in the end comes from the scan
(`save_rescans_file`).
-/

namespace ScanRelay

/-! ## Paths of files -/

theorem Url.exists_closeDrive_cons (b : UInt8) (bs : List UInt8) :
    ∃ bs', closeDrive (b :: bs) = b :: bs' := by
  unfold closeDrive
  split
  · split
    · exact ⟨bs ++ [47], rfl⟩
    · exact ⟨bs, rfl⟩
  · exact ⟨bs, rfl⟩

/-- What a URL names is an absolute path. -/
theorem Url.isAbsolute_of_toFilePath? {u : Url} {path : String} (h : u.toFilePath? = some path) :
    Path.isAbsolute path := by
  unfold toFilePath? at h
  split at h
  · exact absurd h (by simp)
  · exact absurd h (by simp)
  · rename_i segments hne _
    split at h
    · obtain ⟨s, rest, rfl⟩ := List.exists_cons_of_ne_nil hne
      obtain ⟨bs, hbs⟩ := exists_closeDrive_cons 47
        (Percent.decode s.toList ++ rest.flatMap fun s => 47 :: Percent.decode s.toList)
      have hdecode : Utf8.decode (47 :: bs) = '/' :: Utf8.decode bs := Utf8.decode_encodeChar '/' bs
      rw [List.flatMap_cons, List.cons_append, hbs, Utf8.decodeText, hdecode] at h
      rw [← Option.some.inj h, Path.isAbsolute, String.toList_ofList]
      rfl
    · exact absurd h (by simp)

theorem Url.isAbsolute_of_filePath {u : Url} {path : String} (h : u.filePath = .ok path) :
    Path.isAbsolute path := by
  unfold filePath at h
  split at h
  · rename_i hpath
    exact isAbsolute_of_toFilePath? (hpath.trans (congrArg some (Except.ok.inj h)))
  · exact absurd h (by simp)

/-! ## Folders that are spared -/

/-- The act opens and closes no folder. -/
def Act.KeepsFolders : Act → Prop
  | add _ _ | remove _ => False
  | _ => True

namespace Workspace

variable {w v : Workspace} {f g : Folder} {path : String}

theorem Each.mem_keys {op : Folder → Folder × List Event} {next : Workspace × List Entry}
    (h : w.Each op next) (k : String) : k ∈ next.1.folders.keys ↔ k ∈ w.folders.keys := by
  simp [Table.mem_keys_iff, h.folders]

theorem mem_keys_act {a : Act} (ha : a.KeepsFolders) (k : String) :
    k ∈ (w.act a).1.folders.keys ↔ k ∈ w.folders.keys := by
  cases a with
  | add path name => exact ha.elim
  | remove path => exact ha.elim
  | operate r op =>
    rcases hr : w.resolve r with _ | f
    · rw [act_operate_of_none hr]
    · rw [act_operate_of_some hr]
      exact mem_keys_putBack ..
  | each op => exact (w.each_onEachSigned _).mem_keys k
  | configure next => rfl
  | applySettings next => exact (w.each_applySettingsSigned next).mem_keys k
  | advance scanner => rfl

theorem mem_keys_acts {l : List Act} (hl : ∀ a ∈ l, a.KeepsFolders) (k : String) :
    k ∈ (w.acts l).1.folders.keys ↔ k ∈ w.folders.keys := by
  induction l generalizing w with
  | nil => rfl
  | cons a rest ih =>
    obtain ⟨ha, hrest⟩ := List.forall_mem_cons.1 hl
    exact (ih hrest).trans (mem_keys_act ha k)

/-- A folder is open at its path in the workspace of a ledger. -/
structure Has (w : Workspace) (f : Folder) : Prop where
  orderly : w.Orderly
  at_path : w.folders.get? f.path = some f

theorem Has.keyed (h : w.Has f) (k : String) (b : Folder) (hb : w.folders.get? k = some b) :
    b.path = k := by
  obtain ⟨log, hlives⟩ := h.orderly
  exact hlives.keyed k b hb

theorem Has.folderContaining (hv : v.Has g) (hw : w.Has f) (hpath : g.path = f.path)
    (hkeys : ∀ k, k ∈ v.folders.keys ↔ k ∈ w.folders.keys)
    (hf : w.folderContaining path = some f) : v.folderContaining path = some g :=
  folderContaining_of_keys hw.keyed hv.keyed hkeys hf (hpath ▸ hv.at_path)

theorem Has.acts (h : w.Has f) {l : List Act} (hl : ∀ a ∈ l, a.Spares f.ref) :
    (w.acts l).1.Has f := by
  induction l generalizing w with
  | nil => exact h
  | cons a rest ih =>
    obtain ⟨ha, hrest⟩ := List.forall_mem_cons.1 hl
    obtain ⟨log, hlives⟩ := h.orderly
    have hholds : Ledger.Holds ⟨w, log⟩ f (share f.stamp log) := ⟨h.at_path, rfl⟩
    exact ih ⟨h.orderly.act a, (hlives.holds_spared hholds ha).at_path⟩ hrest

/-- The workspace with another folder at a path. -/
def replace (w : Workspace) (path : String) (f : Folder) : Workspace :=
  { w with folders := w.folders.insert path f }

theorem Has.replace_self (h : w.Has f) : w.replace f.path f = w := by
  rw [replace, Table.insert_of_get? h.at_path]

theorem Has.mem_keys_replace (h : w.Has f) (g : Folder) (k : String) :
    k ∈ (w.replace f.path g).folders.keys ↔ k ∈ w.folders.keys :=
  Table.mem_keys_insert.trans
    (or_iff_right_of_imp fun hk => hk ▸ Table.mem_keys_iff.2 ⟨f, h.at_path⟩)

theorem Has.operate (h : w.Has f) (op : Operation) :
    let next := op.run w.settings w.hasInline f
    w.onFolder f.ref (op.run w.settings w.hasInline) = (w.replace f.path next.1, next.2)
      ∧ (w.replace f.path next.1).Has next.1 := by
  intro next
  have honFolder : w.onFolder f.ref (op.run w.settings w.hasInline)
      = (w.replace f.path next.1, next.2) :=
    onFolder_of_get? h.at_path (op.run_ref _ _ f)
  refine ⟨honFolder, ?_⟩
  have hact : (w.act (.operate f.ref op)).1 = w.replace f.path next.1 := congrArg Prod.fst honFolder
  have hpath : next.1.path = f.path := op.run_path _ _ f
  refine ⟨hact ▸ h.orderly.act (.operate f.ref op), ?_⟩
  rw [hpath]
  exact (Table.get?_insert _ _ _ _).trans (if_pos rfl)

end Workspace

/-! ## The task -/

/-- What happens before a poll of a task, and whether the task is cancelled by then. -/
structure Wait where
  acts : List Act
  cancelled : Bool

namespace Polled

/-- One more poll of a task. -/
def next (p : Polled Task) (x : Wait) : Polled Task :=
  let q := p.left.poll (p.workspace.acts x.acts).1 x.cancelled
  { q with events := p.events ++ q.events }

def nexts (p : Polled Task) (xs : List Wait) : Polled Task := xs.foldl next p

end Polled

namespace Folder

variable {f : Folder} {r : ScanReport} {issues : List Issue}

theorem entries_finishFileScan (s : Settings) (f : Folder) (cancelled : Bool) (r : ScanReport) :
    Event.entries (f.finishFileScan s cancelled r).2 = [] := by
  unfold finishFileScan
  split
  · rfl
  · exact f.entries_processReport s r

/-- A report only adds to what is cached of a file. -/
theorem prefix_processIn (order : VisitOrder) (s : Settings) (f : Folder) (r : ScanReport)
    (p : String) : f.cache.issuesOf p <+: (f.processIn order s r).1.cache.issuesOf p := by
  rw [processIn_eq]
  split
  · exact List.prefix_rfl
  · rename_i issues _
    rw [(Cache.mergeIn_grows _ f.cache .empty issues).issues p]
    exact List.prefix_append _ _

/-- What it adds are its issues. -/
theorem mem_issuesOf_processIn {order : VisitOrder} {s : Settings} {p : String} {i : Issue}
    (hr : r.outcome = .ok issues) (hi : i ∈ (f.processIn order s r).1.cache.issuesOf p) :
    i ∈ f.cache.issuesOf p ∨ i ∈ issues := by
  rw [processIn_eq] at hi
  simp only [hr] at hi
  exact (Cache.mem_issuesOf_mergeIn hi).imp_right And.left

end Folder

/-- How the scan of a file stands that has entered the scanner. Its folder is spared by all that
happens, so it stays as it was until the scanner returns. -/
inductive FileScan (f : Folder) (path : String) (run : ScanRun) (entry : Event) :
    Polled Task → Prop
  | inside {w : Workspace} (n : Nat) (h : w.Has f) : FileScan f path run entry
      ⟨w, .strands 0 [.underway ⟨f.ref, some path, { run with rounds := n }⟩], [entry]⟩
  | done {w : Workspace} {g : Folder} {told : List Event} (h : w.Has g) (href : g.ref = f.ref)
      (htold : Event.entries told = []) :
      FileScan f path run entry ⟨w, .strands 1 [.finished], entry :: told⟩

namespace FileScan

variable {f : Folder} {path : String} {run : ScanRun} {entry : Event} {p : Polled Task}

/-- A poll finds the scanner busy or takes the report. -/
theorem poll_cases {w : Workspace} (h : w.Has f) (path : String) (run : ScanRun)
    (cancelled : Bool) (n : Nat) :
    let inside (n : Nat) : Task :=
      .strands 0 [.underway ⟨f.ref, some path, { run with rounds := n }⟩]
    let next := f.finishFileScan w.settings cancelled run.report
    (∃ m, (inside n).poll w cancelled = ⟨w, inside m, []⟩)
      ∨ (inside n).poll w cancelled
        = ⟨w.replace f.path next.1, .strands 1 [.finished], next.2⟩ := by
  intro inside next
  let o : OpenScan := ⟨f.ref, some path, { run with rounds := n }⟩
  have hfinish : o.finish w cancelled = (w.replace f.path next.1, next.2) := by
    have honFolder := (h.operate (.endFileScan .listed cancelled run.report)).1
    simp only [Operation.run_endFileScan] at honFolder
    exact honFolder
  rcases o.visit_cases ⟨w, cancelled⟩ with ⟨m, -, hp⟩ | ⟨-, -, hp⟩ | ⟨-, -, hp⟩ <;>
    change o.poll w cancelled = _ at hp
  · exact .inl ⟨m, by simp [inside, Task.poll, Task.pollStrands, o, hp, Strand.isFinished]⟩
  · exact .inl ⟨n, by simp [inside, Task.poll, Task.pollStrands, o, hp, Strand.isFinished]⟩
  · rw [hfinish] at hp
    exact .inr (by simp [inside, Task.poll, Task.pollStrands, o, hp, Strand.isFinished])

theorem next (h : FileScan f path run entry p) {x : Wait} (hx : ∀ a ∈ x.acts, a.Spares f.ref) :
    let found := (p.workspace.acts x.acts).1
    let q := p.next x
    FileScan f path run entry q ∧ (∃ g, q.workspace = found.replace f.path g)
      ∧ (p.left.isFinished = false → q.left.isFinished = true → q.workspace
        = found.replace f.path (f.finishFileScan found.settings x.cancelled run.report).1) := by
  intro found q
  cases h with
  | @inside w n h =>
    have hfound : found.Has f := h.acts hx
    have hentries := f.entries_finishFileScan found.settings x.cancelled run.report
    have hnext := (hfound.operate (.endFileScan .listed x.cancelled run.report)).2
    have href := Operation.run_ref found.settings found.hasInline f
      (.endFileScan .listed x.cancelled run.report)
    rw [Operation.run_endFileScan] at hnext href
    rcases poll_cases hfound path run x.cancelled n with ⟨m, hpoll⟩ | hpoll
    · have hq : q = _ :=
        congrArg (fun r : Polled Task => { r with events := entry :: r.events }) hpoll
      rw [hq]
      exact ⟨.inside m hfound, ⟨f, hfound.replace_self.symm⟩, fun _ hleft =>
        absurd hleft Bool.false_ne_true⟩
    · have hq : q = _ :=
        congrArg (fun r : Polled Task => { r with events := entry :: r.events }) hpoll
      rw [hq]
      exact ⟨.done hnext href hentries, ⟨_, rfl⟩, fun _ _ => rfl⟩
  | @done w g told h href htold =>
    have hfound : found.Has g := h.acts (href ▸ hx)
    have hpath : g.path = f.path := congrArg FolderRef.path href
    have hq : q = ⟨found, .strands 1 [.finished], entry :: told⟩ := by
      simp [q, Polled.next, Task.poll, Task.pollStrands, found]
    rw [hq]
    refine ⟨.done hfound href htold, ⟨g, ?_⟩, fun hleft =>
      absurd hleft.symm Bool.false_ne_true⟩
    rw [← hpath, hfound.replace_self]

theorem nexts (h : FileScan f path run entry p) {xs : List Wait}
    (hxs : ∀ x ∈ xs, ∀ a ∈ x.acts, a.Spares f.ref) : FileScan f path run entry (p.nexts xs) :=
  List.foldlRecOn (motive := FileScan f path run entry) xs Polled.next h
    fun _ hp x hx => (hp.next (hxs x hx)).1

theorem events (h : FileScan f path run entry p) : Event.entries p.events = Event.entries [entry]
    ∧ (p.left.isFinished = false → p.events = [entry]) := by
  cases h with
  | inside n h => exact ⟨rfl, fun _ => rfl⟩
  | done h href htold =>
    refine ⟨?_, fun hleft => absurd hleft.symm Bool.false_ne_true⟩
    refine (Event.entries_append [entry] _).trans ?_
    rw [htold, List.append_nil]

/-- A task for a file of which nothing is cached enters the scanner in the folder around it, if that
is trusted. -/
theorem start {w : Workspace} (h : w.Has f) (hf : w.folderContaining path = some f)
    (htrusted : f.isTrusted w.settings = true) (hnew : f.cache.issuesOf path = [])
    (cancelled : Bool) :
    let entry := w.scanner.next w.settings.scanner cancelled path f.path
    let inside : Polled Task := ⟨{ w with scanner := entry.2 },
      .strands 0 [.underway ⟨f.ref, some path, entry.1⟩], [.scan path f.path cancelled]⟩
    (Task.single (.file path)).poll w cancelled = inside.next ⟨[], cancelled⟩
      ∧ FileScan f path entry.1 (.scan path f.path cancelled) inside := by
  intro entry inside
  refine ⟨?_, .inside entry.1.rounds ⟨h.orderly.act (.advance entry.2), h.at_path⟩⟩
  have hfolder : (ScanJob.file path).folder? w = some f := hf
  have hstart : Strand.start w cancelled (.file path) = OpenScan.enter w cancelled f (some path) :=
    Strand.start_of_trusted hfolder htrusted (by simpa [ScanJob.file?] using hnew) cancelled
  simp [Task.poll, Task.single, Task.pollStrands, hstart, OpenScan.enter, Polled.next, inside,
    entry, Workspace.acts, chain]

end FileScan

/-- A save, in any reachable workspace. Outside of all folders it does nothing. Otherwise the folder
forgets the file, which is shown without issues and hovers, and one task is started. If no folder is
opened or closed and this one is spared until the task begins, and it is trusted then, the first
poll enters the scanner for the file in this folder. The scanner is not entered again, and nothing
is shown or told until it returns. While the folder is spared, no poll changes another folder, or
anything else of the workspace that it finds. If the scan returns with issues and is not cancelled
by then, all that is cached of the file is among them, and what was cached of another file before
the save begins what is cached of it now. -/
theorem save_rescans_file (s : Settings) (scanner : Scanner) (before : List Act) {server : Server}
    (hserver : server.workspace = ((Ledger.start s scanner).run before).workspace)
    {params : Json} {url : Url} {path : String}
    (hread : Params.savedSchema.readParams Params.documentOfJson params = .ok url)
    (hpath : url.filePath = .ok path) :
    let w := server.workspace
    let h := server.notify ⟨"textDocument/didSave", params⟩
    (w.folderContaining path = none → h = server.unchanged)
    ∧ ∀ f, w.folderContaining path = some f →
      let cleared : Folder := { f with cache := f.cache.erase path, scanned := false }
      (h.server.workspace = w.replace f.path cleared
        ∧ (∃ u, Url.ofFilePath? path = some u
          ∧ h.events = (if w.hasInline then [.clearInline path] else [])
            ++ [.send (.diagnostics ⟨u, [], none⟩), .hover ⟨path, []⟩])
        ∧ h.tasks = [.single (.file path)])
      ∧ ∀ between : List Act, (∀ a ∈ between, a.Spares f.ref ∧ a.KeepsFolders) →
        let v := (h.server.workspace.acts between).1
        f.isTrusted v.settings = true → ∀ cancelled,
        let entry := v.scanner.next v.settings.scanner cancelled path f.path
        let inside : Polled Task := ⟨{ v with scanner := entry.2 },
          .strands 0 [.underway ⟨f.ref, some path, entry.1⟩], [.scan path f.path cancelled]⟩
        (Task.single (.file path)).poll v cancelled = inside.next ⟨[], cancelled⟩
        ∧ ∀ waits : List Wait, (∀ x ∈ waits, ∀ a ∈ x.acts, a.Spares f.ref) →
          let p := inside.nexts waits
          Event.entries p.events = [(path, f.path)]
          ∧ (p.left.isFinished = false → p.events = [.scan path f.path cancelled])
          ∧ ∀ x : Wait, (∀ a ∈ x.acts, a.Spares f.ref) →
            let found := (p.workspace.acts x.acts).1
            let q := p.next x
            (∃ g, q.workspace = found.replace f.path g)
            ∧ ∀ issues, entry.1.report.outcome = .ok issues → p.left.isFinished = false →
              q.left.isFinished = true → x.cancelled = false → ∀ order,
              let g := (cleared.processIn order found.settings entry.1.report).1
              (order = .listed → q.workspace = found.replace f.path g)
              ∧ (∀ i ∈ g.cache.issuesOf path, i ∈ issues)
              ∧ ∀ k, k ≠ path → f.cache.issuesOf k <+: g.cache.issuesOf k := by
  intro w h
  refine ⟨Server.notify_didSave_outside hread hpath, ?_⟩
  intro f hf cleared
  have hlives : Ledger.Lives True ((Ledger.start s scanner).run before) :=
    Ledger.lives_run s scanner fun _ _ _ => trivial
  have horderly : w.Orderly := by
    rw [show w = _ from hserver]
    exact ⟨_, hlives⟩
  have hhas : w.Has f := ⟨horderly, horderly.get?_of_containing hf⟩
  obtain ⟨honFolder, hcleared⟩ := hhas.operate (.clearFile path)
  have hh : h = _ := Server.handled_didSave hread hpath hf
  have hworkspace : h.server.workspace = w.replace f.path cleared := by
    rw [hh]
    exact congrArg Prod.fst honFolder
  refine ⟨⟨hworkspace, ?_, by rw [hh]; rfl⟩, ?_⟩
  · obtain ⟨u, hu⟩ := Url.exists_ofFilePath? (Url.isAbsolute_of_filePath hpath)
    refine ⟨u, hu, ?_⟩
    have hevents : h.events = (f.clearFile w.hasInline path).2 := by
      rw [hh]
      exact congrArg Prod.snd honFolder
    rw [hevents, Folder.clearFile, Publish.clear, Publish.file, Publish.diagnostics, hu]
    rfl
  · intro between hbetween v htrusted cancelled entry inside
    have hv : v.Has cleared := by
      refine Workspace.Has.acts ?_ fun a ha => (hbetween a ha).1
      exact hworkspace ▸ hcleared
    have hkeys : ∀ k, k ∈ v.folders.keys ↔ k ∈ w.folders.keys := by
      intro k
      rw [Workspace.mem_keys_acts fun a ha => (hbetween a ha).2, hworkspace, hhas.mem_keys_replace]
    have hnew : cleared.cache.issuesOf path = [] :=
      (Cache.issuesOf_erase _ _ _).trans (if_pos rfl)
    obtain ⟨hpoll, hinside⟩ :=
      FileScan.start hv (hv.folderContaining hhas rfl hkeys hf) htrusted hnew cancelled
    refine ⟨hpoll, fun waits hwaits => ?_⟩
    intro p
    have hp : FileScan cleared path entry.1 _ p := hinside.nexts hwaits
    refine ⟨hp.events.1, hp.events.2, fun x hx => ?_⟩
    intro found q
    obtain ⟨-, hothers, hreturned⟩ := hp.next hx
    refine ⟨hothers, fun issues hissues hleft hleft' hcancelled order => ?_⟩
    intro g
    refine ⟨?_, fun i hi => ?_, fun k hk => ?_⟩
    · rintro rfl
      rw [show q.workspace = _ from hreturned hleft hleft', Folder.finishFileScan,
        if_neg (ne_true_of_eq_false hcancelled), ← Folder.processIn_listed]
    · have hmem := Folder.mem_issuesOf_processIn hissues hi
      rw [hnew] at hmem
      exact hmem.resolve_left List.not_mem_nil
    · have hkept : cleared.cache.issuesOf k = f.cache.issuesOf k :=
        (Cache.issuesOf_erase _ _ _).trans (if_neg hk)
      exact hkept ▸ Folder.prefix_processIn order found.settings cleared entry.1.report k

/-- A file with an issue is saved, and its scan finds another one. Another folder is opened while
the scanner is busy. -/
theorem save_rescans_scanned_file :
    let server : Server := ⟨(Sample.start.run Sample.acts).workspace, .new, false, 1⟩
    let h := server.notify ⟨"textDocument/didSave", Sample.savedFile "file:///a/x.js"⟩
    let run : ScanRun := ⟨1, false, ⟨some .code, .ok [Sample.found "2" "/a/x.js"], 0, none⟩⟩
    let v := (h.server.workspace.acts [.advance ⟨.script [run], none⟩]).1
    let inside : Polled Task :=
      ⟨v, .strands 0 [.underway ⟨Sample.ref, some "/a/x.js", run⟩], [.scan "/a/x.js" "/a" false]⟩
    let busy := inside.next ⟨[], false⟩
    let done := busy.next ⟨[.add "/b" "b"], false⟩
    (Task.single (.file "/a/x.js")).poll v false = busy
      ∧ Event.entries busy.events = [("/a/x.js", "/a")]
      ∧ ∃ g, done.workspace.folders.get? "/a" = some g
        ∧ ∀ i ∈ g.cache.issuesOf "/a/x.js", i ∈ [Sample.found "2" "/a/x.js"] := by
  intro server h run v inside busy done
  have hserver : server.workspace = (Sample.start.run Sample.acts).workspace := rfl
  have hfolder : server.workspace.folderContaining "/a/x.js" = some Sample.folder := rfl
  obtain ⟨-, hsave⟩ := save_rescans_file (.standard "") ⟨.script [], none⟩ Sample.acts hserver
    Sample.read_savedFile Sample.filePath_url
  obtain ⟨⟨hworkspace, -⟩, htask⟩ := hsave Sample.folder hfolder
  have hspared : ∀ a ∈ [Act.advance ⟨.script [run], none⟩],
      a.Spares Sample.folder.ref ∧ a.KeepsFolders := by
    simp [Act.Spares, Act.KeepsFolders]
  have htrusted : Sample.folder.isTrusted v.settings = true := by
    show Sample.folder.isTrusted h.server.workspace.settings = true
    rw [hworkspace]
    rfl
  obtain ⟨hpoll, hpolls⟩ := htask _ hspared htrusted false
  obtain ⟨hentries, -, hlast⟩ := hpolls [⟨[], false⟩] (by simp)
  obtain ⟨-, hreturned⟩ := hlast ⟨[.add "/b" "b"], false⟩ (by simp [Act.Spares])
  obtain ⟨hlisted, hfresh, -⟩ := hreturned _ rfl rfl rfl rfl .listed
  refine ⟨hpoll, hentries, _, ?_, hfresh⟩
  exact (congrArg (fun w : Workspace => w.folders.get? "/a") (hlisted rfl)).trans
    (Table.get?_insert _ _ _ _)

end ScanRelay
