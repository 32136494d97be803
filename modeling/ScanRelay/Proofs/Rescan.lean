import ScanRelay.Proofs.Containment
import ScanRelay.Proofs.Passes
import ScanRelay.Proofs.Spellings

/-!
# Rescans

The commands that scan a folder anew clear it before the task of the scan is started. The scan goes
on while other folders change (`Act.Spares`), and finds its own as the command left it. When it has
returned, the folder stands as a new one would with the same report: nothing is left of what was
cached or shown before but empty lists (`rescan_forgets_history`).
-/

namespace ScanRelay

theorem Life.normal {silent : Prop} {isOpen : Bool} {s : Settings} {f : Folder} {es : List Event}
    (h : Life silent isOpen s f es) : Path.normalize f.path = f.path := by
  induction h with
  | new s path name stamp => exact Path.normalize_normalize path
  | operate inline op hop hlife ih => rwa [Operation.run_path]
  | configure next hsilent hlife ih => exact ih
  | applySettings next hlife ih =>
    rename_i s f es
    have hpath : (f.applySettings s next).1.path = f.path :=
      congrArg FolderRef.path (f.ref_applySettings s next)
    rwa [hpath]
  | close hlife ih => exact ih

/-! ## How a folder stands -/

/-- What a folder has, and what an editor shows that follows it. -/
structure Standing where
  cache : Cache
  scanned : Bool
  diagnostics : Url → List Diagnostic
  hovers : String → Option (List Hover)

def Folder.standing (f : Folder) (es : List Event) : Standing where
  cache := f.cache
  scanned := f.scanned
  diagnostics u := (Event.lastDiagnostics u es).getD []
  hovers p := Table.get? (HoverTable.applyAll .empty (Event.hovers es)) p

namespace Folder

variable {f g : Folder} {es fs : List Event} {files : List Exhibit}

theorem standing_congr (hcache : f.cache = g.cache) (hscanned : f.scanned = g.scanned)
    (hf : Shows es files) (hg : Shows fs files) : f.standing es = g.standing fs := by
  simp only [standing, Event.lastDiagnostics, hcache, hscanned, hf.diagnostics, hg.diagnostics,
    hf.hovers, hg.hovers]

end Folder

theorem Silenced.lastDiagnostics_append {es : List Event} (h : Silenced es) (fs : List Event)
    (u : Url) : Event.lastDiagnostics u (es ++ fs)
      = (Event.lastDiagnostics u fs).or ((Event.lastDiagnostics u es).map fun _ => []) := by
  rw [Event.lastDiagnostics_append]
  congr 1
  rcases hds : Event.lastDiagnostics u es with _ | ds
  · rfl
  · rw [h.lastDiagnostics hds]
    rfl

/-- What was shown before and is gone makes no difference. -/
theorem Silenced.standing_append {es : List Event} (h : Silenced es) (f : Folder)
    (fs : List Event) : f.standing (es ++ fs) = f.standing fs := by
  have hdiagnostics : ∀ u, (Event.lastDiagnostics u (es ++ fs)).getD []
      = (Event.lastDiagnostics u fs).getD [] := by
    intro u
    rw [h.lastDiagnostics_append]
    cases Event.lastDiagnostics u fs <;> cases Event.lastDiagnostics u es <;> rfl
  have hhovers : ∀ p, Table.get? (HoverTable.applyAll .empty (Event.hovers (es ++ fs))) p
      = Table.get? (HoverTable.applyAll .empty (Event.hovers fs)) p := by
    intro p
    have hsplit : HoverTable.applyAll .empty (Event.hovers (es ++ fs))
        = (HoverTable.applyAll .empty (Event.hovers es)).applyAll (Event.hovers fs) := by
      rw [Event.hovers_append]
      exact List.foldl_append
    rw [hsplit, HoverTable.get?_applyAll, h.get?_hovers p, HoverTable.get?_applyAll]
    rfl
  simp only [Folder.standing, hdiagnostics, hhovers]

/-! ## Acts on other folders -/

/-- The act is none on this folder. -/
def Act.Spares (r : FolderRef) : Act → Prop
  | remove path => Path.normalize path ≠ r.path
  | operate r' _ => r'.stamp ≠ r.stamp
  | each op => ∀ f, f.stamp = r.stamp → op f = none
  | applySettings _ => False
  | _ => True

namespace Ledger

variable {l : Ledger} {f : Folder}

/-- An open folder at its path, with the events it has sent. -/
structure Holds (l : Ledger) (f : Folder) (es : List Event) : Prop where
  at_path : l.workspace.folders.get? f.path = some f
  sent : l.sent f = es

theorem Holds.open {es : List Event} (h : l.Holds f es) : l.Open f := ⟨f.path, h.at_path⟩

/-- To put a folder back leaves the others as they are. -/
theorem get?_putBack_other {w : Workspace} {k : String} (hf : w.folders.get? k = some f)
    {g : Folder} (hstamp : g.stamp ≠ f.stamp) : (w.putBack g).folders.get? k = some f := by
  unfold Workspace.putBack
  split
  · rename_i g' hg'
    split
    · rename_i heq
      have hk : k ≠ g.path := by
        rintro rfl
        obtain rfl := Option.some.inj (hf.symm.trans hg')
        exact hstamp heq.symm
      rw [Table.get?_insert, if_neg hk]
      exact hf
    · exact hf
  · exact hf

theorem Lives.holds_each (hl : l.Lives True) {es : List Event} (h : l.Holds f es)
    (op : Folder → Option Operation) :
    let next := Operation.runIf l.workspace.settings l.workspace.hasInline f (op f)
    (l.step (.each op)).Holds next.1 (es ++ next.2) := by
  intro next
  obtain ⟨hf, hsent⟩ := h
  have heach := l.workspace.each_onEachSigned
    fun g => Operation.runIf l.workspace.settings l.workspace.hasInline g (op g)
  have href : next.1.ref = f.ref := Operation.ref_runIf _ _ f (op f)
  have hpath : next.1.path = f.path := congrArg FolderRef.path href
  have hstamp : next.1.stamp = f.stamp := congrArg FolderRef.stamp href
  refine ⟨?_, ?_⟩
  · refine (heach.folders next.1.path).trans ?_
    rw [hpath, hf]
    rfl
  · have hshare : share f.stamp (l.workspace.act (.each op)).2 = next.2 :=
      heach.share hl.apart _ f hf
    show share next.1.stamp (l.log ++ (l.workspace.act (.each op)).2) = es ++ next.2
    rw [hstamp, share_append, hshare]
    exact congrArg (· ++ next.2) hsent

theorem Lives.holds_spared (hl : l.Lives True) {es : List Event} (h : l.Holds f es) {a : Act}
    (ha : a.Spares f.ref) : (l.step a).Holds f es := by
  obtain ⟨hf, hsent⟩ := h
  have hother : ∀ {w : Workspace} {more : List Entry}, (∀ e ∈ more, e.1 ≠ f.stamp) →
      sent ⟨w, l.log ++ more⟩ f = es := fun hmore => (sent_of_ne hmore).trans hsent
  cases a with
  | add path name =>
    refine ⟨?_, hother (by simp [Workspace.act])⟩
    show (l.workspace.add path name).folders.get? f.path = some f
    unfold Workspace.add
    split
    · exact hf
    · rename_i habsent
      have hne : f.path ≠ Path.normalize path := by
        intro heq
        rw [← heq, Table.contains, hf] at habsent
        exact habsent rfl
      rw [Table.get?_insert, if_neg hne]
      exact hf
  | remove path =>
    unfold Ledger.step
    rcases hg : l.workspace.folder? path with _ | g
    · rw [Workspace.act_remove_of_none hg]
      exact ⟨hf, hother (by simp)⟩
    · rw [Workspace.act_remove_of_some hg]
      refine ⟨?_, hother fun e he => ?_⟩
      · show Table.get? (l.workspace.folders.erase (Path.normalize path)) f.path = some f
        have hne : f.path ≠ Path.normalize path := Ne.symm ha
        rw [Table.get?_erase, if_neg hne]
        exact hf
      · rw [mem_signed he]
        exact fun heq => ha (hl.apart _ g _ f hg hf heq)
  | operate r op =>
    unfold Ledger.step
    rcases hg : l.workspace.resolve r with _ | g
    · rw [Workspace.act_operate_of_none hg]
      exact ⟨hf, hother (by simp)⟩
    · rw [Workspace.act_operate_of_some hg]
      refine ⟨get?_putBack_other hf ?_, hother fun e he => mem_signed he ▸ ha⟩
      rw [Operation.run_stamp, (Workspace.resolve_cases hg).1]
      exact ha
  | each op =>
    have heach := hl.holds_each ⟨hf, hsent⟩ op
    rw [ha f rfl] at heach
    simpa only [Operation.runIf, List.append_nil] using heach
  | configure next => exact ⟨hf, hother (by simp [Workspace.act])⟩
  | applySettings next => exact ha.elim
  | advance scanner => exact ⟨hf, hother (by simp [Workspace.act])⟩

theorem Lives.holds_run (hl : l.Lives True) {es : List Event} (h : l.Holds f es) {acts : List Act}
    (hacts : ∀ a ∈ acts, a.Spares f.ref) : (l.run acts).Holds f es := by
  induction acts generalizing l with
  | nil => exact h
  | cons a rest ih =>
    exact ih (hl.step fun _ => trivial) (hl.holds_spared h (hacts a List.mem_cons_self))
      fun b hb => hacts b (List.mem_cons_of_mem _ hb)

theorem Lives.holds_operate (hl : l.Lives True) {es : List Event} (h : l.Holds f es)
    (op : Operation) :
    let next := op.run l.workspace.settings l.workspace.hasInline f
    (l.step (.operate f.ref op)).Holds next.1 (es ++ next.2) := by
  intro next
  obtain ⟨hf, hsent⟩ := h
  have hpath : next.1.path = f.path := op.run_path _ _ f
  have hstamp : next.1.stamp = f.stamp := op.run_stamp _ _ f
  have hresolve : l.workspace.resolve f.ref = some f :=
    Workspace.Orderly.resolve_of_get? ⟨l.log, hl⟩ hf
  unfold Ledger.step
  rw [Workspace.act_operate_of_some hresolve,
    Workspace.putBack_of_open (f := f) (hpath ▸ hf) hstamp.symm]
  refine ⟨(Table.get?_insert _ _ _ _).trans (if_pos rfl), ?_⟩
  show share next.1.stamp (l.log ++ signed f.stamp next.2) = es ++ next.2
  rw [hstamp, share_append, share_signed_self]
  exact congrArg (· ++ next.2) hsent

theorem Lives.holds_clear (hl : l.Lives True) {es : List Event} (h : l.Holds f es) :
    (l.step .clear).Holds f.clear.1 (es ++ f.clear.2) :=
  hl.holds_each h fun _ => some .clear

end Ledger

/-! ## Commands -/

namespace Server

variable {s : Server}

/-- A request that asks to scan a folder anew, alone or with all others. What it clears first, and
the task that it starts. -/
inductive Commands (s : Server) (f : Folder) (r : Request) : Act → Task → Prop
  | folder {c : CommandRequest} {path : String} (hmethod : r.method = "workspace/executeCommand")
      (hread : CommandRequest.schema.readParams CommandRequest.ofJson r.params = .ok c)
      (hcommand : c.command = folderScan) (hpath : firstPath c.arguments = .ok path)
      (hfolder : (s.workspace.folder? path).or (s.workspace.folderContaining path) = some f) :
      Commands s f r (.operate f.ref .clear) (.single (.folder f.ref))
  | workspace {c : CommandRequest} (hmethod : r.method = "workspace/executeCommand")
      (hread : CommandRequest.schema.readParams CommandRequest.ofJson r.params = .ok c)
      (hcommand : c.command = workspaceScan) (hopen : s.workspace.folders.get? f.path = some f) :
      Commands s f r .clear .workspace

variable {f : Folder} {r : Request} {cleared : Act} {task : Task}

theorem run_perform_folderScan {c : CommandRequest} {path : String}
    (hcommand : c.command = folderScan) (hpath : firstPath c.arguments = .ok path)
    (hfolder : (s.workspace.folder? path).or (s.workspace.folderContaining path) = some f) :
    (perform c).run s.unchanged
      = (.ok (), (s.unchanged.changed (s.workspace.onFolder f.ref Folder.clear)).started
        (.single (.folder f.ref))) := by
  have hother : c.command ≠ workspaceScan := by rw [hcommand]; decide
  rw [perform, if_neg hother, if_pos hcommand, Handler.run_read_bind hpath, Handler.run_bind,
    Handler.run_workspace]
  dsimp only [unchanged]
  rw [hfolder]
  rfl

theorem run_perform_workspaceScan {c : CommandRequest} (hcommand : c.command = workspaceScan) :
    (perform c).run s.unchanged
      = (.ok (), (s.unchanged.changed s.workspace.clearIssues).started .workspace) := by
  rw [perform, if_pos hcommand]
  rfl

/-- The request does what it clears, hands on the hovers of that, and starts its task. -/
theorem Commands.request (h : s.Commands f r cleared task) :
    (s.request r).server.workspace = (s.workspace.act cleared).1
      ∧ (s.request r).events = (s.workspace.act cleared).2.map (·.2) ++ [reply r.id (.ok .null)]
      ∧ (s.request r).server.hovers = s.hovers.sendAll (Event.hovers (s.request r).events)
      ∧ (s.request r).tasks = [task] := by
  cases h with
  | folder hmethod hread hcommand hpath hfolder =>
    rw [request_of_perform hmethod hread (run_perform_folderScan hcommand hpath hfolder)]
    refine ⟨rfl, ?_, rfl, rfl⟩
    show _ = (s.workspace.outcome (.operate f.ref .clear)).2 ++ _
    rw [Workspace.outcome_operate]
    rfl
  | workspace hmethod hread hcommand hopen =>
    rw [request_of_perform hmethod hread (run_perform_workspaceScan hcommand)]
    refine ⟨rfl, ?_, rfl, rfl⟩
    show _ = (s.workspace.outcome .clear).2 ++ _
    rw [s.workspace.performs.clearIssues]
    rfl

theorem Commands.get? (h : s.Commands f r cleared task) (hs : s.workspace.Orderly) :
    s.workspace.folders.get? f.path = some f := by
  cases h with
  | folder hmethod hread hcommand hpath hfolder =>
    rcases Option.or_eq_some_iff.1 hfolder with hfolder | ⟨-, hfolder⟩
    · obtain ⟨log, hlives⟩ := hs
      have hkey := hlives.keyed _ f hfolder
      rwa [hkey]
    · exact hs.get?_of_containing hfolder
  | workspace hmethod hread hcommand hopen => exact hopen

theorem Commands.holds (h : s.Commands f r cleared task) {l : Ledger} (hl : l.Lives True)
    {es : List Event} (hf : l.Holds f es) :
    (l.step cleared).Holds f.clear.1 (es ++ f.clear.2) := by
  cases h with
  | folder => exact hl.holds_operate hf .clear
  | workspace => exact hl.holds_clear hf

/-- The task has a strand for the folder, if it is open when the task begins. -/
theorem Commands.queued (h : s.Commands f r cleared task) {w : Workspace} {g : Folder}
    (hg : w.folders.get? f.path = some g) (href : g.ref = f.ref)
    (hlimit : w.mostScans ≤ Task.mostPermits) :
    ∃ free ss, task.opened w = .strands free ss ∧ .queued (.folder f.ref) ∈ ss := by
  cases h with
  | folder => exact ⟨1, _, rfl, List.mem_singleton.2 rfl⟩
  | workspace =>
    refine ⟨_, _, Task.opened_workspace hlimit, ?_⟩
    exact href ▸ List.mem_map_of_mem (Table.mem_values_iff.2 ⟨_, hg⟩)

end Server

/-! ## A rescan -/

/-- A rescan of a folder, by a server with any history. -/
structure Rescan where
  settings : Settings
  scanner : Scanner
  before : List Act
  server : Server
  folder : Folder
  request : Request
  cleared : Act
  task : Task
  /-- What happens between the command and the return of the scan. -/
  between : List Act
  order : VisitOrder
  report : ScanReport
  issues : List Issue
  workspace_eq : server.workspace = ((Ledger.start settings scanner).run before).workspace
  commands : server.Commands folder request cleared task
  spares : ∀ a ∈ between, a.Spares folder.ref
  found : report.outcome = .ok issues

namespace Rescan

def asked (R : Rescan) : Ledger := (Ledger.start R.settings R.scanner).run R.before

def begun (R : Rescan) : Ledger := R.asked.step R.cleared

def returning (R : Rescan) : Ledger := R.begun.run R.between

/-- What the return of the scan is to the folder. -/
def completion (R : Rescan) : Operation := .endFolderScan R.order false R.report

def ended (R : Rescan) : Ledger := R.returning.step (.operate R.folder.ref R.completion)

/-- What is sent when the command is carried out. -/
def told (R : Rescan) : List Event := (R.asked.workspace.act R.cleared).2.map (·.2)

/-- What is sent when the scan returns. -/
def reported (R : Rescan) : List Event :=
  (R.returning.workspace.act (.operate R.folder.ref R.completion)).2.map (·.2)

/-- What it is to a new folder. -/
def afresh (R : Rescan) : Folder × List Event :=
  R.completion.run R.returning.workspace.settings R.returning.workspace.hasInline
    (.new R.folder.path R.folder.name R.folder.stamp)

variable (R : Rescan)

theorem lives_asked : R.asked.Lives True :=
  Ledger.lives_run R.settings R.scanner fun _ _ _ => trivial

theorem lives_returning : R.returning.Lives True := by
  have hrun : R.returning
      = (Ledger.start R.settings R.scanner).run (R.before ++ R.cleared :: R.between) := by
    rw [Ledger.run_append]
    rfl
  rw [hrun]
  exact Ledger.lives_run R.settings R.scanner fun _ _ _ => trivial

theorem holds_asked : R.asked.Holds R.folder (R.asked.sent R.folder) where
  at_path := by
    have hserver : R.server.workspace = R.asked.workspace := R.workspace_eq
    rw [← hserver]
    exact R.commands.get? ⟨R.asked.log, hserver ▸ R.lives_asked⟩
  sent := rfl

theorem holds_begun : R.begun.Holds R.folder.clear.1
    (R.asked.sent R.folder ++ R.folder.clear.2) :=
  R.commands.holds R.lives_asked R.holds_asked

theorem holds_returning : R.returning.Holds R.folder.clear.1
    (R.asked.sent R.folder ++ R.folder.clear.2) :=
  (R.lives_asked.step fun _ => trivial).holds_run R.holds_begun R.spares

theorem silenced_returning : Silenced (R.asked.sent R.folder ++ R.folder.clear.2) := by
  have hlife := R.lives_returning.life _ R.holds_returning.open
  rw [R.holds_returning.sent] at hlife
  exact hlife.silenced rfl

/-- A folder that was cleared is like a new one. -/
theorem clear_eq_new : R.folder.clear.1 = .new R.folder.path R.folder.name R.folder.stamp := by
  have hnormal := (R.lives_asked.life R.folder R.holds_asked.open).normal
  unfold Folder.new
  rw [hnormal]
  rfl

theorem holds_ended : R.ended.Holds R.afresh.1
    (R.asked.sent R.folder ++ R.folder.clear.2 ++ R.afresh.2) := by
  unfold afresh
  rw [← R.clear_eq_new]
  exact R.lives_returning.holds_operate R.holds_returning R.completion

theorem scanned_afresh : R.afresh.1.scanned = true := by
  show (_ || R.report.outcome.isOk) = true
  rw [R.found]
  exact Bool.or_true _

theorem cache_afresh : R.afresh.1.cache
    = (Cache.mergeIn (R.order.arrange (Cache.filesOf R.issues)) .empty .empty R.issues).cache := by
  show (Folder.processIn _ _ _ _).1.cache = _
  rw [Folder.processIn_eq]
  simp only [R.found]
  rfl

theorem shows_afresh :
    Shows R.afresh.2 (R.afresh.1.exhibits R.returning.workspace.settings) := by
  show Shows (Folder.processIn _ _ _ _).2
    ((Folder.processIn _ _ _ _).1.exhibits R.returning.workspace.settings)
  rw [Folder.processIn_eq]
  simp only [R.found]
  exact (Shows.telemetry _).append (Folder.shows_publish _ _ _)

theorem ref_afresh : R.afresh.1.ref = R.folder.ref := by
  unfold afresh
  rw [← R.clear_eq_new]
  exact Operation.run_ref _ _ _ R.completion

/-- The folder at the end is the only one of its reference. -/
theorem eq_afresh_of_open {g : Folder} (hg : R.ended.Open g) (href : g.ref = R.folder.ref) :
    g = R.afresh.1 := by
  obtain ⟨k, hk⟩ := hg
  have hlives : R.ended.Lives True := R.lives_returning.step fun _ => trivial
  have hstamp : g.stamp = R.afresh.1.stamp :=
    congrArg FolderRef.stamp (href.trans R.ref_afresh.symm)
  have hafresh := R.holds_ended.at_path
  obtain rfl := hlives.apart _ _ _ _ hk hafresh hstamp
  exact Option.some.inj (hk.symm.trans hafresh)

theorem standing_ended :
    R.afresh.1.standing (R.ended.sent R.afresh.1) = R.afresh.1.standing R.afresh.2 := by
  rw [R.holds_ended.sent]
  exact R.silenced_returning.standing_append _ _

theorem start_strand (htrusted : R.folder.isTrusted R.returning.workspace.settings) :
    Strand.start R.returning.workspace false (.folder R.folder.ref)
      = OpenScan.enter R.returning.workspace false R.folder.clear.1 none := by
  have hresolve : R.returning.workspace.resolve R.folder.ref = some R.folder.clear.1 :=
    Workspace.Orderly.resolve_of_get? ⟨R.returning.log, R.lives_returning⟩
      R.holds_returning.at_path
  have htrusted' : R.folder.clear.1.isTrusted R.returning.workspace.settings = true := htrusted
  simp only [Strand.start, hresolve, Strand.startFolder, Folder.startFolderScan, htrusted', if_true]

theorem finish_strand (hlisted : R.order = .listed) {run : ScanRun} (hrun : run.report = R.report) :
    OpenScan.finish R.returning.workspace false ⟨R.folder.ref, none, run⟩
      = (R.ended.workspace, R.reported) := by
  rw [← Workspace.outcome_ending]
  unfold ended reported completion
  rw [hlisted, ← hrun]
  rfl

/-- With the same settings and the same report, new folders come to the same, and if files share no
identity then whatever the orders are in which they are visited. -/
theorem standing_afresh_congr {R R' : Rescan}
    (hsettings : R.returning.workspace.settings = R'.returning.workspace.settings)
    (hreport : R.report = R'.report) (horder : R.order = R'.order ∨ Unambiguous R.issues) :
    R.afresh.1.standing R.afresh.2 = R'.afresh.1.standing R'.afresh.2 := by
  have hissues : R.issues = R'.issues :=
    Except.ok.inj (R.found.symm.trans ((congrArg ScanReport.outcome hreport).trans R'.found))
  have hcache : R.afresh.1.cache = R'.afresh.1.cache := by
    rw [R.cache_afresh, R'.cache_afresh, ← hissues]
    rcases horder with horder | hsole
    · rw [horder]
    · have hperm := R.order.perm (Cache.filesOf R.issues)
      have hperm' := R'.order.perm (Cache.filesOf R.issues)
      refine Cache.ext_issuesOf (fun p => ?_) fun p => ?_
      · rw [Cache.mem_keys_mergeIn_iff hperm, Cache.mem_keys_mergeIn_iff hperm']
      · rw [Cache.issuesOf_mergeIn hsole hperm, Cache.issuesOf_mergeIn hsole hperm']
  have hshows' := R'.shows_afresh
  rw [← hsettings] at hshows'
  unfold Folder.exhibits at hshows'
  rw [← hcache] at hshows'
  exact Folder.standing_congr hcache (R.scanned_afresh.trans R'.scanned_afresh.symm)
    R.shows_afresh hshows'

end Rescan

/-- A server that is asked to scan a folder anew forgets it at once, sends what comes of that and an
answer, and starts a task, in which the scanner is entered if the folder is trusted. However much
had been cached and shown before, and whatever other folders did meanwhile: when the scan returns,
the folder stands as a new folder would with the same report and the same settings. What was shown
before and is not now is shown as an empty list. So two servers that had different histories end the
same. The acts of a run are what is done to a workspace, with the same events. -/
theorem rescan_forgets_history (R : Rescan) :
    let w := R.returning.workspace
    let asked := R.server.request R.request
    (∀ v : Workspace, v.Performs)
    ∧ (asked.server.workspace = R.begun.workspace
      ∧ asked.events = R.told ++ [Server.reply R.request.id (.ok .null)]
      ∧ asked.server.hovers = R.server.hovers.sendAll (Event.hovers asked.events)
      ∧ asked.tasks = [R.task])
    ∧ (w.mostScans ≤ Task.mostPermits →
      ∃ free ss, R.task.opened w = .strands free ss ∧ .queued (.folder R.folder.ref) ∈ ss)
    ∧ (R.folder.isTrusted w.settings →
      Strand.start w false (.folder R.folder.ref) = OpenScan.enter w false R.folder.clear.1 none)
    ∧ (R.order = .listed → ∀ run : ScanRun, run.report = R.report →
      OpenScan.finish w false ⟨R.folder.ref, none, run⟩ = (R.ended.workspace, R.reported))
    ∧ (∃ g, R.ended.Open g ∧ g.ref = R.folder.ref
      ∧ g.standing (R.ended.sent g) = R.afresh.1.standing R.afresh.2
      ∧ ∀ u, Event.lastDiagnostics u (R.ended.sent g) = (Event.lastDiagnostics u R.afresh.2).or
        ((Event.lastDiagnostics u (R.returning.sent g)).map fun _ => []))
    ∧ ∀ R' : Rescan, R.returning.workspace.settings = R'.returning.workspace.settings →
      R.report = R'.report → (R.order = R'.order ∨ Unambiguous R.issues) →
      ∀ g g', R.ended.Open g → g.ref = R.folder.ref → R'.ended.Open g' → g'.ref = R'.folder.ref →
        g.standing (R.ended.sent g) = g'.standing (R'.ended.sent g') := by
  intro w asked
  have hserver : R.server.workspace = R.asked.workspace := R.workspace_eq
  obtain ⟨hworkspace, hevents, hhovers, htasks⟩ := R.commands.request
  refine ⟨Workspace.performs, ⟨?_, ?_, hhovers, htasks⟩,
    R.commands.queued R.holds_returning.at_path rfl, R.start_strand,
    fun hlisted run => R.finish_strand hlisted, ?_, ?_⟩
  · rw [hworkspace, hserver]
    rfl
  · rw [hevents, hserver]
    rfl
  · refine ⟨R.afresh.1, R.holds_ended.open, R.ref_afresh, R.standing_ended, fun u => ?_⟩
    have hstamp : R.afresh.1.stamp = R.folder.clear.1.stamp :=
      congrArg FolderRef.stamp R.ref_afresh
    have hsent : R.returning.sent R.afresh.1 = R.asked.sent R.folder ++ R.folder.clear.2 := by
      rw [Ledger.sent, hstamp]
      exact R.holds_returning.sent
    rw [R.holds_ended.sent, hsent]
    exact R.silenced_returning.lastDiagnostics_append R.afresh.2 u
  · intro R' hsettings hreport horder g g' hg href hg' href'
    obtain rfl := R.eq_afresh_of_open hg href
    obtain rfl := R'.eq_afresh_of_open hg' href'
    rw [R.standing_ended, R'.standing_ended]
    exact Rescan.standing_afresh_congr hsettings hreport horder

/-- After the scan with one issue, the folder is scanned anew and another issue is found. -/
def Sample.rescan : Rescan where
  settings := .standard ""
  scanner := ⟨.script [], none⟩
  before := acts
  server := ⟨(start.run acts).workspace, .new, false, 1⟩
  folder := folder
  request := ⟨.text "1", "workspace/executeCommand",
    .object [("arguments", .array [.text "/a"]), ("command", .text Server.folderScan)]⟩
  cleared := .operate folder.ref .clear
  task := .single (.folder folder.ref)
  between := [.add "/b" "b"]
  order := .listed
  report := ⟨some .code, .ok [found "2" "/a/y.js"], 0, none⟩
  issues := [found "2" "/a/y.js"]
  workspace_eq := rfl
  commands := .folder (c := ⟨Server.folderScan, [.text "/a"]⟩) rfl rfl rfl rfl rfl
  spares := by simp [Act.Spares]
  found := rfl

/-- The first issue is gone from the cache, and the list for its file is empty. -/
theorem rescan_forgets_history_scan : ∃ g, Sample.rescan.ended.Open g
    ∧ g.cache.issuesOf "/a/x.js" = [] ∧ g.cache.issuesOf "/a/y.js" = [Sample.found "2" "/a/y.js"]
    ∧ Event.lastDiagnostics Sample.url (Sample.rescan.ended.sent g) = some [] := by
  obtain ⟨-, -, -, -, -, ⟨g, hopen, href, hstanding, hlast⟩, -⟩ :=
    rescan_forgets_history Sample.rescan
  have hcache : g.cache = Sample.rescan.afresh.1.cache := congrArg Standing.cache hstanding
  have hstamp : g.stamp = 0 := congrArg FolderRef.stamp href
  have hnew : (Event.lastDiagnostics Sample.url Sample.rescan.afresh.2).isNone := by
    decide +kernel
  have hold : (Event.lastDiagnostics Sample.url (share 0 Sample.rescan.returning.log)).isSome := by
    decide +kernel
  refine ⟨g, hopen, ?_, ?_, ?_⟩
  · rw [hcache]
    rfl
  · rw [hcache]
    rfl
  · obtain ⟨ds, hds⟩ := Option.isSome_iff_exists.1 hold
    rw [hlast, Option.isNone_iff_eq_none.1 hnew, Ledger.sent, hstamp, hds]
    rfl

end ScanRelay
