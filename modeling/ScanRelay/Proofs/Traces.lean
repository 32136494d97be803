import ScanRelay.Proofs.Passes

/-!
# Traces of scans

A strand inside the scanner is polled now and then, and between two polls anything may happen to
the workspace. So the polls of one scan are a list of visits, each with the workspace and the cancel
flag that the scan finds. Only the visit at which the scanner returns can leave a trace
(`OpenScan.visit_cases`), and what it leaves depends on the flag at that visit and on the report
(`OpenScan.finish_of_cancelled`, `OpenScan.concludes_finish`).
-/

namespace ScanRelay

/-! ## Folders in their place -/

namespace Workspace

variable {w : Workspace} {f g : Folder}

/-- A scan finds the folder by its reference, and to put it back as it was changes nothing. -/
structure InPlace (w : Workspace) (f : Folder) : Prop where
  resolve : w.resolve f.ref = some f
  putBack : w.putBack f = w

theorem inPlace_of_get? (h : w.folders.get? f.path = some f) : w.InPlace f where
  resolve := by simp [Workspace.resolve, Folder.ref, h]
  putBack := by rw [putBack_of_open h rfl, Table.insert_of_get? h]

theorem Tidy.inPlace (h : w.Tidy) {r : FolderRef} (hr : w.resolve r = some f) : w.InPlace f :=
  ⟨h.orderly.resolve_ref hr, h.putBack_resolved hr⟩

theorem resolve_of_not_open {r : FolderRef}
    (h : ∀ f, w.folders.get? r.path = some f → f.stamp ≠ r.stamp) :
    w.resolve r = w.retired.find? fun f => f.stamp = r.stamp := by
  unfold resolve
  split
  · rename_i f hf
    rw [if_neg (h f hf)]
  · rfl

theorem InPlace.resolve_putBack (h : w.InPlace f) (href : g.ref = f.ref) :
    (w.putBack g).resolve f.ref = some g := by
  obtain ⟨hpath, hstamp⟩ : g.path = f.path ∧ g.stamp = f.stamp := FolderRef.mk.inj href
  by_cases hopen : ∃ b, w.folders.get? f.path = some b ∧ b.stamp = f.stamp
  · obtain ⟨b, hb, hbstamp⟩ := hopen
    rw [putBack_of_open (hpath ▸ hb) (hbstamp.trans hstamp.symm)]
    simp [Workspace.resolve, Folder.ref, Table.get?_insert, hpath, hstamp]
  · have hne : ∀ b, w.folders.get? f.path = some b → b.stamp ≠ f.stamp := fun b hb hbstamp =>
      hopen ⟨b, hb, hbstamp⟩
    have hfind : (w.retired.find? fun b => b.stamp = f.stamp) = some f :=
      (resolve_of_not_open (r := f.ref) hne).symm.trans h.resolve
    let retired := w.retired.map fun b => if b.stamp = g.stamp then g else b
    have hfound : (retired.find? fun b => b.stamp = f.stamp) = some g := by
      rw [find?_exchange, hfind, Option.map_some, if_pos hstamp.symm]
    rw [putBack_of_not_open (by rwa [hpath, hstamp])]
    exact (resolve_of_not_open (w := { w with retired }) (r := f.ref) hne).trans hfound

end Workspace

/-! ## Returns -/

namespace Event

def status? : Event → Option ScanStatus
  | send (.scanStatus s) => some s
  | _ => none

/-- What is told of scans. -/
def statuses (es : List Event) : List ScanStatus := es.filterMap status?

theorem statuses_append (es fs : List Event) : statuses (es ++ fs) = statuses es ++ statuses fs :=
  List.filterMap_append

theorem statuses_flatMap_eq_nil {α : Type} {l : List α} {events : α → List Event}
    (h : ∀ a, statuses (events a) = []) : statuses (l.flatMap events) = [] := by
  simp only [statuses, List.filterMap_flatMap] at h ⊢
  simp [h]

theorem statuses_telemetry (l : List ScanDone) : statuses (l.map .telemetry) = [] := by
  simp [statuses, status?]

end Event

theorem Folder.exists_statuses_publish (s : Settings) (f : Folder) (product : Option Product) :
    ∃ shown, Event.statuses (f.publish s product) = [⟨.success, product, f.path, shown⟩] := by
  have hdiagnostics : ∀ file : String × List Issue,
      Event.statuses (Publish.diagnostics file.1 file.2) = [] := by
    intro file
    unfold Publish.diagnostics
    split <;> rfl
  unfold publish Publish.folder
  dsimp only
  rw [Event.statuses_append, Event.statuses_append, Event.statuses_flatMap_eq_nil hdiagnostics,
    Event.statuses_flatMap_eq_nil fun _ => rfl]
  exact ⟨_, rfl⟩

namespace OpenScan

variable {w : Workspace} {g : Folder} {o : OpenScan}

theorem finish_of_cancelled (h : w.InPlace g) (ho : o.folder = g.ref) :
    o.finish w true = (w, []) := by
  rcases hfile : o.file with _ | path <;>
    simp [finish, Workspace.onFolder, ho, h.resolve, hfile, Folder.finishFolderScan,
      Folder.finishFileScan, h.putBack]

/-- What a scan leaves when it was not cancelled. Of a failed one just the error is told. One that
succeeded is told once, and only that of a whole folder makes it scanned. -/
def Concludes (o : OpenScan) (w : Workspace) (g : Folder) (next : Workspace × List Event) : Prop :=
  match o.run.report.outcome with
  | .error _ => next = (w, [.send (.scanStatus ⟨.error, o.run.report.product, g.path, []⟩)])
  | .ok _ => ∃ after shown, next.1 = w.putBack after ∧ next.1.resolve g.ref = some after
    ∧ after.scanned = (g.scanned || o.file.isNone)
    ∧ Event.statuses next.2 = [⟨.success, o.run.report.product, g.path, shown⟩]

theorem concludes_finish (h : w.InPlace g) (ho : o.folder = g.ref) :
    o.Concludes w g (o.finish w false) := by
  let s := w.settings
  let r := o.run.report
  have hfinish : o.finish w false = (w.putBack { (g.processReport s r).1 with
      scanned := (g.processReport s r).1.scanned || (o.file.isNone && r.outcome.isOk) },
      (g.processReport s r).2) := by
    rcases hfile : o.file with _ | path <;>
      simp [finish, Workspace.onFolder, ho, h.resolve, hfile, Folder.finishFolderScan,
        Folder.finishFileScan, s, r]
  rw [hfinish, Concludes]
  rcases hr : o.run.report.outcome with e | issues
  · simp [Folder.processReport, Folder.takeIn, r, hr, Except.isOk, Except.toBool, h.putBack]
  · let taken : Folder := { g with cache := (g.cache.merge .empty issues).cache }
    obtain ⟨shown, hshown⟩ := taken.exists_statuses_publish s r.product
    simp only [Folder.processReport, Folder.takeIn, r, hr, Except.isOk, Except.toBool,
      Bool.and_true]
    refine ⟨_, shown, rfl, h.resolve_putBack rfl, rfl, ?_⟩
    rw [Event.statuses_append, Event.statuses_telemetry]
    exact hshown

end OpenScan

/-! ## Visits -/

/-- A poll of a strand, with all it finds. -/
structure Visit where
  workspace : Workspace
  cancelled : Bool

namespace Strand

def visit (s : Strand) (v : Visit) : Polled Strand :=
  match s with
  | queued job => start v.workspace v.cancelled job
  | underway o => o.poll v.workspace v.cancelled
  | finished => ⟨v.workspace, .finished, []⟩

/-- What is left of a strand after some visits. -/
def after (s : Strand) (visits : List Visit) : Strand :=
  visits.foldl (fun s v => (s.visit v).left) s

theorem after_cons (s : Strand) (v : Visit) (visits : List Visit) :
    s.after (v :: visits) = (s.visit v).left.after visits := rfl

theorem after_finished (visits : List Visit) : after finished visits = finished := by
  induction visits with
  | nil => rfl
  | cons v rest ih => exact ih

end Strand

/-- Whether the scanner returns, if it is not busy. -/
def ScanRun.yields (r : ScanRun) (v : Visit) : Bool := !r.hangs || v.cancelled

namespace OpenScan

/-- A visit of a scan passes a round of the scanner, or finds that it hangs, or takes the report. -/
theorem visit_cases (o : OpenScan) (v : Visit) : let p := (Strand.underway o).visit v
    (∃ n, o.run.rounds = n + 1
        ∧ p = ⟨v.workspace, .underway { o with run := { o.run with rounds := n } }, []⟩)
      ∨ (o.run.rounds = 0 ∧ o.run.yields v = false ∧ p = ⟨v.workspace, .underway o, []⟩)
      ∨ (o.run.rounds = 0 ∧ o.run.yields v = true
        ∧ p = ⟨(o.finish v.workspace v.cancelled).1, .finished,
          (o.finish v.workspace v.cancelled).2⟩) := by
  obtain ⟨r, file, rounds, hangs, report⟩ := o
  cases rounds with
  | succ n => exact .inl ⟨n, rfl, rfl⟩
  | zero =>
    right
    cases hangs <;> cases hcancelled : v.cancelled <;>
      simp [Strand.visit, poll, ScanRun.yields, hcancelled]

/-- A scan that is not over is as it was at the start, but for the rounds that have passed. -/
theorem after_cases (o : OpenScan) (visits : List Visit) :
    (Strand.underway o).after visits = .finished
      ∨ ∃ n, (Strand.underway o).after visits
        = .underway { o with run := { o.run with rounds := n } } := by
  induction visits generalizing o with
  | nil => exact .inr ⟨o.run.rounds, rfl⟩
  | cons v rest ih =>
    rw [Strand.after_cons]
    rcases o.visit_cases v with ⟨n, -, hp⟩ | ⟨-, -, hp⟩ | ⟨-, -, hp⟩ <;> rw [hp]
    · exact ih { o with run := { o.run with rounds := n } }
    · exact ih o
    · exact .inl (Strand.after_finished rest)

/-- A scan is over from the first visit on that is after its rounds and at which it yields. -/
theorem isFinished_after (o : OpenScan) (visits : List Visit) :
    ((Strand.underway o).after visits).isFinished
      = (visits.drop o.run.rounds).any o.run.yields := by
  induction visits generalizing o with
  | nil => simp [Strand.after, Strand.isFinished]
  | cons v rest ih =>
    rw [Strand.after_cons]
    rcases o.visit_cases v with ⟨n, hn, hp⟩ | ⟨hn, hv, hp⟩ | ⟨hn, hv, hp⟩ <;> rw [hp, hn]
    · exact ih { o with run := { o.run with rounds := n } }
    · simp [ih o, hn, hv]
    · simp [Strand.after_finished, Strand.isFinished, hv]

theorem trace_of_visit (o : OpenScan) (visits : List Visit) {v : Visit} {g : Folder}
    (h : v.workspace.InPlace g) (ho : o.folder = g.ref) :
    let s := (Strand.underway o).after visits
    let p := s.visit v
    let returns := s.isFinished = false ∧ p.left.isFinished = true
    (¬ returns ∨ v.cancelled = true → p.outcome = (v.workspace, []))
      ∧ (returns ∧ v.cancelled = false → o.Concludes v.workspace g p.outcome) := by
  intro s p returns
  rcases o.after_cases visits with hs | ⟨rounds, hs⟩
  · -- The scan was over before this visit.
    have hidle : p.outcome = (v.workspace, []) := by simp [p, s, hs, Strand.visit, Polled.outcome]
    exact ⟨fun _ => hidle, fun hreturns => by simp [returns, s, hs, Strand.isFinished] at hreturns⟩
  let o' : OpenScan := { o with run := { o.run with rounds } }
  have hp : p = (Strand.underway o').visit v := congrArg (Strand.visit · v) hs
  rcases o'.visit_cases v with ⟨n, -, hvisit⟩ | ⟨-, -, hvisit⟩ | ⟨-, -, hvisit⟩ <;>
    rw [← hp] at hvisit
  · simp [returns, hvisit, Strand.isFinished, Polled.outcome]
  · simp [returns, hvisit, Strand.isFinished, Polled.outcome]
  · have hreturns : returns := by simp [returns, s, hs, hvisit, Strand.isFinished]
    cases hcancelled : v.cancelled with
    | true =>
      have hfinish : o'.finish v.workspace true = (v.workspace, []) := finish_of_cancelled h ho
      simp [hvisit, hcancelled, hfinish, Polled.outcome]
    | false =>
      have hfinish : o'.Concludes v.workspace g (o'.finish v.workspace false) :=
        concludes_finish h ho
      rw [hvisit, hcancelled]
      exact ⟨fun hnot => by simp [hreturns] at hnot, fun _ => hfinish⟩

end OpenScan

/-! ## Jobs -/

namespace ScanJob

def file? : ScanJob → Option String
  | file path | fileIn _ path => some path
  | folder _ => none

/-- The folder in which a job is to scan. -/
def folder? (w : Workspace) : ScanJob → Option Folder
  | file path => w.folderContaining path
  | fileIn r _ | folder r => w.resolve r

end ScanJob

namespace Strand

variable {w : Workspace} {job : ScanJob} {f : Folder}

theorem start_of_not_trusted (hf : job.folder? w = some f)
    (htrusted : f.isTrusted w.settings = false) (c : Bool) :
    start w c job = ⟨w, .finished, []⟩ := by
  cases job <;> simp only [ScanJob.folder?] at hf <;>
    simp [start, hf, startFile, startFolder, Folder.startFileScan, Folder.startFolderScan, htrusted]

theorem start_of_trusted (hf : job.folder? w = some f) (htrusted : f.isTrusted w.settings = true)
    (hnew : ∀ path ∈ job.file?, f.cache.issuesOf path = []) (c : Bool) :
    start w c job = OpenScan.enter w c f job.file? := by
  have hfile : ∀ path, f.cache.issuesOf path = [] →
      startFile w c f path = OpenScan.enter w c f (some path) := fun path hpath => by
    simp [startFile, Folder.startFileScan, htrusted, hpath]
  cases job with
  | file path =>
    have hfolder : w.folderContaining path = some f := hf
    simp only [start, hfolder]
    exact hfile path (hnew path rfl)
  | fileIn r path =>
    have hfolder : w.resolve r = some f := hf
    simp only [start, hfolder]
    exact hfile path (hnew path rfl)
  | folder r =>
    have hfolder : w.resolve r = some f := hf
    simp [start, hfolder, startFolder, Folder.startFolderScan, htrusted, ScanJob.file?]

end Strand

/-- A scan of a folder, or of a file without cached issues. If the folder is not trusted, nothing
happens. Otherwise the scanner is entered and the scan is visited, the first time at once, with
anything that may happen to the workspace between two visits. A visit leaves no trace, unless the
scanner returns and the scan is not cancelled by then. -/
theorem scan_leaves_only_its_trace {w : Workspace} {job : ScanJob} {f : Folder}
    (hf : job.folder? w = some f) (hnew : ∀ path ∈ job.file?, f.cache.issuesOf path = [])
    (c : Bool) :
    (f.isTrusted w.settings = false → Strand.start w c job = ⟨w, .finished, []⟩)
      ∧ (f.isTrusted w.settings = true →
        let path := job.file?.getD f.path
        let entry := w.scanner.next w.settings.scanner c path f.path
        let o : OpenScan := ⟨f.ref, job.file?, entry.1⟩
        let first := (Strand.underway o).visit ⟨{ w with scanner := entry.2 }, c⟩
        Strand.start w c job = { first with events := .scan path f.path c :: first.events }
        ∧ ∀ visits : List Visit, let s := (Strand.underway o).after visits
          s.isFinished = (visits.drop o.run.rounds).any o.run.yields
          ∧ ∀ (v : Visit) (g : Folder), v.workspace.InPlace g → g.ref = f.ref →
            let p := s.visit v
            let returns := s.isFinished = false ∧ p.left.isFinished = true
            (¬ returns ∨ v.cancelled = true → p.outcome = (v.workspace, []))
            ∧ (returns ∧ v.cancelled = false → o.Concludes v.workspace g p.outcome)) := by
  refine ⟨fun htrusted => Strand.start_of_not_trusted hf htrusted c, fun htrusted => ?_⟩
  intro path entry o first
  refine ⟨Strand.start_of_trusted hf htrusted hnew c, fun visits =>
    ⟨o.isFinished_after visits, fun v g hplace href => ?_⟩⟩
  exact o.trace_of_visit visits hplace href.symm

/-- A file is scanned in a folder without issues, and the scanner finds one. If the folder was
removed and the scan cancelled by then, nothing comes of it; else the issue is told, and the folder
is not scanned yet. -/
theorem scan_leaves_only_its_trace_file :
    let run : ScanRun := ⟨1, false, Sample.report⟩
    let scanner : Scanner := ⟨.script [run], none⟩
    let w : Workspace := { Sample.start.workspace.add "/a" "a" with scanner }
    let removed : Workspace := (w.remove "/a").1
    let s := (Strand.underway ⟨Sample.ref, some "/a/x.js", run⟩).after [⟨w, false⟩]
    (s.visit ⟨removed, true⟩).outcome = (removed, [])
      ∧ ∃ next shown, (s.visit ⟨w, false⟩).workspace.resolve Sample.ref = some next
        ∧ next.scanned = false
        ∧ Event.statuses (s.visit ⟨w, false⟩).events = [⟨.success, some .code, "/a", shown⟩] := by
  intro run scanner w removed s
  let f : Folder := ⟨"/a", "a", false, .empty, 0⟩
  have htidy : w.Tidy := ((Workspace.tidy_new _ _).act (.add "/a" "a")).advance _
  have hplace : w.InPlace f := Workspace.inPlace_of_get? rfl
  have hremoved : removed.InPlace f := (htidy.act (.remove "/a")).inPlace (r := Sample.ref) rfl
  have hf : (ScanJob.fileIn Sample.ref "/a/x.js").folder? w = some f := hplace.resolve
  obtain ⟨-, htrusted⟩ := scan_leaves_only_its_trace hf (fun _ _ => rfl) false
  obtain ⟨-, hvisits⟩ := htrusted rfl
  obtain ⟨-, hvisits⟩ := hvisits [⟨w, false⟩]
  obtain ⟨hcancelled, -⟩ := hvisits ⟨removed, true⟩ f hremoved rfl
  obtain ⟨-, hfound⟩ := hvisits ⟨w, false⟩ f hplace rfl
  obtain ⟨next, shown, -, hnext, hscanned, htold⟩ := hfound ⟨⟨rfl, rfl⟩, rfl⟩
  exact ⟨hcancelled (.inr rfl), next, shown, hnext, hscanned, htold⟩

end ScanRelay
