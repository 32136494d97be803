import ScanRelay.Proofs.Traces

/-!
# Scans of files with cached issues

A scan of a file with cached issues does not enter the scanner; it takes in what is cached of the
file as if a scanner had just found it. All of that is known (`Folder.processIn_ofKnown`) and
belongs to no product, so nothing is counted, no cache is changed and no telemetry is sent. What is
left is to show the folder again (`cache_hit_is_republication`).
-/

namespace ScanRelay

/-- Every run leaves a tidy workspace. -/
theorem Ledger.tidy_run (settings : Settings) (scanner : Scanner) (acts : List Act) :
    ((start settings scanner).run acts).workspace.Tidy :=
  List.foldlRecOn (motive := fun l : Ledger => l.workspace.Tidy) acts step
    (Workspace.tidy_new settings scanner) fun _ hl a _ => hl.act a

/-- A scan knows a folder under its own reference. -/
theorem Workspace.Tidy.exists_resolve {w : Workspace} (h : w.Tidy) {job : ScanJob} {f : Folder}
    (hf : job.folder? w = some f) : ∃ r, w.resolve r = some f := by
  cases job with
  | file path => exact ⟨f.ref, h.orderly.resolve_of_containing hf⟩
  | fileIn r path => exact ⟨r, hf⟩
  | folder r => exact ⟨r, hf⟩

namespace Strand

variable {w : Workspace} {job : ScanJob} {f : Folder} {path : String}

/-- A strand that meets cached issues is finished at once, whether it was cancelled or not. -/
theorem start_of_hit (hw : w.Tidy) (hf : job.folder? w = some f) (hfile : job.file? = some path)
    (htrusted : f.isTrusted w.settings = true) (hhit : f.cache.issuesOf path ≠ []) (c : Bool) :
    start w c job = ⟨w, .finished, f.publish w.settings none⟩ := by
  obtain ⟨r, hr⟩ := hw.exists_resolve hf
  have hsound := hw.known_sound (Workspace.known_of_resolve hr)
  have hstart : startFile w c f path = ⟨w, .finished, f.publish w.settings none⟩ := by
    simp [startFile, Folder.startFileScan, htrusted, hhit, Folder.processReport_ofKnown hsound,
      hw.putBack_resolved hr]
  cases job with
  | file path' =>
    obtain rfl : path' = path := Option.some.inj hfile
    have hfolder : w.folderContaining path' = some f := hf
    simp only [start, hfolder, hstart]
  | fileIn r' path' =>
    obtain rfl : path' = path := Option.some.inj hfile
    have hfolder : w.resolve r' = some f := hf
    simp only [start, hfolder, hstart]
  | folder r' => cases hfile

end Strand

namespace Task

/-- A task whose strand is finished when it starts takes one round. -/
theorem run_single {w v : Workspace} {c : Bool} {job : ScanJob} {es : List Event}
    (h : Strand.start w c job = ⟨v, .finished, es⟩) :
    run w c [.single job] = ⟨v, [.strands 1 [.finished]], es⟩ := by
  have hround : round w c [.single job] = ⟨v, [.strands 1 [.finished]], es⟩ := by
    simp [round, poll, single, pollStrands, h, Strand.isFinished]
  have hstuck := rounds_of_stuck (c := c) (p := ⟨v, [.strands 1 [.finished]], es⟩) rfl
  let fuel := 1 + (0 + (w.scanner.busy w.settings.scanner + 1))
  show rounds c (fuel + 1) ⟨w, [.single job], []⟩ = _
  rw [rounds, hround]
  exact hstuck fuel

end Task

/-- A scan of a file with cached issues, in a trusted folder of any reachable workspace, changes
nothing and shows all issues of the folder again, in the order in which they are always shown. So it
does whether it is cancelled or not, and in whatever order files are visited. What is shown is made
of messages and hovers; the scanner is not entered and no telemetry is sent. -/
theorem cache_hit_is_republication (settings : Settings) (scanner : Scanner) (acts : List Act)
    {job : ScanJob} {f : Folder} {path : String} :
    let w := ((Ledger.start settings scanner).run acts).workspace
    job.folder? w = some f → job.file? = some path → f.isTrusted w.settings = true →
    f.cache.issuesOf path ≠ [] →
      (∀ cancelled, Strand.start w cancelled job = ⟨w, .finished, f.publish w.settings none⟩)
      ∧ (∀ cancel, w.run cancel (.single job) = (w, f.publish w.settings none))
      ∧ (∀ order, (Operation.beginFileScan order path).run w.settings w.hasInline f
          = (Operation.publish none).run w.settings w.hasInline f)
      ∧ ∀ e ∈ f.publish w.settings none, (∃ m, e = .send m) ∨ ∃ d, e = .hover d := by
  intro w hf hfile htrusted hhit
  have htidy : w.Tidy := Ledger.tidy_run settings scanner acts
  have hstart := fun c => Strand.start_of_hit htidy hf hfile htrusted hhit c
  refine ⟨hstart, fun cancel => ?_, fun order => ?_, fun e he => Folder.mem_publish he⟩
  · have hrun := fun c => Task.run_single (hstart c)
    have hrest : Task.run w true [.strands 1 [.finished]] = ⟨w, [.strands 1 [.finished]], []⟩ :=
      Task.rounds_of_stuck rfl _
    cases cancel <;> simp [Workspace.run, hrun, hrest]
  · obtain ⟨r, hr⟩ := htidy.exists_resolve hf
    have hsound := htidy.known_sound (Workspace.known_of_resolve hr)
    simp [Operation.run, htrusted, hhit, Folder.processIn_ofKnown hsound]

/-- The file is scanned once more, in the folder around it, and the scan is cancelled beforehand. -/
theorem cache_hit_is_republication_cancelled :
    let w := (Sample.start.run Sample.acts).workspace
    w.run .beforehand (.single (.file "/a/x.js")) = (w, Sample.folder.publish w.settings none) := by
  intro w
  have hfolder : (ScanJob.file "/a/x.js").folder? w = some Sample.folder := rfl
  have hhit : Sample.folder.cache.issuesOf "/a/x.js" ≠ [] := List.cons_ne_nil Sample.issue []
  obtain ⟨-, hrun, -⟩ := cache_hit_is_republication (.standard "") ⟨.script [], none⟩ Sample.acts
    hfolder rfl rfl hhit
  exact hrun .beforehand

end ScanRelay
