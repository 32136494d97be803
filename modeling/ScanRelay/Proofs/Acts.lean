import ScanRelay.Engine.Schedule
import ScanRelay.Proofs.Ledger

/-!
# Acts and what is done to a workspace

The acts of a ledger sign their events, and in them files may be visited in any order. Whatever is
done to a workspace is an act: without the signatures, and with the files in the order in which they
are listed, it comes to the same (`Workspace.performs`). So what holds after all acts holds of what
was done.
-/

namespace ScanRelay

/-- Each open folder is cleared. -/
def Act.clear : Act := .each fun _ => some .clear

/-- Each open folder shows what it has cached. -/
def Act.republish : Act := .each fun _ => some (.publish none)

/-- Each open folder around a path or under it forgets what lay there. -/
def Act.delete (path : String) : Act :=
  .each fun f => if f.contains path || Path.contains path f.path then some (.clearUnder path)
    else none

/-- What the return of a scan is to its folder. -/
def OpenScan.ending (cancelled : Bool) (o : OpenScan) : Operation :=
  match o.file with
  | none => .endFolderScan .listed cancelled o.run.report
  | some _ => .endFileScan .listed cancelled o.run.report

namespace Workspace

/-- What comes of an act, with its events unsigned. -/
def outcome (w : Workspace) (a : Act) : Workspace × List Event :=
  ((w.act a).1, (w.act a).2.map (·.2))

theorem outcome_operate (w : Workspace) (r : FolderRef) (op : Operation) :
    w.outcome (.operate r op) = w.onFolder r fun f => op.run w.settings w.hasInline f := by
  simp only [outcome, act, map_snd_signed]

theorem outcome_each (w : Workspace) (op : Folder → Option Operation) :
    w.outcome (.each op)
      = w.onEach fun f => Operation.runIf w.settings w.hasInline f (op f) := by
  simp only [outcome, act, map_snd_onEachSigned]
  rfl

theorem outcome_remove (w : Workspace) (path : String) :
    w.outcome (.remove path) = w.remove path := by
  unfold outcome act
  rcases hf : w.folder? path with _ | f
  · simp [remove, hf]
  · simp [hf, map_snd_signed]

theorem outcome_delete (w : Workspace) (path : String) :
    w.outcome (.delete path) = w.handleDeleted path := by
  refine (w.outcome_each _).trans (congrArg w.onEach (funext fun f => ?_))
  split <;> rfl

theorem outcome_republish (w : Workspace) : w.outcome .republish = (w, w.republish) := by
  refine (w.outcome_each _).trans (Prod.ext ?_ rfl)
  have hsame : w.folders.mapValues (fun _ f => f) = w.folders := by
    obtain ⟨entries, hentries⟩ := w.folders
    simp [Table.mapValues]
  exact congrArg (fun folders => { w with folders }) hsame

theorem outcome_applySettings (w : Workspace) (next : Settings) :
    w.outcome (.applySettings next) = w.applySettings next :=
  (w.applySettings_eq_signed next).symm

theorem outcome_ending (w : Workspace) (cancelled : Bool) (o : OpenScan) :
    w.outcome (.operate o.folder (o.ending cancelled)) = o.finish w cancelled := by
  rw [outcome_operate]
  unfold OpenScan.ending OpenScan.finish
  rcases o.file with _ | path
  · simp only [Operation.run_endFolderScan]
  · simp only [Operation.run_endFileScan]

/-- Whatever is done to a workspace, to all its folders or to one that a scan knows, is an act. -/
structure Performs (w : Workspace) : Prop where
  add : ∀ path name, w.outcome (.add path name) = (w.add path name, [])
  remove : ∀ path, w.outcome (.remove path) = w.remove path
  clearIssues : w.outcome .clear = w.clearIssues
  clearCategory : ∀ c, w.outcome (.each fun _ => some (.clearCategory c)) = w.clearCategory c
  removeCategory :
    ∀ c, w.outcome (.each fun _ => some (.removeCategory c)) = (w.removeCategory c, [])
  handleDeleted : ∀ path, w.outcome (.delete path) = w.handleDeleted path
  republish : w.outcome .republish = (w, w.republish)
  applySettings : ∀ next, w.outcome (.applySettings next) = w.applySettings next
  /-- An operation on one folder. -/
  onFolder : ∀ r op, w.outcome (.operate r op)
    = w.onFolder r fun f => op.run w.settings w.hasInline f
  /-- A folder takes in a report. -/
  processReport : ∀ r report, w.outcome (.operate r (.process .listed report))
    = w.onFolder r fun f => f.processReport w.settings report
  /-- A scan of a file begins. -/
  startFileScan : ∀ r path, w.outcome (.operate r (.beginFileScan .listed path))
    = w.onFolder r fun f => match f.startFileScan w.settings path with
      | .replayed g events => (g, events)
      | _ => (f, [])
  /-- A scan returns. -/
  finish : ∀ cancelled (o : OpenScan),
    w.outcome (.operate o.folder (o.ending cancelled)) = o.finish w cancelled

theorem performs (w : Workspace) : w.Performs where
  add _ _ := rfl
  remove := w.outcome_remove
  clearIssues := w.outcome_each _
  clearCategory _ := w.outcome_each _
  removeCategory c := by
    refine (w.outcome_each _).trans (Prod.ext rfl ?_)
    exact List.flatMap_eq_nil_iff.2 fun f _ => rfl
  handleDeleted := w.outcome_delete
  republish := w.outcome_republish
  applySettings := w.outcome_applySettings
  onFolder := w.outcome_operate
  processReport r report := (w.outcome_operate r _).trans <|
    congrArg (w.onFolder r) (funext fun f => f.processIn_listed w.settings report)
  startFileScan r path := (w.outcome_operate r _).trans <|
    congrArg (w.onFolder r) (funext fun f => Operation.run_beginFileScan _ _ f path)
  finish := w.outcome_ending

end Workspace

end ScanRelay
