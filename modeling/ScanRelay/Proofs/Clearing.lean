import ScanRelay.Proofs.Handlers
import ScanRelay.Proofs.View

/-!
# Clearing

Clearing a folder visits the files that are cached now. That is enough to take away everything it
ever showed, because along every life, silent steps or not, a file that still shows issues is
cached (`Life.backed`).

The hover documents of all folders pass through one queue. Whatever of it is left when the table is
emptied, each file comes last in it with an empty document, if the folders that sent them have all
been cleared (`get?_applyAll_of_silenced`). So clearing is complete for diagnostics and for hovers
(`clearing_is_complete`).
-/

namespace ScanRelay

/-! ## One folder -/

/-- Nothing that the events showed is left. -/
def Silenced (es : List Event) : Prop :=
  ∃ files, Shows es files ∧ ∀ p, lastShown p [] files = []

theorem Silenced.lastDiagnostics {es : List Event} (h : Silenced es) {u : Url}
    {ds : List Diagnostic} (hds : Event.lastDiagnostics u es = some ds) : ds = [] := by
  obtain ⟨files, hshows, hlast⟩ := h
  by_contra hne
  obtain ⟨p, -, hp⟩ := exists_lastShown_of_lastDiagnostics hshows hds hne
  exact hp (hlast p)

theorem Silenced.get?_hovers {es : List Event} (h : Silenced es) (p : String) :
    Table.get? (HoverTable.applyAll .empty (Event.hovers es)) p = none := by
  obtain ⟨files, hshows, hlast⟩ := h
  have hstart : Table.get? (.empty : HoverTable) p
      = HoverTable.entryOf (([] : List Issue).map Hover.ofIssue) := rfl
  rw [hshows.hovers, HoverTable.get?_applyAll_files files hstart, hlast p]
  rfl

/-- A folder has entries for all files that still show issues. -/
theorem Life.backed {silent : Prop} {isOpen : Bool} {s : Settings} {f : Folder} {es : List Event}
    (h : Life silent isOpen s f es) : ∃ files, Shows es files ∧ Backs files .empty f.cache := by
  induction h with
  | new s path name stamp => exact ⟨[], .nil, .of_keys fun _ hp => hp⟩
  | operate inline op hop hlife ih =>
    rename_i isOpen s f es
    obtain ⟨xs, hshows, hbacks⟩ := ih
    obtain ⟨ys, hshows', hbacks'⟩ : ∃ ys, Shows (op.run s inline f).2 ys
        ∧ Backs ys f.cache (op.run s inline f).1.cache := op.run_backs
    exact ⟨xs ++ ys, hshows.append hshows', hbacks.append hbacks'⟩
  | configure next hsilent hlife ih => exact ih
  | applySettings next hlife ih =>
    rename_i s f es
    obtain ⟨xs, hshows, hbacks⟩ := ih
    obtain ⟨ys, hshows', hbacks', -⟩ := f.applySettings_displays s next
    exact ⟨xs ++ ys, hshows.append hshows', hbacks.append hbacks'⟩
  | close hlife ih =>
    rename_i s f es
    obtain ⟨xs, hshows, hbacks⟩ := ih
    obtain ⟨ys, hshows', hbacks', -⟩ := f.displays_clear s
    exact ⟨xs ++ ys, hshows.append hshows', hbacks.append hbacks'⟩

theorem Life.silenced {silent : Prop} {isOpen : Bool} {s : Settings} {f : Folder} {es : List Event}
    (h : Life silent isOpen s f es) (hempty : f.cache = .empty) : Silenced es := by
  obtain ⟨files, hshows, hbacks⟩ := h.backed
  refine ⟨files, hshows, fun p => ?_⟩
  by_contra hne
  have hmem := hbacks p [] (fun h => absurd rfl h) hne
  rw [hempty] at hmem
  exact absurd hmem List.not_mem_nil

/-- The folder is empty, and nothing that it ever sent is still shown. -/
structure Ledger.Cleared (l : Ledger) (f : Folder) : Prop where
  cache : f.cache = .empty
  unscanned : f.scanned = false
  diagnostics : ∀ u ds, Event.lastDiagnostics u (l.sent f) = some ds → ds = []

namespace Ledger

variable {silent : Prop} {l : Ledger}

theorem Lives.cleared_remove (h : l.Lives silent) {path : String} {f : Folder}
    (hf : l.workspace.folder? path = some f) :
    ∃ g ∈ (l.step (.remove path)).workspace.retired,
      g.ref = f.ref ∧ (l.step (.remove path)).Cleared g := by
  have hmem : f.clear.1 ∈ (l.step (.remove path)).workspace.retired := by
    simp [Ledger.step, Workspace.act, Workspace.remove, hf]
  have hafter := (h.step (a := .remove path) fun hs => hs.elim).afterlife _ hmem
  exact ⟨f.clear.1, hmem, rfl, rfl, rfl, fun u ds hds => (hafter.silenced rfl).lastDiagnostics hds⟩

theorem exists_of_open_clear {g : Folder} (hg : (l.step .clear).Open g) :
    ∃ f, l.Open f ∧ f.clear.1 = g := by
  obtain ⟨k, hk⟩ := hg
  have hfolders := (l.workspace.each_onEachSigned fun f =>
    Operation.runIf l.workspace.settings l.workspace.hasInline f (some .clear)).folders k
  obtain ⟨f, hf, hfg⟩ := Option.map_eq_some_iff.1 (hfolders.symm.trans hk)
  exact ⟨f, ⟨k, hf⟩, hfg⟩

theorem Lives.cleared_clear (h : l.Lives silent) {g : Folder} (hg : (l.step .clear).Open g) :
    (l.step .clear).Cleared g := by
  obtain ⟨f, -, rfl⟩ := exists_of_open_clear hg
  have hlives : (l.step .clear).Lives silent :=
    h.step (by simp [Act.clear, Act.isSilent, Operation.isSilent])
  have hlife := hlives.life _ hg
  exact ⟨rfl, rfl, fun u ds hds => (hlife.silenced rfl).lastDiagnostics hds⟩

end Ledger

/-! ## The queue of hover documents -/

namespace HoverTable

theorem get?_applyAll (t : HoverTable) (ds : List HoverDocument) (p : String) :
    Table.get? (t.applyAll ds) p = match (ds.filter fun d => d.path = p).getLast? with
      | some d => entryOf d.hovers
      | none => Table.get? t p := by
  induction ds using List.reverseRecOn with
  | nil => rfl
  | append_singleton ds d ih =>
    have happly : t.applyAll (ds ++ [d]) = (t.applyAll ds).apply d := by simp [applyAll]
    rw [happly, get?_apply, List.filter_append]
    by_cases hd : d.path = p
    · simp [hd]
    · simp [hd, ih]

end HoverTable

/-- The hover documents of a log, each with the stamp of its sender. -/
def documents (log : List Entry) : List (Nat × HoverDocument) :=
  log.filterMap fun e => e.2.hover?.map fun d => (e.1, d)

theorem map_snd_documents (log : List Entry) :
    (documents log).map (·.2) = Event.hovers (log.map (·.2)) := by
  simp [documents, Event.hovers, List.map_filterMap, List.filterMap_map, Function.comp_def]

theorem hovers_share (stamp : Nat) (log : List Entry) :
    Event.hovers (share stamp log) = ((documents log).filter fun d => d.1 = stamp).map (·.2) := by
  induction log with
  | nil => rfl
  | cons e rest ih =>
    rcases hd : e.2.hover? with _ | d <;> by_cases hs : e.1 = stamp <;>
      simp_all [documents, share, Event.hovers]

theorem getLast?_filter_of_last {α : Type} {l : List α} {keep : α → Bool}
    (h : ∀ a, l.getLast? = some a → keep a = true) : (l.filter keep).getLast? = l.getLast? := by
  induction l using List.reverseRecOn with
  | nil => rfl
  | append_singleton l a _ =>
    have ha : keep a = true := h a (by simp)
    simp [List.filter_append, ha]

/-- The sender of the last document for a file leaves of it what all documents leave. -/
theorem get?_hovers_share {log : List Entry} {stamp : Nat} {p : String}
    (h : ∀ d, ((documents log).filter fun d => d.2.path = p).getLast? = some d → d.1 = stamp) :
    Table.get? (HoverTable.applyAll .empty (Event.hovers (share stamp log))) p
      = Table.get? (HoverTable.applyAll .empty (Event.hovers (log.map (·.2)))) p := by
  have hlast : (((documents log).filter fun d => d.1 = stamp).filter fun d => d.2.path = p).getLast?
      = ((documents log).filter fun d => d.2.path = p).getLast? := by
    rw [List.filter_comm]
    exact getLast?_filter_of_last fun d hd => decide_eq_true (h d hd)
  rw [hovers_share, ← map_snd_documents, HoverTable.get?_applyAll, HoverTable.get?_applyAll,
    List.filter_map, List.filter_map, List.getLast?_map, List.getLast?_map]
  exact congrArg (fun d? => match Option.map Prod.snd d? with
    | some d => HoverTable.entryOf d.hovers
    | none => none) hlast

/-- When all that the senders of some documents showed is gone, whatever is left of the documents
leaves nothing in an empty table. -/
theorem get?_applyAll_of_silenced {log : List Entry}
    (h : ∀ d ∈ documents log, Silenced (share d.1 log)) {queue : List HoverDocument}
    (hqueue : queue <:+ Event.hovers (log.map (·.2))) (p : String) :
    Table.get? (HoverTable.applyAll .empty queue) p = none := by
  obtain ⟨before, hbefore⟩ := hqueue
  rw [← map_snd_documents] at hbefore
  obtain ⟨xs, ys, hxs, -, rfl⟩ := List.map_eq_append_iff.1 hbefore.symm
  rw [HoverTable.get?_applyAll, List.filter_map, List.getLast?_map]
  rcases hlast : (ys.filter ((fun d => decide (d.path = p)) ∘ (·.2))).getLast? with _ | d <;>
    rw [hlast]
  · rfl
  · -- The last document for the file in the queue is also the last of all.
    have hmem : d ∈ documents log := by
      rw [hxs]
      exact List.mem_append_right _ (List.mem_filter.1 (List.mem_of_getLast? hlast)).1
    have hall : ((documents log).filter ((fun d => decide (d.path = p)) ∘ (·.2))).getLast?
        = some d := by
      rw [hxs, List.filter_append, List.getLast?_append, hlast]
      rfl
    have hgone := (h d hmem).get?_hovers p
    rw [get?_hovers_share fun d' hd' => congrArg Prod.fst (Option.some.inj (hd'.symm.trans hall)),
      ← map_snd_documents, HoverTable.get?_applyAll, List.filter_map, List.getLast?_map,
      hall] at hgone
    exact hgone

/-! ## Runs with a hover service -/

/-- Takes up the document that was sent first. -/
def HoverService.take (s : HoverService) : HoverService :=
  match s.queue with
  | [] => s
  | d :: rest => { s.apply d with queue := rest }

/-- A ledger with the hover service to which all documents are sent. -/
structure World where
  ledger : Ledger
  hovers : HoverService

inductive Move
  | act (a : Act)
  /-- The hover service takes up a document. -/
  | take
  /-- The hovers of all files are dropped. -/
  | clearHovers

namespace World

def start (s : Settings) (scanner : Scanner) : World := ⟨.start s scanner, .new⟩

def step (w : World) : Move → World
  | .act a =>
    ⟨w.ledger.step a,
      w.hovers.sendAll (Event.hovers ((w.ledger.workspace.act a).2.map (·.2)))⟩
  | .take => { w with hovers := w.hovers.take }
  | .clearHovers => { w with hovers := w.hovers.clear }

def run (w : World) (moves : List Move) : World := moves.foldl step w

/-- Folders live, and what is queued was sent last. -/
structure Flows (w : World) : Prop where
  lives : w.ledger.Lives True
  running : w.hovers.running = true
  queue : w.hovers.queue <:+ Event.hovers (w.ledger.log.map (·.2))

theorem flows_start (s : Settings) (scanner : Scanner) : (start s scanner).Flows :=
  ⟨Ledger.lives_start True s scanner, rfl, List.suffix_rfl⟩

end World

namespace HoverService

theorem sendAll_of_running {s : HoverService} (h : s.running = true) (ds : List HoverDocument) :
    s.sendAll ds = { s with queue := s.queue ++ ds } := by
  induction ds generalizing s with
  | nil => simp [sendAll]
  | cons d rest ih =>
    have hsend : s.send d = { s with queue := s.queue ++ [d] } := by simp [send, h]
    rw [sendAll, List.foldl_cons, ← sendAll, hsend, ih (s := { s with queue := s.queue ++ [d] }) h,
      List.append_assoc]
    rfl

theorem queue_take_suffix (s : HoverService) : s.take.queue <:+ s.queue := by
  unfold take
  split
  · exact List.suffix_rfl
  · rename_i d rest hqueue
    rw [hqueue]
    exact List.suffix_cons d rest

end HoverService

namespace World

theorem Flows.step {w : World} (h : w.Flows) (m : Move) : (w.step m).Flows := by
  cases m with
  | act a =>
    show Flows ⟨w.ledger.step a, w.hovers.sendAll _⟩
    rw [HoverService.sendAll_of_running h.running]
    refine ⟨h.lives.step fun _ => trivial, h.running, ?_⟩
    rw [Ledger.step, List.map_append, Event.hovers_append]
    exact List.suffix_append_self_iff.2 h.queue
  | take =>
    have hrunning : w.hovers.take.running = true := by
      unfold HoverService.take
      split <;> exact h.running
    exact ⟨h.lives, hrunning, w.hovers.queue_take_suffix.trans h.queue⟩
  | clearHovers => exact ⟨h.lives, h.running, h.queue⟩

theorem flows_run (s : Settings) (scanner : Scanner) (moves : List Move) :
    ((start s scanner).run moves).Flows :=
  List.foldlRecOn moves step (flows_start s scanner) fun _ hw m _ => hw.step m

/-- All hover documents were sent by folders that are open. -/
def Current (w : World) : Prop :=
  ∀ e ∈ w.ledger.log, e.2.hover?.isSome → ∃ f, w.ledger.Open f ∧ f.stamp = e.1

/-- After open folders are cleared, nothing of what they sent is left. -/
theorem Flows.silenced_clear {w : World} (h : w.Flows) (hcur : w.Current) :
    ∀ d ∈ documents (w.ledger.step .clear).log,
      Silenced (share d.1 (w.ledger.step .clear).log) := by
  intro d hd
  obtain ⟨e, he, hed⟩ := List.mem_filterMap.1 hd
  obtain ⟨doc, hdoc, rfl⟩ := Option.map_eq_some_iff.1 hed
  have hlives : (w.ledger.step .clear).Lives True := h.lives.step fun _ => trivial
  have hsender : ∃ f, w.ledger.Open f ∧ f.stamp = e.1 := by
    rcases List.mem_append.1 he with he | he
    · exact hcur e he (by simp [hdoc])
    · have hclear := w.ledger.workspace.each_onEachSigned fun f =>
        Operation.runIf w.ledger.workspace.settings w.ledger.workspace.hasInline f (some .clear)
      obtain ⟨k, f, hf, heq⟩ := hclear.signed e he
      exact ⟨f, ⟨k, hf⟩, heq.symm⟩
  obtain ⟨f, ⟨k, hf⟩, hstamp⟩ := hsender
  have hopen : (w.ledger.step .clear).Open f.clear.1 := by
    have hfolders := (w.ledger.workspace.each_onEachSigned fun f =>
      Operation.runIf w.ledger.workspace.settings w.ledger.workspace.hasInline f
        (some .clear)).folders k
    exact ⟨k, by rw [hf] at hfolders; exact hfolders⟩
  have hlife := (hlives.life _ hopen).silenced rfl
  rwa [Ledger.sent, show f.clear.1.stamp = e.1 from hstamp] at hlife

/-- Whatever is left in the queue after open folders are cleared leaves no hover in an empty
table. -/
theorem Flows.textAt_clear {w : World} (h : w.Flows) (hcur : w.Current)
    {queue : List HoverDocument} (hqueue : queue <:+ (w.step (.act .clear)).hovers.queue)
    (path : String) (position : Position) :
    (HoverTable.applyAll .empty queue).textAt path position = none := by
  have hnone : Table.get? (HoverTable.applyAll .empty queue) path = none :=
    get?_applyAll_of_silenced (h.silenced_clear hcur)
      (hqueue.trans (h.step (.act .clear)).queue) path
  simp [HoverTable.textAt, HoverTable.hoversAt, hnone]

theorem queue_takes_suffix (w : World) (n : Nat) :
    (w.run (List.replicate n .take)).hovers.queue <:+ w.hovers.queue := by
  induction n generalizing w with
  | zero => exact List.suffix_rfl
  | succ n ih => exact (ih (w.step .take)).trans w.hovers.queue_take_suffix

end World

/-- The command that clears everything clears the open folders and empties the table of hovers. What
the folders send comes before its answer. -/
theorem Server.request_clearCache {server : Server} {params : Json} {r : CommandRequest}
    (hread : CommandRequest.schema.readParams CommandRequest.ofJson params = .ok r)
    (hcommand : r.command = clearCache) (id : RequestId) :
    server.request ⟨id, "workspace/executeCommand", params⟩
      = ((server.unchanged.changed server.workspace.clearIssues).dropped.told
        [reply id (.ok .null)]).handed := by
  have hscan : r.command ≠ workspaceScan := by rw [hcommand]; decide
  have hfolder : r.command ≠ folderScan := by rw [hcommand]; decide
  refine request_of_perform rfl hread ?_
  rw [perform, if_neg hscan, if_neg hfolder, if_pos hcommand]
  rfl

/-- Clearing is complete after every run. When a folder is removed, or all open folders are cleared,
it is empty and unscanned, and each list of diagnostics that it sent last is empty. When all hover
documents were sent by folders that are open, the command that clears everything leaves no hover
once the queue is used up, however much of it is used up while the command runs. The command sends
what the cleared folders send, and then its answer. The acts of a run are what is done to a
workspace, with the same events. -/
theorem clearing_is_complete (s : Settings) (scanner : Scanner) (moves : List Move) :
    let w := (World.start s scanner).run moves
    let l := w.ledger
    (∀ w : Workspace, w.Performs)
    ∧ (∀ path f, l.workspace.folder? path = some f →
      ∃ g ∈ (l.step (.remove path)).workspace.retired,
        g.ref = f.ref ∧ (l.step (.remove path)).Cleared g)
    ∧ (∀ f, (l.step .clear).Open f → (l.step .clear).Cleared f)
    ∧ (w.Current → ∀ n path position, ((w.step (.act .clear)).run
        (.replicate n .take ++ [.clearHovers])).hovers.settle.table.textAt path position = none)
    ∧ ∀ (server : Server) (id : RequestId) (params : Json) (r : CommandRequest),
      server.workspace = l.workspace → server.hovers = w.hovers →
      CommandRequest.schema.readParams CommandRequest.ofJson params = .ok r →
      r.command = Server.clearCache →
      let h := server.request ⟨id, "workspace/executeCommand", params⟩
      h.server.workspace = (l.step .clear).workspace
        ∧ h.events = (l.workspace.act .clear).2.map (·.2) ++ [Server.reply id (.ok .null)]
        ∧ h.tasks = []
        ∧ (w.Current → ∀ path position,
          h.server.hovers.settle.table.textAt path position = none) := by
  intro w l
  have hflows : w.Flows := World.flows_run s scanner moves
  refine ⟨Workspace.performs, fun path f hf => hflows.lives.cleared_remove hf,
    fun f hf => hflows.lives.cleared_clear hf, fun hcur n path position => ?_, ?_⟩
  · have hsuffix := (w.step (.act .clear)).queue_takes_suffix n
    rw [World.run, List.foldl_append]
    exact hflows.textAt_clear hcur hsuffix path position
  · intro server id params r hworkspace hhovers hread hcommand h
    have hclear : l.workspace.clearIssues = l.workspace.outcome .clear :=
      l.workspace.performs.clearIssues.symm
    have hh : h = _ := Server.request_clearCache hread hcommand id
    rw [hworkspace, hclear] at hh
    refine ⟨hh ▸ rfl, hh ▸ rfl, hh ▸ rfl, fun hcur path position => ?_⟩
    -- The answer is no hover document, so those of the folders were sent last.
    have hsent : h.server.hovers
        = w.hovers.clear.sendAll (Event.hovers ((l.workspace.act .clear).2.map (·.2))) := by
      rw [hh]
      show server.hovers.clear.sendAll (Event.hovers (_ ++ _)) = _
      rw [hhovers, Event.hovers_append]
      exact congrArg w.hovers.clear.sendAll (List.append_nil _)
    rw [hsent, HoverService.sendAll_of_running (s := w.hovers.clear) hflows.running]
    refine hflows.textAt_clear hcur ?_ path position
    show _ <:+ (w.hovers.sendAll (Event.hovers ((l.workspace.act .clear).2.map (·.2)))).queue
    rw [HoverService.sendAll_of_running hflows.running]
    exact List.suffix_rfl

/-- After a scan, with its document still queued, the folder can be removed or cleared, and the
command leaves no hover for the issue that was found. -/
theorem clearing_is_complete_scan :
    let w := (World.start (.standard "") ⟨.script [], none⟩).run (Sample.acts.map .act)
    let server : Server := ⟨w.ledger.workspace, w.hovers, false, 1⟩
    let params : Json := .object [("command", .text "findings.clearCache")]
    let h := server.request ⟨.text "1", "workspace/executeCommand", params⟩
    w.hovers.queue = [.ofIssues "/a/x.js" [Sample.issue]]
      ∧ (∃ g ∈ (w.ledger.step (.remove "/a")).workspace.retired,
        g.ref = Sample.ref ∧ (w.ledger.step (.remove "/a")).Cleared g)
      ∧ (w.ledger.step .clear).Cleared Sample.folder.clear.1
      ∧ h.server.workspace = (w.ledger.step .clear).workspace
      ∧ (∃ sent, Event.hovers sent = [.ofIssues "/a/x.js" []]
        ∧ h.events = sent ++ [Server.reply (.text "1") (.ok .null)])
      ∧ h.server.hovers.settle.table.textAt "/a/x.js" ⟨0, 0⟩ = none := by
  intro w server params h
  have hcur : w.Current := by
    have hstamps : ∀ e ∈ (Sample.start.run Sample.acts).log.map (·.1), e = 0 := by decide +kernel
    intro e he _
    exact ⟨Sample.folder, Sample.open_folder, (hstamps e.1 (List.mem_map_of_mem he)).symm⟩
  obtain ⟨-, hremove, hclear, -, hcommand⟩ := clearing_is_complete (.standard "") ⟨.script [], none⟩
    (Sample.acts.map .act)
  obtain ⟨hworkspace, hevents, -, htext⟩ :=
    hcommand server (.text "1") params ⟨_, []⟩ rfl rfl rfl rfl
  exact ⟨by decide +kernel, hremove "/a" Sample.folder rfl, hclear _ ⟨"/a", rfl⟩, hworkspace,
    ⟨_, by decide +kernel, hevents⟩, htext hcur "/a/x.js" ⟨0, 0⟩⟩

end ScanRelay
