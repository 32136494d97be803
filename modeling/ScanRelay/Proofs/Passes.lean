import ScanRelay.Proofs.Shutdown

/-!
# Passes over strands

A poll of a task visits its strands from left to right. Here it is taken apart into steps, between
which the strands can be looked at (`Pass.step`): a strand gets a permit and enters the scanner, or
a strand inside the scanner is polled. Each step has its own cancel flag, so a scan can be cancelled
at any moment. A poll is some steps of a pass (`Task.exists_run_pollStrands`).

Of a scan of several folders a pass knows at every moment how far each has come
(`Pass.Follows.step`): the folders that wait are the last ones, each permit is free or lies with a
scan inside the scanner, and a folder is as it was until its own scan is finished.
-/

namespace ScanRelay

/-! ## Steps -/

/-- Enters the scanner, which is yet to be polled. -/
def OpenScan.grant (w : Workspace) (cancelled : Bool) (f : Folder) (file : Option String) :
    Polled Strand :=
  let path := file.getD f.path
  let (run, scanner) := w.scanner.next w.settings.scanner cancelled path f.path
  ⟨{ w with scanner }, .underway ⟨f.ref, file, run⟩, [.scan path f.path cancelled]⟩

namespace Strand

def isUnderway : Strand → Bool
  | underway _ => true
  | _ => false

def isQueued : Strand → Bool
  | queued _ => true
  | _ => false

def grantFile (w : Workspace) (cancelled : Bool) (f : Folder) (path : String) : Polled Strand :=
  match f.startFileScan w.settings path with
  | .refused => ⟨w, .finished, []⟩
  | .replayed f events => ⟨w.putBack f, .finished, events⟩
  | .entered => OpenScan.grant w cancelled f (some path)

def grantFolder (w : Workspace) (cancelled : Bool) (f : Folder) : Polled Strand :=
  match f.startFolderScan w.settings with
  | .entered => OpenScan.grant w cancelled f none
  | _ => ⟨w, .finished, []⟩

/-- A strand gets a permit. It is finished at once, or it is inside the scanner then. -/
def grant (w : Workspace) (cancelled : Bool) (job : ScanJob) : Polled Strand :=
  match job with
  | .file path =>
    match w.folderContaining path with
    | some f => grantFile w cancelled f path
    | none => ⟨w, .finished, []⟩
  | .fileIn r path =>
    match w.resolve r with
    | some f => grantFile w cancelled f path
    | none => ⟨w, .finished, []⟩
  | .folder r =>
    match w.resolve r with
    | some f => grantFolder w cancelled f
    | none => ⟨w, .finished, []⟩

end Strand

/-- Polls a strand that was just granted a permit. -/
def Polled.resume (cancelled : Bool) (a : Polled Strand) : Polled Strand :=
  match a.left with
  | .underway o =>
    let s := o.poll a.workspace cancelled
    { s with events := a.events ++ s.events }
  | _ => a

/-- A poll of a task: strands that were polled, strands that are still to be polled, and what has
happened. -/
structure Pass where
  workspace : Workspace
  free : Nat
  polled : List Strand
  ahead : List Strand
  events : List Event

namespace Pass

/-- One step. After the last strand the next poll begins. -/
def step (p : Pass) (cancelled : Bool) : Pass :=
  match p.ahead with
  | [] => { p with polled := [], ahead := p.polled }
  | .finished :: rest => { p with polled := p.polled ++ [.finished], ahead := rest }
  | .queued job :: rest =>
    if p.free = 0 then { p with polled := p.polled ++ [.queued job], ahead := rest }
    else
      let a := Strand.grant p.workspace cancelled job
      if a.left.isFinished then
        ⟨a.workspace, p.free, p.polled ++ [a.left], rest, p.events ++ a.events⟩
      else ⟨a.workspace, p.free - 1, p.polled, a.left :: rest, p.events ++ a.events⟩
  | .underway o :: rest =>
    let s := o.poll p.workspace cancelled
    ⟨s.workspace, if s.left.isFinished then p.free + 1 else p.free, p.polled ++ [s.left], rest,
      p.events ++ s.events⟩

/-- Steps, each with whether the scan is cancelled by then. -/
def run (p : Pass) (flags : List Bool) : Pass := flags.foldl step p

/-- All strands, those that were polled and those that were not. -/
def strands (p : Pass) : List Strand := p.polled ++ p.ahead

/-- The beginning of a task. -/
def start (w : Workspace) (free : Nat) (ss : List Strand) : Pass := ⟨w, free, [], ss, []⟩

theorem run_append (p : Pass) (flags flags' : List Bool) :
    p.run (flags ++ flags') = (p.run flags).run flags' :=
  List.foldl_append

end Pass

/-! ## Polls are steps -/

/-- The task as strands, the folders of which it looks up when it is first polled. -/
def Task.opened (w : Workspace) : Task → Task
  | workspace => openWorkspace w
  | strands free ss => strands free ss

/-- A task that was polled once for each flag, with all that has happened. -/
def Task.polls (w : Workspace) (t : Task) (cancelled : List Bool) : Polled Task :=
  cancelled.foldl (fun q c =>
    let r := q.left.poll q.workspace c
    { r with events := q.events ++ r.events }) ⟨w, t, []⟩

theorem OpenScan.enter_eq (w : Workspace) (cancelled : Bool) (f : Folder) (file : Option String) :
    OpenScan.enter w cancelled f file = (OpenScan.grant w cancelled f file).resume cancelled := rfl

namespace Strand

variable {w : Workspace} {c : Bool}

theorem startFile_eq (f : Folder) (path : String) :
    startFile w c f path = (grantFile w c f path).resume c := by
  unfold startFile grantFile
  rcases f.startFileScan w.settings path with _ | ⟨g, events⟩ | _
  · rfl
  · rfl
  · exact OpenScan.enter_eq w c f (some path)

theorem startFolder_eq (f : Folder) : startFolder w c f = (grantFolder w c f).resume c := by
  unfold startFolder grantFolder
  rcases f.startFolderScan w.settings with _ | ⟨g, events⟩ | _
  · rfl
  · rfl
  · exact OpenScan.enter_eq w c f none

/-- To start a strand is to grant it a permit and to poll it. -/
theorem start_eq (job : ScanJob) : start w c job = (grant w c job).resume c := by
  cases job with
  | file path =>
    rcases hf : w.folderContaining path with _ | f <;> simp only [start, grant, hf]
    · rfl
    · exact startFile_eq f path
  | fileIn r path =>
    rcases hf : w.resolve r with _ | f <;> simp only [start, grant, hf]
    · rfl
    · exact startFile_eq f path
  | folder r =>
    rcases hf : w.resolve r with _ | f <;> simp only [start, grant, hf]
    · rfl
    · exact startFolder_eq f

/-- A strand with a permit waits no longer. -/
theorem grant_cases (job : ScanJob) :
    (grant w c job).left = .finished ∨ ∃ o, (grant w c job).left = .underway o := by
  have hfile : ∀ f path, (grantFile w c f path).left = .finished
      ∨ ∃ o, (grantFile w c f path).left = .underway o := by
    intro f path
    unfold grantFile
    split
    · exact .inl rfl
    · exact .inl rfl
    · exact .inr ⟨_, rfl⟩
  unfold grant
  cases job <;> dsimp only <;> split
  · exact hfile _ _
  · exact .inl rfl
  · exact hfile _ _
  · exact .inl rfl
  · unfold grantFolder
    split
    · exact .inr ⟨_, rfl⟩
    · exact .inl rfl
  · exact .inl rfl

end Strand

namespace Pass

variable {p : Pass} {c : Bool} {rest : List Strand}

theorem step_nil (hahead : p.ahead = []) :
    p.step c = { p with polled := [], ahead := p.polled } := by
  simp only [step, hahead]

theorem step_finished (hahead : p.ahead = .finished :: rest) :
    p.step c = { p with polled := p.polled ++ [.finished], ahead := rest } := by
  simp only [step, hahead]

theorem step_waiting {job : ScanJob} (hahead : p.ahead = .queued job :: rest) (hfree : p.free = 0) :
    p.step c = { p with polled := p.polled ++ [.queued job], ahead := rest } := by
  simp only [step, hahead, hfree, if_true]

theorem step_grant {job : ScanJob} (hahead : p.ahead = .queued job :: rest) (hfree : p.free ≠ 0) :
    let a := Strand.grant p.workspace c job
    p.step c = if a.left.isFinished then
        ⟨a.workspace, p.free, p.polled ++ [a.left], rest, p.events ++ a.events⟩
      else ⟨a.workspace, p.free - 1, p.polled, a.left :: rest, p.events ++ a.events⟩ := by
  simp only [step, hahead, hfree, if_false]

theorem step_underway {o : OpenScan} (hahead : p.ahead = .underway o :: rest) :
    let s := o.poll p.workspace c
    p.step c = ⟨s.workspace, if s.left.isFinished then p.free + 1 else p.free,
      p.polled ++ [s.left], rest, p.events ++ s.events⟩ := by
  simp only [step, hahead]

/-- To start a strand is one step when it is finished at once, and else two. -/
theorem run_start {job : ScanJob} (hahead : p.ahead = .queued job :: rest) (hfree : p.free ≠ 0) :
    let s := Strand.start p.workspace c job
    ∃ n, p.run (List.replicate n c) = ⟨s.workspace,
      if s.left.isFinished then p.free else p.free - 1, p.polled ++ [s.left], rest,
      p.events ++ s.events⟩ := by
  intro s
  have hs : s = (Strand.grant p.workspace c job).resume c := Strand.start_eq job
  have hgrant := step_grant (c := c) hahead hfree
  rcases Strand.grant_cases (w := p.workspace) (c := c) job with ha | ⟨o, ha⟩ <;>
    simp only [ha, Strand.isFinished, if_true, Bool.false_eq_true, if_false] at hgrant
  · refine ⟨1, hgrant.trans ?_⟩
    simp only [hs, Polled.resume, ha, Strand.isFinished, if_true]
  · refine ⟨2, ?_⟩
    show (p.step c).step c = _
    have hfree' : p.free - 1 + 1 = p.free := Nat.sub_add_cancel (Nat.pos_of_ne_zero hfree)
    rw [hgrant, step_underway rfl]
    simp only [hs, Polled.resume, ha, hfree', List.append_assoc]

end Pass

/-- A poll of strands is some steps of a pass. -/
theorem Task.exists_run_pollStrands (cancelled : Bool) (ss : List Strand) (w : Workspace)
    (free : Nat) (polled : List Strand) (events : List Event) :
    ∃ n, (Pass.mk w free polled ss events).run (List.replicate n cancelled)
      = let p := pollStrands w cancelled free ss
        ⟨p.workspace, p.left.1, polled ++ p.left.2, [], events ++ p.events⟩ := by
  induction ss generalizing w free polled events with
  | nil => exact ⟨0, by simp [Pass.run, pollStrands]⟩
  | cons s rest ih =>
    cases s with
    | finished =>
      obtain ⟨n, hn⟩ := ih w free (polled ++ [.finished]) events
      refine ⟨n + 1, hn.trans ?_⟩
      simp [pollStrands]
    | queued job =>
      by_cases hfree : free = 0
      · obtain ⟨n, hn⟩ := ih w free (polled ++ [.queued job]) events
        refine ⟨n + 1, ?_⟩
        show (Pass.step ⟨w, free, polled, .queued job :: rest, events⟩ cancelled).run _ = _
        rw [Pass.step_waiting rfl hfree]
        refine hn.trans ?_
        simp [pollStrands, hfree]
      · let s := Strand.start w cancelled job
        obtain ⟨m, hm⟩ := Pass.run_start (p := ⟨w, free, polled, .queued job :: rest, events⟩)
          (c := cancelled) rfl hfree
        obtain ⟨n, hn⟩ := ih s.workspace (if s.left.isFinished then free else free - 1)
          (polled ++ [s.left]) (events ++ s.events)
        refine ⟨m + n, ?_⟩
        rw [List.replicate_add, Pass.run_append, hm]
        refine hn.trans ?_
        simp [pollStrands, hfree, s]
    | underway o =>
      let s := o.poll w cancelled
      obtain ⟨n, hn⟩ := ih s.workspace (if s.left.isFinished then free + 1 else free)
        (polled ++ [s.left]) (events ++ s.events)
      refine ⟨n + 1, hn.trans ?_⟩
      simp [pollStrands, s]

theorem Task.exists_openWorkspace (w : Workspace) :
    ∃ free ss, openWorkspace w = .strands free ss := by
  unfold openWorkspace
  split <;> exact ⟨_, _, rfl⟩

/-- A scan of the workspace has a strand for each folder, if there can be its permits. -/
theorem Task.opened_workspace {w : Workspace} (hlimit : w.mostScans ≤ mostPermits) :
    Task.workspace.opened w = .strands w.mostScans (Strand.queue w.folders.values) := by
  rw [opened, openWorkspace, Semaphore.new?, if_pos hlimit]

theorem Task.poll_opened (w : Workspace) (c : Bool) (t : Task) :
    t.poll w c = (t.opened w).poll w c := by
  cases t with
  | workspace =>
    obtain ⟨free, ss, hopen⟩ := exists_openWorkspace w
    simp only [opened, poll, hopen]
  | strands free ss => rfl

/-- The moments between the polls of a task are moments of a pass. -/
theorem Task.exists_run_polls {w : Workspace} {t : Task} {free : Nat} {ss : List Strand}
    (hopened : t.opened w = .strands free ss) (cs : List Bool) :
    ∃ flags, let p := (Pass.start w free ss).run flags
      p.workspace = (t.polls w cs).workspace ∧ p.events = (t.polls w cs).events
        ∧ p.polled = [] ∧ (t.polls w cs).left.opened p.workspace = .strands p.free p.ahead := by
  induction cs using List.reverseRecOn with
  | nil => exact ⟨[], rfl, rfl, rfl, hopened⟩
  | append_singleton cs c ih =>
    obtain ⟨flags, hworkspace, hevents, hpolled, hleft⟩ := ih
    generalize hp : (Pass.start w free ss).run flags = p at *
    have hconcat : t.polls w (cs ++ [c])
        = let r := (t.polls w cs).left.poll (t.polls w cs).workspace c
          { r with events := (t.polls w cs).events ++ r.events } := by
      simp [polls]
    rw [hconcat, poll_opened, ← hworkspace, hleft, ← hevents]
    obtain ⟨n, hn⟩ := exists_run_pollStrands c p.ahead p.workspace p.free [] p.events
    have hself : p = ⟨p.workspace, p.free, [], p.ahead, p.events⟩ := by rw [← hpolled]
    refine ⟨flags ++ (List.replicate n c ++ [c]), ?_⟩
    rw [Pass.run_append, hp, Pass.run_append, hself, hn]
    exact ⟨rfl, rfl, rfl, rfl⟩

/-- No round passes when nothing can move. -/
theorem Task.rounds_of_stuck {c : Bool} {p : Polled (List Task)}
    (h : p.left.any (canMove c) = false) (fuel : Nat) : rounds c fuel p = p := by
  cases fuel with
  | zero => rfl
  | succ fuel => simp [rounds, h]

/-- What happened before the rounds stays before what happens in them. -/
theorem Task.rounds_events (c : Bool) (fuel : Nat) (w : Workspace) (ts : List Task)
    (es : List Event) : rounds c fuel ⟨w, ts, es⟩
      = let q := rounds c fuel ⟨w, ts, []⟩
        ⟨q.workspace, q.left, es ++ q.events⟩ := by
  induction fuel generalizing w ts es with
  | zero => simp [rounds]
  | succ fuel ih =>
    by_cases hmove : ts.any (canMove c) = true
    · simp only [rounds, hmove, if_true, List.nil_append]
      rw [ih _ _ (es ++ _), ih _ _ (round w c ts).events]
      simp only [List.append_assoc]
    · simp [rounds, hmove]

/-! ## Runs that are dealt -/

namespace Event

/-- The path and the folder with which the scanner is entered. -/
def entry? : Event → Option (String × String)
  | scan path folder _ => some (path, folder)
  | _ => none

def entries (es : List Event) : List (String × String) := es.filterMap entry?

theorem entries_append (es fs : List Event) : entries (es ++ fs) = entries es ++ entries fs :=
  List.filterMap_append

end Event

theorem Folder.entries_processReport (s : Settings) (f : Folder) (r : ScanReport) :
    Event.entries (f.processReport s r).2 = [] := by
  refine List.filterMap_eq_nil_iff.2 fun e he => ?_
  unfold processReport takeIn at he
  dsimp only at he
  split at he
  · rw [List.mem_singleton.1 he]
    rfl
  · rcases List.mem_append.1 he with he | he
    · obtain ⟨d, -, rfl⟩ := List.mem_map.1 he
      rfl
    · rcases mem_publish he with ⟨m, rfl⟩ | ⟨d, rfl⟩ <;> rfl

theorem Folder.entries_finishFolderScan (s : Settings) (f : Folder) (cancelled : Bool)
    (r : ScanReport) : Event.entries (f.finishFolderScan s cancelled r).2 = [] := by
  unfold finishFolderScan
  split
  · rfl
  · exact f.entries_processReport s r

/-- A folder with the run of the scanner that its scan was dealt, if any. -/
abbrev Dealing := Folder × Option ScanRun

/-- The scanner dealt these runs in this order, under flags that `C` allows. -/
def Dealt (C : Bool → Prop) (s : Settings) (scanner : Scanner) : List Dealing → Scanner → Prop
  | [], last => last = scanner
  | (_, none) :: rest, last => Dealt C s scanner rest last
  | (f, some run) :: rest, last => ∃ c next, C c
    ∧ scanner.next s.scanner c f.path f.path = (run, next) ∧ Dealt C s next rest last

/-- The entries into the scanner that the runs were dealt for. -/
def entered (ds : List Dealing) : List (String × String) :=
  ds.filterMap fun d => d.2.map fun _ => (d.1.path, d.1.path)

section Dealt

variable {C : Bool → Prop} {s : Settings} {scanner last : Scanner} {ds : List Dealing}

theorem dealt_append {ds' : List Dealing} : Dealt C s scanner (ds ++ ds') last
    ↔ ∃ mid, Dealt C s scanner ds mid ∧ Dealt C s mid ds' last := by
  induction ds generalizing scanner with
  | nil => simp [Dealt]
  | cons d rest ih =>
    obtain ⟨f, _ | run⟩ := d
    · exact ih
    · simp only [List.cons_append, Dealt, ih]
      grind

theorem dealt_of_none (h : ∀ d ∈ ds, d.2 = none) : Dealt C s scanner ds last ↔ last = scanner := by
  induction ds with
  | nil => exact .rfl
  | cons d rest ih =>
    obtain ⟨f, run⟩ := d
    obtain rfl : run = none := h _ List.mem_cons_self
    exact ih fun d hd => h d (List.mem_cons_of_mem _ hd)

theorem entered_append (ds ds' : List Dealing) : entered (ds ++ ds') = entered ds ++ entered ds' :=
  List.filterMap_append

theorem entered_of_none (h : ∀ d ∈ ds, d.2 = none) : entered ds = [] :=
  List.filterMap_eq_nil_iff.2 fun d hd => by rw [h d hd]; rfl

end Dealt

/-! ## How far a scan of several folders has come -/

/-- How far the scan of a folder has come: which run it was dealt, its strand, and what the folder
is now. -/
inductive Stage (C : Bool → Prop) (s : Settings) (f : Folder) :
    Option ScanRun → Strand → Folder → Prop
  | waiting : Stage C s f none (.queued (.folder f.ref)) f
  | refused (h : f.isTrusted s = false) : Stage C s f none .finished f
  | inside (h : f.isTrusted s = true) (run : ScanRun) (rounds : Nat) :
      Stage C s f (some run) (.underway ⟨f.ref, none, { run with rounds }⟩) f
  | done (h : f.isTrusted s = true) (run : ScanRun) {c : Bool} (hc : C c) :
      Stage C s f (some run) .finished (f.finishFolderScan s c run.report).1

namespace Stage

variable {C : Bool → Prop} {s : Settings} {f now : Folder} {run : Option ScanRun} {strand : Strand}

theorem run_of_queued (h : Stage C s f run strand now) (hqueued : strand.isQueued = true) :
    run = none := by
  cases h with
  | waiting => rfl
  | refused htrusted => rfl
  | inside htrusted run rounds => exact absurd hqueued Bool.false_ne_true
  | done htrusted run hc => exact absurd hqueued Bool.false_ne_true

/-- A folder is as it was until its scan is finished, and stays so if it is not trusted. -/
theorem now_eq (h : Stage C s f run strand now)
    (hearly : strand.isFinished = false ∨ f.isTrusted s = false) : now = f := by
  cases h with
  | waiting => rfl
  | refused htrusted => rfl
  | inside htrusted run rounds => rfl
  | done htrusted run hc =>
    rcases hearly with hfinished | huntrusted
    · exact absurd hfinished.symm Bool.false_ne_true
    · exact absurd (huntrusted.symm.trans htrusted) Bool.false_ne_true

end Stage

/-- One of the folders, as the scan began and as it is now. -/
structure Line where
  folder : Folder
  run : Option ScanRun
  strand : Strand
  now : Folder

def Line.dealing (l : Line) : Dealing := (l.folder, l.run)

/-- The folder waits from the beginning. -/
def Line.waiting (f : Folder) : Line := ⟨f, none, .queued (.folder f.ref), f⟩

theorem Line.map_folder_waiting (fs : List Folder) : (fs.map waiting).map folder = fs :=
  List.map_map.trans fs.map_id

/-- Lines that wait are the last ones. -/
theorem Line.exists_started {lines : List Line}
    (hqueue : lines.Pairwise fun a b => a.strand.isQueued = true → b.strand.isQueued = true) :
    ∃ left right, lines = left ++ right ∧ (∀ l ∈ left, l.strand.isQueued = false)
      ∧ ∀ l ∈ right, l.strand.isQueued = true := by
  induction lines with
  | nil => exact ⟨[], [], rfl, List.forall_mem_nil _, List.forall_mem_nil _⟩
  | cons a rest ih =>
    obtain ⟨ha, hrest⟩ := List.pairwise_cons.1 hqueue
    rcases hqueued : a.strand.isQueued
    · obtain ⟨left, right, rfl, hleft, hright⟩ := ih hrest
      exact ⟨a :: left, right, rfl, List.forall_mem_cons.2 ⟨hqueued, hleft⟩, hright⟩
    · exact ⟨[], a :: rest, rfl, List.forall_mem_nil _,
        List.forall_mem_cons.2 ⟨hqueued, fun l hl => ha l hl hqueued⟩⟩

/-- Two workspaces that differ in their folders and their scanner at most. -/
structure Workspace.Alike (w v : Workspace) : Prop where
  settings : v.settings = w.settings
  retired : v.retired = w.retired
  nextStamp : v.nextStamp = w.nextStamp

/-- What the scanner is to be entered with for these folders. -/
def Workspace.due (w : Workspace) (fs : List Folder) : List (String × String) :=
  (fs.filter fun f => f.isTrusted w.settings).map fun f => (f.path, f.path)

theorem Workspace.due_append (w : Workspace) (fs gs : List Folder) :
    w.due (fs ++ gs) = w.due fs ++ w.due gs := by
  rw [due, List.filter_append, List.map_append]
  rfl

/-- What is known of a scan at every moment. It began in the workspace `w` with `limit` permits, and
these are its folders. -/
structure Progress (C : Bool → Prop) (w : Workspace) (limit : Nat) (lines : List Line) (p : Pass) :
    Prop where
  stages : ∀ l ∈ lines, Stage C w.settings l.folder l.run l.strand l.now
  apart : lines.Pairwise fun a b => a.folder.path ≠ b.folder.path
  queue : lines.Pairwise fun a b => a.strand.isQueued = true → b.strand.isQueued = true
  permits : p.free + lines.countP (fun l => l.strand.isUnderway) = limit
  at_path : ∀ l ∈ lines, p.workspace.folders.get? l.folder.path = some l.now
  others : ∀ k, (∀ l ∈ lines, l.folder.path ≠ k) →
    p.workspace.folders.get? k = w.folders.get? k
  alike : w.Alike p.workspace
  dealt : Dealt C w.settings w.scanner (lines.map Line.dealing) p.workspace.scanner
  entries : Event.entries p.events = entered (lines.map Line.dealing)

namespace Progress

variable {C : Bool → Prop} {w : Workspace} {limit : Nat} {left right : List Line} {l m : Line}
  {p p' : Pass}

/-- One line of a scan goes on. -/
theorem replace (h : Progress C w limit (left ++ l :: right) p) (hfolder : m.folder = l.folder)
    (hstage : Stage C w.settings m.folder m.run m.strand m.now)
    (hleft : ∀ a ∈ left, a.strand.isQueued = false) (hm : m.strand.isQueued = false)
    (hpermits : p'.free + (if m.strand.isUnderway then 1 else 0)
      = p.free + if l.strand.isUnderway then 1 else 0)
    (hfolders : ∀ k, p'.workspace.folders.get? k
      = if k = l.folder.path then some m.now else p.workspace.folders.get? k)
    (halike : w.Alike p'.workspace)
    (hdealt : Dealt C w.settings w.scanner ((left ++ m :: right).map Line.dealing)
      p'.workspace.scanner)
    (hentries : Event.entries p'.events = entered ((left ++ m :: right).map Line.dealing)) :
    Progress C w limit (left ++ m :: right) p' := by
  have hmem : ∀ x a : Line, a ∈ left ++ x :: right ↔ a = x ∨ a ∈ left ++ right := fun _ _ =>
    List.perm_middle.mem_iff.trans List.mem_cons
  have hsymm : ∀ {a b : Line}, a.folder.path ≠ b.folder.path → b.folder.path ≠ a.folder.path :=
    Ne.symm
  obtain ⟨hapart, hrest⟩ := List.pairwise_cons.1 ((List.pairwise_middle hsymm).1 h.apart)
  obtain ⟨hqueueLeft, hqueueRight, -⟩ := List.pairwise_append.1 h.queue
  refine ⟨?_, ?_, ?_, ?_, ?_, ?_, halike, hdealt, hentries⟩
  · intro a ha
    rcases (hmem m a).1 ha with rfl | ha
    · exact hstage
    · exact h.stages a ((hmem l a).2 (.inr ha))
  · exact (List.pairwise_middle hsymm).2 (List.pairwise_cons.2 ⟨hfolder ▸ hapart, hrest⟩)
  · refine List.pairwise_append.2 ⟨hqueueLeft, List.pairwise_cons.2 ⟨?_, ?_⟩, ?_⟩
    · exact fun b _ hq => absurd (hm.symm.trans hq) Bool.false_ne_true
    · exact (List.pairwise_cons.1 hqueueRight).2
    · exact fun a ha b _ hq => absurd ((hleft a ha).symm.trans hq) Bool.false_ne_true
  · have hcount := h.permits
    simp only [List.countP_append, List.countP_cons] at hcount ⊢
    omega
  · intro a ha
    rw [hfolders]
    rcases (hmem m a).1 ha with rfl | ha
    · rw [if_pos (congrArg Folder.path hfolder)]
    · rw [if_neg (hapart a ha).symm]
      exact h.at_path a ((hmem l a).2 (.inr ha))
  · intro k hk
    have hkl : l.folder.path ≠ k := hfolder ▸ hk m ((hmem m m).2 (.inl rfl))
    rw [hfolders, if_neg hkl.symm]
    refine h.others k fun a ha => ?_
    rcases (hmem l a).1 ha with rfl | ha
    · exact hkl
    · exact hk a ((hmem m a).2 (.inr ha))

/-- What is known depends on the workspace, the permits and the events. -/
theorem of_eq {lines : List Line} (h : Progress C w limit lines p)
    (hworkspace : p'.workspace = p.workspace) (hfree : p'.free = p.free)
    (hevents : p'.events = p.events) : Progress C w limit lines p' where
  stages := h.stages
  apart := h.apart
  queue := h.queue
  permits := hfree ▸ h.permits
  at_path := hworkspace ▸ h.at_path
  others := hworkspace ▸ h.others
  alike := hworkspace ▸ h.alike
  dealt := hworkspace ▸ h.dealt
  entries := hevents ▸ h.entries

end Progress

/-- A moment of a pass: the lines whose strands were polled, and those that are still ahead. A line
that was passed over while it waited found no permit. -/
structure Moment (C : Bool → Prop) (w : Workspace) (limit : Nat) (left right : List Line)
    (p : Pass) : Prop where
  progress : Progress C w limit (left ++ right) p
  polled : p.polled = left.map Line.strand
  ahead : p.ahead = right.map Line.strand
  skipped : p.free = 0 ∨ ∀ l ∈ left, l.strand.isQueued = false

/-- To bind a key to its value again is no change. -/
theorem Table.get?_eq_ite {α : Type} {t : Table α} {key : String} {value : α}
    (h : t.get? key = some value) (k : String) :
    t.get? k = if k = key then some value else t.get? k := by
  rw [← get?_insert, insert_of_get? h]

theorem Folder.ref_finishFolderScan (s : Settings) (f : Folder) (cancelled : Bool)
    (r : ScanReport) : (f.finishFolderScan s cancelled r).1.ref = f.ref := by
  rw [← Operation.run_endFolderScan s false]
  exact Operation.run_ref s false f _

/-- An operation on a folder that is open at its path changes it there. -/
theorem Workspace.onFolder_of_get? {w : Workspace} {f : Folder}
    (hf : w.folders.get? f.path = some f) {op : Folder → Folder × List Event}
    (hop : (op f).1.ref = f.ref) : w.onFolder f.ref op
      = ({ w with folders := w.folders.insert f.path (op f).1 }, (op f).2) := by
  have hresolve : w.resolve f.ref = some f := by
    simp [Workspace.resolve, Folder.ref, hf]
  have hpath : (op f).1.path = f.path := congrArg FolderRef.path hop
  have hstamp : (op f).1.stamp = f.stamp := congrArg FolderRef.stamp hop
  rw [onFolder, hresolve]
  show (w.putBack (op f).1, (op f).2) = _
  rw [Workspace.putBack_of_open (f := f) (hpath ▸ hf) hstamp.symm, hpath]

/-- The scan of a folder that is open at its path takes in the report there. -/
theorem OpenScan.finish_of_get? {w : Workspace} {f : Folder} (hf : w.folders.get? f.path = some f)
    (cancelled : Bool) (run : ScanRun) :
    let next := f.finishFolderScan w.settings cancelled run.report
    OpenScan.finish w cancelled ⟨f.ref, none, run⟩
      = ({ w with folders := w.folders.insert f.path next.1 }, next.2) :=
  Workspace.onFolder_of_get? hf (f.ref_finishFolderScan w.settings cancelled run.report)

namespace Moment

variable {C : Bool → Prop} {w : Workspace} {limit : Nat} {left right : List Line} {p : Pass}
  {c : Bool} {f now : Folder}

theorem strands_eq (h : Moment C w limit left right p) :
    p.strands = (left ++ right).map Line.strand := by
  rw [Pass.strands, h.polled, h.ahead, List.map_append]

/-- A strand that has nothing to do is passed over. -/
theorem shift {l : Line} (h : Moment C w limit left (l :: right) p)
    (hskipped : p.free = 0 ∨ l.strand.isQueued = false) :
    Moment C w limit (left ++ [l]) right
      { p with polled := p.polled ++ [l.strand], ahead := right.map Line.strand } where
  progress := by
    rw [List.append_assoc]
    exact h.progress.of_eq rfl rfl rfl
  polled := by rw [List.map_append, h.polled]; rfl
  ahead := rfl
  skipped := by
    rcases hskipped with hfree | hl
    · exact .inl hfree
    · exact h.skipped.imp_right fun hleft =>
        List.forall_mem_append.2 ⟨hleft, List.forall_mem_singleton.2 hl⟩

section Waiting

variable (h : Moment C w limit left (.waiting f :: right) p)
include h

/-- Lines after one that waits were dealt nothing. -/
theorem none_of_waiting : ∀ d ∈ right.map Line.dealing, d.2 = none := by
  intro d hd
  obtain ⟨l, hl, rfl⟩ := List.mem_map.1 hd
  obtain ⟨-, hqueue, -⟩ := List.pairwise_append.1 h.progress.queue
  have hmem : l ∈ left ++ .waiting f :: right :=
    List.mem_append_right _ (List.mem_cons_of_mem _ hl)
  exact (h.progress.stages l hmem).run_of_queued ((List.pairwise_cons.1 hqueue).1 l hl rfl)

theorem dealt_left :
    Dealt C w.settings w.scanner (left.map Line.dealing) p.workspace.scanner := by
  have hall := h.progress.dealt
  rw [List.map_append, List.map_cons] at hall
  obtain ⟨mid, hmid, hlast⟩ := dealt_append.1 hall
  have hsame : p.workspace.scanner = mid := (dealt_of_none h.none_of_waiting).1 hlast
  exact hsame ▸ hmid

theorem entries_left : Event.entries p.events = entered (left.map Line.dealing) := by
  have hnone : entered (Line.dealing (.waiting f) :: right.map Line.dealing) = [] :=
    entered_of_none (List.forall_mem_cons.2 ⟨rfl, h.none_of_waiting⟩)
  rw [h.progress.entries, List.map_append, List.map_cons, entered_append, hnone, List.append_nil]

theorem get?_waiting : p.workspace.folders.get? f.path = some f :=
  h.progress.at_path (.waiting f) (by simp)

theorem grant_waiting (c : Bool) :
    Strand.grant p.workspace c (.folder f.ref) = Strand.grantFolder p.workspace c f := by
  have hresolve : p.workspace.resolve f.ref = some f := by
    simp [Workspace.resolve, Folder.ref, h.get?_waiting]
  simp only [Strand.grant, hresolve]

/-- A folder that is not trusted gives its permit back at once. -/
theorem refuse (hfree : p.free ≠ 0) (htrusted : f.isTrusted w.settings = false) :
    Moment C w limit (left ++ [⟨f, none, .finished, f⟩]) right (p.step c) := by
  have hleft : ∀ a ∈ left, a.strand.isQueued = false := h.skipped.resolve_left hfree
  have hgrant := Pass.step_grant (c := c) h.ahead hfree
  simp only [h.grant_waiting, Strand.grantFolder, Folder.startFolderScan, h.progress.alike.settings,
    htrusted, Bool.false_eq_true, if_false, Strand.isFinished, if_true, List.append_nil] at hgrant
  rw [hgrant]
  refine ⟨?_, by simp [h.polled], rfl,
    .inr (List.forall_mem_append.2 ⟨hleft, List.forall_mem_singleton.2 rfl⟩)⟩
  rw [List.append_assoc]
  refine h.progress.replace (l := .waiting f) (m := ⟨f, none, .finished, f⟩) rfl
    (.refused htrusted) hleft rfl rfl (Table.get?_eq_ite h.get?_waiting) h.progress.alike ?_ ?_
  · simpa [Line.dealing, Line.waiting] using h.progress.dealt
  · simpa [Line.dealing, Line.waiting] using h.progress.entries

/-- For a folder that is trusted the scanner is entered. -/
theorem enter (hfree : p.free ≠ 0) (htrusted : f.isTrusted w.settings = true) (hc : C c) :
    let run := (p.workspace.scanner.next w.settings.scanner c f.path f.path).1
    Moment C w limit left (⟨f, some run, .underway ⟨f.ref, none, run⟩, f⟩ :: right)
      (p.step c) := by
  intro run
  have hleft : ∀ a ∈ left, a.strand.isQueued = false := h.skipped.resolve_left hfree
  have hgrant := Pass.step_grant (c := c) h.ahead hfree
  simp only [h.grant_waiting, Strand.grantFolder, Folder.startFolderScan, h.progress.alike.settings,
    htrusted, if_true, OpenScan.grant, Strand.isFinished, Bool.false_eq_true, if_false] at hgrant
  have hdealing : (left ++ (⟨f, some run, .underway ⟨f.ref, none, run⟩, f⟩ : Line) :: right).map
      Line.dealing = left.map Line.dealing ++ (f, some run) :: right.map Line.dealing := by
    rw [List.map_append]
    rfl
  rw [hgrant]
  refine ⟨?_, h.polled, rfl, .inr hleft⟩
  refine h.progress.replace (l := .waiting f) rfl (.inside htrusted run run.rounds) hleft rfl
    ?_ (Table.get?_eq_ite h.get?_waiting)
    ⟨rfl, h.progress.alike.retired, h.progress.alike.nextStamp⟩ ?_ ?_
  · exact Nat.sub_add_cancel (Nat.pos_of_ne_zero hfree)
  · rw [hdealing]
    refine dealt_append.2 ⟨_, h.dealt_left, c, _, hc, rfl, ?_⟩
    exact (dealt_of_none h.none_of_waiting).2 rfl
  · rw [hdealing, Event.entries_append, entered_append, h.entries_left]
    congr 1
    show _ = (f.path, f.path) :: entered (right.map Line.dealing)
    rw [entered_of_none h.none_of_waiting]
    rfl

end Waiting

section Inside

variable {r : ScanRun} {rounds : Nat} (h : Moment C w limit left
  (⟨f, some r, .underway ⟨f.ref, none, { r with rounds }⟩, f⟩ :: right) p)
include h

theorem get?_inside : p.workspace.folders.get? f.path = some f :=
  h.progress.at_path ⟨f, some r, .underway ⟨f.ref, none, { r with rounds }⟩, f⟩ (by simp)

/-- What becomes of a scan inside the scanner when it is polled. -/
theorem polled_inside {s : Polled Strand}
    (hpoll : OpenScan.poll p.workspace c ⟨f.ref, none, { r with rounds }⟩ = s)
    (hstage : Stage C w.settings f (some r) s.left now)
    (hfolders : ∀ k, s.workspace.folders.get? k
      = if k = f.path then some now else p.workspace.folders.get? k)
    (halike : w.Alike s.workspace) (hscanner : s.workspace.scanner = p.workspace.scanner)
    (hentries : Event.entries s.events = []) :
    Moment C w limit (left ++ [⟨f, some r, s.left, now⟩]) right (p.step c) := by
  have hleft : ∀ a ∈ left, a.strand.isQueued = false := by
    intro a ha
    obtain ⟨-, -, hacross⟩ := List.pairwise_append.1 h.progress.queue
    exact Bool.eq_false_iff.2 fun hq => Bool.false_ne_true (hacross a ha _ List.mem_cons_self hq)
  have hmoved : s.left.isQueued = false
      ∧ (if s.left.isFinished then p.free + 1 else p.free) + (if s.left.isUnderway then 1 else 0)
        = p.free + 1 := by
    generalize s.left = strand at hstage
    cases hstage with
    | inside htrusted run rounds => exact ⟨rfl, rfl⟩
    | done htrusted run hc => exact ⟨rfl, rfl⟩
  obtain ⟨hqueued, hpermits⟩ := hmoved
  have hstep := Pass.step_underway (c := c) h.ahead
  simp only [hpoll] at hstep
  have hdealing : (left ++ (⟨f, some r, s.left, now⟩ : Line) :: right).map Line.dealing
      = (left ++ ⟨f, some r, .underway ⟨f.ref, none, { r with rounds }⟩, f⟩ :: right).map
        Line.dealing := by
    simp [Line.dealing]
  rw [hstep]
  refine ⟨?_, by simp [h.polled], rfl,
    .inr (List.forall_mem_append.2 ⟨hleft, List.forall_mem_singleton.2 hqueued⟩)⟩
  rw [List.append_assoc]
  refine h.progress.replace rfl hstage hleft hqueued hpermits hfolders halike ?_ ?_
  · rw [hdealing]
    exact hscanner ▸ h.progress.dealt
  · rw [hdealing, Event.entries_append, hentries, List.append_nil]
    exact h.progress.entries

/-- A scan inside the scanner stays there, or takes its report to the folder. -/
theorem poll (htrusted : f.isTrusted w.settings = true) (hc : C c) :
    ∃ strand now, Moment C w limit (left ++ [⟨f, some r, strand, now⟩]) right (p.step c) := by
  have hsame := Table.get?_eq_ite h.get?_inside
  cases rounds with
  | succ n =>
    exact ⟨_, f, h.polled_inside rfl (.inside htrusted r n) hsame h.progress.alike rfl rfl⟩
  | zero =>
    by_cases hstuck : (r.hangs && !c) = true
    · have hpoll : OpenScan.poll p.workspace c ⟨f.ref, none, { r with rounds := 0 }⟩
          = ⟨p.workspace, .underway ⟨f.ref, none, { r with rounds := 0 }⟩, []⟩ := by
        simp only [OpenScan.poll, hstuck, if_true]
      exact ⟨_, f, h.polled_inside hpoll (.inside htrusted r 0) hsame h.progress.alike rfl rfl⟩
    · let next := f.finishFolderScan w.settings c r.report
      have hpoll : OpenScan.poll p.workspace c ⟨f.ref, none, { r with rounds := 0 }⟩
          = ⟨{ p.workspace with folders := p.workspace.folders.insert f.path next.1 }, .finished,
            next.2⟩ := by
        simp only [OpenScan.poll, hstuck, if_false, Bool.false_eq_true,
          OpenScan.finish_of_get? h.get?_inside, h.progress.alike.settings, next]
      exact ⟨_, _, h.polled_inside hpoll (.done htrusted r hc) (fun k => Table.get?_insert _ _ _ _)
        ⟨h.progress.alike.settings, h.progress.alike.retired, h.progress.alike.nextStamp⟩ rfl
        (f.entries_finishFolderScan w.settings c r.report)⟩

end Inside

/-- One step of a pass takes a scan from one moment to the next. -/
theorem step (h : Moment C w limit left right p) (hc : C c) :
    ∃ left' right', Moment C w limit left' right' (p.step c)
      ∧ (left' ++ right').map Line.folder = (left ++ right).map Line.folder := by
  rcases right with _ | ⟨l, right⟩
  · refine ⟨[], left, ?_, by simp⟩
    have hall := h.progress
    rw [List.append_nil] at hall
    rw [Pass.step_nil h.ahead]
    exact ⟨hall.of_eq rfl rfl rfl, rfl, h.polled, .inr fun a ha => absurd ha List.not_mem_nil⟩
  · have hshift : l.strand = .finished → Moment C w limit (left ++ [l]) right (p.step c) := by
      intro hl
      rw [Pass.step_finished (h.ahead.trans (by rw [List.map_cons, hl])), ← hl]
      exact h.shift (.inr (hl ▸ rfl))
    have hstage := h.progress.stages l (by simp)
    obtain ⟨f, run, strand, now⟩ := l
    dsimp only at hstage
    cases hstage with
    | waiting =>
      by_cases hfree : p.free = 0
      · refine ⟨left ++ [.waiting f], right, ?_, by simp [Line.waiting]⟩
        rw [Pass.step_waiting h.ahead hfree]
        exact h.shift (.inl hfree)
      · rcases htrusted : f.isTrusted w.settings
        · exact ⟨_, right, h.refuse hfree htrusted, by simp⟩
        · exact ⟨left, _, h.enter hfree htrusted hc, by simp⟩
    | refused htrusted => exact ⟨_, right, hshift rfl, by simp⟩
    | inside htrusted r rounds =>
      obtain ⟨strand, now, hnext⟩ := h.poll htrusted hc
      exact ⟨_, right, hnext, by simp⟩
    | done htrusted r hc => exact ⟨_, right, hshift rfl, by simp⟩

theorem run (h : Moment C w limit left right p) {flags : List Bool} (hflags : ∀ c ∈ flags, C c) :
    ∃ left' right', Moment C w limit left' right' (p.run flags)
      ∧ (left' ++ right').map Line.folder = (left ++ right).map Line.folder := by
  induction flags generalizing p left right with
  | nil => exact ⟨left, right, h, rfl⟩
  | cons c rest ih =>
    obtain ⟨left', right', hstep, hfolders⟩ := h.step (hflags c List.mem_cons_self)
    obtain ⟨left'', right'', hrun, hfolders'⟩ :=
      ih hstep fun b hb => hflags b (List.mem_cons_of_mem _ hb)
    exact ⟨left'', right'', hrun, hfolders'.trans hfolders⟩

/-- Once the scan is cancelled a step leaves the folders as they are. -/
theorem step_cancelled (h : Moment C w limit left right p) :
    (p.step true).workspace.folders = p.workspace.folders := by
  rcases right with _ | ⟨l, right⟩
  · rw [Pass.step_nil h.ahead]
  · have hstage := h.progress.stages l (by simp)
    obtain ⟨f, run, strand, now⟩ := l
    dsimp only at hstage
    cases hstage with
    | waiting =>
      by_cases hfree : p.free = 0
      · rw [Pass.step_waiting h.ahead hfree]
      · have hgrant : (Strand.grantFolder p.workspace true f).workspace.folders
            = p.workspace.folders := by
          unfold Strand.grantFolder
          split <;> rfl
        have hwaiting : Moment C w limit left (.waiting f :: right) p := h
        rw [Pass.step_grant h.ahead hfree, hwaiting.grant_waiting]
        split <;> exact hgrant
    | refused htrusted => rw [Pass.step_finished h.ahead]
    | inside htrusted r rounds =>
      rw [Pass.step_underway h.ahead]
      cases rounds with
      | succ n => rfl
      | zero =>
        have hsame := Table.insert_of_get? h.get?_inside
        simp [OpenScan.poll, OpenScan.finish_of_get? h.get?_inside, Folder.finishFolderScan, hsame]
    | done htrusted r hc => rw [Pass.step_finished h.ahead]

theorem run_cancelled (h : Moment (fun _ => True) w limit left right p) (n : Nat) :
    (p.run (List.replicate n true)).workspace.folders = p.workspace.folders := by
  induction n generalizing p left right with
  | zero => rfl
  | succ n ih =>
    obtain ⟨left', right', hstep, -⟩ := h.step (c := true) trivial
    exact (ih hstep).trans h.step_cancelled

/-- The scan of these folders begins. -/
theorem start {fs : List Folder} (hopen : ∀ f ∈ fs, w.folders.get? f.path = some f)
    (hapart : fs.Pairwise fun f g => f.path ≠ g.path) (limit : Nat) :
    Moment C w limit [] (fs.map Line.waiting)
      (.start w limit (fs.map fun f => .queued (.folder f.ref))) := by
  have hnone : ∀ d ∈ (fs.map Line.waiting).map Line.dealing, d.2 = none := by
    intro d hd
    obtain ⟨l, hl, rfl⟩ := List.mem_map.1 hd
    obtain ⟨f, -, rfl⟩ := List.mem_map.1 hl
    rfl
  refine ⟨⟨?_, ?_, ?_, ?_, ?_, fun k _ => rfl, ⟨rfl, rfl, rfl⟩, (dealt_of_none hnone).2 rfl,
    (entered_of_none hnone).symm⟩, rfl, ?_, .inr fun a ha => absurd ha List.not_mem_nil⟩
  · intro l hl
    obtain ⟨f, -, rfl⟩ := List.mem_map.1 hl
    exact .waiting
  · exact List.pairwise_map.2 hapart
  · exact List.pairwise_map.2 (List.pairwise_of_forall fun _ _ _ => rfl)
  · rw [List.nil_append, List.countP_map, List.countP_eq_zero.2]
    · rfl
    · exact fun f _ => Bool.false_ne_true
  · intro l hl
    obtain ⟨f, hf, rfl⟩ := List.mem_map.1 hl
    exact hopen f hf
  · rw [List.map_map]
    rfl

end Moment

namespace Progress

variable {C : Bool → Prop} {w : Workspace} {limit : Nat} {lines : List Line} {p : Pass}

/-- Once no line waits, the scanner was entered for each of the trusted folders. -/
theorem entered_started (hstages : ∀ l ∈ lines, Stage C w.settings l.folder l.run l.strand l.now)
    (hstarted : ∀ l ∈ lines, l.strand.isQueued = false) :
    entered (lines.map Line.dealing) = w.due (lines.map Line.folder) := by
  rw [entered, Workspace.due, List.filterMap_map, List.filter_map, List.map_map,
    ← List.filterMap_eq_map, List.filterMap_filter]
  refine List.filterMap_congr fun l hl => ?_
  have hstage := hstages l hl
  have hqueued := hstarted l hl
  obtain ⟨f, run, strand, now⟩ := l
  dsimp only at hstage hqueued
  cases hstage with
  | waiting => exact nomatch hqueued
  | refused htrusted => simp [Line.dealing, htrusted]
  | inside htrusted r rounds => simp [Line.dealing, htrusted]
  | done htrusted r hc => simp [Line.dealing, htrusted]

theorem entries_started (h : Progress C w limit lines p)
    (hstarted : ∀ l ∈ lines, l.strand.isQueued = false) :
    Event.entries p.events = w.due (lines.map Line.folder) :=
  h.entries.trans (entered_started h.stages hstarted)

/-- The scanner was entered for the first of the trusted folders, each once, in their order. -/
theorem entries_prefix (h : Progress C w limit lines p) :
    Event.entries p.events <+: w.due (lines.map Line.folder) := by
  obtain ⟨left, right, rfl, hleft, hright⟩ := Line.exists_started h.queue
  have hnone : ∀ d ∈ right.map Line.dealing, d.2 = none := by
    intro d hd
    obtain ⟨l, hl, rfl⟩ := List.mem_map.1 hd
    exact (h.stages l (List.mem_append_right _ hl)).run_of_queued (hright l hl)
  have hentered : entered (left.map Line.dealing) = w.due (left.map Line.folder) :=
    entered_started (fun l hl => h.stages l (List.mem_append_left _ hl)) hleft
  rw [h.entries, List.map_append, entered_append, hentered, entered_of_none hnone,
    List.append_nil, List.map_append, Workspace.due_append]
  exact List.prefix_append _ _

end Progress

end ScanRelay
