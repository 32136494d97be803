import ScanRelay.Proofs.Saving

/-!
# Shutdown

A server and its tasks go on by turns, in any order (`Serving.turn`). Once the server has stopped,
a poll of a task leaves every folder as it is, and the only thing that is still sent comes of a scan
of a file with cached issues, which shows them again (`polls_after_stop_are_inert`). Such a scan
never looks whether it was cancelled; it takes in what is cached already, which changes no cache
(`Folder.processReport_ofKnown`).
-/

namespace ScanRelay

/-! ## What is known already -/

namespace Cache

theorem ext_issuesOf {c d : Cache} (hkeys : ∀ p, p ∈ c.keys ↔ p ∈ d.keys)
    (hissues : ∀ p, c.issuesOf p = d.issuesOf p) : c = d := by
  refine Table.ext_get? fun p => ?_
  by_cases hp : p ∈ c.keys
  · rw [get?_eq_some_of_mem_keys hp, get?_eq_some_of_mem_keys ((hkeys p).1 hp), hissues]
  · rw [get?_eq_none_of_not_mem_keys hp, get?_eq_none_of_not_mem_keys (mt (hkeys p).2 hp)]

/-- A batch of which everything is cached leaves the cache as it is. -/
theorem cache_mergeIn_of_cached {c : Cache} {batch : List Issue} {files : List String}
    (hfiles : files.Perm (filesOf batch)) (t : Tally)
    (h : ∀ i ∈ batch, i ∈ c.issuesOf i.path) : (c.mergeIn files t batch).cache = c := by
  have hfirsts : firsts c.identities (visited files batch) = [] := by
    rw [firsts, List.filter_eq_nil_iff.2]
    · rfl
    · intro i hi
      have hbatch : i ∈ batch := (visited_perm hfiles).mem_iff.1 hi
      simpa using mem_identities_iff.2 ⟨i.path, i, h i hbatch, rfl⟩
  refine ext_issuesOf (fun p => ?_) fun p => ?_
  · rw [mem_keys_mergeIn_iff hfiles]
    refine or_iff_left_of_imp ?_
    rintro ⟨i, hi, rfl⟩
    exact mem_keys_of_issuesOf_ne_nil (List.ne_nil_of_mem (h i hi))
  · have hissues := (mergeIn_grows files c t batch).issues p
    simp only [Merge.start, hfirsts, List.filter_nil, List.append_nil] at hissues
    exact hissues

end Cache

/-- To take in what is cached of a file, in any order, is to show all issues again. -/
theorem Folder.processIn_ofKnown {f : Folder} (h : f.cache.Sound) (order : VisitOrder)
    (s : Settings) (path : String) :
    f.processIn order s (.ofKnown (f.cache.issuesOf path)) = (f, f.publish s none) := by
  have hcache : (f.cache.mergeIn (order.arrange (Cache.filesOf (f.cache.issuesOf path))) .empty
      (f.cache.issuesOf path)).cache = f.cache :=
    Cache.cache_mergeIn_of_cached (order.perm _) .empty
      fun i hi => (h.keyed path i hi).symm ▸ hi
  have hsent : ∀ t, ScanDone.toSend s.analytics (.ofKnown (f.cache.issuesOf path)) t = [] := by
    intro t
    unfold ScanDone.toSend ScanDone.ofReport
    split <;> rfl
  rw [Folder.processIn_eq]
  simp only [ScanReport.ofKnown] at hsent ⊢
  rw [hcache, hsent]
  rfl

theorem Folder.processReport_ofKnown {f : Folder} (h : f.cache.Sound) (s : Settings)
    (path : String) :
    f.processReport s (.ofKnown (f.cache.issuesOf path)) = (f, f.publish s none) :=
  (f.processIn_listed s _).symm.trans (processIn_ofKnown h .listed s path)

theorem Publish.mem_diagnostics {path : String} {issues : List Issue} {e : Event}
    (h : e ∈ diagnostics path issues) : ∃ m, e = .send m := by
  unfold diagnostics at h
  split at h
  · exact ⟨_, List.mem_singleton.1 h⟩
  · exact absurd h List.not_mem_nil

/-- A publication is made of messages and hovers. -/
theorem Folder.mem_publish {f : Folder} {s : Settings} {product : Option Product} {e : Event}
    (h : e ∈ f.publish s product) : (∃ m, e = .send m) ∨ ∃ d, e = .hover d := by
  unfold publish Publish.folder at h
  simp only [List.mem_append, List.mem_flatMap] at h
  rcases h with (⟨file, -, h⟩ | ⟨file, -, h⟩) | h
  · exact .inl (Publish.mem_diagnostics h)
  · exact .inr ⟨_, List.mem_singleton.1 h⟩
  · exact .inl ⟨_, List.mem_singleton.1 h⟩

/-! ## Workspaces without two folders of one stamp -/

namespace Workspace

variable {w : Workspace}

/-- The workspace is that of a ledger, and no two folders that were removed have one stamp. -/
structure Tidy (w : Workspace) : Prop where
  orderly : w.Orderly
  apart : (w.retired.map Folder.stamp).Nodup

theorem tidy_new (settings : Settings) (scanner : Scanner) : (new settings scanner).Tidy where
  orderly := ⟨[], Ledger.lives_start True settings scanner⟩
  apart := List.nodup_nil

theorem stamps_putBack (w : Workspace) (f : Folder) :
    (w.putBack f).retired.map Folder.stamp = w.retired.map Folder.stamp := by
  have hexchange : (w.retired.map fun g => if g.stamp = f.stamp then f else g).map Folder.stamp
      = w.retired.map Folder.stamp := by
    rw [List.map_map]
    refine List.map_congr_left fun g _ => ?_
    show (if g.stamp = f.stamp then f else g).stamp = g.stamp
    split
    · rename_i hstamp
      exact hstamp.symm
    · rfl
  unfold putBack
  split
  · split
    · rfl
    · exact hexchange
  · exact hexchange

theorem Tidy.act (h : w.Tidy) (a : Act) : (w.act a).1.Tidy := by
  refine ⟨h.orderly.act a, ?_⟩
  cases a with
  | add path name =>
    show ((w.add path name).retired.map Folder.stamp).Nodup
    unfold add
    split <;> exact h.apart
  | remove path =>
    rcases hf : w.folder? path with _ | f
    · rw [act_remove_of_none hf]
      exact h.apart
    · rw [act_remove_of_some hf]
      refine List.nodup_cons.2 ⟨fun hmem => ?_, h.apart⟩
      obtain ⟨log, hlives⟩ := h.orderly
      obtain ⟨g, hg, hstamp⟩ := List.mem_map.1 hmem
      exact hlives.gone f ⟨_, hf⟩ g hg hstamp
  | operate r op =>
    rcases hr : w.resolve r with _ | f
    · rw [act_operate_of_none hr]
      exact h.apart
    · rw [act_operate_of_some hr]
      dsimp only
      rw [stamps_putBack]
      exact h.apart
  | each op => exact h.apart
  | configure next => exact h.apart
  | applySettings next =>
    have hretired := (w.each_applySettingsSigned next).retired
    show ((w.applySettingsSigned next).1.retired.map Folder.stamp).Nodup
    rw [hretired]
    exact h.apart
  | advance scanner => exact h.apart

theorem Tidy.goesTo (h : w.Tidy) {next : Workspace × List Event} (hnext : w.GoesTo next) :
    next.1.Tidy := by
  obtain ⟨l, -, hw, -⟩ := hnext
  rw [← hw]
  clear hw
  induction l generalizing w with
  | nil => exact h
  | cons a rest ih => exact ih (h.act a)

theorem Tidy.advance (h : w.Tidy) (scanner : Scanner) : { w with scanner }.Tidy :=
  h.act (.advance scanner)

theorem Tidy.known_sound (h : w.Tidy) {f : Folder} (hf : w.Known f) : f.cache.Sound := by
  obtain ⟨log, hlives⟩ := h.orderly
  exact hlives.sound hf

theorem known_of_resolve {r : FolderRef} {f : Folder} (h : w.resolve r = some f) : w.Known f :=
  (resolve_cases h).2.imp_left fun hf => ⟨r.path, hf⟩

/-- To put a folder back as it was changes nothing. -/
theorem Tidy.putBack_resolved (h : w.Tidy) {r : FolderRef} {f : Folder}
    (hr : w.resolve r = some f) : w.putBack f = w := by
  obtain ⟨log, hlives⟩ := h.orderly
  rcases known_of_resolve hr with ⟨k, hf⟩ | hf
  · obtain rfl : f.path = k := hlives.keyed k f hf
    rw [putBack_of_open hf rfl, Table.insert_of_get? hf]
  · rw [putBack_of_not_open fun g hg hstamp => hlives.gone g ⟨_, hg⟩ f hf hstamp.symm]
    have hsame : (w.retired.map fun g => if g.stamp = f.stamp then f else g) = w.retired := by
      refine (List.map_congr_left fun g hg => ?_).trans (List.map_id _)
      split
      · rename_i hstamp
        exact List.inj_on_of_nodup_map h.apart hf hg hstamp.symm
      · rfl
    rw [hsame]

end Workspace

/-! ## Polls after a cancel -/

/-- Whether the scanner is entered. -/
def Event.isEntry : Event → Bool
  | scan .. => true
  | _ => false

/-- What events do beside entering the scanner. -/
def Event.effects (es : List Event) : List Event := es.filter fun e => !e.isEntry

theorem Event.effects_append (es fs : List Event) :
    effects (es ++ fs) = effects es ++ effects fs :=
  List.filter_append _ _

theorem Event.effects_publish (f : Folder) (s : Settings) (product : Option Product) :
    effects (f.publish s product) = f.publish s product := by
  refine List.filter_eq_self.2 fun e he => ?_
  rcases Folder.mem_publish he with ⟨m, rfl⟩ | ⟨d, rfl⟩ <;> rfl

/-- A trusted folder with cached issues of a file. -/
def Folder.isHit (s : Settings) (path : String) (f : Folder) : Bool :=
  f.isTrusted s && !(f.cache.issuesOf path).isEmpty

/-- The folder whose cached issues are shown again when a strand starts. -/
def Strand.replay? (w : Workspace) : Strand → Option Folder
  | queued (.file path) => (w.folderContaining path).filter (Folder.isHit w.settings path)
  | queued (.fileIn r path) => (w.resolve r).filter (Folder.isHit w.settings path)
  | _ => none

/-- The folders whose cached issues a poll of a task may show again. -/
def Task.replays (w : Workspace) : Task → List Folder
  | workspace => []
  | strands _ ss => ss.filterMap (Strand.replay? w)

namespace Workspace

variable {w : Workspace}

/-- No folder is changed, and at most the issues of these folders are shown again. -/
structure Inert (w : Workspace) (replays : List Folder) (next : Workspace × List Event) :
    Prop where
  workspace : ∃ scanner, next.1 = { w with scanner }
  effects : ∃ fs : List Folder, fs.Sublist replays
    ∧ Event.effects next.2 = fs.flatMap fun f => f.publish w.settings none

theorem inert_refl (w : Workspace) : w.Inert [] (w, []) :=
  ⟨⟨w.scanner, rfl⟩, [], .refl _, rfl⟩

theorem Inert.mono {xs ys : List Folder} {next : Workspace × List Event} (h : w.Inert xs next)
    (hsub : xs.Sublist ys) : w.Inert ys next := by
  obtain ⟨fs, hfs, heffects⟩ := h.effects
  exact ⟨h.workspace, fs, hfs.trans hsub, heffects⟩

theorem Inert.trans {xs ys : List Folder} {w' : Workspace} {es : List Event}
    {next : Workspace × List Event} (h : w.Inert xs (w', es)) (h' : w'.Inert ys next) :
    w.Inert (xs ++ ys) (next.1, es ++ next.2) := by
  obtain ⟨⟨scanner, rfl⟩, fs, hfs, heffects⟩ := h
  obtain ⟨⟨scanner', hnext⟩, gs, hgs, heffects'⟩ := h'
  refine ⟨⟨scanner', hnext⟩, fs ++ gs, hfs.append hgs, ?_⟩
  rw [Event.effects_append, heffects, heffects', List.flatMap_append]

theorem Tidy.finish_cancelled (h : w.Tidy) (o : OpenScan) : o.finish w true = (w, []) := by
  unfold OpenScan.finish onFolder
  rcases hr : w.resolve o.folder with _ | f
  · rfl
  · rcases o.file with _ | path <;>
      simp [Folder.finishFolderScan, Folder.finishFileScan, h.putBack_resolved hr]

theorem Tidy.poll_cancelled (h : w.Tidy) (o : OpenScan) :
    (o.poll w true).outcome = (w, []) := by
  unfold OpenScan.poll
  split
  · rfl
  · simp [Polled.outcome, h.finish_cancelled o]

theorem Tidy.enter_cancelled (h : w.Tidy) (f : Folder) (file : Option String) :
    w.Inert [] (OpenScan.enter w true f file).outcome := by
  rcases hnext : w.scanner.next w.settings.scanner true (file.getD f.path) f.path
    with ⟨run, scanner⟩
  have hpoll := (h.advance scanner).poll_cancelled ⟨f.ref, file, run⟩
  obtain ⟨hworkspace, hevents⟩ := Prod.mk.inj hpoll
  simp only [OpenScan.enter, hnext, Polled.outcome, hworkspace, hevents]
  exact ⟨⟨scanner, rfl⟩, [], .refl _, rfl⟩

theorem Tidy.startFile_cancelled (h : w.Tidy) {r : FolderRef} {f : Folder}
    (hr : w.resolve r = some f) (path : String) :
    w.Inert ((some f).filter (Folder.isHit w.settings path)).toList
      (Strand.startFile w true f path).outcome := by
  unfold Strand.startFile Folder.startFileScan
  by_cases htrusted : f.isTrusted w.settings
  · by_cases hcached : (f.cache.issuesOf path).isEmpty
    · simp only [htrusted, hcached, Bool.not_true, Bool.false_eq_true, if_false, if_true]
      exact (h.enter_cancelled f (some path)).mono (List.nil_sublist _)
    · have hsound := h.known_sound (known_of_resolve hr)
      have hhit : (some f).filter (Folder.isHit w.settings path) = some f := by
        simp [Folder.isHit, htrusted, hcached]
      simp only [htrusted, hcached, Bool.not_true, Bool.false_eq_true, if_false,
        Folder.processReport_ofKnown hsound, h.putBack_resolved hr, hhit, Polled.outcome]
      refine ⟨⟨w.scanner, rfl⟩, [f], .refl _, ?_⟩
      rw [Event.effects_publish, List.flatMap_singleton]
  · simp only [htrusted, Bool.not_false, if_true]
    exact w.inert_refl.mono (List.nil_sublist _)

theorem Tidy.start_cancelled (h : w.Tidy) (job : ScanJob) :
    w.Inert (Strand.replay? w (.queued job)).toList (Strand.start w true job).outcome := by
  cases job with
  | file path =>
    rcases hf : w.folderContaining path with _ | f <;> simp only [Strand.start, Strand.replay?, hf]
    · exact w.inert_refl
    · exact h.startFile_cancelled (h.orderly.resolve_of_containing hf) path
  | fileIn r path =>
    rcases hf : w.resolve r with _ | f <;> simp only [Strand.start, Strand.replay?, hf]
    · exact w.inert_refl
    · exact h.startFile_cancelled hf path
  | folder r =>
    rcases hf : w.resolve r with _ | f <;> simp only [Strand.start, hf]
    · exact w.inert_refl
    · unfold Strand.startFolder
      split
      · exact h.enter_cancelled f none
      · exact w.inert_refl

theorem Tidy.pollStrands_cancelled (h : w.Tidy) (strands : List Strand) (free : Nat) :
    w.Inert (strands.filterMap (Strand.replay? w))
      (Task.pollStrands w true free strands).outcome := by
  induction strands generalizing w free with
  | nil => exact w.inert_refl
  | cons s rest ih =>
    have hcons : (s :: rest).filterMap (Strand.replay? w)
        = (Strand.replay? w s).toList ++ rest.filterMap (Strand.replay? w) := by
      rw [List.filterMap_cons]
      split <;> rename_i hs <;> rw [hs] <;> rfl
    rw [hcons]
    cases s with
    | queued job =>
      unfold Task.pollStrands
      split
      · exact (ih h free).mono (List.sublist_append_right _ _)
      · have hstart := h.start_cancelled job
        obtain ⟨scanner, hnext⟩ := hstart.workspace
        have hrest := fun free => ih (h.advance scanner) free
        rw [← hnext] at hrest
        -- What may be shown again is the same with the scanner that is left.
        have hsame : rest.filterMap (Strand.replay? (Strand.start w true job).outcome.1)
            = rest.filterMap (Strand.replay? w) := by
          rw [hnext]
          rfl
        exact hsame ▸ hstart.trans (hrest _)
    | underway o =>
      obtain ⟨hworkspace, hevents⟩ := Prod.mk.inj (h.poll_cancelled o)
      unfold Task.pollStrands
      simp only [Polled.outcome, hworkspace, hevents, List.nil_append]
      exact ih h _
    | finished => exact ih h free

theorem Tidy.pollTask_cancelled (h : w.Tidy) (t : Task) :
    w.Inert (t.replays w) (t.poll w true).outcome := by
  cases t with
  | workspace =>
    unfold Task.poll Task.openWorkspace
    rcases Semaphore.new? w.mostScans with _ | permits
    · exact w.inert_refl
    · have hnone : (Strand.queue w.folders.values).filterMap (Strand.replay? w) = [] := by
        rw [Strand.queue, List.filterMap_map]
        exact List.filterMap_eq_nil_iff.2 fun f _ => rfl
      exact (h.pollStrands_cancelled _ _).mono (hnone ▸ List.Sublist.refl _)
  | strands free ss => exact h.pollStrands_cancelled ss free

end Workspace

/-! ## Servers and their tasks, in any order -/

namespace Server

theorem stopped_of_steps {s : Server} {h : Handled} (hsteps : s.unchanged.Steps h) :
    h.server.stopped = s.stopped :=
  hsteps.induction (motive := fun h => h.server.stopped = s.stopped) rfl fun _ _ hs hstep => by
    cases hstep <;> exact hs

theorem stopped_request (s : Server) (r : Request) :
    (s.request r).server.stopped = s.stopped := by
  obtain ⟨h, result, hsteps, heq⟩ := s.request_steps r
  rw [heq]
  exact stopped_of_steps (h := h) hsteps

theorem stopped_notify (s : Server) (n : Notification) :
    (s.notify n).server.stopped = s.stopped := by
  obtain ⟨h, notes, hsteps, heq⟩ := s.notify_steps n
  rw [heq]
  exact stopped_of_steps (h := h) hsteps

end Server

namespace Serving

/-- What can happen next to a server with tasks. -/
inductive Step
  | request (r : Request)
  | notify (n : Notification)
  | spawn (t : Task)
  /-- A task goes on. -/
  | poll (i : Nat)
  /-- Anything else that can happen to the folders. -/
  | act (a : Act)
  /-- A hover document is taken up. -/
  | take
  | stop

/-- A server without folders. -/
def start (settings : Settings) (scanner : Scanner) : Serving :=
  ⟨.new (.new settings scanner), []⟩

/-- A workspace that has changed, with the events that came of it. -/
def change (s : Serving) (next : Workspace × List Event) (tasks : List Task) :
    Serving × List Event :=
  (⟨{ s.server with workspace := next.1 }.hand next.2, tasks⟩, next.2)

/-- What has become of a message. Its tasks wait until they are polled. -/
def accept (s : Serving) (h : Handled) : Serving × List Event :=
  (⟨h.server, s.tasks ++ h.tasks⟩, h.events)

/-- Polls one of the tasks. -/
def pollAt (s : Serving) (i : Nat) : Serving × List Event :=
  match s.tasks[i]? with
  | some t =>
    let p := t.poll s.server.workspace s.server.stopped
    s.change p.outcome (s.tasks.set i p.left)
  | none => (s, [])

def step (s : Serving) : Step → Serving × List Event
  | .request r => s.accept (s.server.request r)
  | .notify n => s.accept (s.server.notify n)
  | .spawn t => (⟨s.server, s.tasks ++ [t]⟩, [])
  | .poll i => s.pollAt i
  | .act a =>
    let next := s.server.workspace.act a
    s.change (next.1, next.2.map (·.2)) s.tasks
  | .take => (⟨{ s.server with hovers := s.server.hovers.take }, s.tasks⟩, [])
  | .stop => (⟨s.server.stop, s.tasks⟩, [])

/-- The server and its tasks after some steps. -/
def steps (s : Serving) (l : List Step) : Serving := (chain step s l).1

theorem steps_append (s : Serving) (l l' : List Step) :
    s.steps (l ++ l') = (s.steps l).steps l' := by
  induction l generalizing s with
  | nil => rfl
  | cons a rest ih => exact ih (s.step a).1

/-- What holds at the start and is kept by each step holds after every run. -/
theorem steps_induction {motive : Serving → Prop} {s : Serving} (hs : motive s)
    (hstep : ∀ s a, motive s → motive (s.step a).1) (l : List Step) : motive (s.steps l) := by
  induction l generalizing s with
  | nil => exact hs
  | cons a rest ih => exact ih (hstep s a hs)

variable {s : Serving}

theorem tidy_step (h : s.server.workspace.Tidy) (a : Step) :
    (s.step a).1.server.workspace.Tidy := by
  cases a with
  | request r =>
    obtain ⟨handled, hallows, hrequest⟩ := s.server.allows_request r
    show (s.server.request r).server.workspace.Tidy
    rw [hrequest]
    exact h.goesTo hallows.1
  | notify n =>
    obtain ⟨handled, hallows, hnotify⟩ := s.server.allows_notify n
    show (s.server.notify n).server.workspace.Tidy
    rw [hnotify]
    exact h.goesTo hallows.1
  | spawn t => exact h
  | poll i =>
    show (s.pollAt i).1.server.workspace.Tidy
    unfold pollAt
    split
    · rename_i t _
      exact h.goesTo (Workspace.goesTo_pollTask h.orderly _ t)
    · exact h
  | act a => exact h.act a
  | take => exact h
  | stop => exact h

theorem stopped_step (h : s.server.stopped = true) (a : Step) :
    (s.step a).1.server.stopped = true := by
  cases a with
  | request r => exact (s.server.stopped_request r).trans h
  | notify n => exact (s.server.stopped_notify n).trans h
  | spawn t => exact h
  | poll i =>
    show (s.pollAt i).1.server.stopped = true
    unfold pollAt
    split <;> exact h
  | act a => exact h
  | take => exact h
  | stop => rfl

end Serving

/-- Whatever a server and its tasks did before the server was stopped, and after that: when a task
goes on, no folder changes, open or removed. Beside entering the scanner it does nothing but show
again the cached issues of folders in which it begins to scan a file, and no telemetry is sent. -/
theorem polls_after_stop_are_inert (settings : Settings) (scanner : Scanner)
    (before after : List Serving.Step) (i : Nat) :
    let s := (Serving.start settings scanner).steps (before ++ .stop :: after)
    let w := s.server.workspace
    let next := s.step (.poll i)
    (∃ scanner, next.1.server.workspace = { w with scanner })
      ∧ (∃ fs : List Folder, fs.Sublist ((s.tasks[i]?.map (Task.replays w)).getD [])
        ∧ Event.effects next.2 = fs.flatMap fun f => f.publish w.settings none)
      ∧ ∀ e, .telemetry e ∉ next.2 := by
  intro s w next
  have htidy : s.server.workspace.Tidy :=
    Serving.steps_induction (motive := fun s => s.server.workspace.Tidy)
      (Workspace.tidy_new settings scanner) (fun _ a h => Serving.tidy_step h a)
      (before ++ .stop :: after)
  have hstopped : s.server.stopped = true := by
    have hsplit := Serving.steps_append (Serving.start settings scanner) before (.stop :: after)
    rw [show s = _ from hsplit]
    exact Serving.steps_induction (motive := fun s => s.server.stopped = true)
      (s := (((Serving.start settings scanner).steps before).step .stop).1) rfl
      (fun _ a h => Serving.stopped_step h a) after
  have hinert : w.Inert ((s.tasks[i]?.map (Task.replays w)).getD [])
      (next.1.server.workspace, next.2) := by
    show w.Inert _ ((s.pollAt i).1.server.workspace, (s.pollAt i).2)
    unfold Serving.pollAt
    rcases s.tasks[i]? with _ | t
    · exact w.inert_refl
    · dsimp only
      rw [hstopped]
      exact htidy.pollTask_cancelled t
  refine ⟨hinert.workspace, hinert.effects, fun e he => ?_⟩
  obtain ⟨fs, -, heffects⟩ := hinert.effects
  have hmem : .telemetry e ∈ Event.effects next.2 := List.mem_filter.2 ⟨he, rfl⟩
  rw [heffects] at hmem
  obtain ⟨f, -, hf⟩ := List.mem_flatMap.1 hmem
  rcases Folder.mem_publish hf with ⟨m, hm⟩ | ⟨d, hd⟩
  · exact nomatch hm
  · exact nomatch hd

/-- A scan of a file that begins after the stop still shows its cached issue. -/
example : Event.hovers (((Serving.start (.standard "") ⟨.script [], none⟩).steps
    (Sample.acts.map .act ++ [.spawn (.single (.file "/a/x.js")), .stop])).step (.poll 0)).2
      = [.ofIssues "/a/x.js" [Sample.issue]] := by
  decide +kernel

end ScanRelay
