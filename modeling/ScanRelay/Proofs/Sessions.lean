import ScanRelay.Proofs.Clearing
import ScanRelay.Service.Session

/-!
# Sessions as runs

Whatever a server does, in a handler or in a scan that goes on beside it, it does by acts that show
what they change (`GoesTo`). So a session that serves an editor is a run: its workspace and its
hovers are those of a world after some moves (`session_is_run`), and what holds after every run
holds at every moment of every session.
-/

namespace ScanRelay

/-! ## Tables -/

namespace Table

variable {α β : Type}

/-- Two tables with the same look-ups are equal. -/
theorem ext_get? {t t' : Table α} (h : ∀ k, t.get? k = t'.get? k) : t = t' := by
  obtain ⟨xs, hxs⟩ := t
  obtain ⟨ys, hys⟩ := t'
  have hnodup : ∀ {es : List (String × α)}, Increasing es → es.Nodup := fun hes => by
    refine List.Pairwise.imp (fun {a b} hlt heq => ?_) hes
    rw [heq] at hlt
    exact String.lt_irrefl _ hlt
  have hperm : xs.Perm ys := (List.perm_ext_iff_of_nodup (hnodup hxs) (hnodup hys)).2 fun e => by
    rw [← lookupEntry_eq_some_iff hxs, ← lookupEntry_eq_some_iff hys]
    exact Eq.congr (h e.1) rfl
  obtain rfl : xs = ys := hperm.eq_of_pairwise (fun a b _ _ hab hba =>
    absurd (String.lt_trans hab hba) (String.lt_irrefl _)) hxs hys
  rfl

theorem insert_of_get? {t : Table α} {key : String} {value : α}
    (h : t.get? key = some value) : t.insert key value = t := by
  refine Table.ext_get? fun k => ?_
  rw [Table.get?_insert]
  split
  · rename_i hk
    rw [hk, h]
  · rfl

theorem keys_eq_of_mem_iff {t : Table α} {t' : Table β} (h : ∀ k, k ∈ t.keys ↔ k ∈ t'.keys) :
    t.keys = t'.keys := by
  have hunits : t.mapValues (fun _ _ => ()) = t'.mapValues (fun _ _ => ()) := by
    refine ext_get? fun k => ?_
    have hk := h k
    rw [mem_keys_iff, mem_keys_iff] at hk
    rw [get?_mapValues, get?_mapValues]
    cases ht : t.get? k <;> cases ht' : t'.get? k <;> simp_all
  simpa using congrArg keys hunits

theorem values_eq_filterMap (t : Table α) : t.values = t.keys.filterMap t.get? := by
  rw [values, keys, List.filterMap_map, ← List.filterMap_eq_map]
  exact List.filterMap_congr fun e he => (mem_entries_iff.1 he).symm

end Table

/-! ## What an editor displays -/

/-- The events that an editor displays: diagnostics and hovers. -/
def Event.displayed (es : List Event) : List Event :=
  es.filter fun e => e.hover?.isSome || e.diagnostics?.isSome

theorem Event.displayed_append (es fs : List Event) :
    displayed (es ++ fs) = displayed es ++ displayed fs :=
  List.filter_append _ _

theorem Event.hovers_displayed (es : List Event) : hovers (displayed es) = hovers es := by
  rw [hovers, displayed, List.filterMap_filter]
  refine List.filterMap_congr fun e _ => ?_
  rcases he : e.hover? <;> simp

namespace Workspace

def acts (w : Workspace) (l : List Act) : Workspace × List Entry := chain act w l

/-- Acts that show what they change lead from one workspace to the next, and of the events between
an editor displays those of the folders. -/
def GoesTo (w : Workspace) (next : Workspace × List Event) : Prop :=
  ∃ l, (∀ a ∈ l, ¬ a.isSilent) ∧ (w.acts l).1 = next.1
    ∧ Event.displayed ((w.acts l).2.map (·.2)) = Event.displayed next.2

/-- The workspace is that of some ledger. -/
def Orderly (w : Workspace) : Prop := ∃ log, Ledger.Lives True ⟨w, log⟩

variable {w w' : Workspace} {es fs : List Event}

theorem GoesTo.refl (w : Workspace) : w.GoesTo (w, []) := ⟨[], by simp, rfl, rfl⟩

theorem GoesTo.of_displayed (h : w.GoesTo (w', es))
    (heq : Event.displayed es = Event.displayed fs) : w.GoesTo (w', fs) := by
  obtain ⟨l, hl, hw, hes⟩ := h
  exact ⟨l, hl, hw, hes.trans heq⟩

theorem acts_append (w : Workspace) (l l' : List Act) :
    w.acts (l ++ l') = (((w.acts l).1.acts l').1, (w.acts l).2 ++ ((w.acts l).1.acts l').2) := by
  induction l generalizing w with
  | nil => simp [acts, chain]
  | cons a rest ih =>
    have hrest := ih (w.act a).1
    simp only [acts, List.cons_append, chain] at hrest ⊢
    rw [hrest, List.append_assoc]

theorem GoesTo.trans {next : Workspace × List Event} (h : w.GoesTo (w', es))
    (h' : w'.GoesTo next) : w.GoesTo (next.1, es ++ next.2) := by
  obtain ⟨l, hl, rfl, hes⟩ := h
  obtain ⟨l', hl', hw', hes'⟩ := h'
  refine ⟨l ++ l', fun a ha => ?_, ?_, ?_⟩
  · rcases List.mem_append.1 ha with ha | ha
    · exact hl a ha
    · exact hl' a ha
  · rw [acts_append, hw']
  · rw [acts_append, List.map_append, Event.displayed_append, Event.displayed_append, hes, hes']

theorem GoesTo.of_act (w : Workspace) {a : Act} (ha : ¬ a.isSilent) : w.GoesTo (w.outcome a) := by
  refine ⟨[a], by simpa using ha, rfl, ?_⟩
  simp [acts, chain, outcome]

theorem Orderly.act (h : w.Orderly) (a : Act) : (w.act a).1.Orderly := by
  obtain ⟨log, hlives⟩ := h
  exact ⟨_, hlives.step (a := a) fun _ => trivial⟩

theorem Orderly.goesTo (h : w.Orderly) {next : Workspace × List Event} (hnext : w.GoesTo next) :
    next.1.Orderly := by
  obtain ⟨l, -, hw, -⟩ := hnext
  rw [← hw]
  clear hw
  induction l generalizing w with
  | nil => exact h
  | cons a rest ih => exact ih (h.act a)

/-! ## Looking folders up -/

theorem Orderly.resolve_of_get? (h : w.Orderly) {k : String} {f : Folder}
    (hf : w.folders.get? k = some f) : w.resolve f.ref = some f := by
  obtain ⟨log, hlives⟩ := h
  have hk : f.path = k := hlives.keyed k f hf
  unfold resolve
  simp [Folder.ref, hk, hf]

/-- A folder that a scan knows is known by its own reference too. -/
theorem Orderly.resolve_ref (h : w.Orderly) {r : FolderRef} {f : Folder}
    (hr : w.resolve r = some f) : w.resolve f.ref = some f := by
  obtain ⟨hstamp, hf⟩ := resolve_cases hr
  rcases hf with hf | hf
  · exact h.resolve_of_get? hf
  · -- A folder that is open at the path by now has another stamp, so the search goes on.
    obtain ⟨log, hlives⟩ := h
    have hne : ∀ k g, w.folders.get? k = some g → g.stamp ≠ f.stamp := fun k g hg =>
      (hlives.gone g ⟨k, hg⟩ f hf).symm
    have hfind : (w.retired.find? fun g => g.stamp = r.stamp) = some f := by
      unfold resolve at hr
      split at hr
      · rename_i g hg
        rwa [if_neg (hstamp ▸ hne _ g hg)] at hr
      · exact hr
    rw [← hstamp] at hfind
    unfold resolve
    split
    · rename_i g hg
      exact (if_neg (hne _ g hg)).trans hfind
    · exact hfind

theorem mem_of_foldl_deeper {fs : List Folder} {best : Option Folder} {f : Folder}
    (h : fs.foldl deeper best = some f) : best = some f ∨ f ∈ fs := by
  induction fs generalizing best with
  | nil => exact .inl h
  | cons g rest ih =>
    rcases ih h with hg | hmem
    · unfold deeper at hg
      split at hg
      · split at hg
        · exact .inl hg
        · exact .inr (Option.some.inj hg ▸ List.mem_cons_self)
      · exact .inr (Option.some.inj hg ▸ List.mem_cons_self)
    · exact .inr (List.mem_cons_of_mem _ hmem)

/-- The folder that a file is in is open at its path. -/
theorem Orderly.get?_of_containing (h : w.Orderly) {path : String} {f : Folder}
    (hf : w.folderContaining path = some f) : w.folders.get? f.path = some f := by
  rcases mem_of_foldl_deeper hf with hnone | hmem
  · exact absurd hnone (by simp)
  · obtain ⟨k, hk⟩ := Table.mem_values_iff.1 (List.mem_filter.1 hmem).1
    obtain ⟨log, hlives⟩ := h
    have hkey : f.path = k := hlives.keyed k f hk
    rwa [hkey]

theorem Orderly.resolve_of_containing (h : w.Orderly) {path : String} {f : Folder}
    (hf : w.folderContaining path = some f) : w.resolve f.ref = some f :=
  h.resolve_of_get? (h.get?_of_containing hf)

theorem Orderly.onFolder_of_containing (h : w.Orderly) {path : String} {f : Folder}
    (hf : w.folderContaining path = some f) (op : Folder → Folder × List Event) :
    w.onFolder f.ref op = (w.putBack (op f).1, (op f).2) := by
  rw [onFolder, h.resolve_of_containing hf]

/-! ## Operations -/

theorem goesTo_onFolder (w : Workspace) (r : FolderRef) (op : Operation)
    (hop : op.isSilent = false) :
    w.GoesTo (w.onFolder r fun f => op.run w.settings w.hasInline f) :=
  w.outcome_operate r op ▸ GoesTo.of_act w (by simp [Act.isSilent, hop])

theorem goesTo_clearIssues (w : Workspace) : w.GoesTo w.clearIssues :=
  w.performs.clearIssues ▸ GoesTo.of_act w (by simp [Act.clear, Act.isSilent, Operation.isSilent])

theorem goesTo_add (w : Workspace) (path name : String) : w.GoesTo (w.add path name, []) :=
  GoesTo.of_act w (a := .add path name) id

theorem goesTo_remove (w : Workspace) (path : String) : w.GoesTo (w.remove path) :=
  w.outcome_remove path ▸ GoesTo.of_act w (a := .remove path) id

theorem goesTo_applySettings (w : Workspace) (next : Settings) :
    w.GoesTo (w.applySettings next) :=
  w.outcome_applySettings next ▸ GoesTo.of_act w (a := .applySettings next) id

theorem goesTo_handleDeleted (w : Workspace) (path : String) :
    w.GoesTo (w.handleDeleted path) := by
  refine w.outcome_delete path ▸ GoesTo.of_act w ?_
  rintro ⟨f, o, ho, hsilent⟩
  dsimp only at ho
  split at ho
  · obtain rfl := Option.some.inj ho
    exact Bool.false_ne_true hsilent
  · exact nomatch ho

theorem goesTo_forgetNamed (w : Workspace) (name : String) : w.GoesTo (w.forgetNamed name) := by
  unfold forgetNamed
  split
  · exact w.goesTo_handleDeleted _
  · exact .refl w

end Workspace

/-! ## Scans -/

def Polled.outcome {α : Type} (p : Polled α) : Workspace × List Event := (p.workspace, p.events)

namespace Workspace

variable {w : Workspace}

theorem goesTo_finish (w : Workspace) (cancelled : Bool) (o : OpenScan) :
    w.GoesTo (o.finish w cancelled) := by
  refine w.outcome_ending cancelled o ▸ GoesTo.of_act w ?_
  unfold OpenScan.ending
  split <;> exact Bool.false_ne_true

theorem goesTo_pollScan (w : Workspace) (cancelled : Bool) (o : OpenScan) :
    w.GoesTo (o.poll w cancelled).outcome := by
  unfold OpenScan.poll
  split
  · exact .refl w
  · split
    · exact .refl w
    · exact w.goesTo_finish cancelled o

theorem goesTo_enter (w : Workspace) (cancelled : Bool) (f : Folder) (file : Option String) :
    w.GoesTo (OpenScan.enter w cancelled f file).outcome := by
  rcases hnext : w.scanner.next w.settings.scanner cancelled (file.getD f.path) f.path
    with ⟨run, scanner⟩
  have hadvance : w.GoesTo ({ w with scanner }, []) := GoesTo.of_act w (a := .advance scanner) id
  let p := OpenScan.poll { w with scanner } cancelled ⟨f.ref, file, run⟩
  have hpoll := hadvance.trans (goesTo_pollScan { w with scanner } cancelled ⟨f.ref, file, run⟩)
  have hscan : Event.displayed ([] ++ p.outcome.2)
      = Event.displayed (.scan (file.getD f.path) f.path cancelled :: p.events) := rfl
  simp only [OpenScan.enter, hnext]
  exact hpoll.of_displayed hscan

theorem goesTo_startFile {f : Folder} (hf : w.resolve f.ref = some f) (cancelled : Bool)
    (path : String) : w.GoesTo (Strand.startFile w cancelled f path).outcome := by
  have hbegin := w.goesTo_onFolder f.ref (.beginFileScan .listed path) rfl
  simp only [onFolder, hf, Operation.run_beginFileScan] at hbegin
  unfold Strand.startFile
  rcases hstart : f.startFileScan w.settings path with _ | ⟨g, events⟩ | _
  · exact .refl w
  · simp only [hstart] at hbegin
    exact hbegin
  · exact w.goesTo_enter cancelled f (some path)

theorem goesTo_startStrand (h : w.Orderly) (cancelled : Bool) (job : ScanJob) :
    w.GoesTo (Strand.start w cancelled job).outcome := by
  cases job with
  | file path =>
    rcases hf : w.folderContaining path with _ | f <;> simp only [Strand.start, hf]
    · exact .refl w
    · exact goesTo_startFile (h.resolve_of_containing hf) cancelled path
  | fileIn r path =>
    rcases hf : w.resolve r with _ | f <;> simp only [Strand.start, hf]
    · exact .refl w
    · exact goesTo_startFile (h.resolve_ref hf) cancelled path
  | folder r =>
    rcases hf : w.resolve r with _ | f <;> simp only [Strand.start, hf]
    · exact .refl w
    · unfold Strand.startFolder
      split
      · exact w.goesTo_enter cancelled f none
      · exact .refl w

theorem goesTo_pollStrands (cancelled : Bool) (strands : List Strand) (free : Nat)
    (h : w.Orderly) : w.GoesTo (Task.pollStrands w cancelled free strands).outcome := by
  induction strands generalizing w free with
  | nil => exact .refl w
  | cons s rest ih =>
    cases s with
    | queued job =>
      unfold Task.pollStrands
      split
      · exact ih free h
      · have hstart := goesTo_startStrand h cancelled job
        exact hstart.trans (ih _ (h.goesTo hstart))
    | underway o =>
      have hpoll := w.goesTo_pollScan cancelled o
      exact hpoll.trans (ih _ (h.goesTo hpoll))
    | finished => exact ih free h

theorem goesTo_pollTask (h : w.Orderly) (cancelled : Bool) (t : Task) :
    w.GoesTo (t.poll w cancelled).outcome := by
  cases t with
  | workspace =>
    unfold Task.poll
    rcases Task.openWorkspace w with _ | ⟨free, strands⟩
    · exact .refl w
    · exact goesTo_pollStrands cancelled strands free h
  | strands free strands => exact goesTo_pollStrands cancelled strands free h

theorem goesTo_round (h : w.Orderly) (cancelled : Bool) (ts : List Task) :
    w.GoesTo (Task.round w cancelled ts).outcome := by
  induction ts generalizing w with
  | nil => exact .refl w
  | cons t rest ih =>
    have hpoll := goesTo_pollTask h cancelled t
    exact hpoll.trans (ih (h.goesTo hpoll))

theorem goesTo_rounds (h : w.Orderly) (cancelled : Bool) (fuel : Nat) {p : Polled (List Task)}
    (hp : w.GoesTo p.outcome) : w.GoesTo (Task.rounds cancelled fuel p).outcome := by
  induction fuel generalizing p with
  | zero => exact hp
  | succ fuel ih =>
    unfold Task.rounds
    split
    · exact ih (hp.trans (goesTo_round (h.goesTo hp) cancelled p.left))
    · exact hp

theorem goesTo_runTasks (h : w.Orderly) (cancelled : Bool) (ts : List Task) :
    w.GoesTo (Task.run w cancelled ts).outcome :=
  goesTo_rounds h cancelled _ (.refl w)

end Workspace

/-! ## Handlers -/

theorem Url.filePath_of_toFilePath? {u : Url} {path : String} (h : u.toFilePath? = some path) :
    u.filePath = .ok path := by
  simp only [filePath, h]

namespace Server

variable {s : Server} {h : Handled}

/-- A handler goes by acts, and leaves the hovers alone or empties their table. -/
def Allows (s : Server) (h : Handled) : Prop :=
  s.workspace.GoesTo (h.server.workspace, h.events)
    ∧ (h.server.hovers = s.hovers ∨ h.server.hovers = s.hovers.clear)

theorem goesTo_removeEditorFolder (w : Workspace) (f : EditorFolder) :
    w.GoesTo (w.removeEditorFolder f) := by
  unfold Workspace.removeEditorFolder
  split
  · exact w.goesTo_remove _
  · exact .refl w

theorem goesTo_addEditorFolder (w : Workspace) (f : EditorFolder) :
    w.GoesTo ((w.addEditorFolder f).1, []) := by
  unfold Workspace.addEditorFolder
  split
  · exact w.goesTo_add _ _
  · exact .refl w

theorem Allows.changed (hs : s.Allows h) {change : Workspace × List Event}
    (hchange : h.server.workspace.GoesTo change) : s.Allows (h.changed change) :=
  ⟨hs.1.trans hchange, hs.2⟩

theorem Allows.told (hs : s.Allows h) {es : List Event} (hes : Event.displayed es = []) :
    s.Allows (h.told es) := by
  refine ⟨hs.1.of_displayed ?_, hs.2⟩
  rw [Handled.told, Event.displayed_append, hes, List.append_nil]

theorem Allows.step (hs : s.Allows h) {h' : Handled} (hstep : h.Step h') : s.Allows h' := by
  cases hstep with
  | clearIssues => exact hs.changed (Workspace.goesTo_clearIssues _)
  | clearFolder r => exact hs.changed (Workspace.goesTo_onFolder _ r .clear rfl)
  | clearFile r path => exact hs.changed (Workspace.goesTo_onFolder _ r (.clearFile path) rfl)
  | removeFolder f => exact hs.changed (goesTo_removeEditorFolder _ f)
  | addFolder f => exact hs.changed (goesTo_addEditorFolder _ f)
  | applySettings next => exact hs.changed (Workspace.goesTo_applySettings _ next)
  | forgetNamed name => exact hs.changed (Workspace.goesTo_forgetNamed _ name)
  | start t => exact hs
  | dropHovers =>
    refine ⟨hs.1, .inr ?_⟩
    rcases hs.2 with hhovers | hhovers <;> exact (congrArg HoverService.clear hhovers).trans rfl
  | openUrl url => exact hs.told rfl
  | readInline path range =>
    refine hs.told ?_
    unfold Folder.inlineValues
    split <;> rfl

theorem allows_of_steps (hsteps : s.unchanged.Steps h) : s.Allows h :=
  hsteps.induction ⟨.refl _, .inl rfl⟩ fun _ _ hs hstep => hs.step hstep

/-- What a request does before its hovers are sent. -/
theorem allows_request (s : Server) (r : Request) :
    ∃ h, s.Allows h ∧ s.request r = h.handed := by
  obtain ⟨h, result, hsteps, heq⟩ := s.request_steps r
  exact ⟨_, (allows_of_steps hsteps).told rfl, heq⟩

/-- What a notification does before its hovers are sent. -/
theorem allows_notify (s : Server) (n : Notification) :
    ∃ h, s.Allows h ∧ s.notify n = h.handed := by
  obtain ⟨h, notes, hsteps, heq⟩ := s.notify_steps n
  refine ⟨_, (allows_of_steps hsteps).told ?_, heq⟩
  exact List.filter_eq_nil_iff.2 fun e he => by
    obtain ⟨note, -, rfl⟩ := List.mem_map.1 he
    exact Bool.false_ne_true

end Server

/-! ## Moves -/

def Message.published (ms : List Message) : List FileDiagnostics :=
  ms.filterMap fun
    | diagnostics d => some d
    | _ => none

theorem Message.published_append (ms ms' : List Message) :
    published (ms ++ ms') = published ms ++ published ms' :=
  List.filterMap_append

theorem Event.published_messages (es : List Event) :
    Message.published (messages es) = diagnostics es := by
  rw [Message.published, messages, List.filterMap_filterMap]
  refine List.filterMap_congr fun e _ => ?_
  rcases e with _ | _ | (_ | _ | _ | _ | _) | _ | _ | _ <;> rfl

theorem Event.diagnostics_displayed (es : List Event) :
    diagnostics (displayed es) = diagnostics es := by
  rw [diagnostics, displayed, List.filterMap_filter]
  refine List.filterMap_congr fun e _ => ?_
  rcases he : e.diagnostics? <;> simp

namespace World

theorem run_acts (w : World) (l : List Act) :
    let last := w.ledger.workspace.acts l
    w.run (l.map .act) = ⟨⟨last.1, w.ledger.log ++ last.2⟩,
      w.hovers.sendAll (Event.hovers (last.2.map (·.2)))⟩ := by
  induction l generalizing w with
  | nil => simp [run, Workspace.acts, chain, Event.hovers, HoverService.sendAll]
  | cons a rest ih =>
    have hrest := ih (w.step (.act a))
    rw [List.map_cons, run, List.foldl_cons, ← run, hrest]
    simp only [step, Ledger.step, Workspace.acts, chain, List.map_append, Event.hovers_append,
      List.append_assoc, HoverService.sendAll, List.foldl_append]

/-- To settle is to take up what is queued. -/
theorem run_takes (w : World) :
    w.run (.replicate w.hovers.queue.length .take) = { w with hovers := w.hovers.settle } := by
  obtain ⟨ledger, table, queue, running⟩ := w
  induction queue generalizing table with
  | nil => rfl
  | cons d rest ih => exact ih (table.apply d)

end World

namespace Server

variable {s : Server} {sent : List Message}

/-- The server is that of a world after moves that show what they change, and the diagnostics that
were sent are those of the log. -/
def Ran (s : Server) (sent : List Message) : Prop :=
  ∃ settings scanner moves, (∀ a, Move.act a ∈ moves → ¬ a.isSilent) ∧
    let w := (World.start settings scanner).run moves
    s.workspace = w.ledger.workspace ∧ s.hovers = w.hovers
      ∧ Message.published sent = Event.diagnostics (w.ledger.log.map (·.2))

theorem Ran.orderly (h : s.Ran sent) : s.workspace.Orderly := by
  obtain ⟨settings, scanner, moves, -, hworkspace, -⟩ := h
  rw [hworkspace]
  exact ⟨_, (World.flows_run settings scanner moves).lives⟩

theorem Ran.goesTo (h : s.Ran sent) {change : Workspace × List Event}
    (hchange : s.workspace.GoesTo change) :
    ({ s with workspace := change.1 }.hand change.2).Ran (sent ++ Event.messages change.2) := by
  obtain ⟨settings, scanner, moves, hloud, hworkspace, hhovers, hsent⟩ := h
  obtain ⟨l, hl, hnext, hevents⟩ := hchange
  have hshown : Event.hovers ((s.workspace.acts l).2.map (·.2)) = Event.hovers change.2 := by
    rw [← Event.hovers_displayed, hevents, Event.hovers_displayed]
  have hpublished : Event.diagnostics ((s.workspace.acts l).2.map (·.2))
      = Event.diagnostics change.2 := by
    rw [← Event.diagnostics_displayed, hevents, Event.diagnostics_displayed]
  refine ⟨settings, scanner, moves ++ l.map .act, fun a ha => ?_, ?_⟩
  · rcases List.mem_append.1 ha with ha | ha
    · exact hloud a ha
    · obtain ⟨b, hb, heq⟩ := List.mem_map.1 ha
      exact Move.act.inj heq ▸ hl b hb
  · rw [World.run, List.foldl_append, ← World.run, ← World.run, World.run_acts]
    refine ⟨?_, ?_, ?_⟩
    · rw [← hworkspace]
      exact hnext.symm
    · show s.hovers.sendAll _ = _
      rw [← hworkspace, hshown, hhovers]
    · show _ = Event.diagnostics (List.map (fun e : Entry => e.2) (_ ++ _))
      rw [List.map_append, Event.diagnostics_append, ← hworkspace, hpublished, ← hsent,
        ← Event.published_messages, Message.published_append]

theorem Ran.settle (h : s.Ran sent) : { s with hovers := s.hovers.settle }.Ran sent := by
  obtain ⟨settings, scanner, moves, hloud, hworkspace, hhovers, hsent⟩ := h
  refine ⟨settings, scanner, moves ++ .replicate s.hovers.queue.length .take, fun a ha => ?_, ?_⟩
  · rcases List.mem_append.1 ha with ha | ha
    · exact hloud a ha
    · exact nomatch List.eq_of_mem_replicate ha
  · rw [World.run, List.foldl_append, ← World.run, ← World.run, hhovers, World.run_takes]
    exact ⟨hworkspace, rfl, hsent⟩

theorem Ran.clearHovers (h : s.Ran sent) : { s with hovers := s.hovers.clear }.Ran sent := by
  obtain ⟨settings, scanner, moves, hloud, hworkspace, hhovers, hsent⟩ := h
  refine ⟨settings, scanner, moves ++ [.clearHovers], fun a ha => ?_, ?_⟩
  · rcases List.mem_append.1 ha with ha | ha
    · exact hloud a ha
    · exact nomatch List.mem_singleton.1 ha
  · rw [World.run, List.foldl_append, ← World.run, hhovers]
    exact ⟨hworkspace, rfl, hsent⟩

theorem Ran.of_same (h : s.Ran sent) {s' : Server} (hworkspace : s'.workspace = s.workspace)
    (hhovers : s'.hovers = s.hovers) : s'.Ran sent := by
  unfold Ran
  rw [hworkspace, hhovers]
  exact h

theorem Ran.same_published (h : s.Ran sent) {ms : List Message} (hms : Message.published ms = []) :
    s.Ran (sent ++ ms) := by
  obtain ⟨settings, scanner, moves, hloud, hworkspace, hhovers, hsent⟩ := h
  refine ⟨settings, scanner, moves, hloud, hworkspace, hhovers, ?_⟩
  rw [← hsent, Message.published_append, hms, List.append_nil]

theorem Ran.allows (hs : s.Ran sent) {h : Handled} (hallows : s.Allows h) :
    (h.server.hand h.events).Ran (sent ++ Event.messages h.events) := by
  obtain ⟨hgoes, hhovers | hhovers⟩ := hallows
  · refine (hs.goesTo hgoes).of_same rfl ?_
    exact congrArg (fun hovers => hovers.sendAll (Event.hovers h.events)) hhovers
  · refine (hs.clearHovers.goesTo hgoes).of_same rfl ?_
    exact congrArg (fun hovers => hovers.sendAll (Event.hovers h.events)) hhovers

theorem Ran.follow {α : Type} (hs : s.Ran sent) {p : Polled α}
    (hp : s.workspace.GoesTo p.outcome) :
    (s.follow p).Ran (sent ++ Event.messages p.events) :=
  (hs.goesTo hp).settle

end Server

/-! ## Sessions -/

/-- What a session gets: a message, the end of the messages, or the time that passes. -/
inductive Session.Input
  | message (j : Json)
  | close
  | second

namespace Serving

theorem ran_handle {s : Serving} {sent : List Message} (hs : s.server.Ran sent) {h : Handled}
    (hallows : s.server.Allows h) :
    let next := s.handle h.handed
    next.1.server.Ran (sent ++ next.2) := by
  intro next
  have hran := hs.allows hallows
  have hround := hran.follow
    (Workspace.goesTo_round hran.orderly (h.server.hand h.events).stopped h.tasks)
  rw [List.append_assoc] at hround
  have hmessages : next.2 = _ := List.filterMap_append
  rwa [hmessages]

theorem ran_elapse {s : Serving} {sent : List Message} (hs : s.server.Ran sent) :
    s.elapse.1.server.Ran (sent ++ s.elapse.2) :=
  hs.follow (Workspace.goesTo_round hs.orderly s.server.stopped s.tasks)

theorem ran_finish {s : Serving} {sent : List Message} (hs : s.server.Ran sent) :
    ∃ server : Server, server.Ran (sent ++ s.finish) :=
  ⟨_, hs.follow (Workspace.goesTo_runTasks hs.orderly s.server.stopped s.tasks)⟩

theorem goesTo_ofEditor (w : Workspace) (folders : List EditorFolder) (root : Option Url) :
    w.GoesTo (w.ofEditor folders root, []) := by
  have hfolders : ∀ (w : Workspace) (fs : List EditorFolder),
      w.GoesTo (fs.foldl (fun w f => (w.addEditorFolder f).1) w, []) := by
    intro w fs
    induction fs generalizing w with
    | nil => exact .refl w
    | cons f rest ih => exact (Server.goesTo_addEditorFolder w f).trans (ih _)
  unfold Workspace.ofEditor
  dsimp only
  split
  · split
    · exact (hfolders w folders).trans (Workspace.goesTo_add _ _ _)
    · exact hfolders w folders
  · exact hfolders w folders

theorem ran_ofStart (machine : Machine) (start : EditorStart) {sent : List Message}
    (hsent : Message.published sent = []) : (ofStart machine start).server.Ran sent := by
  have hall : ∀ settings : Settings, (Server.new ((Workspace.new settings
      ⟨.program machine.start, none⟩).ofEditor start.folders start.root)).Ran sent := by
    intro settings
    have hnew : (Server.new (.new settings ⟨.program machine.start, none⟩)).Ran sent :=
      ⟨settings, _, [], by simp, rfl, rfl, hsent⟩
    have hran := hnew.goesTo (goesTo_ofEditor _ start.folders start.root)
    rw [show Event.messages [] = [] from rfl, List.append_nil] at hran
    exact hran
  exact hall _

end Serving

namespace Session

def turn (machine : Machine) (s : Session) : Input → Session × List Message
  | .message j => s.receiveJson machine j
  | .close => s.close
  | .second => s.elapse

/-- A server at work is that of a run, and so was one that has ended. -/
def Ran : Session → List Message → Prop
  | greeting, sent | greeted _, sent => Message.published sent = []
  | serving s, sent | leaving s, sent => s.server.Ran sent
  | ended _, sent => Message.published sent = [] ∨ ∃ s : Server, s.Ran sent

theorem ran_nothing {s : Session} {sent : List Message} (hs : s.Ran sent) :
    s.Ran (sent ++ []) := by
  rwa [List.append_nil]

theorem ran_serve {s : Serving} {sent : List Message} (hs : s.server.Ran sent) (m : Incoming) :
    (serve s m).1.Ran (sent ++ (serve s m).2) := by
  cases m with
  | request r =>
    obtain ⟨h, hallows, heq⟩ := s.server.allows_request r
    simp only [serve]
    split
    · exact hs.same_published rfl
    · rw [heq]
      exact Serving.ran_handle hs hallows
  | notification n =>
    obtain ⟨h, hallows, heq⟩ := s.server.allows_notify n
    simp only [serve]
    split
    · exact .inr (Serving.ran_finish hs)
    · rw [heq]
      exact Serving.ran_handle hs hallows
  | reply => exact hs.same_published rfl

theorem ran_confirmed (machine : Machine) (params : Json) {sent : List Message}
    (hsent : Message.published sent = []) : (confirmed machine params).Ran sent := by
  unfold confirmed
  split
  · exact Serving.ran_ofStart machine _ hsent
  · exact .inl hsent

theorem ran_ended {s : Session} {sent : List Message} (hs : s.Ran sent) (success : Bool) :
    (ended success).Ran sent := by
  cases s with
  | greeting => exact .inl hs
  | greeted params => exact .inl hs
  | serving s => exact .inr ⟨_, hs⟩
  | leaving s => exact .inr ⟨_, hs⟩
  | ended _ => exact hs

theorem ran_receive (machine : Machine) {s : Session} {sent : List Message} (hs : s.Ran sent)
    (m : Incoming) : (s.receive machine m).1.Ran (sent ++ (s.receive machine m).2) := by
  cases s with
  | greeting =>
    have hstill : ∀ ms, Message.published ms = [] → Message.published (sent ++ ms) = [] := by
      intro ms hms
      rw [Message.published_append, hms, List.append_nil]
      exact hs
    cases m with
    | request r =>
      simp only [receive]
      split <;> exact hstill _ rfl
    | notification n =>
      simp only [receive, List.append_nil]
      split
      · exact .inl hs
      · exact hs
    | reply => exact .inl (hstill _ rfl)
  | greeted params =>
    cases m with
    | notification n =>
      simp only [receive, List.append_nil]
      split
      · exact ran_confirmed machine params hs
      · exact .inl hs
    | request r => exact ran_nothing (ran_ended hs false)
    | reply => exact ran_nothing (ran_ended hs false)
  | serving s => exact ran_serve hs m
  | leaving s =>
    cases m with
    | notification n =>
      simp only [receive]
      split
      · have hstopped : s.server.stop.Ran sent := hs.of_same rfl rfl
        exact .inr (Serving.ran_finish (s := { s with server := s.server.stop }) hstopped)
      · rw [List.append_nil]
        exact .inr ⟨_, hs⟩
    | request r => exact ran_nothing (.inr ⟨_, hs⟩)
    | reply => exact ran_nothing (.inr ⟨_, hs⟩)
  | ended success =>
    simp only [receive, List.append_nil]
    exact hs

theorem ran_turn (machine : Machine) {s : Session} {sent : List Message} (hs : s.Ran sent)
    (i : Input) : (s.turn machine i).1.Ran (sent ++ (s.turn machine i).2) := by
  cases i with
  | message j =>
    simp only [turn]
    unfold receiveJson
    split
    · rw [List.append_nil]
      exact hs
    · exact ran_receive machine hs _
    · rw [List.append_nil]
      exact ran_ended hs false
  | close =>
    simp only [turn]
    cases s with
    | serving s => exact .inr (Serving.ran_finish hs)
    | ended success => exact ran_nothing hs
    | greeting => exact ran_nothing (ran_ended hs false)
    | greeted params => exact ran_nothing (ran_ended hs false)
    | leaving s => exact ran_nothing (ran_ended hs false)
  | second =>
    cases s with
    | serving s => exact Serving.ran_elapse hs
    | leaving s => exact Serving.ran_elapse hs
    | greeting => exact ran_nothing hs
    | greeted params => exact ran_nothing hs
    | ended success => exact ran_nothing hs

/-- At every moment of every session, the server at work is that of a world after moves that show
what they change, and the diagnostics that the editor has been sent are those of the log. -/
theorem session_is_run (machine : Machine) (inputs : List Input) :
    (chain (turn machine) greeting inputs).1.Ran (chain (turn machine) greeting inputs).2 := by
  have hchain : ∀ (s : Session) (sent : List Message), s.Ran sent →
      (chain (turn machine) s inputs).1.Ran (sent ++ (chain (turn machine) s inputs).2) := by
    induction inputs with
    | nil =>
      intro s sent hs
      exact ran_nothing hs
    | cons i rest ih =>
      intro s sent hs
      rw [chain, ← List.append_assoc]
      exact ih _ _ (ran_turn machine hs i)
  exact hchain greeting [] rfl

end Session

end ScanRelay
