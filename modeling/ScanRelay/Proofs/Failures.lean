import ScanRelay.Proofs.Display
import ScanRelay.Proofs.Handlers
import ScanRelay.Proofs.Saving

/-!
# Messages that fail

A handler that fails keeps what it did before. But what can fail in a handler comes after steps that
leave no trace (`Handler.Traceless`) and before those that cannot fail (`Handler.Sure`), so none is
left of one that fails (`Handler.Atomic`). A request has one response, and one that is refused has no
other effect (`request_answered`). A notification fails for what is wrong with its parameters or with
the settings that it brings (`exists_run_eq_error_iff`), and then a note to the user is all that
comes of it; no other notification sends a note (`failing_message_is_atomic`).
-/

namespace ScanRelay

namespace Message

def reply? : Message → Option (RequestId × Except Refusal Json)
  | reply id result => some (id, result)
  | _ => none

def note? : Message → Option UserNote
  | note n => some n
  | _ => none

end Message

namespace Event

def replies (es : List Event) : List (RequestId × Except Refusal Json) :=
  (messages es).filterMap Message.reply?

def notes (es : List Event) : List UserNote := (messages es).filterMap Message.note?

theorem messages_append (es fs : List Event) : messages (es ++ fs) = messages es ++ messages fs :=
  List.filterMap_append

theorem replies_append (es fs : List Event) : replies (es ++ fs) = replies es ++ replies fs := by
  rw [replies, messages_append, List.filterMap_append]
  rfl

theorem notes_append (es fs : List Event) : notes (es ++ fs) = notes es ++ notes fs := by
  rw [notes, messages_append, List.filterMap_append]
  rfl

/-- Among the events is neither a response nor a note. -/
structure Quiet (es : List Event) : Prop where
  replies : replies es = []
  notes : notes es = []

namespace Quiet

theorem nil : Quiet [] := ⟨rfl, rfl⟩

theorem append {es fs : List Event} (h : Quiet es) (h' : Quiet fs) : Quiet (es ++ fs) where
  replies := by rw [replies_append, h.replies, h'.replies, List.append_nil]
  notes := by rw [notes_append, h.notes, h'.notes, List.append_nil]

theorem flatMap {α : Type} {f : α → List Event} :
    ∀ l : List α, (∀ a ∈ l, Quiet (f a)) → Quiet (l.flatMap f)
  | [], _ => nil
  | a :: l, h => by
    rw [List.flatMap_cons]
    exact (h a List.mem_cons_self).append (flatMap l fun b hb => h b (List.mem_cons_of_mem _ hb))

theorem chain {σ α : Type} {step : σ → α → σ × List Event} (h : ∀ s a, Quiet (step s a).2) :
    ∀ (l : List α) (s : σ), Quiet (ScanRelay.chain step s l).2
  | [], _ => nil
  | a :: l, s => (h s a).append (chain h l (step s a).1)

end Quiet

end Event

open Event (Quiet)

/-! ## What folders do is quiet -/

namespace Publish

theorem quiet_diagnostics (path : String) (issues : List Issue) :
    Quiet (diagnostics path issues) := by
  unfold diagnostics
  split <;> exact ⟨rfl, rfl⟩

theorem quiet_hover (path : String) (issues : List Issue) : Quiet (hover path issues) := ⟨rfl, rfl⟩

theorem quiet_file (path : String) (issues : List Issue) : Quiet (file path issues) :=
  (quiet_diagnostics path issues).append (quiet_hover path issues)

theorem quiet_folder (path : String) (product : Option Product) (files : List (String × List Issue))
    (filter : FilterSettings) : Quiet (folder path product files filter) := by
  refine (Quiet.append (.flatMap _ fun f _ => ?_) (.flatMap _ fun f _ => ?_)).append ⟨rfl, rfl⟩
  · exact quiet_diagnostics f.1 f.2
  · exact quiet_hover f.1 f.2

end Publish

namespace Folder

theorem quiet_clear (f : Folder) : Quiet f.clear.2 := .flatMap _ fun p _ => Publish.quiet_file p []

theorem quiet_clearFile (inline : Bool) (f : Folder) (path : String) :
    Quiet (f.clearFile inline path).2 := by
  have hinline : Quiet (if inline then [.clearInline path] else []) := by
    split <;> exact ⟨rfl, rfl⟩
  exact hinline.append (Publish.quiet_file path [])

theorem quiet_clearUnder (inline : Bool) (f : Folder) (root : String) :
    Quiet (f.clearUnder inline root).2 :=
  clearUnder_induction (motive := fun _ es => Quiet es) root .nil
    (fun g _ p h => h.append (g.quiet_clearFile inline p)) fun _ _ h => h

theorem quiet_clearCategory (s : Settings) (f : Folder) (c : Category) :
    Quiet (f.clearCategory s c).2 :=
  .flatMap _ fun e _ => Publish.quiet_file e.1 _

end Folder

namespace Workspace

variable {op : Folder → Folder × List Event}

theorem quiet_onEach (w : Workspace) (h : ∀ f, Quiet (op f).2) : Quiet (w.onEach op).2 :=
  .flatMap _ fun f _ => h f

theorem quiet_onFolder (w : Workspace) (r : FolderRef) (h : ∀ f, Quiet (op f).2) :
    Quiet (w.onFolder r op).2 := by
  unfold onFolder
  split
  · exact h _
  · exact .nil

theorem quiet_removeEditorFolder (w : Workspace) (f : EditorFolder) :
    Quiet (w.removeEditorFolder f).2 := by
  unfold removeEditorFolder remove
  split
  · split
    · exact .nil
    · exact Folder.quiet_clear _
  · exact .nil

theorem quiet_forgetNamed (w : Workspace) (name : String) : Quiet (w.forgetNamed name).2 := by
  unfold forgetNamed handleDeleted
  split
  · refine w.quiet_onEach fun f => ?_
    split
    · exact f.quiet_clearUnder _ _
    · exact .nil
  · exact .nil

theorem quiet_applySettings (w : Workspace) (next : Settings) : Quiet (w.applySettings next).2 := by
  rw [applySettings, applySettingsBy_eq]
  dsimp only
  split
  · exact .chain (fun w c => w.quiet_onEach fun f => f.quiet_clearCategory _ c) _ _
  · split
    · exact .nil
    · exact .flatMap _ fun f _ => Publish.quiet_folder _ _ _ _

end Workspace

/-- What a handler does at a time sends no response and no note. -/
theorem Handled.Step.quiet {h h' : Handled} (hstep : h.Step h') (hquiet : Quiet h.events) :
    Quiet h'.events := by
  cases hstep with
  | clearIssues => exact hquiet.append (h.server.workspace.quiet_onEach Folder.quiet_clear)
  | clearFolder r => exact hquiet.append (h.server.workspace.quiet_onFolder r Folder.quiet_clear)
  | clearFile r path =>
    exact hquiet.append (h.server.workspace.quiet_onFolder r fun f => f.quiet_clearFile _ path)
  | removeFolder f => exact hquiet.append (h.server.workspace.quiet_removeEditorFolder f)
  | addFolder f => exact hquiet.append .nil
  | applySettings next => exact hquiet.append (h.server.workspace.quiet_applySettings next)
  | forgetNamed name => exact hquiet.append (h.server.workspace.quiet_forgetNamed name)
  | start t => exact hquiet
  | dropHovers => exact hquiet
  | openUrl url => exact hquiet.append ⟨rfl, rfl⟩
  | readInline path range =>
    unfold Folder.inlineValues
    split <;> exact hquiet.append ⟨rfl, rfl⟩

theorem Handled.Steps.quiet {h h' : Handled} (hsteps : h.Steps h') (hquiet : Quiet h.events) :
    Quiet h'.events :=
  hsteps.induction hquiet fun _ _ hquiet hstep => hstep.quiet hquiet

/-! ## Handlers that fail -/

/-- From one to the other nothing was changed, started, sent or shown. -/
structure Handled.Unseen (h h' : Handled) : Prop where
  server : h'.server = h.server
  tasks : h'.tasks = h.tasks
  messages : Event.messages h'.events = Event.messages h.events
  hovers : Event.hovers h'.events = Event.hovers h.events

namespace Handled.Unseen

variable {h h' h'' : Handled}

theorem refl (h : Handled) : h.Unseen h := ⟨rfl, rfl, rfl, rfl⟩

theorem trans (hfirst : h.Unseen h') (hrest : h'.Unseen h'') : h.Unseen h'' where
  server := hrest.server.trans hfirst.server
  tasks := hrest.tasks.trans hfirst.tasks
  messages := hrest.messages.trans hfirst.messages
  hovers := hrest.hovers.trans hfirst.hovers

end Handled.Unseen

namespace Handler

variable {α β : Type} {x : Handler α} {f : α → Handler β} {h h' : Handled} {fault : ServerFault}

/-- The handler leaves no trace. -/
def Traceless (x : Handler α) : Prop := x.Leads Handled.Unseen

/-- The handler does not fail. -/
def Sure (x : Handler α) : Prop := ∀ h fault h', x.run h ≠ (.error fault, h')

/-- The handler leaves no trace when it fails. -/
def Atomic (x : Handler α) : Prop := ∀ h fault h', x.run h = (.error fault, h') → h.Unseen h'

/-- A run fails in its first part, or in the rest of it. -/
theorem exists_of_run_bind (hrun : (x >>= f).run h = (.error fault, h')) :
    x.run h = (.error fault, h') ∨
      ∃ a h₁, x.run h = (.ok a, h₁) ∧ (f a).run h₁ = (.error fault, h') := by
  rw [run_bind] at hrun
  rcases hfirst : x.run h with ⟨fault' | a, h₁⟩ <;> rw [hfirst] at hrun
  · obtain ⟨rfl, rfl⟩ : fault' = fault ∧ h₁ = h' := by simpa using hrun
    exact .inl rfl
  · exact .inr ⟨a, h₁, rfl, hrun⟩

/-- What is read first has a fault, or the rest fails. -/
theorem exists_of_run_read_bind {e : Except ServerFault α}
    (hrun : ((liftM e : Handler α) >>= f).run h = (.error fault, h')) :
    e = .error fault ∨ ∃ a, e = .ok a ∧ (f a).run h = (.error fault, h') := by
  obtain hread | ⟨a, h₁, hread, hrest⟩ := exists_of_run_bind hrun
  · exact .inl (Prod.mk.inj hread).1
  · obtain ⟨rfl, rfl⟩ := Prod.mk.inj hread
    exact .inr ⟨a, rfl, hrest⟩

theorem Idle.traceless (hx : x.Idle) : x.Traceless := hx.leads .refl

theorem traceless_tell {events : List Event} (hmessages : Event.messages events = [])
    (hhovers : Event.hovers events = []) : (tell events).Traceless := fun h => by
  refine ⟨rfl, rfl, ?_, ?_⟩
  · rw [run_tell, Handled.told, Event.messages_append, hmessages, List.append_nil]
  · rw [run_tell, Handled.told, Event.hovers_append, hhovers, List.append_nil]

theorem Traceless.bind (hx : x.Traceless) (hf : ∀ a, (f a).Traceless) : (x >>= f).Traceless :=
  Leads.bind .trans hx hf

theorem Traceless.atomic (hx : x.Traceless) : x.Atomic := fun h fault h' hrun => by
  have hfirst := hx h
  rwa [hrun] at hfirst

theorem sure_pure (a : α) : (pure a : Handler α).Sure := by simp [Sure]

theorem sure_workspace : workspace.Sure := by simp [Sure]

theorem sure_change (op : Workspace → Workspace × List Event) : (change op).Sure := by simp [Sure]

theorem sure_start (t : Task) : (start t).Sure := by simp [Sure]

theorem sure_dropHovers : dropHovers.Sure := by simp [Sure]

theorem sure_openUrl (url : Url) : (openUrl url).Sure := by simp [Sure]

theorem sure_addFolder (f : EditorFolder) : (addFolder f).Sure := by simp [Sure]

theorem Sure.bind (hx : x.Sure) (hf : ∀ a, (f a).Sure) : (x >>= f).Sure := by
  intro h fault h' hrun
  obtain hrun | ⟨a, h₁, -, hrun⟩ := exists_of_run_bind hrun
  · exact hx _ _ _ hrun
  · exact hf a _ _ _ hrun

theorem Sure.forM {x : α → Handler Unit} (hx : ∀ a, (x a).Sure) (l : List α) :
    (l.forM x).Sure := by
  induction l with
  | nil => exact sure_pure ()
  | cons a rest ih => exact (hx a).bind fun _ => ih

theorem Sure.atomic (hx : x.Sure) : x.Atomic := fun h fault h' hrun => absurd hrun (hx h fault h')

/-- What leaves no trace may come first. -/
theorem Traceless.bind_atomic (hx : x.Traceless) (hf : ∀ a, (f a).Atomic) : (x >>= f).Atomic := by
  intro h fault h' hrun
  have hfirst := hx h
  obtain hrun | ⟨a, h₁, hrun, hrest⟩ := exists_of_run_bind hrun <;> rw [hrun] at hfirst
  · exact hfirst
  · exact hfirst.trans (hf a _ _ _ hrest)

/-- What cannot fail may come after. -/
theorem Atomic.bind_sure (hx : x.Atomic) (hf : ∀ a, (f a).Sure) : (x >>= f).Atomic := by
  intro h fault h' hrun
  obtain hrun | ⟨a, h₁, -, hrest⟩ := exists_of_run_bind hrun
  · exact hx _ _ _ hrun
  · exact absurd hrest (hf a _ _ _)

end Handler

/-! ## Requests -/

namespace Server

open Handler

/-- The scanner is asked, and what it does with that is not sent. -/
theorem traceless_inlineValues (params : Json) : (inlineValues params).Traceless := by
  refine (idle_read _).traceless.bind fun r => (idle_read _).traceless.bind fun path =>
    idle_workspace.traceless.bind fun w => ?_
  split
  · exact (idle_pure _).traceless
  · have hunsent : Event.messages (Folder.inlineValues w.scanner.inline path r.range).2 = []
        ∧ Event.hovers (Folder.inlineValues w.scanner.inline path r.range).2 = [] := by
      unfold Folder.inlineValues
      split <;> exact ⟨rfl, rfl⟩
    exact (traceless_tell hunsent.1 hunsent.2).bind fun _ =>
      ((idle_read _).bind fun _ => idle_pure _).traceless

theorem atomic_perform (r : CommandRequest) : (perform r).Atomic := by
  unfold perform
  split
  · exact ((sure_change _).bind fun _ => sure_start _).atomic
  split
  · refine (idle_read _).traceless.bind_atomic fun path =>
      idle_workspace.traceless.bind_atomic fun w => ?_
    split
    · exact (idle_throw _).traceless.atomic
    · exact ((sure_change _).bind fun _ => sure_start _).atomic
  split
  · exact ((sure_change _).bind fun _ => sure_dropHovers).atomic
  split
  · split
    · exact (idle_throw _).traceless.atomic
    · exact (idle_read _).traceless.bind_atomic fun url => (sure_openUrl url).atomic
  · exact (idle_throw _).traceless.atomic

theorem atomic_executeCommand (params : Json) : (executeCommand params).Atomic :=
  (idle_read _).traceless.bind_atomic fun r => (atomic_perform r).bind_sure fun _ => sure_pure _

theorem atomic_requestHandler {r : Request} {x : Handler Json} (hx : requestHandler? r = some x) :
    x.Atomic := by
  unfold requestHandler? at hx
  split_ifs at hx <;> obtain rfl := Option.some.inj hx
  · exact (idle_hover r.params).traceless.atomic
  · exact (idle_codeActions r.params).traceless.atomic
  · exact (traceless_inlineValues r.params).atomic
  · exact atomic_executeCommand r.params

variable {s : Server}

/-- No hovers, nothing to hand on. -/
theorem hand_of_no_hovers {es : List Event} (h : Event.hovers es = []) : s.hand es = s := by
  simp [hand, h, HoverService.sendAll]

/-- There is one response to a request. A refusal is all that was sent, and nothing has changed. -/
def Answered (s : Server) (id : RequestId) (h : Handled) : Prop :=
  ∃ result, Event.replies h.events = [(id, result)] ∧ ∀ refusal, result = .error refusal →
    h.server = s ∧ h.tasks = [] ∧ Event.messages h.events = [.reply id (.error refusal)]
      ∧ Event.hovers h.events = []

theorem answered_of_unseen {h : Handled} (hunseen : s.unchanged.Unseen h) (id : RequestId)
    (refusal : Refusal) : s.Answered id (h.told [reply id (.error refusal)]).handed := by
  have hmessages : Event.messages (h.told [reply id (.error refusal)]).events
      = [.reply id (.error refusal)] :=
    (Event.messages_append _ _).trans (congrArg (· ++ _) hunseen.messages)
  have hhovers : Event.hovers (h.told [reply id (.error refusal)]).events = [] :=
    (Event.hovers_append _ _).trans (congrArg (· ++ _) hunseen.hovers)
  refine ⟨.error refusal, congrArg (List.filterMap _) hmessages, ?_⟩
  rintro _ ⟨⟩
  exact ⟨(hand_of_no_hovers hhovers).trans hunseen.server, hunseen.tasks, hmessages, hhovers⟩

theorem request_answered (s : Server) (r : Request) : s.Answered r.id (s.request r) := by
  unfold request
  split
  · rename_i x hx
    unfold answer
    split
    · rename_i j h hrun
      have hquiet : Quiet h.events := by
        have hsteps := stepwise_requestHandler hx s.unchanged
        rw [hrun] at hsteps
        exact hsteps.quiet .nil
      refine ⟨.ok j, ?_, nofun⟩
      exact (Event.replies_append _ _).trans (congrArg (· ++ _) hquiet.replies)
    · rename_i fault h hrun
      exact answered_of_unseen (atomic_requestHandler hx _ _ _ hrun) _ _
  · refine ⟨.error ⟨methodNotFound, "Unhandled method: " ++ r.method⟩, rfl, ?_⟩
    rintro _ ⟨⟩
    exact ⟨rfl, rfl, rfl, rfl⟩

/-! ## Notifications -/

/-- What the parameters of a notification have to be; those of other methods are not read. -/
def schemaOf? (method : String) : Option Schema :=
  if method = "textDocument/didOpen" then some Params.openedSchema
  else if method = "textDocument/didSave" then some Params.savedSchema
  else if method = "workspace/didChangeWorkspaceFolders" then some FolderChange.schema
  else if method = "workspace/didChangeConfiguration" then some Params.settingsSchema
  else if method = "workspace/didDeleteFiles" then some Params.deletedSchema
  else if method = "workspace/didRenameFiles" then some Params.renamedSchema
  else none

/-- The methods whose parameters name one document. -/
def namesDocument (method : String) : Prop :=
  method = "textDocument/didOpen" ∨ method = "textDocument/didSave"

/-- What is wrong with a notification. -/
inductive Fails (s : Server) (n : Notification) : ServerFault → Prop
  /-- The parameters are not those of the method. -/
  | params {schema : Schema} {fault : Fault} (hschema : schemaOf? n.method = some schema)
      (hcheck : schema.check n.params = .error fault) : Fails s n (.params fault)
  /-- The document is not a file. -/
  | notAFile {schema : Schema} (hmethod : namesDocument n.method)
      (hschema : schemaOf? n.method = some schema) (hcheck : schema.check n.params = .ok ())
      (hfile : (Params.documentOfJson n.params).toFilePath? = none) :
      Fails s n (.notAFile (Params.documentOfJson n.params))
  /-- The settings are no object. -/
  | payload (hmethod : n.method = "workspace/didChangeConfiguration")
      (hcheck : Params.settingsSchema.check n.params = .ok ())
      (hobject : (Settings.payloadOf (Params.settingsOfJson n.params)).isObject = false) :
      Fails s n (.payload .notAnObject)
  /-- The settings that would be in force are not valid. -/
  | settings {next : Settings} {fault : SettingsFault}
      (hmethod : n.method = "workspace/didChangeConfiguration")
      (hcheck : Params.settingsSchema.check n.params = .ok ())
      (hnext : s.workspace.settings.update (Params.settingsOfJson n.params) = .ok next)
      (hvalid : next.validate = .error fault) : Fails s n (.settings fault)

variable {n : Notification} {fault : ServerFault}

theorem notificationHandler_of_settings (hmethod : n.method = "workspace/didChangeConfiguration") :
    notificationHandler n = didChangeSettings n.params := by
  simp [notificationHandler, hmethod]

theorem Fails.run (hfails : s.Fails n fault) :
    (notificationHandler n).run s.unchanged = (.error fault, s.unchanged) := by
  cases hfails with
  | params hschema hcheck =>
    have hread := fun {α : Type} (read : Json → α) => Schema.readParams_of_error hcheck read
    unfold schemaOf? at hschema
    unfold notificationHandler
    split_ifs at hschema ⊢ <;> obtain rfl := Option.some.inj hschema <;>
      exact run_read_bind_of_error (hread _) _ _
  | notAFile hmethod hschema hcheck hfile =>
    have hpath : (Params.documentOfJson n.params).filePath
        = .error (.notAFile (Params.documentOfJson n.params)) := by
      simp only [Url.filePath, hfile]
    have hread := Schema.readParams_of_ok hcheck Params.documentOfJson
    rcases hmethod with hmethod | hmethod <;> rw [hmethod] at hschema <;>
      obtain rfl := Option.some.inj hschema
    · have hhandler : notificationHandler n = didOpen n.params := by
        simp [notificationHandler, hmethod]
      rw [hhandler, didOpen, run_read_bind hread, run_read_bind_of_error hpath]
    · have hhandler : notificationHandler n = didSave n.params := by
        simp [notificationHandler, hmethod]
      rw [hhandler, didSave, run_read_bind hread, run_read_bind_of_error hpath]
  | payload hmethod hcheck hobject =>
    have hread := Schema.readParams_of_ok hcheck Params.settingsOfJson
    have hupdate : orFault .payload (s.workspace.settings.update (Params.settingsOfJson n.params))
        = .error (.payload .notAnObject) := by
      simp [Settings.update, hobject, orFault]
    rw [notificationHandler_of_settings hmethod, didChangeSettings, run_read_bind hread, run_bind,
      run_workspace]
    exact run_read_bind_of_error hupdate _ _
  | settings hmethod hcheck hnext hvalid =>
    have hread := Schema.readParams_of_ok hcheck Params.settingsOfJson
    rw [notificationHandler_of_settings hmethod, didChangeSettings, run_read_bind hread, run_bind,
      run_workspace]
    exact (run_read_bind (congrArg (orFault ServerFault.payload) hnext) _ _).trans
      (run_read_bind_of_error (congrArg (orFault ServerFault.settings) hvalid) _ _)

/-- A handler that reads a document and then does what cannot fail. -/
theorem fails_of_document {schema : Schema} {next : Url → String → Handler Unit} {h h' : Handled}
    (hnext : ∀ url path, (next url path).Sure) (hmethod : namesDocument n.method)
    (hschema : schemaOf? n.method = some schema)
    (hrun : Handler.run (do
      let url ← schema.readParams Params.documentOfJson n.params
      let path ← url.filePath
      next url path) h = (.error fault, h')) : s.Fails n fault := by
  obtain hread | ⟨url, hread, hrun⟩ := exists_of_run_read_bind hrun
  · obtain ⟨f, hcheck, rfl⟩ := Schema.exists_of_readParams_eq_error hread
    exact .params hschema hcheck
  obtain ⟨hcheck, rfl⟩ := Schema.of_readParams_eq_ok hread
  obtain hpath | ⟨path, -, hlast⟩ := exists_of_run_read_bind hrun
  · rcases hfile : (Params.documentOfJson n.params).toFilePath? with _ | path
    · simp only [Url.filePath, hfile] at hpath
      obtain rfl := Except.error.inj hpath
      exact .notAFile hmethod hschema hcheck hfile
    · simp only [Url.filePath, hfile, reduceCtorEq] at hpath
  · exact absurd hlast (hnext _ _ _ _ _)

/-- A handler that reads its parameters and then does what cannot fail. -/
theorem fails_of_read {α : Type} {schema : Schema} {read : Json → α} {next : α → Handler Unit}
    {h h' : Handled} (hnext : ∀ a, (next a).Sure) (hschema : schemaOf? n.method = some schema)
    (hrun : Handler.run (do next (← schema.readParams read n.params)) h = (.error fault, h')) :
    s.Fails n fault := by
  obtain hread | ⟨a, -, hlast⟩ := exists_of_run_read_bind hrun
  · obtain ⟨f, hcheck, rfl⟩ := Schema.exists_of_readParams_eq_error hread
    exact .params hschema hcheck
  · exact absurd hlast (hnext _ _ _ _)

theorem fails_of_settings {h' : Handled} (hmethod : n.method = "workspace/didChangeConfiguration")
    (hrun : (didChangeSettings n.params).run s.unchanged = (.error fault, h')) :
    s.Fails n fault := by
  obtain hread | ⟨payload, hread, hrun⟩ := exists_of_run_read_bind hrun
  · obtain ⟨f, hcheck, rfl⟩ := Schema.exists_of_readParams_eq_error hread
    exact .params (hmethod ▸ rfl) hcheck
  obtain ⟨hcheck, rfl⟩ := Schema.of_readParams_eq_ok hread
  rw [run_bind, run_workspace] at hrun
  obtain hupdate | ⟨next, hupdate, hrun⟩ := exists_of_run_read_bind hrun
  · rcases hobject : (Settings.payloadOf (Params.settingsOfJson n.params)).isObject
    · obtain rfl : ServerFault.payload .notAnObject = fault := by
        simpa [Settings.update, hobject, orFault] using hupdate
      exact .payload hmethod hcheck hobject
    · simp [Settings.update, hobject, orFault] at hupdate
  rcases hnext : s.workspace.settings.update (Params.settingsOfJson n.params) with f | settings
  · simp [unchanged, hnext, orFault] at hupdate
  obtain rfl : settings = next := by simpa [unchanged, hnext, orFault] using hupdate
  obtain hvalidate | ⟨_, -, hlast⟩ := exists_of_run_read_bind hrun
  · rcases hvalid : settings.validate with f | ⟨⟩
    · obtain rfl : ServerFault.settings f = fault := by
        simpa [hvalid, orFault] using hvalidate
      exact .settings hmethod hcheck hnext hvalid
    · simp [hvalid, orFault] at hvalidate
  · exact absurd hlast (sure_change _ _ _ _)

theorem sure_openFolder (f : EditorFolder) : (openFolder f).Sure := by
  refine (sure_addFolder f).bind fun folder => ?_
  split
  · exact sure_start _
  · exact sure_pure _

theorem sure_forget (names : List String) : (forget names).Sure :=
  Sure.forM (fun _ => sure_change _) names

theorem fails_of_run {h' : Handled}
    (hrun : (notificationHandler n).run s.unchanged = (.error fault, h')) : s.Fails n fault := by
  unfold notificationHandler at hrun
  split_ifs at hrun with hopen hsave hfolders hsettings hdelete hrename
  · exact fails_of_document (fun _ path => sure_start _) (.inl hopen) (hopen ▸ rfl) hrun
  · refine fails_of_document (fun _ path => ?_) (.inr hsave) (hsave ▸ rfl) hrun
    refine sure_workspace.bind fun w => ?_
    split
    · exact sure_pure _
    · exact (sure_change _).bind fun _ => sure_start _
  · refine fails_of_read (fun c => ?_) (hfolders ▸ rfl) hrun
    exact (Sure.forM (fun _ => sure_change _) c.removed).bind fun _ => .forM sure_openFolder c.added
  · exact fails_of_settings hsettings hrun
  · exact fails_of_read sure_forget (hdelete ▸ rfl) hrun
  · exact fails_of_read sure_forget (hrename ▸ rfl) hrun
  · exact absurd hrun (sure_pure () _ _ _)

/-- A handler fails for just these reasons. -/
theorem exists_run_eq_error_iff :
    (∃ h, (notificationHandler n).run s.unchanged = (.error fault, h)) ↔ s.Fails n fault :=
  ⟨fun ⟨_, hrun⟩ => fails_of_run hrun, fun hfails => ⟨_, hfails.run⟩⟩

end Server

/-- Whatever a server is sent, a request has one response, under its own name; if that is a refusal
then nothing else was sent, no task was started, and the server is as before. The handler of a
notification fails for just these reasons; then one note to the user is the only effect, and no
other notification sends a note. -/
theorem failing_message_is_atomic (s : Server) :
    (∀ r : Request, ∃ result, Event.replies (s.request r).events = [(r.id, result)]
      ∧ ∀ refusal, result = .error refusal → (s.request r).server = s ∧ (s.request r).tasks = []
        ∧ Event.messages (s.request r).events = [.reply r.id (.error refusal)]
        ∧ Event.hovers (s.request r).events = [])
      ∧ (∀ n fault, (∃ h, (Server.notificationHandler n).run s.unchanged = (.error fault, h))
        ↔ s.Fails n fault)
      ∧ (∀ n fault, s.Fails n fault →
        s.notify n = ⟨s, [.send (.note (.ofError fault.message))], []⟩)
      ∧ ∀ n, (∀ fault, ¬ s.Fails n fault) → Event.notes (s.notify n).events = [] := by
  refine ⟨s.request_answered, fun n fault => Server.exists_run_eq_error_iff,
    fun n fault hfails => ?_, fun n hfine => ?_⟩
  · have hsame : s.hand [.send (.note (.ofError fault.message))] = s := Server.hand_of_no_hovers rfl
    rw [Server.notify, hfails.run]
    exact congrArg (Handled.mk · _ []) hsame
  · have hsteps := Server.stepwise_notificationHandler n s.unchanged
    unfold Server.notify
    split <;> rename_i h hrun
    · rw [hrun] at hsteps
      exact (hsteps.quiet .nil).notes
    · exact absurd (Server.fails_of_run hrun) (hfine _)

/-- A server whose only folder was scanned refuses to scan another, and a save of something that is
no file fails. -/
theorem failing_message_is_atomic_scanned :
    let s : Server := ⟨(Sample.start.run Sample.acts).workspace, .new, false, 1⟩
    let scan : Request := ⟨.text "1", "workspace/executeCommand",
      .object [("arguments", .array [.text "/b"]), ("command", .text Server.folderScan)]⟩
    let save : Notification := ⟨"textDocument/didSave", Sample.savedFile "untitled:new"⟩
    (s.request scan).server = s
      ∧ Event.messages (s.request scan).events = [.reply (.text "1")
        (.error ⟨Server.internalError, "No workspace folder for /b"⟩)]
      ∧ s.notify save = ⟨s, [.send (.note (.ofError "Not a file URI: untitled:new"))], []⟩ := by
  intro s scan save
  obtain ⟨hrequests, -, hfailing, -⟩ := failing_message_is_atomic s
  obtain ⟨result, hreplies, hrefused⟩ := hrequests scan
  have hscan : Event.replies (s.request scan).events = [(.text "1",
      .error ⟨Server.internalError, "No workspace folder for /b"⟩)] := by rfl
  obtain ⟨-, rfl⟩ := Prod.mk.inj (List.singleton_inj.1 (hreplies.symm.trans hscan))
  obtain ⟨hserver, -, hmessages, -⟩ := hrefused _ rfl
  have hcheck : Params.savedSchema.check save.params = .ok () := by rfl
  have hfile : (Params.documentOfJson save.params).toFilePath? = none := by decide +kernel
  have htext : (Params.documentOfJson save.params).toText = "untitled:new" := by decide +kernel
  have hmessage : (ServerFault.notAFile (Params.documentOfJson save.params)).message
      = "Not a file URI: untitled:new" :=
    (congrArg ("Not a file URI: " ++ ·) htext).trans (by decide)
  exact ⟨hserver, hmessages,
    hmessage ▸ hfailing save _ (.notAFile (.inr rfl) rfl hcheck hfile)⟩

end ScanRelay
