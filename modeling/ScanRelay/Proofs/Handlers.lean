import Mathlib.Logic.Relation
import ScanRelay.Proofs.Acts
import ScanRelay.Service.Server

/-!
# What handlers do

A handler that has failed leaves behind what it did until then, so it is followed from one step to
the next (`Handler.run_bind`). There are not many kinds of steps (`Handled.Step`), and all handlers
go by them, to their end or until they fail. So a message comes to some steps and perhaps an answer
or a note (`Server.request_steps`, `Server.notify_steps`), and what each step keeps is kept by all
messages.
-/

namespace ScanRelay

/-! ## Parameters -/

namespace Schema

theorem readParams_of_error {α : Type} {schema : Schema} {params : Json} {fault : Fault}
    (h : schema.check params = .error fault) (read : Json → α) :
    schema.readParams read params = .error (.params fault) := by
  unfold readParams decode
  rw [h]
  rfl

theorem readParams_of_ok {α : Type} {schema : Schema} {params : Json}
    (h : schema.check params = .ok ()) (read : Json → α) :
    schema.readParams read params = .ok (read params) := by
  unfold readParams decode
  rw [h]
  rfl

/-- Parameters that cannot be read do not fit their schema. -/
theorem exists_of_readParams_eq_error {α : Type} {schema : Schema} {params : Json}
    {read : Json → α} {fault : ServerFault} (h : schema.readParams read params = .error fault) :
    ∃ f, schema.check params = .error f ∧ fault = .params f := by
  rcases hcheck : schema.check params with f | ⟨⟩
  · exact ⟨f, rfl, Except.error.inj (h.symm.trans (readParams_of_error hcheck read))⟩
  · exact nomatch h.symm.trans (readParams_of_ok hcheck read)

theorem of_readParams_eq_ok {α : Type} {schema : Schema} {params : Json} {read : Json → α}
    {a : α} (h : schema.readParams read params = .ok a) :
    schema.check params = .ok () ∧ a = read params := by
  rcases hcheck : schema.check params with f | ⟨⟩
  · exact nomatch h.symm.trans (readParams_of_error hcheck read)
  · exact ⟨rfl, Except.ok.inj (h.symm.trans (readParams_of_ok hcheck read))⟩

end Schema

/-! ## Runs of handlers -/

namespace Handler

variable {α β : Type} {h : Handled}

theorem run_bind (x : Handler α) (f : α → Handler β) (h : Handled) :
    (x >>= f).run h = match x.run h with
      | (.ok a, h') => (f a).run h'
      | (.error fault, h') => (.error fault, h') := by
  show (match x.run h with | (result, h') => ExceptT.bindCont f result h') = _
  rcases x.run h with ⟨_ | _, _⟩ <;> rfl

@[simp] theorem run_pure (a : α) : (pure a : Handler α).run h = (.ok a, h) := rfl

@[simp] theorem run_throw (fault : ServerFault) :
    (throw fault : Handler α).run h = (.error fault, h) := rfl

@[simp] theorem run_read (e : Except ServerFault α) : (liftM e : Handler α).run h = (e, h) := rfl

@[simp] theorem run_get : (get : Handler Handled).run h = (.ok h, h) := rfl

@[simp] theorem run_workspace : workspace.run h = (.ok h.server.workspace, h) := rfl

@[simp] theorem run_tell (events : List Event) : (tell events).run h = (.ok (), h.told events) :=
  rfl

@[simp] theorem run_change (op : Workspace → Workspace × List Event) :
    (change op).run h = (.ok (), h.changed (op h.server.workspace)) := rfl

@[simp] theorem run_addFolder (f : EditorFolder) :
    (addFolder f).run h = (.ok (h.server.workspace.addEditorFolder f).2,
      h.changed ((h.server.workspace.addEditorFolder f).1, [])) := rfl

@[simp] theorem run_start (t : Task) : (start t).run h = (.ok (), h.started t) := rfl

@[simp] theorem run_dropHovers : dropHovers.run h = (.ok (), h.dropped) := rfl

@[simp] theorem run_openUrl (url : Url) : (openUrl url).run h = (.ok (), h.asked url) := rfl

/-- What is read without fault is handed to the rest. -/
theorem run_read_bind {e : Except ServerFault α} {a : α} (he : e = .ok a) (f : α → Handler β)
    (h : Handled) : ((liftM e : Handler α) >>= f).run h = (f a).run h := by
  rw [run_bind, run_read, he]

/-- Nothing is done after a fault. -/
theorem run_read_bind_of_error {e : Except ServerFault α} {fault : ServerFault}
    (he : e = .error fault) (f : α → Handler β) (h : Handled) :
    ((liftM e : Handler α) >>= f).run h = (.error fault, h) := by
  rw [run_bind, run_read, he]

end Handler

namespace Handled

variable {h : Handled}

theorem told_nothing : h.told [] = h := by simp [told]

theorem changed_nothing : h.changed (h.server.workspace, []) = h := by simp [changed, told]

theorem changed_changed (change change' : Workspace × List Event) :
    (h.changed change).changed change' = h.changed (change'.1, change.2 ++ change'.2) := by
  simp [changed, told]

end Handled

/-- Changes of the workspace one after the other are one change. -/
theorem Handler.run_forM_change {α : Type} (step : Workspace → α → Workspace × List Event)
    (l : List α) (h : Handled) : (l.forM fun a => change (step · a)).run h
      = (.ok (), h.changed (chain step h.server.workspace l)) := by
  induction l generalizing h with
  | nil => exact congrArg (Prod.mk _) Handled.changed_nothing.symm
  | cons a rest ih =>
    show (change (step · a) >>= fun _ => rest.forM fun a => change (step · a)).run h = _
    rw [run_bind, run_change]
    exact (ih _).trans (congrArg (Prod.mk _) (Handled.changed_changed _ _))

/-! ## Steps -/

/-- What a handler can do at a time. -/
inductive Handled.Step (h : Handled) : Handled → Prop
  | clearIssues : Step h (h.changed h.server.workspace.clearIssues)
  | clearFolder (r : FolderRef) :
      Step h (h.changed (h.server.workspace.onFolder r Folder.clear))
  | clearFile (r : FolderRef) (path : String) :
      Step h (h.changed (h.server.workspace.onFolder r fun f =>
        f.clearFile h.server.workspace.hasInline path))
  | removeFolder (f : EditorFolder) :
      Step h (h.changed (h.server.workspace.removeEditorFolder f))
  | addFolder (f : EditorFolder) :
      Step h (h.changed ((h.server.workspace.addEditorFolder f).1, []))
  | applySettings (next : Settings) : Step h (h.changed (h.server.workspace.applySettings next))
  | forgetNamed (name : String) : Step h (h.changed (h.server.workspace.forgetNamed name))
  | start (t : Task) : Step h (h.started t)
  | dropHovers : Step h h.dropped
  | openUrl (url : Url) : Step h (h.asked url)
  | readInline (path : String) (range : Range) :
      Step h (h.told (Folder.inlineValues h.server.workspace.scanner.inline path range).2)

abbrev Handled.Steps : Handled → Handled → Prop := Relation.ReflTransGen Handled.Step

/-- What each step keeps is kept by all of them. -/
theorem Handled.Steps.induction {motive : Handled → Prop} {h h' : Handled} (hsteps : h.Steps h')
    (hh : motive h) (hstep : ∀ h h', motive h → h.Step h' → motive h') : motive h' := by
  induction hsteps with
  | refl => exact hh
  | tail _ hlast ih => exact hstep _ _ ih hlast

namespace Handler

variable {α β : Type} {x : Handler α} {f : α → Handler β}

/-- How things stand after a handler, as far as it comes, is so related to how they stood before. -/
def Leads (R : Handled → Handled → Prop) (x : Handler α) : Prop := ∀ h, R h (x.run h).2

/-- A handler reads and does nothing else. -/
def Idle (x : Handler α) : Prop := x.Leads Eq

/-- A handler goes by steps. -/
def Stepwise (x : Handler α) : Prop := x.Leads Handled.Steps

theorem Leads.bind {R : Handled → Handled → Prop}
    (htrans : ∀ {h h' h''}, R h h' → R h' h'' → R h h'') (hx : x.Leads R)
    (hf : ∀ a, (f a).Leads R) : (x >>= f).Leads R := by
  intro h
  have hfirst := hx h
  rw [run_bind]
  rcases hrun : x.run h with ⟨fault | a, h'⟩ <;> rw [hrun] at hfirst
  · exact hfirst
  · exact htrans hfirst (hf a h')

theorem idle_pure (a : α) : (pure a : Handler α).Idle := fun _ => rfl

theorem idle_throw (fault : ServerFault) : (throw fault : Handler α).Idle := fun _ => rfl

theorem idle_read (e : Except ServerFault α) : (liftM e : Handler α).Idle := fun _ => rfl

theorem idle_get : (get : Handler Handled).Idle := fun _ => rfl

theorem idle_workspace : workspace.Idle := fun _ => rfl

theorem Idle.bind (hx : x.Idle) (hf : ∀ a, (f a).Idle) : (x >>= f).Idle :=
  Leads.bind Eq.trans hx hf

theorem Idle.leads {R : Handled → Handled → Prop} (hrefl : ∀ h, R h h) (hx : x.Idle) :
    x.Leads R := by
  intro h
  rw [← hx h]
  exact hrefl h

theorem Idle.stepwise (hx : x.Idle) : x.Stepwise := hx.leads fun _ => .refl

theorem Stepwise.bind (hx : x.Stepwise) (hf : ∀ a, (f a).Stepwise) : (x >>= f).Stepwise :=
  Leads.bind .trans hx hf

theorem Stepwise.forM {x : α → Handler Unit} (hx : ∀ a, (x a).Stepwise) (l : List α) :
    (l.forM x).Stepwise := by
  induction l with
  | nil => exact (idle_pure ()).stepwise
  | cons a rest ih => exact (hx a).bind fun _ => ih

theorem stepwise_change {op : Workspace → Workspace × List Event}
    (hop : ∀ h : Handled, h.Step (h.changed (op h.server.workspace))) : (change op).Stepwise :=
  fun h => .single (hop h)

theorem stepwise_start (t : Task) : (start t).Stepwise := fun _ => .single (.start t)

end Handler

namespace Server

open Handler

theorem idle_hover (params : Json) : (hover params).Idle :=
  (idle_read _).bind fun _ => (idle_read _).bind fun _ => idle_get.bind fun _ => idle_pure _

theorem idle_codeActions (params : Json) : (codeActions params).Idle := by
  refine (idle_read _).bind fun r => (idle_read _).bind fun path =>
    idle_workspace.bind fun w => ?_
  split <;> exact idle_pure _

theorem stepwise_inlineValues (params : Json) : (inlineValues params).Stepwise := by
  refine (idle_read _).stepwise.bind fun r => (idle_read _).stepwise.bind fun path h => ?_
  rw [run_bind, run_workspace]
  dsimp only
  split
  · exact .refl
  · refine .head (.readInline path r.range) ?_
    exact (idle_read _).stepwise.bind (fun _ => (idle_pure _).stepwise) _

theorem stepwise_perform (r : CommandRequest) : (perform r).Stepwise := by
  unfold perform
  split
  · exact (stepwise_change fun _ => .clearIssues).bind fun _ => stepwise_start _
  split
  · refine (idle_read _).stepwise.bind fun path => idle_workspace.stepwise.bind fun w => ?_
    split
    · exact (idle_throw _).stepwise
    · exact (stepwise_change fun _ => .clearFolder _).bind fun _ => stepwise_start _
  split
  · exact (stepwise_change fun _ => .clearIssues).bind fun _ _ => .single .dropHovers
  split
  · split
    · exact (idle_throw _).stepwise
    · exact (idle_read _).stepwise.bind fun url _ => .single (.openUrl url)
  · exact (idle_throw _).stepwise

theorem stepwise_executeCommand (params : Json) : (executeCommand params).Stepwise :=
  (idle_read _).stepwise.bind fun r => (stepwise_perform r).bind fun _ => (idle_pure _).stepwise

theorem stepwise_requestHandler {r : Request} {x : Handler Json}
    (hx : requestHandler? r = some x) : x.Stepwise := by
  unfold requestHandler? at hx
  split_ifs at hx <;> obtain rfl := Option.some.inj hx
  · exact (idle_hover r.params).stepwise
  · exact (idle_codeActions r.params).stepwise
  · exact stepwise_inlineValues r.params
  · exact stepwise_executeCommand r.params

theorem stepwise_didOpen (params : Json) : (didOpen params).Stepwise :=
  (idle_read _).stepwise.bind fun _ => (idle_read _).stepwise.bind fun _ => stepwise_start _

theorem stepwise_didSave (params : Json) : (didSave params).Stepwise := by
  refine (idle_read _).stepwise.bind fun url => (idle_read _).stepwise.bind fun path =>
    idle_workspace.stepwise.bind fun w => ?_
  split
  · exact (idle_pure _).stepwise
  · exact (stepwise_change fun _ => .clearFile _ path).bind fun _ => stepwise_start _

theorem stepwise_openFolder (f : EditorFolder) : (openFolder f).Stepwise := by
  refine Stepwise.bind (fun _ => .single (.addFolder f)) fun folder => ?_
  split
  · exact stepwise_start _
  · exact (idle_pure _).stepwise

theorem stepwise_didChangeFolders (params : Json) : (didChangeFolders params).Stepwise :=
  (idle_read _).stepwise.bind fun c =>
    (Stepwise.forM (fun f => stepwise_change fun _ => .removeFolder f) c.removed).bind fun _ =>
      .forM stepwise_openFolder c.added

theorem stepwise_didChangeSettings (params : Json) : (didChangeSettings params).Stepwise :=
  (idle_read _).stepwise.bind fun _ => idle_workspace.stepwise.bind fun _ =>
    (idle_read _).stepwise.bind fun _ => (idle_read _).stepwise.bind fun _ =>
      stepwise_change fun _ => .applySettings _

theorem stepwise_forget (names : List String) : (forget names).Stepwise :=
  Stepwise.forM (fun name => stepwise_change fun _ => .forgetNamed name) names

theorem stepwise_notificationHandler (n : Notification) : (notificationHandler n).Stepwise := by
  unfold notificationHandler
  split_ifs
  · exact stepwise_didOpen n.params
  · exact stepwise_didSave n.params
  · exact stepwise_didChangeFolders n.params
  · exact stepwise_didChangeSettings n.params
  · exact (idle_read _).stepwise.bind stepwise_forget
  · exact (idle_read _).stepwise.bind stepwise_forget
  · exact (idle_pure _).stepwise

/-! ## Messages -/

variable {s : Server} {h : Handled}

/-- A request comes to some steps and an answer. -/
theorem request_steps (s : Server) (r : Request) : ∃ h result, s.unchanged.Steps h
    ∧ s.request r = (h.told [reply r.id result]).handed := by
  unfold request
  split
  · rename_i x hx
    have hsteps := stepwise_requestHandler hx s.unchanged
    unfold answer
    split <;> rename_i hrun <;> rw [hrun] at hsteps <;> exact ⟨_, _, hsteps, rfl⟩
  · exact ⟨s.unchanged, _, .refl, rfl⟩

/-- A notification comes to some steps and perhaps a note. -/
theorem notify_steps (s : Server) (n : Notification) : ∃ h, ∃ notes : List UserNote,
    s.unchanged.Steps h ∧ s.notify n = (h.told (notes.map fun n => .send (.note n))).handed := by
  have hsteps := stepwise_notificationHandler n s.unchanged
  unfold notify
  split <;> rename_i h hrun <;> rw [hrun] at hsteps
  · exact ⟨h, [], hsteps, congrArg Handled.handed Handled.told_nothing.symm⟩
  · exact ⟨_, [_], hsteps, rfl⟩

/-- A request whose handler does not fail. -/
theorem request_of_run {r : Request} {x : Handler Json} {j : Json}
    (hx : requestHandler? r = some x) (hrun : x.run s.unchanged = (.ok j, h)) :
    s.request r = (h.told [reply r.id (.ok j)]).handed := by
  rw [request, hx]
  dsimp only [answer]
  rw [hrun]

/-- A command that does not fail is answered without a result. -/
theorem request_of_perform {r : Request} {c : CommandRequest}
    (hmethod : r.method = "workspace/executeCommand")
    (hread : CommandRequest.schema.readParams CommandRequest.ofJson r.params = .ok c)
    (hrun : (perform c).run s.unchanged = (.ok (), h)) :
    s.request r = (h.told [reply r.id (.ok .null)]).handed := by
  have hhandler : requestHandler? r = some (executeCommand r.params) := by
    simp [requestHandler?, hmethod]
  refine request_of_run hhandler ?_
  rw [executeCommand, run_read_bind hread, run_bind, hrun]
  rfl

/-- A notification whose handler does not fail. -/
theorem notify_of_run {n : Notification}
    (hrun : (notificationHandler n).run s.unchanged = (.ok (), h)) : s.notify n = h.handed := by
  rw [notify, hrun]

end Server

end ScanRelay
