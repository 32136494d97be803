import ScanRelay.Proofs.Sessions
import ScanRelay.Proofs.UrlText
import ScanRelay.Proofs.View

/-!
# Looking up a published file

Issues and hovers are kept under paths, and an editor asks for them by the URL of the file. The text
of that URL is read back to a path, which is the one that the issues are kept under only if a
scanner spelt it plainly (`lookups_of_published_file`). For another spelling the editor has marks
and gets no answers (`respelt_file_not_found`).
-/

namespace ScanRelay

/-! ## The folder of a file -/

namespace Workspace

variable {w : Workspace}

theorem foldl_deeper_map {op : Folder → Folder} (hop : ∀ f, (op f).path = f.path)
    (fs : List Folder) (best : Option Folder) :
    (fs.map op).foldl deeper (best.map op) = (fs.foldl deeper best).map op := by
  induction fs generalizing best with
  | nil => rfl
  | cons f rest ih =>
    have hdeeper : deeper (best.map op) (op f) = (deeper best f).map op := by
      cases best with
      | none => rfl
      | some b =>
        simp only [deeper, Option.map_some, hop]
        split <;> rfl
    rw [List.map_cons, List.foldl_cons, List.foldl_cons, hdeeper, ih]

/-- A change of folders that keeps their paths does not change which of them a file is in. -/
theorem folderContaining_map {op : Folder → Folder} (hop : ∀ f, (op f).path = f.path)
    {w' : Workspace} (h : w'.folders.values = w.folders.values.map op) (path : String) :
    w'.folderContaining path = (w.folderContaining path).map op := by
  have hcontains : (fun f : Folder => f.contains path) ∘ op = fun f => f.contains path := by
    funext f
    simp [Folder.contains, hop]
  rw [folderContaining, h, List.filter_map, hcontains]
  exact foldl_deeper_map hop _ none

theorem mem_keys_putBack (w : Workspace) (f : Folder) (k : String) :
    k ∈ (w.putBack f).folders.keys ↔ k ∈ w.folders.keys := by
  unfold putBack
  split
  · rename_i g hg
    split
    · rw [Table.mem_keys_insert]
      exact or_iff_right_of_imp fun hk => hk ▸ Table.mem_keys_iff.2 ⟨g, hg⟩
    · rfl
  · rfl

/-- Which folder a file is in depends on the paths of the folders alone. -/
theorem folderContaining_of_keys {v : Workspace}
    (hw : ∀ k b, w.folders.get? k = some b → b.path = k)
    (hv : ∀ k b, v.folders.get? k = some b → b.path = k)
    (hkeys : ∀ k, k ∈ v.folders.keys ↔ k ∈ w.folders.keys) {path : String} {f g : Folder}
    (hf : w.folderContaining path = some f) (hg : v.folders.get? f.path = some g) :
    v.folderContaining path = some g := by
  let namesake (b : Folder) : Folder := (v.folders.get? b.path).getD b
  have hnamesake : ∀ b, (namesake b).path = b.path := by
    intro b
    simp only [namesake]
    cases hb : v.folders.get? b.path with
    | none => rfl
    | some b' => exact hv _ b' hb
  have hpaths : w.folders.keys = w.folders.values.map Folder.path := by
    rw [Table.keys, Table.values, List.map_map]
    exact List.map_congr_left fun e he => (hw _ _ (Table.mem_entries_iff.1 he)).symm
  have hvalues : v.folders.values = w.folders.values.map namesake := by
    rw [Table.values_eq_filterMap, Table.keys_eq_of_mem_iff hkeys, hpaths, List.filterMap_map,
      ← List.filterMap_eq_map]
    refine List.filterMap_congr fun b hb => ?_
    have hkey : b.path ∈ v.folders.keys := by
      rw [hkeys, hpaths]
      exact List.mem_map_of_mem hb
    obtain ⟨b', hb'⟩ := Table.mem_keys_iff.1 hkey
    simp [namesake, hb']
  rw [folderContaining_map hnamesake hvalues, hf]
  simp [namesake, hg]

/-- The folder that a file is in is still that folder after an operation on it. -/
theorem Orderly.folderContaining_onFolder (h : w.Orderly) {path : String} {f : Folder}
    (hf : w.folderContaining path = some f) {op : Folder → Folder × List Event}
    (hop : (op f).1.ref = f.ref) :
    (w.onFolder f.ref op).1.folderContaining path = some (op f).1 := by
  have hpath : (op f).1.path = f.path := congrArg FolderRef.path hop
  have hstamp : (op f).1.stamp = f.stamp := congrArg FolderRef.stamp hop
  have hk : w.folders.get? f.path = some f := h.get?_of_containing hf
  have hput : w.putBack (op f).1 = { w with folders := w.folders.insert f.path (op f).1 } := by
    rw [putBack_of_open (by rwa [hpath]) hstamp.symm, hpath]
  have hget : ∀ k, (w.putBack (op f).1).folders.get? k
      = if k = f.path then some (op f).1 else w.folders.get? k := by
    rw [hput]
    exact fun k => Table.get?_insert _ _ _ _
  have honFolder := h.onFolder_of_containing hf op
  obtain ⟨log, hlives⟩ := h
  rw [honFolder]
  refine folderContaining_of_keys hlives.keyed ?_ (w.mem_keys_putBack _) hf ?_
  · intro k b hb
    rw [hget] at hb
    split at hb
    · rename_i hkey
      rw [← Option.some.inj hb, hpath, hkey]
    · exact hlives.keyed k b hb
  · rw [hget, if_pos rfl]

end Workspace

/-! ## Requests about a file -/

/-- The text of a file's URL names a path: the one that it was made from, if that is spelt
plainly. -/
theorem exists_filePathOf_toText {p : String} {u : Url} (hu : Url.ofFilePath? p = some u) :
    ∃ q, filePathOf u.toText = .ok q ∧ (q = p ↔ Path.Plain p) := by
  obtain ⟨v, q, hv, hq, hiff⟩ := Url.exists_toFilePath?_parse hu
  refine ⟨q, ?_, hiff⟩
  simp only [filePathOf, hv, orFault]
  exact Url.filePath_of_toFilePath? hq

/-- The text of a hover over issues, with the range of the first. -/
def HoverText.ofIssues : List Issue → Option HoverText
  | [] => none
  | i :: rest =>
    some ⟨HoverTable.separator.intercalate ((i :: rest).map Issue.hoverText), i.range⟩

theorem HoverTable.textAt_of_get? {t : HoverTable} {p : String} {issues : List Issue}
    (h : t.get? p = entryOf (issues.map Hover.ofIssue)) (position : Position) :
    t.textAt p position
      = HoverText.ofIssues (issues.filter fun i => i.range.contains position) := by
  rw [textAt, hoversAt_of_get? h]
  generalize issues.filter (fun i => i.range.contains position) = around
  cases around with
  | nil => rfl
  | cons i rest => simp [HoverText.ofIssues, Hover.ofIssue, Function.comp_def]

namespace Server

/-- The parameters name a document by this text. -/
def Names (params : Json) (text : String) : Prop :=
  (params.field 0 "textDocument").field 0 "uri" = .text text

/-- The actions that are offered for a part of a file. -/
def actionsAt (s : Server) (path : String) (range : Range) : List Json :=
  match s.workspace.folderContaining path with
  | none => []
  | some f => (f.issuesFor path range).filterMap fun i => i.descriptionUrl.map (action i)

variable {s : Server} {params : Json} {text q : String}

theorem filePath_urlOf (hname : Names params text) (hq : filePathOf text = .ok q) :
    (Params.urlOf (params.field 0 "textDocument")).filePath = .ok q := by
  rw [Params.urlOf, hname, Json.asUrl, Json.asText, Json.text?]
  unfold filePathOf at hq
  rcases hparse : Url.parse text with e | u
  · simp [hparse, orFault, bind, Except.bind] at hq
  · simpa [hparse, orFault, bind, Except.bind] using hq

/-- A request for actions is answered for the path that its URL names. -/
theorem request_codeAction {r : RangeRequest}
    (hread : RangeRequest.actionSchema.readParams RangeRequest.ofJson params = .ok r)
    (hname : Names params text) (hq : filePathOf text = .ok q) (id : RequestId) :
    (s.request ⟨id, "textDocument/codeAction", params⟩).events
      = [reply id (.ok (.array (s.actionsAt q r.range)))] := by
  have hpath : r.url.filePath = .ok q :=
    (Schema.of_readParams_eq_ok hread).2 ▸ filePath_urlOf hname hq
  have hrun : (codeActions params).run s.unchanged
      = (.ok (.array (s.actionsAt q r.range)), s.unchanged) := by
    unfold codeActions actionsAt
    rw [Handler.run_read_bind hread, Handler.run_read_bind hpath, Handler.run_bind,
      Handler.run_workspace]
    dsimp only [unchanged]
    rcases s.workspace.folderContaining q with _ | f <;> rfl
  rw [request_of_run (x := codeActions params) rfl hrun]
  rfl

/-- A request for a hover is answered for the path that its URL names. -/
theorem request_hover {r : HoverRequest}
    (hread : HoverRequest.schema.readParams HoverRequest.ofJson params = .ok r)
    (hname : Names params text) (hq : filePathOf text = .ok q) (id : RequestId) :
    (s.request ⟨id, "textDocument/hover", params⟩).events
      = [reply id (.ok (.ofOption HoverText.toJson (s.hovers.table.textAt q r.position)))] := by
  have hpath : r.url.filePath = .ok q :=
    (Schema.of_readParams_eq_ok hread).2 ▸ filePath_urlOf hname hq
  have hrun : (hover params).run s.unchanged
      = (.ok (.ofOption HoverText.toJson (s.hovers.table.textAt q r.position)), s.unchanged) := by
    unfold hover
    rw [Handler.run_read_bind hread, Handler.run_read_bind hpath]
    rfl
  rw [request_of_run (x := hover params) rfl hrun]
  rfl

/-- The server when a folder has taken in a report and all hovers are taken up. -/
def afterReport (s : Server) (folder : FolderRef) (order : VisitOrder) (r : ScanReport) : Server :=
  let change := s.workspace.onFolder folder fun f => f.processIn order s.workspace.settings r
  s.follow ⟨change.1, (), change.2⟩

end Server

/-! ## After a scan -/

/-- A file that is shown has in any table the hovers that it is shown with. -/
theorem HoverTable.get?_applyAll_of_shown (t : HoverTable) {files : List Exhibit} {p : String}
    {issues : List Issue} (h : ∀ e ∈ files, e.1 = p → e.2 = issues) (hp : ∃ e ∈ files, e.1 = p) :
    (t.applyAll (files.map fun e => .ofIssues e.1 e.2)).get? p
      = entryOf (issues.map Hover.ofIssue) := by
  rw [get?_applyAll]
  split
  · rename_i d hd
    obtain ⟨hmem, hdp⟩ := List.mem_filter.1 (List.mem_of_getLast? hd)
    obtain ⟨e, he, rfl⟩ := List.mem_map.1 hmem
    have hep : e.1 = p := of_decide_eq_true hdp
    rw [HoverDocument.ofIssues, h e he hep]
  · rename_i hnone
    obtain ⟨e, he, hep⟩ := hp
    simp only [List.getLast?_eq_none_iff, List.filter_eq_nil_iff, List.forall_mem_map] at hnone
    exact absurd (decide_eq_true hep) (hnone e he)

theorem Folder.shows_processIn {r : ScanReport} {issues : List Issue} (hr : r.outcome = .ok issues)
    (order : VisitOrder) (s : Settings) (f : Folder) :
    Shows (f.processIn order s r).2 ((f.processIn order s r).1.exhibits s) := by
  rw [processIn_eq]
  rw [hr]
  exact (Shows.telemetry _).append (shows_publish s _ _)

/-- A report publishes every file that is cached then, under its URL. -/
theorem Folder.mem_diagnostics_processIn {r : ScanReport} {issues : List Issue}
    (hr : r.outcome = .ok issues) {order : VisitOrder} {s : Settings} {f : Folder} {p : String}
    {u : Url} (hu : Url.ofFilePath? p = some u) (hp : p ∈ (f.processIn order s r).1.cache.keys) :
    .ofIssues u ((f.processIn order s r).1.visible s p)
      ∈ Event.diagnostics (f.processIn order s r).2 := by
  obtain ⟨e, he, rfl⟩ := exists_mem_exhibits_iff (s := s).2 hp
  rw [(shows_processIn hr order s f).diagnostics]
  refine List.mem_filterMap.2 ⟨e, he, ?_⟩
  rw [Exhibit.diagnostics?, hu, mem_exhibits he]
  rfl

theorem Server.Ran.running {s : Server} {sent : List Message} (h : s.Ran sent) :
    s.hovers.running = true := by
  obtain ⟨settings, scanner, moves, -, -, hhovers, -⟩ := h
  rw [hhovers]
  exact (World.flows_run settings scanner moves).running

section Taken

variable {s : Server} {sent : List Message} (hs : s.Ran sent) {f : Folder} {p : String}
  (hf : s.workspace.folderContaining p = some f) (order : VisitOrder) (r : ScanReport)
include hs hf

theorem folderContaining_afterReport :
    (s.afterReport f.ref order r).workspace.folderContaining p
      = some (f.processIn order s.workspace.settings r).1 :=
  hs.orderly.folderContaining_onFolder hf
    (Operation.run_ref s.workspace.settings true f (.process order r))

/-- The hovers of a file are those of its visible issues. -/
theorem get?_hovers_afterReport {issues : List Issue} (hr : r.outcome = .ok issues)
    (hp : p ∈ (f.processIn order s.workspace.settings r).1.cache.keys) :
    (s.afterReport f.ref order r).hovers.table.get? p = HoverTable.entryOf
      (((f.processIn order s.workspace.settings r).1.visible s.workspace.settings p).map
        Hover.ofIssue) := by
  have htable : (s.afterReport f.ref order r).hovers.table
      = (s.hovers.table.applyAll s.hovers.queue).applyAll
        (Event.hovers (f.processIn order s.workspace.settings r).2) := by
    rw [Server.afterReport, hs.orderly.onFolder_of_containing hf]
    show ((s.hovers.sendAll _).settle).table = _
    rw [HoverService.sendAll_of_running hs.running]
    exact List.foldl_append
  rw [htable, (Folder.shows_processIn hr order s.workspace.settings f).hovers]
  refine HoverTable.get?_applyAll_of_shown _ (fun e he hep => ?_)
    (Folder.exists_mem_exhibits_iff.2 hp)
  rw [Folder.mem_exhibits he, hep]

end Taken

/-- What an editor gets for a file that was published. A folder has taken in a report and the hovers
are taken up. The file has diagnostics under a URL, and a request that names it by that URL is
answered for the path that the text of the URL names, which is the path of the file exactly when
that is spelt plainly. Under the path of the file are the actions for its cached issues that meet
the range, and the hover of its visible issues around the position, both in the order of the
cache. -/
theorem lookups_of_published_file {s : Server} {sent : List Message} (hs : s.Ran sent) {f : Folder}
    {p : String} (hf : s.workspace.folderContaining p = some f) (order : VisitOrder)
    {r : ScanReport} (hr : r.outcome.isOk)
    (hp : p ∈ (f.processIn order s.workspace.settings r).1.cache.keys)
    (habsolute : Path.isAbsolute p) :
    let g := (f.processIn order s.workspace.settings r).1
    let t := s.afterReport f.ref order r
    ∃ u q, Url.ofFilePath? p = some u ∧ .ofIssues u (g.visible s.workspace.settings p)
        ∈ Event.diagnostics (f.processIn order s.workspace.settings r).2
      ∧ filePathOf u.toText = .ok q ∧ (q = p ↔ Path.Plain p)
      ∧ (∀ id params request,
        RangeRequest.actionSchema.readParams RangeRequest.ofJson params = .ok request →
        Server.Names params u.toText →
        (t.request ⟨id, "textDocument/codeAction", params⟩).events
          = [Server.reply id (.ok (.array (t.actionsAt q request.range)))])
      ∧ (∀ id params request,
        HoverRequest.schema.readParams HoverRequest.ofJson params = .ok request →
        Server.Names params u.toText →
        (t.request ⟨id, "textDocument/hover", params⟩).events = [Server.reply id
          (.ok (.ofOption HoverText.toJson (t.hovers.table.textAt q request.position)))])
      ∧ (∀ range, t.actionsAt p range
        = ((g.cache.issuesOf p).filter fun i => i.range.overlaps range).filterMap fun i =>
            i.descriptionUrl.map (Server.action i))
      ∧ ∀ position, t.hovers.table.textAt p position = HoverText.ofIssues
        ((g.visible s.workspace.settings p).filter fun i => i.range.contains position) := by
  intro g t
  obtain ⟨issues, hok⟩ : ∃ issues, r.outcome = .ok issues := by
    rcases hout : r.outcome with e | issues
    · simp [hout, Except.isOk, Except.toBool] at hr
    · exact ⟨issues, rfl⟩
  obtain ⟨u, hu⟩ := Url.exists_ofFilePath? habsolute
  obtain ⟨q, hq, hplain⟩ := exists_filePathOf_toText hu
  refine ⟨u, q, hu, Folder.mem_diagnostics_processIn hok hu hp, hq, hplain,
    fun id params request hread hname => Server.request_codeAction hread hname hq id,
    fun id params request hread hname => Server.request_hover hread hname hq id,
    fun range => ?_, fun position => ?_⟩
  · rw [Server.actionsAt, folderContaining_afterReport hs hf]
    rfl
  · exact HoverTable.textAt_of_get? (get?_hovers_afterReport hs hf order r hok hp) position

namespace Sample

/-- A server with one folder, before any scan. -/
def server : Server := ⟨(start.run [.add "/a" "a"]).workspace, .new, false, 1⟩

theorem ran_server : server.Ran [] :=
  ⟨.standard "", ⟨.script [], none⟩, [.act (.add "/a" "a")], by simp [Act.isSilent], rfl, rfl, rfl⟩

/-- The folder before any scan. -/
def opened : Folder := .new "/a" "a" 0

/-- An issue with a description. -/
def described (path : String) : Issue :=
  { issue with path := path, descriptionUrl := some "rule:1" }

def reportOf (path : String) : ScanReport := ⟨some .code, .ok [described path], 0, none⟩

theorem toText_url : url.toText = "file:///a/x.js" := by decide +kernel

theorem plain_path : Path.Plain "/a/x.js" :=
  ⟨[.name "a", .name "x.js"], by decide +kernel, by decide, by decide +kernel⟩

theorem filePathOf_url : filePathOf "file:///a/x.js" = .ok "/a/x.js" := by
  obtain ⟨q, hq, hplain⟩ := exists_filePathOf_toText ofFilePath?_url
  rw [← toText_url, hq, hplain.2 plain_path]

/-- What an editor sends to ask about the begin of a file. -/
def question (uri : String) : Json :=
  let position : Json := .ofMembers [("line", .nat 0), ("character", .nat 0)]
  .ofMembers [("textDocument", .ofMembers [("uri", .text uri)]), ("position", position),
    ("range", .ofMembers [("start", position), ("end", position)]),
    ("context", .ofMembers [("diagnostics", .array [])])]

theorem names_question : Server.Names (question "file:///a/x.js") "file:///a/x.js" := rfl

theorem read_actionQuestion :
    RangeRequest.actionSchema.readParams RangeRequest.ofJson (question "file:///a/x.js")
      = .ok ⟨url, ⟨⟨0, 0⟩, ⟨0, 0⟩⟩⟩ :=
  rfl

theorem read_hoverQuestion :
    HoverRequest.schema.readParams HoverRequest.ofJson (question "file:///a/x.js")
      = .ok ⟨url, ⟨0, 0⟩⟩ :=
  rfl

end Sample

/-- A file that is spelt plainly is found. -/
theorem lookups_of_plain_file :
    let t := Sample.server.afterReport Sample.opened.ref .listed (Sample.reportOf "/a/x.js")
    (t.request ⟨.text "1", "textDocument/codeAction", Sample.question "file:///a/x.js"⟩).events
        = [Server.reply (.text "1")
          (.ok (.array [Server.action (Sample.described "/a/x.js") "rule:1"]))]
      ∧ (t.request ⟨.text "1", "textDocument/hover", Sample.question "file:///a/x.js"⟩).events
        = [Server.reply (.text "1")
          (.ok (HoverText.toJson ⟨"unsafe call", Sample.issue.range⟩))] := by
  intro t
  obtain ⟨u, q, hu, -, -, hplain, hactions, hhover, -, htextAt⟩ :=
    lookups_of_published_file Sample.ran_server (f := Sample.opened) (p := "/a/x.js") rfl .listed
      (r := Sample.reportOf "/a/x.js") rfl (by decide +kernel) (by decide)
  obtain rfl := Option.some.inj (hu.symm.trans Sample.ofFilePath?_url)
  obtain rfl : q = "/a/x.js" := hplain.2 Sample.plain_path
  have hone : HoverTable.separator.intercalate ["unsafe call"] = "unsafe call" := by
    decide +kernel
  have htext : t.hovers.table.textAt "/a/x.js" ⟨0, 0⟩
      = some ⟨HoverTable.separator.intercalate ["unsafe call"], Sample.issue.range⟩ :=
    htextAt ⟨0, 0⟩
  have hnames : Server.Names (Sample.question "file:///a/x.js") Sample.url.toText :=
    Sample.toText_url ▸ Sample.names_question
  refine ⟨hactions _ _ _ Sample.read_actionQuestion hnames,
    (hhover _ _ _ Sample.read_hoverQuestion hnames).trans ?_⟩
  show [Server.reply _ (.ok (.ofOption HoverText.toJson (t.hovers.table.textAt _ ⟨0, 0⟩)))] = _
  rw [htext, hone]
  rfl

/-- A scanner spells a path with two separators. The issue is shown under the URL of the file, and
requests that name the file by that URL get neither its action nor its hover. -/
theorem respelt_file_not_found :
    let report := Sample.reportOf "/a//x.js"
    let t := Sample.server.afterReport Sample.opened.ref .listed report
    .ofIssues Sample.url [Sample.described "/a//x.js"]
        ∈ Event.diagnostics (Sample.opened.processIn .listed (.standard "") report).2
      ∧ Sample.url.toText = "file:///a/x.js"
      ∧ (t.request ⟨.text "1", "textDocument/codeAction", Sample.question "file:///a/x.js"⟩).events
        = [Server.reply (.text "1") (.ok (.array []))]
      ∧ (t.request ⟨.text "1", "textDocument/hover", Sample.question "file:///a/x.js"⟩).events
        = [Server.reply (.text "1") (.ok .null)] := by
  intro report t
  have hkey : "/a//x.js"
      ∈ (Sample.opened.processIn .listed (.standard "") report).1.cache.keys := by
    decide +kernel
  refine ⟨?_, Sample.toText_url, ?_, ?_⟩
  · exact Folder.mem_diagnostics_processIn rfl (by decide +kernel) hkey
  · have hnone : t.actionsAt "/a/x.js" ⟨⟨0, 0⟩, ⟨0, 0⟩⟩ = [] := by
      rw [Server.actionsAt, folderContaining_afterReport Sample.ran_server (f := Sample.opened) rfl]
      rfl
    rw [Server.request_codeAction Sample.read_actionQuestion Sample.names_question
      Sample.filePathOf_url (.text "1"), hnone]
  · have hnone : t.hovers.table.get? "/a/x.js"
        = HoverTable.entryOf (([] : List Issue).map Hover.ofIssue) := by
      decide +kernel
    rw [Server.request_hover Sample.read_hoverQuestion Sample.names_question
      Sample.filePathOf_url (.text "1"), HoverTable.textAt_of_get? hnone]
    rfl

end ScanRelay
