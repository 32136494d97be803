import ScanRelay.Proofs.Merging
import ScanRelay.Proofs.Removal
import ScanRelay.Proofs.Sessions
import ScanRelay.Proofs.UrlText
import ScanRelay.Proofs.View

/-!
# Saving a file

When a file is saved, the folder that it is routed to forgets it. From then on a folder that has no
issues of the file gets none of it but from its scans, and shows none but those
(`save_forgets_in_one_folder`). Other folders keep what they had, so where folders lie in one
another a finding from before the save may stay (`outer_folder_keeps_saved_file`).
-/

namespace ScanRelay

/-! ## Issues of one file -/

/-- The issues in what is sent about the ends of scans. -/
def Event.told (es : List Event) : List Issue :=
  es.flatMap fun
    | send (.scanStatus status) => status.issues
    | _ => []

theorem Event.told_append (es fs : List Event) : told (es ++ fs) = told es ++ told fs :=
  List.flatMap_append

theorem Event.told_eq_nil_of_flatMap {α : Type} {g : α → List Event} {l : List α}
    (h : ∀ a ∈ l, told (g a) = []) : told (l.flatMap g) = [] := by
  rw [told, List.flatMap_assoc]
  exact List.flatMap_eq_nil_iff.2 h

theorem Publish.told_file (path : String) (issues : List Issue) :
    Event.told (file path issues) = [] := by
  unfold file diagnostics
  split <;> rfl

/-- What is told of a folder is visible in it. -/
theorem Publish.exists_of_told_folder {path : String} {product : Option Product}
    {files : List (String × List Issue)} {filter : FilterSettings} {i : Issue}
    (h : i ∈ Event.told (folder path product files filter)) :
    ∃ e ∈ files, i ∈ filter.visible e.2 := by
  unfold folder at h
  dsimp only at h
  generalize hshown : (files.mergeSort fun a b => a.1 ≤ b.1).map (fun f =>
    (f.1, filter.visible f.2)) = shown at h
  have hdiagnostics : Event.told (shown.flatMap fun f => diagnostics f.1 f.2) = [] :=
    Event.told_eq_nil_of_flatMap fun f _ => by
      unfold diagnostics
      split <;> rfl
  have hhovers : Event.told (shown.flatMap fun f => hover f.1 f.2) = [] :=
    Event.told_eq_nil_of_flatMap fun f _ => rfl
  have hresult : ∀ issues, Event.told [scanResult path product issues] = issues :=
    fun issues => List.append_nil issues
  rw [Event.told_append, Event.told_append, hdiagnostics, hhovers, hresult] at h
  have hmem : i ∈ shown.flatMap (·.2) := by
    unfold ofProduct at h
    split at h
    · exact (List.mem_filter.1 h).1
    · exact h
  obtain ⟨e, he, hi⟩ := List.mem_flatMap.1 hmem
  rw [← hshown] at he
  obtain ⟨e', he', rfl⟩ := List.mem_map.1 he
  exact ⟨e', List.mem_mergeSort.1 he', hi⟩

/-- Of the file, the events show and tell only issues with a property. -/
structure ShowsOnly (path : String) (good : Issue → Prop) (es : List Event) : Prop where
  shown : ∃ files, Shows es files ∧ ∀ e ∈ files, e.1 = path → ∀ i ∈ e.2, good i
  told : ∀ i ∈ Event.told es, i.path = path → good i

/-- Of the file, a folder has only cached issues with a property, and shows no others. -/
structure Keeps (path : String) (good : Issue → Prop) (next : Folder × List Event) : Prop where
  cached : ∀ i ∈ next.1.cache.issuesOf path, good i
  shown : ShowsOnly path good next.2

namespace ShowsOnly

variable {path : String} {good good' : Issue → Prop} {es fs : List Event} {files : List Exhibit}

/-- Events that tell nothing of a scan. -/
theorem of_untold (hshows : Shows es files)
    (hfiles : ∀ e ∈ files, e.1 = path → ∀ i ∈ e.2, good i) (htold : Event.told es = []) :
    ShowsOnly path good es :=
  ⟨⟨files, hshows, hfiles⟩, by simp [htold]⟩

theorem nil : ShowsOnly path good [] := .of_untold .nil (by simp) rfl

theorem append (h : ShowsOnly path good es) (h' : ShowsOnly path good fs) :
    ShowsOnly path good (es ++ fs) := by
  obtain ⟨xs, hxs, hgood⟩ := h.shown
  obtain ⟨ys, hys, hgood'⟩ := h'.shown
  refine ⟨⟨xs ++ ys, hxs.append hys, List.forall_mem_append.2 ⟨hgood, hgood'⟩⟩, ?_⟩
  rw [Event.told_append]
  exact List.forall_mem_append.2 ⟨h.told, h'.told⟩

theorem mono (h : ShowsOnly path good es) (hmono : ∀ i, good i → good' i) :
    ShowsOnly path good' es := by
  obtain ⟨files, hshows, hgood⟩ := h.shown
  exact ⟨⟨files, hshows, fun e he hp i hi => hmono i (hgood e he hp i hi)⟩,
    fun i hi hp => hmono i (h.told i hi hp)⟩

/-- Among the events of all folders, those of one folder concern that folder alone. -/
theorem signed {stamp stamp' : Nat} (h : stamp' = stamp → ShowsOnly path good es) :
    ShowsOnly path good (share stamp (ScanRelay.signed stamp' es)) := by
  by_cases hstamp : stamp' = stamp
  · rw [hstamp, share_signed_self]
    exact h hstamp
  · rw [share_signed_of_ne hstamp]
    exact .nil

end ShowsOnly

/-! ## Operations -/

/-- The issues that a scan has found. -/
def ScanReport.found (r : ScanReport) : List Issue :=
  match r.outcome with
  | .ok issues => issues
  | .error _ => []

/-- The issues that a scan has found, when the operation is its return. -/
def Operation.reported : Operation → List Issue
  | endFolderScan _ false r | endFileScan _ false r | process _ r => r.found
  | _ => []

/-- A merge adds nothing but issues of the batch. -/
theorem Cache.mem_issuesOf_mergeIn {files : List String} {c : Cache} {t : Tally}
    {batch : List Issue} {p : String} {i : Issue}
    (h : i ∈ (mergeIn files c t batch).cache.issuesOf p) :
    i ∈ c.issuesOf p ∨ i ∈ batch ∧ i.path = p := by
  rw [(mergeIn_grows files c t batch).issues] at h
  refine (List.mem_append.1 h).imp_right fun h => ?_
  obtain ⟨hi, hp⟩ := List.mem_filter.1 h
  obtain ⟨q, -, hq⟩ := List.mem_flatMap.1 (firsts_subset hi)
  exact ⟨(List.mem_filter.1 hq).1, of_decide_eq_true hp⟩

namespace Folder

variable {path : String} {good : Issue → Prop} {s : Settings} {f : Folder}
  (h : ∀ i ∈ f.cache.issuesOf path, good i)
include h

theorem keeps_publish (hsound : f.cache.Sound) (product : Option Product) :
    Keeps path good (f, f.publish s product) := by
  refine ⟨h, ⟨_, f.shows_publish s product, fun e he hp i hi => ?_⟩, fun i hi hp => ?_⟩
  · rw [mem_exhibits he, hp] at hi
    exact h i (List.mem_filter.1 hi).1
  · -- What is told comes from any file, so the cache has to be sound.
    obtain ⟨e, he, hvisible⟩ := Publish.exists_of_told_folder hi
    have hmem : i ∈ f.cache.issuesOf e.1 :=
      Cache.issuesOf_eq_of_mem he ▸ (List.mem_filter.1 hvisible).1
    have hkeyed : i.path = e.1 := hsound.keyed e.1 i hmem
    exact h i (hp ▸ hkeyed ▸ hmem)

theorem keeps_processIn (hsound : f.cache.Sound) (order : VisitOrder) {r : ScanReport}
    (hr : ∀ i ∈ r.found, i.path = path → good i) :
    Keeps path good (f.processIn order s r) := by
  unfold ScanReport.found at hr
  rw [processIn_eq]
  rcases hout : r.outcome with e | issues <;> rw [hout] at hr
  · exact ⟨h, .of_untold (.scanStatus _) (by simp) rfl⟩
  · let files := order.arrange (Cache.filesOf issues)
    have hmerged : ∀ i ∈ (Cache.mergeIn files f.cache .empty issues).cache.issuesOf path, good i :=
      fun i hi => (Cache.mem_issuesOf_mergeIn hi).elim (h i) fun hi => hr i hi.1 hi.2
    have hpublish := keeps_publish (s := s) (f := { f with cache := _ }) hmerged
      (Cache.mergeIn_sound hsound files .empty issues) r.product
    refine ⟨hmerged, ShowsOnly.append (.of_untold (.telemetry _) (by simp) ?_) hpublish.shown⟩
    exact List.flatMap_eq_nil_iff.2 (List.forall_mem_map.2 fun _ _ => rfl)

theorem keeps_clearFile (inline : Bool) (p : String) : Keeps path good (f.clearFile inline p) := by
  refine ⟨fun i hi => ?_, ?_⟩
  · rw [clearFile, Cache.issuesOf_erase] at hi
    split at hi
    · exact absurd hi List.not_mem_nil
    · exact h i hi
  · refine .of_untold (f.shows_clearFile inline p) (by simp) ?_
    cases inline <;> exact Publish.told_file p []

theorem keeps_clearUnder (inline : Bool) (root : String) :
    Keeps path good (f.clearUnder inline root) := by
  refine clearUnder_induction (motive := fun g es => Keeps path good (g, es)) root ⟨h, .nil⟩ ?_
    fun g es hg => ⟨hg.cached, hg.shown⟩
  intro g es p hg
  have hclear := keeps_clearFile hg.cached inline p
  exact ⟨hclear.cached, hg.shown.append hclear.shown⟩

omit h in
theorem keeps_clear : Keeps path good f.clear := by
  refine ⟨fun i hi => absurd hi List.not_mem_nil, .of_untold
    (.flatMap f.cache.keys fun p _ => Publish.shows_clear p) (fun e he _ i hi => ?_)
    (Event.told_eq_nil_of_flatMap fun p _ => Publish.told_file p [])⟩
  obtain ⟨p, -, hep⟩ := List.mem_flatMap.1 he
  rw [List.mem_singleton.1 hep] at hi
  exact absurd hi List.not_mem_nil

theorem cached_removeCategory (c : Category) :
    ∀ i ∈ (f.removeCategory c).1.cache.issuesOf path, good i := by
  rw [issuesOf_removeCategory]
  exact fun i hi => h i (List.mem_filter.1 hi).1

theorem keeps_clearCategory (c : Category) : Keeps path good (f.clearCategory s c) := by
  have hcached := cached_removeCategory h c
  refine ⟨hcached, .of_untold (f.shows_clearCategory s c) (fun e he hp i hi => ?_)
    (Event.told_eq_nil_of_flatMap fun e _ => Publish.told_file e.1 _)⟩
  rw [mem_cleared he, hp] at hi
  exact hcached i (List.mem_filter.1 hi).1

/-- New settings bring no issues. -/
theorem keeps_applySettings (hsound : f.cache.Sound) (before next : Settings) :
    Keeps path good (f.applySettings before next) := by
  unfold applySettings
  generalize before.filter.issueTypes.newlyDisabled next.filter.issueTypes = disabled
  split
  · clear hsound
    induction disabled generalizing f with
    | nil => exact ⟨h, .nil⟩
    | cons c cs ih =>
      have hone := keeps_clearCategory (s := next) h c
      have hrest := ih hone.cached
      exact ⟨hrest.cached, hone.shown.append hrest.shown⟩
  · have hremoved : ∀ i ∈ (f.removeCategories disabled).cache.issuesOf path, good i := fun i hi =>
      h i (List.mem_filter.1 (f.issuesOf_removeCategories disabled path ▸ hi)).1
    have hsound' : (f.removeCategories disabled).cache.Sound :=
      hsound.of_sublist fun p => f.issuesOf_removeCategories disabled p ▸ List.filter_sublist
    refine ⟨hremoved, ?_⟩
    dsimp only
    split
    · exact .nil
    · exact (keeps_publish hremoved hsound' none).shown

end Folder

/-- A folder gets issues of a file from its scans only. A file that is shown again brings none,
since what is cached under its path is its own. -/
theorem Operation.run_keeps {path : String} {good : Issue → Prop} {s : Settings} {inline : Bool}
    {f : Folder} (hsound : f.cache.Sound) (h : ∀ i ∈ f.cache.issuesOf path, good i)
    {op : Operation} (hop : ∀ i ∈ op.reported, i.path = path → good i) :
    Keeps path good (op.run s inline f) := by
  cases op with
  | endFolderScan order cancelled r =>
    cases cancelled with
    | true => exact ⟨h, .nil⟩
    | false =>
      have hprocess := Folder.keeps_processIn (s := s) h hsound order hop
      exact ⟨hprocess.cached, hprocess.shown⟩
  | beginFileScan order p =>
    simp only [run]
    split
    · refine Folder.keeps_processIn h hsound order fun i hi hp => ?_
      have hkeyed : i.path = p := hsound.keyed p i hi
      exact h i (hp ▸ hkeyed ▸ hi)
    · exact ⟨h, .nil⟩
  | endFileScan order cancelled r =>
    cases cancelled with
    | true => exact ⟨h, .nil⟩
    | false => exact Folder.keeps_processIn h hsound order hop
  | process order r => exact Folder.keeps_processIn h hsound order hop
  | publish product => exact Folder.keeps_publish h hsound product
  | clearFile p => exact Folder.keeps_clearFile h inline p
  | clearUnder root => exact Folder.keeps_clearUnder h inline root
  | clear => exact Folder.keeps_clear
  | clearCategory c => exact Folder.keeps_clearCategory h c
  | removeCategory c => exact ⟨Folder.cached_removeCategory h c, .nil⟩

/-! ## Acts -/

/-- The act is that a scan of a folder with this stamp reports the issue. -/
def Act.Reports (stamp : Nat) (i : Issue) : Act → Prop
  | operate r op => r.stamp = stamp ∧ i ∈ op.reported
  | each op => ∃ f o, f.stamp = stamp ∧ op f = some o ∧ i ∈ o.reported
  | _ => False

namespace Workspace

/-- A folder that is open or was removed. -/
def Known (w : Workspace) (f : Folder) : Prop :=
  (∃ k, w.folders.get? k = some f) ∨ f ∈ w.retired

/-- Of a file, the folder with this stamp has only cached issues with a property. -/
def Caches (w : Workspace) (stamp : Nat) (path : String) (good : Issue → Prop) : Prop :=
  ∀ f, w.Known f → f.stamp = stamp → ∀ i ∈ f.cache.issuesOf path, good i

variable {w : Workspace} {stamp : Nat} {path : String} {good good' : Issue → Prop}

theorem Caches.mono (h : w.Caches stamp path good) (hmono : ∀ i, good i → good' i) :
    w.Caches stamp path good' :=
  fun f hf hstamp i hi => hmono i (h f hf hstamp i hi)

theorem known_putBack {f g : Folder} (h : (w.putBack g).Known f) : f = g ∨ w.Known f := by
  have hretired : ∀ {f}, (f ∈ w.retired.map fun f' => if f'.stamp = g.stamp then g else f') →
      f = g ∨ w.Known f := by
    intro f hf
    obtain ⟨f', hf', rfl⟩ := List.mem_map.1 hf
    split
    · exact .inl rfl
    · exact .inr (.inr hf')
  unfold putBack at h
  split at h
  · split at h
    · rcases h with ⟨k, hk⟩ | hf
      · rw [Table.get?_insert] at hk
        split at hk
        · exact .inl (Option.some.inj hk).symm
        · exact .inr (.inl ⟨k, hk⟩)
      · exact .inr (.inr hf)
    · exact h.elim (fun hk => .inr (.inl hk)) hretired
  · exact h.elim (fun hk => .inr (.inl hk)) hretired

theorem Caches.putBack (h : w.Caches stamp path good) {g : Folder}
    (hg : g.stamp = stamp → ∀ i ∈ g.cache.issuesOf path, good i) :
    (w.putBack g).Caches stamp path good := by
  intro f hf hstamp
  rcases known_putBack hf with rfl | hf
  · exact hg hstamp
  · exact h f hf hstamp

theorem Caches.add (h : w.Caches stamp path good) (p name : String) :
    (w.add p name).Caches stamp path good := by
  unfold Workspace.add
  split
  · exact h
  · rintro f (⟨k, hk⟩ | hf) hstamp
    · rw [Table.get?_insert] at hk
      split at hk
      · obtain rfl := Option.some.inj hk
        exact fun i hi => absurd hi List.not_mem_nil
      · exact h f (.inl ⟨k, hk⟩) hstamp
    · exact h f (.inr hf) hstamp

theorem Caches.remove (h : w.Caches stamp path good) (p : String) :
    (w.remove p).1.Caches stamp path good := by
  unfold Workspace.remove
  split
  · exact h
  · rename_i f _
    have hclear : Keeps path good f.clear := Folder.keeps_clear
    rintro g (⟨k, hk⟩ | hg) hstamp
    · rw [Table.get?_erase] at hk
      split at hk
      · exact absurd hk (by simp)
      · exact h g (.inl ⟨k, hk⟩) hstamp
    · rcases List.mem_cons.1 hg with rfl | hg
      · exact hclear.cached
      · exact h g (.inr hg) hstamp

/-- A step of the open folders, each of which keeps to the property. -/
theorem Caches.each (h : w.Caches stamp path good) (hapart : w.Apart)
    {op : Folder → Folder × List Event} {next : Workspace × List Entry} (hnext : w.Each op next)
    (href : ∀ f, (op f).1.ref = f.ref)
    (hop : ∀ k f, w.folders.get? k = some f → f.stamp = stamp → Keeps path good (op f)) :
    next.1.Caches stamp path good ∧ ShowsOnly path good (share stamp next.2) := by
  refine ⟨fun g hg hstamp => ?_, ?_⟩
  · rcases hg with ⟨k, hk⟩ | hg
    · rw [hnext.folders] at hk
      obtain ⟨f, hf, rfl⟩ := Option.map_eq_some_iff.1 hk
      exact (hop k f hf ((congrArg FolderRef.stamp (href f)).symm.trans hstamp)).cached
    · exact h g (.inr (hnext.retired ▸ hg)) hstamp
  · by_cases hopen : ∃ k f, w.folders.get? k = some f ∧ f.stamp = stamp
    · obtain ⟨k, f, hf, rfl⟩ := hopen
      rw [hnext.share hapart k f hf]
      exact (hop k f hf rfl).shown
    · rw [share_eq_nil]
      · exact .nil
      · intro e he heq
        obtain ⟨k, f, hf, hef⟩ := hnext.signed e he
        exact hopen ⟨k, f, hf, hef.symm.trans heq⟩

end Workspace

namespace Ledger

variable {l : Ledger} {stamp : Nat} {path : String} {good : Issue → Prop}

theorem Lives.sound (hl : l.Lives True) {f : Folder} (hf : l.workspace.Known f) :
    f.cache.Sound :=
  hf.elim (fun hf => (hl.life f hf).sound) fun hf => (hl.afterlife f hf).sound

/-- In one act a folder gets and shows issues of a file only from what its scans report. -/
theorem caches_act (hl : l.Lives True) (h : l.workspace.Caches stamp path good) {a : Act}
    (ha : ∀ i, a.Reports stamp i → i.path = path → good i) :
    (l.workspace.act a).1.Caches stamp path good
      ∧ ShowsOnly path good (share stamp (l.workspace.act a).2) := by
  cases a with
  | add p name => exact ⟨h.add p name, .nil⟩
  | remove p =>
    have hremoved := h.remove p
    rcases hf : l.workspace.folder? p with _ | f
    · rw [Workspace.act_remove_of_none hf]
      exact ⟨h, .nil⟩
    · simp only [Workspace.act, Workspace.remove, hf] at hremoved ⊢
      exact ⟨hremoved, .signed fun _ => Folder.keeps_clear.shown⟩
  | operate r op =>
    rcases hf : l.workspace.resolve r with _ | f
    · rw [Workspace.act_operate_of_none hf]
      exact ⟨h, .nil⟩
    · rw [Workspace.act_operate_of_some hf]
      obtain ⟨hfr, hopen⟩ := Workspace.resolve_cases hf
      have hknown : l.workspace.Known f := hopen.imp_left fun hk => ⟨_, hk⟩
      have hkeeps : r.stamp = stamp →
          Keeps path good (op.run l.workspace.settings l.workspace.hasInline f) := fun hr =>
        Operation.run_keeps (hl.sound hknown) (h f hknown (hfr.trans hr)) fun i hi => ha i ⟨hr, hi⟩
      refine ⟨h.putBack fun hstamp => (hkeeps ?_).cached, .signed fun hr => (hkeeps hr).shown⟩
      exact hfr.symm.trans ((op.run_stamp _ _ f).symm.trans hstamp)
  | each op =>
    refine h.each hl.apart (l.workspace.each_onEachSigned _)
      (fun f => Operation.ref_runIf _ _ f (op f)) fun k f hk hstamp => ?_
    have hknown : l.workspace.Known f := .inl ⟨k, hk⟩
    rcases ho : op f with _ | o
    · exact ⟨h f hknown hstamp, .nil⟩
    · exact Operation.run_keeps (hl.sound hknown) (h f hknown hstamp) fun i hi =>
        ha i ⟨f, o, hstamp, ho, hi⟩
  | configure next => exact ⟨h, .nil⟩
  | applySettings next =>
    exact h.each hl.apart (l.workspace.each_applySettingsSigned next)
      (fun f => f.ref_applySettings _ next) fun k f hk hstamp =>
        Folder.keeps_applySettings (h f (.inl ⟨k, hk⟩) hstamp) (hl.sound (.inl ⟨k, hk⟩)) _ next
  | advance scanner => exact ⟨h, .nil⟩

/-- From a moment at which a folder has no issues of a file, it gets and shows only issues of it
that its scans have reported since. -/
theorem caches_run (hl : l.Lives True) (h : l.workspace.Caches stamp path fun _ => False)
    (later : List Act) : (l.run later).workspace.Caches stamp path
        (fun i => ∃ a ∈ later, a.Reports stamp i)
      ∧ ShowsOnly path (fun i => ∃ a ∈ later, a.Reports stamp i)
        (share stamp (l.added later)) := by
  induction later using List.reverseRecOn with
  | nil =>
    have hnone : share stamp (l.added []) = [] := by simp [added, run, share]
    rw [hnone]
    exact ⟨fun f hf hstamp i hi => (h f hf hstamp i hi).elim, .nil⟩
  | append_singleton later a ih =>
    have hmono : ∀ i, (∃ b ∈ later, b.Reports stamp i) →
        ∃ b ∈ later ++ [a], b.Reports stamp i := by
      rintro i ⟨b, hb, hi⟩
      exact ⟨b, List.mem_append_left _ hb, hi⟩
    have hlives : (l.run later).Lives True :=
      List.foldlRecOn later step hl fun _ hl' b _ => hl'.step fun _ => trivial
    obtain ⟨hcached, hshown⟩ := caches_act hlives (ih.1.mono hmono) (a := a)
      fun i hi _ => ⟨a, by simp, hi⟩
    rw [run_append, added_concat, share_append]
    exact ⟨hcached, (ih.2.mono hmono).append hshown⟩

end Ledger

/-! ## The save -/

namespace Ledger

section Cleared

variable {l : Ledger} (hl : l.Lives True) {f : Folder}
  (hf : l.workspace.folders.get? f.path = some f) (path : String)

theorem putBack_clearFile (hf : l.workspace.folders.get? f.path = some f) :
    let g := (f.clearFile l.workspace.hasInline path).1
    l.workspace.putBack g
      = { l.workspace with folders := l.workspace.folders.insert f.path g } :=
  Workspace.putBack_of_open hf rfl

include hl hf

theorem step_clearFile : (l.step (.operate f.ref (.clearFile path))).workspace
    = l.workspace.putBack (f.clearFile l.workspace.hasInline path).1 := by
  have hresolve : l.workspace.resolve f.ref = some f :=
    Workspace.Orderly.resolve_of_get? ⟨l.log, hl⟩ hf
  exact congrArg Prod.fst (Workspace.act_operate_of_some hresolve (.clearFile path))

theorem get?_clearFile (k : String) :
    (l.step (.operate f.ref (.clearFile path))).workspace.folders.get? k
      = if k = f.path then some (f.clearFile l.workspace.hasInline path).1
        else l.workspace.folders.get? k := by
  rw [step_clearFile hl hf, putBack_clearFile path hf]
  exact Table.get?_insert _ _ _ _

/-- What is cached of the file after one folder has forgotten it was cached by another. -/
theorem cached_clearFile_iff :
    (∃ g, (l.step (.operate f.ref (.clearFile path))).Open g ∧ path ∈ g.cache.keys)
      ↔ ∃ g, l.Open g ∧ g.path ≠ f.path ∧ path ∈ g.cache.keys := by
  constructor
  · rintro ⟨g, ⟨k, hk⟩, hmem⟩
    rw [get?_clearFile hl hf path] at hk
    split at hk
    · obtain rfl := Option.some.inj hk
      exact absurd rfl (Cache.mem_keys_erase.1 hmem).1
    · rename_i hne
      exact ⟨g, ⟨k, hk⟩, hl.keyed k g hk ▸ hne, hmem⟩
  · rintro ⟨g, ⟨k, hk⟩, hne, hmem⟩
    refine ⟨g, ⟨k, ?_⟩, hmem⟩
    rw [get?_clearFile hl hf path, if_neg (hl.keyed k g hk ▸ hne), hk]

theorem caches_clearFile :
    (l.step (.operate f.ref (.clearFile path))).workspace.Caches f.stamp path fun _ => False := by
  rintro g (⟨k, hk⟩ | hg) hstamp i hi
  · rw [get?_clearFile hl hf path] at hk
    split at hk
    · obtain rfl := Option.some.inj hk
      rw [Folder.clearFile, Cache.issuesOf_erase, if_pos rfl] at hi
      exact absurd hi List.not_mem_nil
    · rename_i hne
      exact hne (hl.apart k g f.path f hk hf hstamp)
  · rw [step_clearFile hl hf, putBack_clearFile path hf] at hg
    exact hl.gone f ⟨_, hf⟩ g hg hstamp

end Cleared

end Ledger

namespace Server

variable {server : Server} {params : Json} {url : Url} {path : String} {f : Folder}

theorem run_didSave (hread : Params.savedSchema.readParams Params.documentOfJson params = .ok url)
    (hpath : url.filePath = .ok path) : (didSave params).run server.unchanged
      = (.ok (), match server.workspace.folderContaining path with
        | none => server.unchanged
        | some f =>
          (server.unchanged.changed (server.workspace.onFolder f.ref fun f =>
            f.clearFile server.workspace.hasInline path)).started (.single (.file path))) := by
  rw [didSave, Handler.run_read_bind hread, Handler.run_read_bind hpath, Handler.run_bind,
    Handler.run_workspace]
  dsimp only [unchanged]
  rcases server.workspace.folderContaining path with _ | f <;> rfl

/-- A save clears the file in the folder that it is routed to, and starts a scan of it. -/
theorem handled_didSave
    (hread : Params.savedSchema.readParams Params.documentOfJson params = .ok url)
    (hpath : url.filePath = .ok path) (hf : server.workspace.folderContaining path = some f) :
    let change := server.workspace.onFolder f.ref fun f =>
      f.clearFile server.workspace.hasInline path
    server.notify ⟨"textDocument/didSave", params⟩
      = ((server.unchanged.changed change).started (.single (.file path))).handed := by
  intro change
  refine notify_of_run ((run_didSave hread hpath).trans ?_)
  rw [hf]

theorem notify_didSave
    (hread : Params.savedSchema.readParams Params.documentOfJson params = .ok url)
    (hpath : url.filePath = .ok path) (hf : server.workspace.folderContaining path = some f) :
    let change := server.workspace.onFolder f.ref fun f =>
      f.clearFile server.workspace.hasInline path
    let h := server.notify ⟨"textDocument/didSave", params⟩
    h.server.workspace = change.1 ∧ h.events = change.2 := by
  intro change h
  rw [show h = _ from handled_didSave hread hpath hf]
  exact ⟨rfl, rfl⟩

/-- A save of a file outside of all folders does nothing. -/
theorem notify_didSave_outside
    (hread : Params.savedSchema.readParams Params.documentOfJson params = .ok url)
    (hpath : url.filePath = .ok path) (hf : server.workspace.folderContaining path = none) :
    server.notify ⟨"textDocument/didSave", params⟩ = server.unchanged := by
  have hrun : (didSave params).run server.unchanged = (.ok (), server.unchanged) := by
    rw [run_didSave hread hpath, hf]
  rw [notify_of_run (n := ⟨"textDocument/didSave", params⟩) hrun]
  rfl

end Server

/-- When a file is saved, after any run, one folder forgets it and shows it without issues: of those
around it the one that files are routed to, which has the longest path text. All others stay as they
were; so the file is still cached exactly if another folder had it. From then on, the folder that
forgot it, and each other that has no issues of it, has, shows and tells only issues of it that a
scan of that folder has reported since the save. -/
theorem save_forgets_in_one_folder (s : Settings) (scanner : Scanner) (before : List Act)
    {server : Server} (hserver : server.workspace = ((Ledger.start s scanner).run before).workspace)
    {params : Json} {url : Url} {path : String} {f : Folder}
    (hread : Params.savedSchema.readParams Params.documentOfJson params = .ok url)
    (hpath : url.filePath = .ok path) (hf : server.workspace.folderContaining path = some f) :
    let l := (Ledger.start s scanner).run before
    let saved := l.step (.operate f.ref (.clearFile path))
    let h := server.notify ⟨"textDocument/didSave", params⟩
    h.server.workspace = saved.workspace ∧ Shows h.events [(path, [])]
      ∧ (∀ k, k ≠ f.path → saved.workspace.folders.get? k = l.workspace.folders.get? k)
      ∧ ((∃ g, saved.Open g ∧ path ∈ g.cache.keys)
        ↔ ∃ g, l.Open g ∧ g.path ≠ f.path ∧ path ∈ g.cache.keys)
      ∧ saved.workspace.Caches f.stamp path (fun _ => False)
      ∧ ∀ stamp, saved.workspace.Caches stamp path (fun _ => False) → ∀ later,
        let reported (i : Issue) : Prop := ∃ a ∈ later, a.Reports stamp i
        (saved.run later).workspace.Caches stamp path reported
          ∧ ShowsOnly path reported (share stamp (saved.added later)) := by
  intro l saved h
  have hl : l.Lives True := Ledger.lives_run s scanner fun _ _ _ => trivial
  have horderly : server.workspace.Orderly := ⟨l.log, hserver ▸ hl⟩
  have hopen : l.workspace.folders.get? f.path = some f :=
    hserver ▸ horderly.get?_of_containing hf
  obtain ⟨hworkspace, hevents⟩ := Server.notify_didSave hread hpath hf
  rw [horderly.onFolder_of_containing hf, hserver] at hworkspace hevents
  refine ⟨?_, ?_, fun k hk => ?_, Ledger.cached_clearFile_iff hl hopen path,
    Ledger.caches_clearFile hl hopen path, fun stamp hgone later => ?_⟩
  · exact hworkspace.trans (Ledger.step_clearFile hl hopen path).symm
  · rw [hevents]
    exact f.shows_clearFile l.workspace.hasInline path
  · rw [Ledger.get?_clearFile hl hopen path, if_neg hk]
  · exact Ledger.caches_run (hl.step fun _ => trivial) hgone later

namespace Sample

/-- What an editor sends when a file is saved. -/
def savedFile (uri : String) : Json :=
  .ofMembers [("textDocument", .ofMembers [("uri", .text uri)])]

theorem filePath_url : url.filePath = .ok "/a/x.js" :=
  Url.filePath_of_toFilePath? (by decide +kernel)

theorem read_savedFile : Params.savedSchema.readParams Params.documentOfJson
    (savedFile "file:///a/x.js") = .ok url :=
  rfl

end Sample

/-- A file with an issue is saved, and the folder has and shows nothing of it. -/
theorem save_forgets_scanned_file :
    let server : Server := ⟨(Sample.start.run Sample.acts).workspace, .new, false, 1⟩
    let h := server.notify ⟨"textDocument/didSave", Sample.savedFile "file:///a/x.js"⟩
    Shows h.events [("/a/x.js", [])] ∧ h.server.workspace.Caches 0 "/a/x.js" fun _ => False := by
  intro server h
  have hserver : server.workspace = (Sample.start.run Sample.acts).workspace := rfl
  have hfolder : server.workspace.folderContaining "/a/x.js" = some Sample.folder := rfl
  obtain ⟨hworkspace, hshows, -, -, hforgets, -⟩ := save_forgets_in_one_folder (.standard "")
    ⟨.script [], none⟩ Sample.acts hserver Sample.read_savedFile Sample.filePath_url hfolder
  exact ⟨hshows, hworkspace ▸ hforgets⟩

namespace Sample

def innerIssue : Issue := found "1" "/a/b/x.js"

/-- A server with a folder in another. The outer one has scanned a file in the inner one. -/
def nested : Server :=
  ⟨(start.run [.add "/a" "a", .add "/a/b" "b",
    .operate ref (.process .listed ⟨some .code, .ok [innerIssue], 0, none⟩)]).workspace,
    .new, false, 1⟩

end Sample

/-- The file of the inner folder is saved and shown without issues. The outer folder keeps the issue
and shows it again. -/
theorem outer_folder_keeps_saved_file :
    let h := Sample.nested.notify
      ⟨"textDocument/didSave", Sample.savedFile "file:///a/b/x.js"⟩
    let w := h.server.workspace
    Shows h.events [("/a/b/x.js", [])]
      ∧ ((w.folders.get? "/a").map fun f => f.cache.issuesOf "/a/b/x.js")
        = some [Sample.innerIssue]
      ∧ .ofIssues "/a/b/x.js" [Sample.innerIssue] ∈ Event.hovers w.republish := by
  intro h w
  let url : Url := ⟨"file", some ⟨"", "", none, none⟩, .rooted ["a", "b", "x.js"], none, none⟩
  have hpath : url.filePath = .ok "/a/b/x.js" := Url.filePath_of_toFilePath? (by decide +kernel)
  have hinner : Sample.nested.workspace.folderContaining "/a/b/x.js"
      = some (.new "/a/b" "b" 1) := by
    rfl
  have hread : Params.savedSchema.readParams Params.documentOfJson
      (Sample.savedFile "file:///a/b/x.js") = .ok url := rfl
  obtain ⟨hworkspace, hevents⟩ := Server.notify_didSave hread hpath hinner
  refine ⟨?_, ?_, ?_⟩
  · exact hevents ▸ Folder.shows_clearFile false (.new "/a/b" "b" 1) "/a/b/x.js"
  · rw [show w = _ from hworkspace]
    rfl
  · rw [show w = _ from hworkspace]
    decide +kernel

end ScanRelay
