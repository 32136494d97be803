import ScanRelay.Proofs.Clearing
import ScanRelay.Proofs.Publications
import ScanRelay.Proofs.Spellings
import ScanRelay.Proofs.View

/-!
# Filters that are changed and changed back

An editor that was in sync with the settings is shown other filters and then the old ones again. No
scan is needed for that, but categories that the other filters switch off are dropped from the
caches, so their issues do not come back (`toggled_filters_keep_rest`).
-/

namespace ScanRelay

/-! ## What came last -/

/-- What came last of its kind in a log came last from its sender. -/
theorem exists_share_getLast? {β : Type} (kind : Event → Option β) {log : List Entry} {b : β}
    (h : ((log.map (·.2)).filterMap kind).getLast? = some b) :
    ∃ e ∈ log, ((share e.1 log).filterMap kind).getLast? = some b := by
  induction log using List.reverseRecOn with
  | nil => simp at h
  | append_singleton log e ih =>
    rcases hk : kind e.2 with _ | b'
    · obtain ⟨e', he', hlast⟩ := ih (by simpa [hk] using h)
      refine ⟨e', List.mem_append_left _ he', ?_⟩
      by_cases hs : e.1 = e'.1 <;> simp_all [share]
    · refine ⟨e, by simp, ?_⟩
      simp_all [share]

theorem share_filterMap_of_none {β : Type} {kind : Event → Option β} {log : List Entry}
    (h : ((log.map (·.2)).filterMap kind).getLast? = none) (stamp : Nat) :
    ((share stamp log).filterMap kind).getLast? = none := by
  simp only [List.getLast?_eq_none_iff, List.filterMap_eq_nil_iff, List.forall_mem_map] at h ⊢
  intro e he
  obtain ⟨e', he', heq⟩ := List.mem_filterMap.1 he
  split at heq
  · exact Option.some.inj heq ▸ h e' he'
  · exact absurd heq (by simp)

theorem lastShown_of_getLast? {q : String → Bool} {files : List Exhibit} {e : Exhibit}
    (h : (files.filter fun e => q e.1).getLast? = some e) (before : List Issue) :
    lastShown e.1 before files = e.2 := by
  induction files using List.reverseRecOn with
  | nil => simp at h
  | append_singleton files e' ih =>
    rw [lastShown_append]
    have hq : q e.1 = true := (List.mem_filter.1 (List.mem_of_getLast? h)).2
    by_cases hq' : q e'.1
    · obtain rfl : e' = e := by simpa [hq'] using h
      simp [lastShown]
    · have hne : e'.1 ≠ e.1 := fun heq => hq' (heq ▸ hq)
      have hfiles : (files.filter fun e => q e.1).getLast? = some e := by simpa [hq'] using h
      rw [ih hfiles]
      simp [lastShown, hne]

section Turned

variable {es : List Event} {files : List Exhibit} {v v' : String → List Issue}
  (hshows : Shows es files) (hturns : Turns files v v')
include hshows hturns

/-- The list that is sent last for a URL is that of one of its files in the new view. -/
theorem exists_of_lastDiagnostics {u : Url} {ds : List Diagnostic}
    (h : Event.lastDiagnostics u es = some ds) :
    ∃ e ∈ files, Url.ofFilePath? e.1 = some u ∧ ds = (v' e.1).map Diagnostic.ofIssue := by
  rw [Event.lastDiagnostics, hshows.diagnostics, Exhibit.last?_eq] at h
  obtain ⟨e, he, rfl⟩ := Option.map_eq_some_iff.1 h
  obtain ⟨hmem, hu⟩ := List.mem_filter.1 (List.mem_of_getLast? he)
  refine ⟨e, hmem, of_decide_eq_true hu, ?_⟩
  rw [← hturns e.1, lastShown_of_getLast? (q := fun p => Url.ofFilePath? p = some u) he]

theorem of_last_hover {p : String} {d : HoverDocument}
    (h : ((Event.hovers es).filter fun d => d.path = p).getLast? = some d) :
    (∃ e ∈ files, e.1 = p) ∧ d.hovers = (v' p).map Hover.ofIssue := by
  rw [hshows.hovers, List.filter_map, List.getLast?_map] at h
  obtain ⟨e, he, rfl⟩ := Option.map_eq_some_iff.1 h
  obtain ⟨hmem, hp⟩ := List.mem_filter.1 (List.mem_of_getLast? he)
  obtain rfl : e.1 = p := of_decide_eq_true hp
  refine ⟨⟨e, hmem, rfl⟩, ?_⟩
  rw [← hturns e.1, lastShown_of_getLast? (q := fun q => q = e.1) he]
  rfl

end Turned

/-! ## A folder -/

theorem Shows.map_fst {es : List Event} {files : List Exhibit} (h : Shows es files) :
    files.map (·.1) = (Event.hovers es).map (·.path) := by
  rw [h.hovers, List.map_map]
  rfl

/-- Whether other settings leave an issue in the caches. -/
def Settings.spares (c n : Settings) (i : Issue) : Bool :=
  i.category ∉ c.filter.issueTypes.newlyDisabled n.filter.issueTypes

namespace Folder

/-- New settings show cached files only, and turn the view. -/
theorem applySettings_turns (before next : Settings) (f : Folder) :
    ∃ files, Shows (f.applySettings before next).2 files ∧ (∀ e ∈ files, e.1 ∈ f.cache.keys)
      ∧ Turns files (f.visible before) ((f.applySettings before next).1.visible next) := by
  obtain ⟨files, hshows, -, hturns⟩ := f.applySettings_displays before next
  obtain ⟨files', hshows', hcount⟩ := f.shows_applySettings_count before next
  refine ⟨files, hshows, fun e he => ?_, hturns⟩
  have hmem : e.1 ∈ files'.map (·.1) := by
    rw [hshows'.map_fst, ← hshows.map_fst]
    exact List.mem_map_of_mem he
  exact mem_keys_of_publications_pos (hcount e.1 ▸ List.count_pos_iff.2 hmem)

theorem keys_applySettings (before next : Settings) (f : Folder) :
    (f.applySettings before next).1.cache.keys = f.cache.keys := by
  rw [fst_applySettings, keys_removeCategories]

/-- A folder after other settings and then the old ones again. -/
def toggle (c n : Settings) (f : Folder) : Folder × List Event :=
  let g := f.applySettings c n
  let h := g.1.applySettings n c
  (h.1, g.2 ++ h.2)

/-- What is visible of a file again: the issues of categories that were switched off are gone. -/
def restored (c n : Settings) (f : Folder) (p : String) : List Issue :=
  (f.visible c p).filter (c.spares n)

theorem visible_toggle (c n : Settings) (f : Folder) (p : String) :
    (f.toggle c n).1.visible c p = f.restored c n p := by
  rw [toggle]
  dsimp only
  rw [fst_applySettings, fst_applySettings, visible, issuesOf_removeCategories,
    issuesOf_removeCategories, restored, visible]
  simp only [FilterSettings.visible, List.filter_filter, Settings.spares]
  refine List.filter_congr fun i _ => ?_
  -- What the second change drops was not visible.
  by_cases hi : i.category ∈ n.filter.issueTypes.newlyDisabled c.filter.issueTypes
  · have hhidden : c.filter.shows i = false := by
      rw [FilterSettings.shows, (CategoryFilter.mem_newlyDisabled.1 hi).2, Bool.and_false]
    simp [hhidden]
  · simp [hi, Bool.and_comm]

theorem toggle_turns (c n : Settings) (f : Folder) :
    ∃ files, Shows (f.toggle c n).2 files ∧ (∀ e ∈ files, e.1 ∈ f.cache.keys)
      ∧ Turns files (f.visible c) (f.restored c n) := by
  obtain ⟨xs, hxs, hkeys, hturns⟩ := f.applySettings_turns c n
  obtain ⟨ys, hys, hkeys', hturns'⟩ := (f.applySettings c n).1.applySettings_turns n c
  rw [keys_applySettings] at hkeys'
  refine ⟨xs ++ ys, hxs.append hys, List.forall_mem_append.2 ⟨hkeys, hkeys'⟩, ?_⟩
  rw [← funext (f.visible_toggle c n)]
  exact hturns.append hturns'

end Folder

/-! ## What an editor shows of a ledger -/

/-- Lists that look the same still do so when what is kept can be told from the look. -/
theorem map_filter_of_map_eq {α β : Type} {look : α → β} {keep : α → Bool}
    (hkeep : ∀ a b, look a = look b → keep a = keep b) {xs ys : List α}
    (h : xs.map look = ys.map look) :
    (xs.filter keep).map look = (ys.filter keep).map look := by
  induction xs generalizing ys with
  | nil => rw [List.map_eq_nil_iff.1 h.symm]
  | cons x xs ih =>
    obtain ⟨y, ys, rfl, hxy, hrest⟩ := List.map_eq_cons_iff.1 h.symm
    rw [List.filter_cons, List.filter_cons, hkeep x y hxy.symm]
    split
    · rw [List.map_cons, List.map_cons, hxy, ih hrest.symm]
    · exact ih hrest.symm

/-- The member that is put last is read back. -/
theorem Json.member?_ofMembers_concat (members : List (String × Json)) (name : String)
    (value : Json) : (ofMembers (members ++ [(name, value)])).member? name = some value := by
  have hincreasing : Increasing (members.foldl (fun ms m => insertEntry m.1 m.2 ms) []) :=
    List.foldlRecOn members _ .nil fun _ h _ _ => increasing_insertEntry h
  rw [ofMembers, List.foldl_concat]
  exact (lookupEntry_insertEntry hincreasing).trans (if_pos rfl)

/-- The category of an issue can be told from its diagnostic. -/
theorem category_eq_of_diagnostic {i j : Issue} (h : Diagnostic.ofIssue i = .ofIssue j) :
    i.category = j.category := by
  let told (d : Diagnostic) : Option Json := d.data.bind (Json.member? "filterableIssueType")
  have htold : ∀ i, told (.ofIssue i) = some (.text i.category.name) := fun _ =>
    Json.member?_ofMembers_concat [_, _, _] _ _
  have hname : ∀ c ∈ Category.all, ∀ d ∈ Category.all, c.name = d.name → c = d := by decide
  have hall : ∀ c, c ∈ Category.all := fun c => by cases c <;> decide
  have heq := congrArg told h
  rw [htold, htold] at heq
  exact hname _ (hall _) _ (hall _) (Json.text.inj (Option.some.inj heq))

theorem spares_eq_of_diagnostic (c n : Settings) {i j : Issue}
    (h : Diagnostic.ofIssue i = .ofIssue j) : c.spares n i = c.spares n j := by
  rw [Settings.spares, Settings.spares, category_eq_of_diagnostic h]

namespace Ledger

/-- The diagnostics that an editor shows for a URL. -/
def diagnosticsOf (l : Ledger) (u : Url) : List Diagnostic :=
  (Event.lastDiagnostics u (l.log.map (·.2))).getD []

/-- The hovers that an editor has for a file when all were taken up. -/
def hoversOf (l : Ledger) (p : String) : Option (List Hover) :=
  Table.get? (HoverTable.applyAll .empty (Event.hovers (l.log.map (·.2)))) p

/-- An editor shows for each cached file what is visible of it. -/
structure InSync (l : Ledger) : Prop where
  diagnostics : ∀ f, l.Open f → ∀ p ∈ f.cache.keys, ∀ u, Url.ofFilePath? p = some u →
    l.diagnosticsOf u = (f.visible l.workspace.settings p).map Diagnostic.ofIssue
  hovers : ∀ f, l.Open f → ∀ p ∈ f.cache.keys,
    l.hoversOf p = HoverTable.entryOf ((f.visible l.workspace.settings p).map Hover.ofIssue)

/-- Other settings and then the old ones again. -/
def toggle (l : Ledger) (n : Settings) : Ledger :=
  (l.step (.applySettings n)).step (.applySettings l.workspace.settings)

/-- The entries that a toggle adds. -/
def toggleEntries (l : Ledger) (n : Settings) : List Entry :=
  (l.workspace.act (.applySettings n)).2
    ++ ((l.step (.applySettings n)).workspace.act (.applySettings l.workspace.settings)).2

variable {l : Ledger} {n : Settings}

theorem log_toggle : (l.toggle n).log = l.log ++ l.toggleEntries n := List.append_assoc _ _ _

theorem get?_toggle (k : String) : (l.toggle n).workspace.folders.get? k
    = (l.workspace.folders.get? k).map fun f => (f.toggle l.workspace.settings n).1 := by
  have hfirst := (l.workspace.each_applySettingsSigned n).folders k
  have hsecond := ((l.step (.applySettings n)).workspace.each_applySettingsSigned
    l.workspace.settings).folders k
  have hsettings : (l.step (.applySettings n)).workspace.settings = n :=
    l.workspace.settings_applySettingsSigned n
  rw [hsettings] at hsecond
  refine hsecond.trans ?_
  show Option.map _ ((l.workspace.applySettingsSigned n).1.folders.get? k) = _
  rw [hfirst, Option.map_map]
  rfl

/-- The entries come from open folders. -/
theorem sender_of_mem_toggleEntries {e : Entry} (he : e ∈ l.toggleEntries n) :
    ∃ f, l.Open f ∧ e.1 = f.stamp := by
  rcases List.mem_append.1 he with he | he
  · obtain ⟨k, f, hf, heq⟩ := (l.workspace.each_applySettingsSigned n).signed e he
    exact ⟨f, ⟨k, hf⟩, heq⟩
  · obtain ⟨k, g, hg, heq⟩ := ((l.step (.applySettings n)).workspace.each_applySettingsSigned
      l.workspace.settings).signed e he
    have hfirst := (l.workspace.each_applySettingsSigned n).folders k
    obtain ⟨f, hf, rfl⟩ := Option.map_eq_some_iff.1 (hfirst.symm.trans hg)
    exact ⟨f, ⟨k, hf⟩, heq.trans (congrArg FolderRef.stamp (f.ref_applySettings _ n))⟩

/-- The entries of an open folder are those of its own toggle. -/
theorem share_toggleEntries (hl : l.Lives True) {f : Folder} (hf : l.Open f) :
    share f.stamp (l.toggleEntries n) = (f.toggle l.workspace.settings n).2 := by
  obtain ⟨k, hk⟩ := hf
  have hsettings : (l.step (.applySettings n)).workspace.settings = n :=
    l.workspace.settings_applySettingsSigned n
  have hstep : (l.step (.applySettings n)).Lives True := hl.step fun _ => trivial
  have hfirst := l.workspace.each_applySettingsSigned n
  have hk' : (l.step (.applySettings n)).workspace.folders.get? k
      = some (f.applySettings l.workspace.settings n).1 := by
    refine (hfirst.folders k).trans ?_
    rw [hk]
    rfl
  have hsecond := ((l.step (.applySettings n)).workspace.each_applySettingsSigned
    l.workspace.settings).share hstep.apart k _ hk'
  rw [hsettings, show (f.applySettings l.workspace.settings n).1.stamp = f.stamp from
    congrArg FolderRef.stamp (f.ref_applySettings _ n)] at hsecond
  rw [toggleEntries, share_append]
  exact congrArg₂ (· ++ ·) (hfirst.share hl.apart k f hk) hsecond

/-! ## In sync before, in sync after -/

theorem entryOf_injective {hs hs' : List Hover}
    (h : HoverTable.entryOf hs = HoverTable.entryOf hs') : hs = hs' := by
  unfold HoverTable.entryOf at h
  split at h <;> split at h <;> simp_all

theorem lastDiagnostics_eq_getLast? (u : Url) (es : List Event) : Event.lastDiagnostics u es
    = ((es.filterMap fun e => e.diagnostics?.filter fun d => d.url = u).getLast?).map
        (·.diagnostics) := by
  rw [Event.lastDiagnostics, FileDiagnostics.last?, Event.diagnostics, List.filter_filterMap]

theorem filter_hovers_eq (p : String) (es : List Event) :
    (Event.hovers es).filter (fun d => d.path = p)
      = es.filterMap fun e => e.hover?.filter fun d => d.path = p := by
  rw [Event.hovers, List.filter_filterMap]

section InSync

variable (hl : l.Lives True) (hsync : l.InSync) {f : Folder} (hf : l.Open f) {p : String}
  (hp : p ∈ f.cache.keys)
include hl hsync hf hp

/-- The list of a URL is again that of the file, or of one that looked the same. -/
theorem diagnosticsOf_toggle {u : Url} (hu : Url.ofFilePath? p = some u) :
    (l.toggle n).diagnosticsOf u
      = (f.restored l.workspace.settings n p).map Diagnostic.ofIssue := by
  rw [diagnosticsOf, log_toggle, List.map_append, Event.lastDiagnostics_append]
  rcases hlast : Event.lastDiagnostics u ((l.toggleEntries n).map (·.2)) with _ | ds <;> rw [hlast]
  · -- Nothing was sent for the URL, so the file was not shown again and has lost nothing.
    obtain ⟨files, hshows, -, hturns⟩ := f.toggle_turns l.workspace.settings n
    have hnone : Event.lastDiagnostics u (f.toggle l.workspace.settings n).2 = none := by
      rw [lastDiagnostics_eq_getLast?, Option.map_eq_none_iff] at hlast ⊢
      exact share_toggleEntries hl hf ▸ share_filterMap_of_none hlast f.stamp
    have hkept : ∀ e ∈ files, e.1 ≠ p := by
      rintro e he rfl
      rw [Event.lastDiagnostics, hshows.diagnostics, Exhibit.last?_eq] at hnone
      simp only [Option.map_eq_none_iff, List.getLast?_eq_none_iff, List.filter_eq_nil_iff] at hnone
      exact absurd (decide_eq_true hu) (hnone e he)
    rw [← hturns p, lastShown_of_forall_ne hkept]
    exact hsync.diagnostics f hf p hp u hu
  · -- The list came from a folder for a file of the URL, and the editor was in sync with that.
    rw [lastDiagnostics_eq_getLast?] at hlast
    obtain ⟨d, hd, rfl⟩ := Option.map_eq_some_iff.1 hlast
    obtain ⟨e, he, hshare⟩ := exists_share_getLast? _ hd
    obtain ⟨g, hg, hstamp⟩ := sender_of_mem_toggleEntries he
    rw [hstamp, share_toggleEntries hl hg] at hshare
    obtain ⟨files, hshows, hkeys, hturns⟩ := g.toggle_turns l.workspace.settings n
    obtain ⟨e', he', hu', hds⟩ := exists_of_lastDiagnostics hshows hturns (u := u)
      (by rw [lastDiagnostics_eq_getLast?, hshare]; rfl)
    refine hds.trans ?_
    refine map_filter_of_map_eq (fun i j => spares_eq_of_diagnostic _ n) ?_
    rw [← hsync.diagnostics f hf p hp u hu, ← hsync.diagnostics g hg e'.1 (hkeys e' he') u hu']

/-- So are the hovers of a file, unless it has no URL and is cached by several folders. -/
theorem hoversOf_toggle
    (hsole : Path.isAbsolute p ∨ ∀ g, l.Open g → p ∈ g.cache.keys → g = f) :
    (l.toggle n).hoversOf p = HoverTable.entryOf
      ((f.restored l.workspace.settings n p).map Hover.ofIssue) := by
  have happly : HoverTable.applyAll .empty (Event.hovers ((l.toggle n).log.map (·.2)))
      = (HoverTable.applyAll .empty (Event.hovers (l.log.map (·.2)))).applyAll
        (Event.hovers ((l.toggleEntries n).map (·.2))) := by
    rw [log_toggle, List.map_append, Event.hovers_append]
    exact List.foldl_append
  rw [hoversOf, happly, HoverTable.get?_applyAll, filter_hovers_eq]
  split
  · rename_i d hd
    obtain ⟨e, he, hshare⟩ := exists_share_getLast? _ hd
    obtain ⟨g, hg, hstamp⟩ := sender_of_mem_toggleEntries he
    rw [hstamp, share_toggleEntries hl hg, ← filter_hovers_eq] at hshare
    obtain ⟨files, hshows, hkeys, hturns⟩ := g.toggle_turns l.workspace.settings n
    obtain ⟨⟨e', he', rfl⟩, hhovers⟩ := of_last_hover hshows hturns hshare
    have hpg : e'.1 ∈ g.cache.keys := hkeys e' he'
    rw [hhovers]
    rcases hsole with habsolute | hsole
    · -- Hovers do not tell categories, but the diagnostics of the file do.
      obtain ⟨u, hu⟩ := Url.exists_ofFilePath? habsolute
      let look (i : Issue) : Diagnostic × Hover := (.ofIssue i, .ofIssue i)
      have hlook : (g.visible l.workspace.settings e'.1).map look
          = (f.visible l.workspace.settings e'.1).map look := by
        rw [← List.zip_map', ← List.zip_map', ← hsync.diagnostics f hf _ hp u hu,
          ← hsync.diagnostics g hg _ hpg u hu]
        congr 1
        refine entryOf_injective ?_
        rw [← hsync.hovers f hf _ hp, ← hsync.hovers g hg _ hpg]
      have hrestored : (g.restored l.workspace.settings n e'.1).map look
          = (f.restored l.workspace.settings n e'.1).map look :=
        map_filter_of_map_eq
          (fun i j h => spares_eq_of_diagnostic _ n (congrArg Prod.fst h)) hlook
      have hhover := congrArg (List.map Prod.snd) hrestored
      rw [List.map_map, List.map_map] at hhover
      exact congrArg _ hhover
    · rw [hsole g hg hpg]
  · rename_i hlast
    obtain ⟨files, hshows, -, hturns⟩ := f.toggle_turns l.workspace.settings n
    have hkept : ∀ e ∈ files, e.1 ≠ p := by
      rintro e he rfl
      have hnone := share_filterMap_of_none hlast f.stamp
      rw [share_toggleEntries hl hf, ← filter_hovers_eq, hshows.hovers] at hnone
      simp only [List.getLast?_eq_none_iff, List.filter_eq_nil_iff, List.forall_mem_map] at hnone
      exact hnone e he (decide_eq_true rfl)
    rw [← hturns p, lastShown_of_forall_ne hkept]
    exact hsync.hovers f hf p hp

end InSync

end Ledger

theorem Folder.length_restored_iff {c n : Settings} {f : Folder} {p : String} :
    (f.restored c n p).length = (f.visible c p).length ↔ ∀ i ∈ f.visible c p, c.spares n i :=
  List.length_filter_eq_length_iff

/-- Other filters and then the old ones again, with no scan in between, after any run that left an
editor in sync. The issues of categories that the other filters switch off are dropped from the
caches. Each cached file is shown with the issues that were visible before but for those; so it is
shown as it was exactly when there are none among them. Hovers of a path that has no URL may be
those of any folder that caches it. The acts of a run are what is done to a workspace, with the same
events. -/
theorem toggled_filters_keep_rest (s : Settings) (scanner : Scanner) (acts : List Act)
    (hsync : ((Ledger.start s scanner).run acts).InSync) (filter : FilterSettings) :
    let l := (Ledger.start s scanner).run acts
    let c := l.workspace.settings
    let n := { c with filter }
    let back := l.toggle n
    (∀ w : Workspace, w.Performs)
    ∧ ∀ f, l.Open f → ∃ g, back.Open g ∧ g.ref = f.ref ∧ g.cache.keys = f.cache.keys
      ∧ ∀ p ∈ f.cache.keys, g.visible c p = f.restored c n p
        ∧ (∀ u, Url.ofFilePath? p = some u →
          back.diagnosticsOf u = (f.restored c n p).map Diagnostic.ofIssue
            ∧ (back.diagnosticsOf u = l.diagnosticsOf u ↔ ∀ i ∈ f.visible c p, c.spares n i))
        ∧ (Path.isAbsolute p ∨ (∀ g, l.Open g → p ∈ g.cache.keys → g = f) →
          back.hoversOf p = HoverTable.entryOf ((f.restored c n p).map Hover.ofIssue)
            ∧ (back.hoversOf p = l.hoversOf p ↔ ∀ i ∈ f.visible c p, c.spares n i)) := by
  intro l c n back
  refine ⟨Workspace.performs, fun f hf => ?_⟩
  have hl : l.Lives True := Ledger.lives_run s scanner fun _ _ _ => trivial
  have hsame : ∀ p, (∀ i ∈ f.visible c p, c.spares n i) → f.restored c n p = f.visible c p :=
    fun p => List.filter_eq_self.2
  obtain ⟨k, hk⟩ := hf
  refine ⟨(f.toggle c n).1, ⟨k, ?_⟩, ?_, ?_, fun p hp => ⟨f.visible_toggle c n p, fun u hu => ?_,
    fun hsole => ?_⟩⟩
  · rw [Ledger.get?_toggle, hk]
    rfl
  · exact (Folder.ref_applySettings _ _ _).trans (f.ref_applySettings c n)
  · exact (Folder.keys_applySettings _ _ _).trans (f.keys_applySettings c n)
  · have hback := Ledger.diagnosticsOf_toggle (n := n) hl hsync ⟨k, hk⟩ hp hu
    refine ⟨hback, ?_⟩
    rw [hback, hsync.diagnostics f ⟨k, hk⟩ p hp u hu]
    refine ⟨fun h => Folder.length_restored_iff.1 ?_, fun h => congrArg _ (hsame p h)⟩
    simpa using congrArg List.length h
  · have hback := Ledger.hoversOf_toggle (n := n) hl hsync ⟨k, hk⟩ hp hsole
    refine ⟨hback, ?_⟩
    rw [hback, hsync.hovers f ⟨k, hk⟩ p hp]
    refine ⟨fun h => Folder.length_restored_iff.1 ?_, fun h => ?_⟩
    · simpa using congrArg List.length (Ledger.entryOf_injective h)
    · exact congrArg (fun is => HoverTable.entryOf (is.map Hover.ofIssue)) (hsame p h)

namespace Sample

theorem eq_folder_of_open {f : Folder} (hf : (start.run acts).Open f) : f = folder := by
  obtain ⟨k, hk⟩ := hf
  have hentries : (start.run acts).workspace.folders.entries = [("/a", folder)] := rfl
  have hmem := Table.mem_entries_iff.2 hk
  rw [hentries, List.mem_singleton] at hmem
  exact (Prod.mk.inj hmem).2

theorem lives : (start.run acts).Lives False :=
  Ledger.lives_run _ _ (by simp [acts, Act.isSilent, Operation.isSilent])

/-- The only folder sent everything. -/
theorem map_snd_log : (start.run acts).log.map (·.2) = (start.run acts).sent folder :=
  (map_snd_signed 0 _).trans (share_signed_self 0 _).symm

theorem inSync : (start.run acts).InSync := by
  obtain ⟨files, hshows, hturns⟩ := (lives.life folder open_folder).turned rfl
  have hfiles : ∀ e ∈ files, e.1 = "/a/x.js" := by
    have hpaths : files.map (·.1) = ["/a/x.js"] := by
      rw [hshows.map_fst, hovers_folder]
      rfl
    exact fun e he => List.mem_singleton.1 (hpaths ▸ List.mem_map_of_mem he)
  refine ⟨fun f hf p hp u hu => ?_, fun f hf p hp => ?_⟩ <;> obtain rfl := eq_folder_of_open hf <;>
    obtain rfl : p = "/a/x.js" := List.mem_singleton.1 hp
  · rw [Ledger.diagnosticsOf, map_snd_log,
      lastDiagnostics_of_shows hshows hu fun e he _ => hfiles e he, hturns]
  · decide +kernel

end Sample

/-- A severity is hidden and shown again, and the issue is back. -/
theorem toggled_severity_restores :
    let back := (Sample.start.run Sample.acts).toggle
      { Settings.standard "" with filter := ⟨⟨true, false, true, true⟩, .standard⟩ }
    back.hoversOf "/a/x.js" = some [.ofIssue Sample.issue]
      ∧ back.diagnosticsOf Sample.url = [.ofIssue Sample.issue] := by
  obtain ⟨-, hfolders⟩ := toggled_filters_keep_rest (.standard "") ⟨.script [], none⟩
    Sample.acts Sample.inSync ⟨⟨true, false, true, true⟩, .standard⟩
  obtain ⟨g, -, -, -, hfiles⟩ := hfolders Sample.folder Sample.open_folder
  obtain ⟨-, hlists, hhovers⟩ := hfiles "/a/x.js" (List.mem_singleton.2 rfl)
  exact ⟨(hhovers (.inl (by decide))).1, (hlists _ Sample.ofFilePath?_url).1⟩

/-- A category is switched off and on again, and its issue is not shown any more. -/
theorem toggled_category_is_lost :
    let l := Sample.start.run Sample.acts
    let back := l.toggle Sample.withoutCode
    l.InSync
      ∧ Sample.withoutCode = { l.workspace.settings with filter := Sample.withoutCode.filter }
      ∧ "/a/x.js" ∈ Sample.folder.cache.keys
      ∧ l.hoversOf "/a/x.js" = some [.ofIssue Sample.issue] ∧ back.hoversOf "/a/x.js" = none
      ∧ Url.ofFilePath? "/a/x.js" = some Sample.url
      ∧ l.diagnosticsOf Sample.url = [.ofIssue Sample.issue]
      ∧ back.diagnosticsOf Sample.url = [] := by
  have hkey : "/a/x.js" ∈ Sample.folder.cache.keys := List.mem_singleton.2 rfl
  have hl : (Sample.start.run Sample.acts).Lives True :=
    Ledger.lives_run _ _ fun _ _ _ => trivial
  refine ⟨Sample.inSync, rfl, hkey, by decide +kernel, by decide +kernel, Sample.ofFilePath?_url,
    ?_, ?_⟩
  · exact Sample.inSync.diagnostics _ Sample.open_folder _ hkey _ Sample.ofFilePath?_url
  · exact Ledger.diagnosticsOf_toggle hl Sample.inSync Sample.open_folder hkey
      Sample.ofFilePath?_url

end ScanRelay
