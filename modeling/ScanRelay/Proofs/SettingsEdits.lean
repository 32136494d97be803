import ScanRelay.Proofs.Publications
import ScanRelay.Proofs.Traces

/-!
# What new settings edit

New settings drop from the caches the issues of categories that were shown before and are not shown
any more, and nothing else is edited (`Workspace.fst_applySettings_eq`). What is sent depends on
how the filters differ: nothing if they are the same, the files that lost an issue if categories
were switched off and nothing else happened (`FilterSettings.onlyDisables_iff`), and otherwise every
folder in full (`settings_edit_caches_minimally`).
-/

namespace ScanRelay

/-! ## Filters -/

theorem CategoryFilter.ext_shows {f g : CategoryFilter} (h : ∀ c, f.shows c = g.shows c) :
    f = g := by
  obtain ⟨a, b, c, d⟩ := f
  obtain rfl : a = g.openSource := h .openSource
  obtain rfl : b = g.codeSecurity := h .codeSecurity
  obtain rfl : c = g.codeQuality := h .codeQuality
  obtain rfl : d = g.infrastructureAsCode := h .infrastructureAsCode
  rfl

namespace FilterSettings

/-- No severity is switched on or off, and no category on. -/
def Narrows (before after : FilterSettings) : Prop :=
  before.severity = after.severity
    ∧ ∀ c, after.issueTypes.shows c = true → before.issueTypes.shows c = true

/-- Filters that differ do so by categories that were switched off exactly when nothing else was
switched. -/
theorem onlyDisables_iff {before after : FilterSettings} :
    before.onlyDisables after = true ↔ before ≠ after ∧ before.Narrows after := by
  have hnone : ∀ {f g : CategoryFilter}, f.newlyDisabled g = []
      ↔ ∀ c, f.shows c = true → g.shows c = true := by
    intro f g
    simp [List.eq_nil_iff_forall_not_mem, CategoryFilter.mem_newlyDisabled]
  simp only [onlyDisables, Bool.and_eq_true, Bool.not_eq_true', List.isEmpty_iff,
    decide_eq_true_eq, ← Bool.not_eq_true, hnone, Narrows]
  constructor
  · rintro ⟨⟨hsome, hseverity⟩, hon⟩
    exact ⟨fun heq => hsome (heq ▸ fun _ hc => hc), hseverity, hon⟩
  · rintro ⟨hne, hseverity, hon⟩
    refine ⟨⟨fun hoff => hne ?_, hseverity⟩, hon⟩
    have hcategories : before.issueTypes = after.issueTypes :=
      CategoryFilter.ext_shows fun c => Bool.eq_iff_iff.2 ⟨hoff c, hon c⟩
    obtain ⟨severity, issueTypes⟩ := before
    obtain rfl : severity = after.severity := hseverity
    obtain rfl : issueTypes = after.issueTypes := hcategories
    rfl

/-- Whether issues of the category of this one were just switched off. -/
def drops (before after : FilterSettings) (i : Issue) : Bool :=
  before.issueTypes.shows i.category && !after.issueTypes.shows i.category

theorem drops_iff {before after : FilterSettings} {i : Issue} :
    before.drops after i = true
      ↔ i.category ∈ before.issueTypes.newlyDisabled after.issueTypes := by
  simp [drops, CategoryFilter.mem_newlyDisabled]

end FilterSettings

/-! ## Caches -/

theorem Table.mapValues_mapValues {α β γ : Type} (t : Table α) (f : String → α → β)
    (g : String → β → γ) : (t.mapValues f).mapValues g = t.mapValues fun k v => g k (f k v) := by
  refine Table.ext_get? fun k => ?_
  simp only [Table.get?_mapValues, Option.map_map]
  rfl

theorem Table.mapValues_self {α : Type} (t : Table α) : (t.mapValues fun _ v => v) = t :=
  Table.ext_get? fun k => by simp [Table.get?_mapValues]

namespace Folder

/-- The folder without the issues that new filters drop. -/
def edited (before after : FilterSettings) (f : Folder) : Folder :=
  { f with cache := f.cache.mapValues fun _ issues => issues.filter fun i => !before.drops after i }

theorem removeCategories_eq (f : Folder) (cs : List Category) : f.removeCategories cs
    = { f with cache := f.cache.mapValues fun _ issues =>
        issues.filter fun i => i.category ∉ cs } := by
  induction cs generalizing f with
  | nil => simp [removeCategories, Table.mapValues_self]
  | cons c cs ih =>
    rw [removeCategories, List.foldl_cons, ← removeCategories, ih]
    simp only [removeCategory, Table.mapValues_mapValues, List.filter_filter]
    congr 3
    funext _ issues
    refine List.filter_congr fun i _ => ?_
    simp [Bool.and_comm]

theorem edited_eq (before after : FilterSettings) (f : Folder) : f.edited before after
    = f.removeCategories (before.issueTypes.newlyDisabled after.issueTypes) := by
  rw [removeCategories_eq, edited]
  congr 3
  funext _ issues
  refine List.filter_congr fun i _ => ?_
  rw [Bool.eq_iff_iff, Bool.not_eq_true', ← Bool.not_eq_true, FilterSettings.drops_iff]
  simp

/-- A file loses an issue when it has one of a category that was just switched off. -/
theorem loses_iff {before after : FilterSettings} {f : Folder} {p : String} :
    (∃ i ∈ f.cache.issuesOf p, i ∉ (f.edited before after).cache.issuesOf p)
      ↔ ∃ c ∈ before.issueTypes.newlyDisabled after.issueTypes, f.hasIssuesOf p c := by
  rw [edited_eq, issuesOf_removeCategories]
  simp only [hasIssuesOf_iff, List.mem_filter, decide_eq_true_eq, not_and_not_right]
  constructor
  · rintro ⟨i, hi, hlost⟩
    exact ⟨_, hlost hi, i, hi, rfl⟩
  · rintro ⟨_, hc, i, hi, rfl⟩
    exact ⟨i, hi, fun _ => hc⟩

end Folder

namespace Workspace

theorem foldl_removeCategory (w : Workspace) (cs : List Category) : cs.foldl removeCategory w
    = { w with folders := w.folders.mapValues fun _ f => f.removeCategories cs } := by
  induction cs generalizing w with
  | nil =>
    show w = { w with folders := w.folders.mapValues fun _ f => f }
    rw [Table.mapValues_self]
  | cons c cs ih =>
    rw [List.foldl_cons, ih]
    simp only [removeCategory, Table.mapValues_mapValues]
    rfl

/-- To clear categories is to remove them, and more only in what is sent. -/
theorem fst_clearCategories (w : Workspace) (cs : List Category) :
    (chain (clearCategoryBy onEachSigned) w cs).1 = cs.foldl removeCategory w := by
  induction cs generalizing w with
  | nil => rfl
  | cons c cs ih => exact ih _

/-- New settings are installed and edit the open folders. -/
theorem fst_applySettings_eq (w : Workspace) (next : Settings) :
    (w.applySettingsSigned next).1 = { w with
      settings := next
      folders := w.folders.mapValues fun _ => Folder.edited w.settings.filter next.filter } := by
  have hedited : (fun (_ : String) (f : Folder) => f.edited w.settings.filter next.filter)
      = fun _ f => f.removeCategories
        (w.settings.filter.issueTypes.newlyDisabled next.filter.issueTypes) := by
    funext _ f
    exact f.edited_eq _ _
  rw [applySettingsSigned, applySettingsBy_eq, hedited]
  dsimp only
  split
  · rw [fst_clearCategories, foldl_removeCategory]
  · rw [foldl_removeCategory]

end Workspace

/-! ## What is sent -/

theorem Publish.statuses_file (p : String) (issues : List Issue) :
    Event.statuses (file p issues) = [] := by
  unfold file diagnostics
  split <;> rfl

theorem Publish.mem_file {p : String} {issues : List Issue} {e : Event}
    (h : e ∈ file p issues) : (∃ m, e = .send m) ∨ ∃ d, e = .hover d := by
  rcases List.mem_append.1 h with h | h
  · exact .inl (mem_diagnostics h)
  · exact .inr ⟨_, List.mem_singleton.1 h⟩

namespace Folder

variable {before next : Settings} {f : Folder}

theorem statuses_clearCategories (s : Settings) (f : Folder) (cs : List Category) :
    Event.statuses (chain (clearCategory s) f cs).2 = [] := by
  induction cs generalizing f with
  | nil => rfl
  | cons c cs ih =>
    have hfirst : Event.statuses (f.clearCategory s c).2 = [] :=
      Event.statuses_flatMap_eq_nil fun e => Publish.statuses_file _ _
    rw [chain, Event.statuses_append, hfirst, ih]
    rfl

theorem mem_clearCategories {s : Settings} {cs : List Category} {e : Event}
    (h : e ∈ (chain (clearCategory s) f cs).2) : (∃ m, e = .send m) ∨ ∃ d, e = .hover d := by
  induction cs generalizing f with
  | nil => exact absurd h List.not_mem_nil
  | cons c cs ih =>
    rcases List.mem_append.1 h with h | h
    · obtain ⟨file, -, h⟩ := List.mem_flatMap.1 h
      exact Publish.mem_file h
    · exact ih h

/-- New settings make a folder send messages and hovers. -/
theorem mem_applySettings {e : Event} (h : e ∈ (f.applySettings before next).2) :
    (∃ m, e = .send m) ∨ ∃ d, e = .hover d := by
  unfold applySettings at h
  split at h
  · exact mem_clearCategories h
  · dsimp only at h
    split at h
    · exact absurd h List.not_mem_nil
    · exact mem_publish h

/-- When categories were switched off and nothing else, the files that lost an issue are published,
and the folder says nothing of scans. -/
theorem applySettings_of_narrows (hne : before.filter ≠ next.filter)
    (hnarrows : before.filter.Narrows next.filter) :
    Event.statuses (f.applySettings before next).2 = []
    ∧ ∃ files, Shows (f.applySettings before next).2 files
      ∧ ∀ p, p ∈ files.map (·.1) ↔ ∃ i ∈ f.cache.issuesOf p,
        i ∉ (f.edited before.filter next.filter).cache.issuesOf p := by
  have honly := FilterSettings.onlyDisables_iff.2 ⟨hne, hnarrows⟩
  obtain ⟨files, hshows, hcount⟩ := f.shows_applySettings_count before next
  refine ⟨?_, files, hshows, fun p => ?_⟩
  · rw [applySettings, if_pos honly]
    exact statuses_clearCategories next f _
  · rw [← List.count_pos_iff, hcount, publications, if_pos honly, List.countP_pos_iff, loses_iff]

/-- When anything else was switched, all cached files are published, and the folder tells of one
scan. -/
theorem applySettings_of_not_narrows (hne : before.filter ≠ next.filter)
    (hnarrows : ¬ before.filter.Narrows next.filter) :
    (∃ shown, Event.statuses (f.applySettings before next).2
      = [⟨.success, none, f.path, shown⟩])
    ∧ ∃ files, Shows (f.applySettings before next).2 files
      ∧ files.map (·.1) = f.cache.keys := by
  have honly : ¬ before.filter.onlyDisables next.filter = true := fun h =>
    hnarrows (FilterSettings.onlyDisables_iff.1 h).2
  let g := f.removeCategories (before.filter.issueTypes.newlyDisabled next.filter.issueTypes)
  have hsent : (f.applySettings before next).2 = g.publish next none := by
    rw [applySettings, if_neg honly]
    exact if_neg hne
  have hpath : g.path = f.path := congrArg FolderRef.path (f.ref_removeCategories _)
  rw [hsent]
  refine ⟨hpath ▸ g.exists_statuses_publish next none, _, g.shows_publish next none, ?_⟩
  rw [map_fst_exhibits, keys_removeCategories]

end Folder

theorem Ledger.apart_run (settings : Settings) (scanner : Scanner) (acts : List Act) :
    ((start settings scanner).run acts).workspace.Apart :=
  (lives_run settings scanner fun _ _ _ => trivial : Lives True _).apart

/-- In any workspace whose open folders have stamps of their own, as they have after every run, new
settings are installed as they are and edit the caches: each entry is left without the issues of
categories that were shown before and are not shown any more, and nothing else is changed. Only
messages and hovers are sent, each by an open folder. Nothing is sent if the filters are the same.
If they differ only by categories that were switched off, each folder publishes the files that lost
an issue and tells of no scan; otherwise it publishes all files that it has cached and tells of one
scan. -/
theorem settings_edit_caches_minimally {w : Workspace} (hw : w.Apart) (next : Settings) :
    let before := w.settings.filter
    let after := next.filter
    let log := (w.act (.applySettings next)).2
    w.applySettings next = ({ w with
        settings := next
        folders := w.folders.mapValues fun _ => Folder.edited before after }, log.map (·.2))
    ∧ (∀ e ∈ log, (∃ k f, w.folders.get? k = some f ∧ e.1 = f.stamp)
        ∧ ((∃ m, e.2 = .send m) ∨ ∃ d, e.2 = .hover d))
    ∧ (before = after → log = [])
    ∧ ∀ k f, w.folders.get? k = some f → before ≠ after →
        let sent := share f.stamp log
        (before.Narrows after → Event.statuses sent = []
          ∧ ∃ files, Shows sent files ∧ ∀ p, p ∈ files.map (·.1)
            ↔ ∃ i ∈ f.cache.issuesOf p, i ∉ (f.edited before after).cache.issuesOf p)
        ∧ (¬ before.Narrows after →
          (∃ shown, Event.statuses sent = [⟨.success, none, f.path, shown⟩])
          ∧ ∃ files, Shows sent files ∧ files.map (·.1) = f.cache.keys) := by
  intro before after log
  have heach := w.each_applySettingsSigned next
  have hshare : ∀ k f, w.folders.get? k = some f →
      share f.stamp log = (f.applySettings w.settings next).2 := heach.share hw
  refine ⟨?_, fun e he => ?_, fun heq => ?_, fun k f hf hne => ?_⟩
  · rw [w.applySettings_eq_signed, w.fst_applySettings_eq]
    rfl
  · obtain ⟨k, f, hf, hstamp⟩ := heach.signed e he
    refine ⟨⟨k, f, hf, hstamp⟩, ?_⟩
    have hmem : e.2 ∈ share f.stamp log :=
      List.mem_filterMap.2 ⟨e, he, if_pos hstamp⟩
    exact Folder.mem_applySettings (hshare k f hf ▸ hmem)
  · have honly : ¬ before.onlyDisables after = true := fun h =>
      (FilterSettings.onlyDisables_iff.1 h).1 heq
    show (w.applySettingsSigned next).2 = []
    rw [Workspace.applySettingsSigned, Workspace.applySettingsBy_eq]
    dsimp only
    rw [if_neg honly]
    exact if_pos heq
  · intro sent
    have hsent : sent = (f.applySettings w.settings next).2 := hshare k f hf
    rw [hsent]
    exact ⟨Folder.applySettings_of_narrows hne, Folder.applySettings_of_not_narrows hne⟩

namespace Sample

/-- Grave issues are not shown. -/
def withoutHigh : Settings :=
  { Settings.standard "" with filter := ⟨⟨false, false, true, true⟩, .standard⟩ }

end Sample

/-- When issues in code are switched off, the file with such an issue is published and no scan is
told of. When grave ones are, one scan is told of. -/
theorem settings_edit_caches_minimally_both_ways :
    let w := (Sample.start.run Sample.acts).workspace
    let sent (next : Settings) : List Event := share 0 (w.act (.applySettings next)).2
    (Event.statuses (sent Sample.withoutCode) = []
      ∧ ∃ files, Shows (sent Sample.withoutCode) files ∧ "/a/x.js" ∈ files.map (·.1))
    ∧ ∃ shown, Event.statuses (sent Sample.withoutHigh) = [⟨.success, none, "/a", shown⟩] := by
  intro w sent
  have hopen : w.folders.get? "/a" = some Sample.folder := rfl
  have hw : w.Apart := Ledger.apart_run _ _ Sample.acts
  obtain ⟨-, -, -, hcode⟩ := settings_edit_caches_minimally hw Sample.withoutCode
  obtain ⟨-, -, -, hhigh⟩ := settings_edit_caches_minimally hw Sample.withoutHigh
  have hnarrows : FilterSettings.standard.Narrows Sample.withoutCode.filter :=
    ⟨rfl, fun c _ => by cases c <;> rfl⟩
  have hwidens : ¬ FilterSettings.standard.Narrows Sample.withoutHigh.filter :=
    fun h => absurd h.1 (by decide)
  obtain ⟨hquiet, files, hshows, hfiles⟩ :=
    (hcode "/a" Sample.folder hopen (by decide +kernel)).1 hnarrows
  obtain ⟨htold, -⟩ := (hhigh "/a" Sample.folder hopen (by decide +kernel)).2 hwidens
  have hlost : Sample.issue ∉
      (Sample.folder.edited .standard Sample.withoutCode.filter).cache.issuesOf "/a/x.js" :=
    List.not_mem_nil
  exact ⟨⟨hquiet, files, hshows, (hfiles _).2 ⟨_, List.mem_cons_self, hlost⟩⟩, htold⟩

end ScanRelay
