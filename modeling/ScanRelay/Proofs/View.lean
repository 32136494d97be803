import ScanRelay.Proofs.Acts

/-!
# What holds of every folder

Along every life the cache stays sound (`Life.sound`), so after any run of a workspace each folder
keeps its issues under their files and no two with one identity (`caches_sound`).

Along a life without silent steps, what was shown last for a file is always what is visible of its
cached issues (`Life.turned`). So after any such run the hover documents and the diagnostics that an
open folder sent leave an editor with just the visible issues of each file (`view_follows_cache`).
-/

namespace ScanRelay

/-! ## The cache -/

theorem Life.sound {silent : Prop} {isOpen : Bool} {s : Settings} {f : Folder} {es : List Event}
    (h : Life silent isOpen s f es) : f.cache.Sound := by
  induction h with
  | new s path name stamp => exact Cache.sound_empty
  | operate inline op hop hlife ih => exact Operation.run_sound ih op
  | configure next hsilent hlife ih => exact ih
  | applySettings next hlife ih => exact Folder.sound_applySettings _ next ih
  | close hlife ih => exact Cache.sound_empty

/-- After every run, the issues that a folder keeps, open or removed, lie under their own files, and
no two of them have one identity. -/
theorem caches_sound (s : Settings) (scanner : Scanner) (acts : List Act) {f : Folder}
    (hf : ((Ledger.start s scanner).run acts).Open f
      ∨ f ∈ ((Ledger.start s scanner).run acts).workspace.retired) :
    (∀ e ∈ f.cache.entries, ∀ i ∈ e.2, i.path = e.1) ∧ f.cache.identities.Nodup := by
  have hlives : ((Ledger.start s scanner).run acts).Lives True :=
    Ledger.lives_run s scanner fun _ _ _ => trivial
  have hsound : f.cache.Sound := by
    rcases hf with hf | hf
    · exact (hlives.life f hf).sound
    · exact (hlives.afterlife f hf).sound
  refine ⟨fun e he i hi => hsound.keyed e.1 i ?_, hsound.distinct⟩
  rwa [Cache.issuesOf_eq_of_mem he]

/-- After a scan its one issue lies under its file. -/
theorem caches_sound_scan :
    (∀ e ∈ Sample.folder.cache.entries, ∀ i ∈ e.2, i.path = e.1)
      ∧ Sample.folder.cache.identities.Nodup :=
  caches_sound (.standard "") ⟨.script [], none⟩ Sample.acts (.inl Sample.open_folder)

/-! ## The view -/

namespace Path

variable {p : String} {rest : List Char}

theorem exists_toList_of_isAbsolute (h : isAbsolute p = true) : ∃ rest, p.toList = '/' :: rest :=
  List.head?_eq_some_iff.1 (by simpa [isAbsolute] using h)

theorem isAbsolute_of_toList (h : p.toList = '/' :: rest) : isAbsolute p = true := by
  rw [isAbsolute, h]
  rfl

theorem components_of_toList (h : p.toList = '/' :: rest) :
    components p = .root :: (splitAt '/' rest).filterMap component? := by
  rw [components, h]
  rfl

end Path

theorem Url.exists_ofFilePath? {p : String} (h : Path.isAbsolute p) :
    ∃ u, ofFilePath? p = some u := by
  obtain ⟨rest, hp⟩ := Path.exists_toList_of_isAbsolute h
  unfold ofFilePath?
  rw [Path.components_of_toList hp]
  exact ⟨_, rfl⟩

/-- An open folder shows what is visible of its cache, and has from the start. -/
theorem Life.turned {isOpen : Bool} {s : Settings} {f : Folder} {es : List Event}
    (h : Life False isOpen s f es) (hopen : isOpen = true) :
    ∃ files, Shows es files ∧ Turns files (fun _ => []) (f.visible s) := by
  induction h with
  | new s path name stamp => exact ⟨[], .nil, .of_eq fun p => rfl⟩
  | operate inline op hop hlife ih =>
    rename_i s f es
    obtain ⟨xs, hshows, hturns⟩ := ih hopen
    have hop' : op.isSilent = false := Bool.eq_false_iff.2 hop
    have hnext : f.Displays s (op.run s inline f) := op.run_displays hop'
    obtain ⟨ys, hshows', -, hturns'⟩ := hnext
    exact ⟨xs ++ ys, hshows.append hshows', hturns.append hturns'⟩
  | configure next hsilent hlife ih => exact (hsilent hopen).elim
  | applySettings next hlife ih =>
    rename_i s f es
    obtain ⟨xs, hshows, hturns⟩ := ih hopen
    obtain ⟨ys, hshows', -, hturns'⟩ := f.applySettings_displays s next
    exact ⟨xs ++ ys, hshows.append hshows', hturns.append hturns'⟩
  | close hlife ih => exact absurd hopen Bool.false_ne_true

/-- The hovers that an open folder sent are those of its visible issues. -/
theorem Ledger.Lives.get?_hovers {l : Ledger} (h : l.Lives False) {f : Folder} (hf : l.Open f)
    (p : String) :
    Table.get? (HoverTable.applyAll .empty (Event.hovers (l.sent f))) p
      = HoverTable.entryOf ((f.visible l.workspace.settings p).map Hover.ofIssue) := by
  obtain ⟨files, hshows, hturns⟩ := (h.life f hf).turned rfl
  have hstart : Table.get? (.empty : HoverTable) p
      = HoverTable.entryOf (([] : List Issue).map Hover.ofIssue) := rfl
  rw [hshows.hovers, HoverTable.get?_applyAll_files files hstart, hturns p]

/-- After every run in which nothing is silent, an editor that follows an open folder shows for each
file what is visible of its cached issues: in hovers, and in the diagnostics of its URL if the
folder has sent nothing for another file of that URL. The acts of a run are what is done to a
workspace, with the same events. -/
theorem view_follows_cache (s : Settings) (scanner : Scanner) {acts : List Act}
    (hacts : ∀ a ∈ acts, ¬ a.isSilent) {f : Folder}
    (hf : ((Ledger.start s scanner).run acts).Open f) :
    let l := (Ledger.start s scanner).run acts
    let shown := f.visible l.workspace.settings
    (∀ w : Workspace, w.Performs)
      ∧ (∀ p, ((Event.hovers (l.sent f)).foldl HoverService.apply .new).table.get? p
        = HoverTable.entryOf ((shown p).map Hover.ofIssue))
      ∧ ∀ p, Path.isAbsolute p → ∃ u, Url.ofFilePath? p = some u
        ∧ ((∀ d ∈ Event.hovers (l.sent f), Url.ofFilePath? d.path = some u → d.path = p) →
          (Event.lastDiagnostics u (l.sent f)).getD [] = (shown p).map Diagnostic.ofIssue) := by
  intro l shown
  have hlives : l.Lives False := Ledger.lives_run s scanner hacts
  obtain ⟨files, hshows, hturns⟩ := (hlives.life f hf).turned rfl
  refine ⟨Workspace.performs, fun p => ?_, fun p hp => ?_⟩
  · rw [HoverService.table_foldl_apply]
    exact hlives.get?_hovers hf p
  · obtain ⟨u, hu⟩ := Url.exists_ofFilePath? hp
    refine ⟨u, hu, fun hsole => ?_⟩
    rw [lastDiagnostics_of_shows hshows hu, hturns p]
    intro e he
    refine hsole (.ofIssues e.1 e.2) ?_
    rw [hshows.hovers]
    exact List.mem_map_of_mem he

/-- After a scan the issue that it found is shown both ways. -/
theorem view_follows_cache_scan :
    let sent := (Sample.start.run Sample.acts).sent Sample.folder
    ((Event.hovers sent).foldl HoverService.apply .new).table.get? "/a/x.js"
        = some [.ofIssue Sample.issue]
      ∧ ∃ u, Url.ofFilePath? "/a/x.js" = some u
        ∧ (Event.lastDiagnostics u sent).getD [] = [.ofIssue Sample.issue] := by
  have hacts : ∀ a ∈ Sample.acts, ¬ a.isSilent := by
    simp [Sample.acts, Act.isSilent, Operation.isSilent]
  obtain ⟨-, hhovers, hlists⟩ := view_follows_cache (.standard "") ⟨.script [], none⟩ hacts
    Sample.open_folder
  obtain ⟨u, hu, hlast⟩ := hlists "/a/x.js" (by decide)
  refine ⟨hhovers "/a/x.js", u, hu, hlast ?_⟩
  intro d (hd : d ∈ Event.hovers ((Sample.start.run Sample.acts).sent Sample.folder)) _
  rw [Sample.hovers_folder, List.mem_singleton] at hd
  rw [hd]
  rfl

end ScanRelay
