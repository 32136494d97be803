import ScanRelay.Proofs.Rescan

/-!
# Folders that come and go

An editor names folders that it closes and folders that it opens, as often as it likes and in any
spelling. Only their keys matter, the normalized paths of those of files (`keysOf`). At a key that
is closed nothing is left, and at a key that is opened stands what was left there, or else a new
folder under the first name that was given (`get?_removeFolders`, `get?_addFolders`). So the keys
change as sets do, closing before opening, and what is not closed is left as it is
(`folder_changes_are_set_operations`).
-/

namespace ScanRelay

/-- The key under which a folder that an editor names is known, if it is one of files: if its URL
names a path. -/
def EditorFolder.key? (e : EditorFolder) : Option String := e.url.toFilePath?.map Path.normalize

def keysOf (es : List EditorFolder) : List String := es.filterMap EditorFolder.key?

theorem mem_keysOf_cons {e : EditorFolder} {es : List EditorFolder} {k : String} :
    k ∈ keysOf (e :: es) ↔ e.key? = some k ∨ k ∈ keysOf es := by
  rw [keysOf, List.filterMap_cons]
  rcases e.key? with _ | k' <;> simp [keysOf, eq_comm]

theorem mem_keysOf_iff {es : List EditorFolder} {k : String} :
    k ∈ keysOf es ↔ ∃ e, es.find? (fun e => e.key? = some k) = some e := by
  rw [← Option.isSome_iff_exists, List.find?_isSome]
  simp [keysOf]

theorem EditorFolder.normalize_of_key? {e : EditorFolder} {k : String} (h : e.key? = some k) :
    Path.normalize k = k := by
  obtain ⟨path, -, rfl⟩ := Option.map_eq_some_iff.1 h
  exact Path.normalize_normalize path

/-- Folders lie at their paths, and these are normalized. -/
def Workspace.Keyed (w : Workspace) : Prop :=
  ∀ k f, w.folders.get? k = some f → f.path = k ∧ Path.normalize k = k

theorem Ledger.Lives.keyed_normal {silent : Prop} {l : Ledger} (h : l.Lives silent) :
    l.workspace.Keyed := fun k f hf => by
  have hkey : f.path = k := h.keyed k f hf
  exact ⟨hkey, hkey ▸ (h.life f ⟨k, hf⟩).normal⟩

namespace Workspace

variable {w : Workspace} {e : EditorFolder} {k : String}

/-! ## Closing -/

/-- A folder that is closed is cleared and put away; where there is none, nothing happens. -/
theorem removeEditorFolder_cases (w : Workspace) (e : EditorFolder) :
    (∃ k f, e.key? = some k ∧ w.folders.get? k = some f
      ∧ w.removeEditorFolder e = ({ w with
          folders := w.folders.erase k, retired := f.clear.1 :: w.retired }, f.clear.2))
    ∨ (∀ k, e.key? = some k → w.folders.get? k = none) ∧ w.removeEditorFolder e = (w, []) := by
  unfold removeEditorFolder EditorFolder.key?
  rcases e.url.toFilePath? with _ | path
  · exact .inr ⟨nofun, rfl⟩
  · dsimp only [remove, folder?]
    rcases hf : w.folders.get? (Path.normalize path) with _ | f
    · exact .inr ⟨fun k hk => Option.some.inj hk ▸ hf, rfl⟩
    · exact .inl ⟨_, f, rfl, hf, rfl⟩

theorem get?_removeEditorFolder (w : Workspace) (e : EditorFolder) (k : String) :
    (w.removeEditorFolder e).1.folders.get? k
      = if e.key? = some k then none else w.folders.get? k := by
  rcases w.removeEditorFolder_cases e with ⟨k', f, hkey, -, heq⟩ | ⟨hnone, heq⟩ <;> rw [heq]
  · simp only [Table.get?_erase, hkey, Option.some.injEq, eq_comm]
  · split
    · exact hnone k ‹_›
    · rfl

theorem get?_removeFolders (w : Workspace) (es : List EditorFolder) (k : String) :
    (chain removeEditorFolder w es).1.folders.get? k
      = if k ∈ keysOf es then none else w.folders.get? k := by
  induction es generalizing w with
  | nil => rfl
  | cons e rest ih =>
    rw [chain, ih, get?_removeEditorFolder]
    by_cases hkey : e.key? = some k <;> simp [mem_keysOf_cons, hkey]

theorem nextStamp_removeFolders (w : Workspace) (es : List EditorFolder) :
    (chain removeEditorFolder w es).1.nextStamp = w.nextStamp := by
  induction es generalizing w with
  | nil => rfl
  | cons e rest ih =>
    rw [chain, ih]
    rcases w.removeEditorFolder_cases e with ⟨_, _, -, -, heq⟩ | ⟨-, heq⟩ <;> rw [heq]

/-- A folder that was removed stays so when others are closed. -/
theorem Removed.closing {stamp : Nat} {g : Folder} (h : w.Removed stamp g)
    (es : List EditorFolder) : (chain removeEditorFolder w es).1.Removed stamp g := by
  induction es generalizing w with
  | nil => exact h
  | cons e rest ih =>
    refine ih ?_
    rcases w.removeEditorFolder_cases e with ⟨k, f, -, hf, heq⟩ | ⟨-, heq⟩ <;> rw [heq]
    · refine ⟨fun k' f' hf' => ?_, h.used, ?_⟩
      · rw [Table.get?_erase] at hf'
        split at hf'
        · cases hf'
        · exact h.closed k' f' hf'
      · have hne : f.clear.1.stamp ≠ stamp := h.closed k f hf
        simp [hne, h.known]
    · exact h

/-- A folder that is closed is cleared once, when its key comes first. -/
theorem cleared_removeFolders {f : Folder} (hf : w.folders.get? k = some f)
    (hsole : ∀ k' f', w.folders.get? k' = some f' → f'.stamp = f.stamp → k' = k)
    (hused : f.stamp < w.nextStamp) {es : List EditorFolder} (hk : k ∈ keysOf es) :
    (chain removeEditorFolder w es).1.Removed f.stamp f.clear.1
      ∧ ∀ e ∈ f.clear.2, e ∈ (chain removeEditorFolder w es).2 := by
  induction es generalizing w with
  | nil => exact absurd hk List.not_mem_nil
  | cons e rest ih =>
    have hget := w.get?_removeEditorFolder e
    have hopen : ∀ k' f', (w.removeEditorFolder e).1.folders.get? k' = some f' →
        e.key? ≠ some k' ∧ w.folders.get? k' = some f' := by
      intro k' f' hf'
      rw [hget] at hf'
      split at hf'
      · cases hf'
      · exact ⟨‹_›, hf'⟩
    by_cases hkey : e.key? = some k
    · rcases w.removeEditorFolder_cases e with ⟨k', f', hkey', hf', heq⟩ | ⟨hnone, -⟩
      · obtain rfl : k = k' := Option.some.inj (hkey.symm.trans hkey')
        obtain rfl : f = f' := Option.some.inj (hf.symm.trans hf')
        have hremoved : (w.removeEditorFolder e).1.Removed f.stamp f.clear.1 := by
          refine ⟨fun k' f' hf' heq' => ?_, by rwa [heq], ?_⟩
          · obtain ⟨hne, hf'⟩ := hopen k' f' hf'
            exact hne (hsole k' f' hf' heq' ▸ hkey)
          · rw [heq]
            exact List.find?_cons_of_pos (by simp [Folder.clear])
        refine ⟨hremoved.closing rest, fun event hevent => List.mem_append_left _ ?_⟩
        rwa [heq]
      · rw [hnone k hkey] at hf
        cases hf
    · have hrest : (w.removeEditorFolder e).1.folders.get? k = some f := by
        rw [hget, if_neg hkey, hf]
      have hstamp := nextStamp_removeFolders w [e]
      obtain ⟨hremoved, hevents⟩ := ih hrest (fun k' f' hf' => hsole k' f' (hopen k' f' hf').2)
        (hstamp ▸ hused) ((mem_keysOf_cons.1 hk).resolve_left hkey)
      exact ⟨hremoved, fun e he => List.mem_append_right _ (hevents e he)⟩

/-- All that is sent clears a folder that is closed. -/
theorem exists_of_mem_removeFolders {es : List EditorFolder} {event : Event}
    (h : event ∈ (chain removeEditorFolder w es).2) :
    ∃ k ∈ keysOf es, ∃ f, w.folders.get? k = some f ∧ event ∈ f.clear.2 := by
  induction es generalizing w with
  | nil => exact absurd h List.not_mem_nil
  | cons e rest ih =>
    rcases List.mem_append.1 h with hevent | hevent
    · rcases w.removeEditorFolder_cases e with ⟨k, f, hkey, hf, heq⟩ | ⟨-, heq⟩ <;>
        rw [heq] at hevent
      · exact ⟨k, mem_keysOf_cons.2 (.inl hkey), f, hf, hevent⟩
      · exact absurd hevent List.not_mem_nil
    · obtain ⟨k, hk, f, hf, hclear⟩ := ih hevent
      rw [get?_removeEditorFolder] at hf
      split at hf
      · cases hf
      · exact ⟨k, mem_keysOf_cons.2 (.inr hk), f, hf, hclear⟩

/-! ## Opening -/

/-- The scan of a folder that was opened, if it is one of files. -/
def addFolder (w : Workspace) (e : EditorFolder) : Workspace × List Task :=
  ((w.addEditorFolder e).1, (w.addEditorFolder e).2.toList.map fun f => .single (.folder f.ref))

/-- A folder that is opened is the one at its key, or a new one. -/
theorem addFolder_cases (w : Workspace) (e : EditorFolder) :
    (e.key? = none ∧ w.addFolder e = (w, []))
    ∨ (∃ k f, e.key? = some k ∧ w.folders.get? k = some f
      ∧ w.addFolder e = (w, [.single (.folder f.ref)]))
    ∨ ∃ k, e.key? = some k ∧ w.folders.get? k = none
      ∧ w.addFolder e = ({ w with
          folders := w.folders.insert k ⟨k, e.name, false, .empty, w.nextStamp⟩
          nextStamp := w.nextStamp + 1 }, [.single (.folder ⟨k, w.nextStamp⟩)]) := by
  unfold addFolder addEditorFolder EditorFolder.key?
  rcases e.url.toFilePath? with _ | path
  · exact .inl ⟨rfl, rfl⟩
  · refine .inr ?_
    rcases hf : w.folders.get? (Path.normalize path) with _ | f
    · refine .inr ⟨_, rfl, hf, ?_⟩
      simp [add, folder?, Table.contains, hf, Table.get?_insert, Folder.new, Folder.ref]
    · exact .inl ⟨_, f, rfl, hf, by simp [add, folder?, Table.contains, hf]⟩

/-- At the key of an opened folder stands what was there, or else a new folder under the first of
the names. -/
theorem get?_addFolders (w : Workspace) (es : List EditorFolder) (k : String) :
    ∃ stamp ≥ w.nextStamp, (chain addFolder w es).1.folders.get? k
      = (w.folders.get? k).or ((es.find? fun e => e.key? = some k).map fun e =>
        ⟨k, e.name, false, .empty, stamp⟩) := by
  induction es generalizing w with
  | nil => exact ⟨w.nextStamp, Nat.le_refl _, Option.or_none.symm⟩
  | cons e rest ih =>
    rw [chain]
    rcases w.addFolder_cases e with
      ⟨hkey, heq⟩ | ⟨k', f, hkey, hf, heq⟩ | ⟨k', hkey, hnone, heq⟩ <;> rw [heq]
    · simpa [hkey] using ih w
    · obtain ⟨stamp, hstamp, hget⟩ := ih w
      refine ⟨stamp, hstamp, hget.trans ?_⟩
      by_cases hk : k' = k
      · simp [← hk, hf]
      · simp [hkey, hk]
    · obtain ⟨stamp, hstamp, hget⟩ := ih { w with
        folders := w.folders.insert k' ⟨k', e.name, false, .empty, w.nextStamp⟩
        nextStamp := w.nextStamp + 1 }
      rw [hget, Table.get?_insert]
      by_cases hk : k = k'
      · refine ⟨w.nextStamp, Nat.le_refl _, ?_⟩
        simp [hkey, hk, hnone]
      · refine ⟨stamp, Nat.le_of_succ_le hstamp, ?_⟩
        simp [hkey, hk, Ne.symm hk]

theorem get?_addFolders_of_some {f : Folder} (hf : w.folders.get? k = some f)
    (es : List EditorFolder) : (chain addFolder w es).1.folders.get? k = some f := by
  obtain ⟨_, -, hget⟩ := w.get?_addFolders es k
  rw [hget, hf, Option.some_or]

/-- There is one scan for each opened folder, of the folder at its key. -/
theorem tasks_addFolders (w : Workspace) (es : List EditorFolder) :
    List.Forall₂ (fun k t => ∃ f, (chain addFolder w es).1.folders.get? k = some f
      ∧ t = .single (.folder f.ref)) (keysOf es) (chain addFolder w es).2 := by
  induction es generalizing w with
  | nil => exact .nil
  | cons e rest ih =>
    rw [chain, keysOf, List.filterMap_cons]
    rcases w.addFolder_cases e with
      ⟨hkey, heq⟩ | ⟨k, f, hkey, hf, heq⟩ | ⟨k, hkey, -, heq⟩ <;> rw [heq, hkey]
    · exact ih w
    · exact .cons ⟨f, get?_addFolders_of_some hf rest, rfl⟩ (ih w)
    · refine .cons ⟨⟨k, e.name, false, .empty, w.nextStamp⟩, ?_, rfl⟩ (ih _)
      refine get?_addFolders_of_some ?_ rest
      rw [Table.get?_insert, if_pos rfl]

/-- A folder that was removed stays so when others are opened. -/
theorem Removed.opening {stamp : Nat} {g : Folder} (h : w.Removed stamp g)
    (es : List EditorFolder) : (chain addFolder w es).1.Removed stamp g := by
  induction es generalizing w with
  | nil => exact h
  | cons e rest ih =>
    refine ih ?_
    rcases w.addFolder_cases e with ⟨-, heq⟩ | ⟨_, _, -, -, heq⟩ | ⟨k, -, -, heq⟩ <;> rw [heq]
    · exact h
    · exact h
    · refine ⟨fun k' f' hf' => ?_, Nat.lt_succ_of_lt h.used, h.known⟩
      rw [Table.get?_insert] at hf'
      split at hf'
      · obtain rfl := Option.some.inj hf'
        exact (Nat.ne_of_lt h.used).symm
      · exact h.closed k' f' hf'

end Workspace

/-! ## Changes -/

namespace Server

theorem run_openFolder (e : EditorFolder) (h : Handled) : (openFolder e).run h
    = (.ok (), { h.changed ((h.server.workspace.addFolder e).1, []) with
        tasks := h.tasks ++ (h.server.workspace.addFolder e).2 }) := by
  rw [openFolder, Handler.run_bind, Handler.run_addFolder]
  unfold Workspace.addFolder
  rcases h.server.workspace.addEditorFolder e with ⟨v, _ | f⟩
  · simp [Handled.changed, Handled.told]
  · rfl

theorem run_openFolders (es : List EditorFolder) (h : Handled) : (es.forM openFolder).run h
    = (.ok (), { h.changed ((chain Workspace.addFolder h.server.workspace es).1, []) with
        tasks := h.tasks ++ (chain Workspace.addFolder h.server.workspace es).2 }) := by
  induction es generalizing h with
  | nil => simp [List.forM, chain, Handled.changed_nothing]
  | cons e rest ih =>
    show (openFolder e >>= fun _ => rest.forM openFolder).run h = _
    rw [Handler.run_bind, run_openFolder]
    refine (ih _).trans ?_
    simp [chain, Handled.changed, Handled.told]

variable {s : Server} {params : Json} {c : FolderChange}

theorem notify_didChangeFolders
    (hread : FolderChange.schema.readParams FolderChange.ofJson params = .ok c) :
    let h := s.notify ⟨"workspace/didChangeWorkspaceFolders", params⟩
    let closed := chain Workspace.removeEditorFolder s.workspace c.removed
    let opened := chain Workspace.addFolder closed.1 c.added
    h.server.workspace = opened.1 ∧ h.events = closed.2 ∧ h.tasks = opened.2 := by
  intro h closed opened
  have hrun : (didChangeFolders params).run s.unchanged
      = (c.added.forM openFolder).run (s.unchanged.changed closed) := by
    rw [didChangeFolders, Handler.run_read_bind hread, Handler.run_bind, Handler.run_forM_change]
    rfl
  rw [show h = _ from notify_of_run (n := ⟨"workspace/didChangeWorkspaceFolders", params⟩)
    (hrun.trans (run_openFolders c.added _))]
  exact ⟨rfl, List.append_nil _, rfl⟩

/-- What stands at a key after a change: what was there, unless it is closed, or else a new folder
under the first of the names. -/
theorem get?_didChangeFolders
    (hread : FolderChange.schema.readParams FolderChange.ofJson params = .ok c) (k : String) :
    ∃ stamp ≥ s.workspace.nextStamp,
      (s.notify ⟨"workspace/didChangeWorkspaceFolders", params⟩).server.workspace.folders.get? k
        = (if k ∈ keysOf c.removed then none else s.workspace.folders.get? k).or
          ((c.added.find? fun e => e.key? = some k).map fun e =>
            ⟨k, e.name, false, .empty, stamp⟩) := by
  obtain ⟨hworkspace, -⟩ := notify_didChangeFolders (s := s) hread
  obtain ⟨stamp, hstamp, hget⟩ :=
    Workspace.get?_addFolders (chain Workspace.removeEditorFolder s.workspace c.removed).1 c.added k
  rw [Workspace.nextStamp_removeFolders] at hstamp
  rw [Workspace.get?_removeFolders] at hget
  exact ⟨stamp, hstamp, hworkspace ▸ hget⟩

theorem keyed_didChangeFolders
    (hread : FolderChange.schema.readParams FolderChange.ofJson params = .ok c)
    (h : s.workspace.Keyed) :
    (s.notify ⟨"workspace/didChangeWorkspaceFolders", params⟩).server.workspace.Keyed := by
  intro k f hf
  obtain ⟨stamp, -, heq⟩ := get?_didChangeFolders (s := s) hread k
  rcases Option.or_eq_some_iff.1 (heq.symm.trans hf) with hkept | ⟨-, hopened⟩
  · split at hkept
    · cases hkept
    · exact h k f hkept
  · obtain ⟨e, he, rfl⟩ := Option.map_eq_some_iff.1 hopened
    exact ⟨rfl, EditorFolder.normalize_of_key? (by simpa using List.find?_some he)⟩

theorem mem_keys_didChangeFolders
    (hread : FolderChange.schema.readParams FolderChange.ofJson params = .ok c) (k : String) :
    k ∈ (s.notify ⟨"workspace/didChangeWorkspaceFolders", params⟩).server.workspace.folders.keys
      ↔ k ∈ s.workspace.folders.keys ∧ k ∉ keysOf c.removed ∨ k ∈ keysOf c.added := by
  obtain ⟨stamp, -, heq⟩ := get?_didChangeFolders (s := s) hread k
  have hadded : k ∈ keysOf c.added ↔ _ := mem_keysOf_iff
  rw [Table.mem_keys_iff, Table.mem_keys_iff, hadded, heq]
  by_cases hk : k ∈ keysOf c.removed <;> rcases s.workspace.folders.get? k with _ | f <;> simp [hk]

/-- A folder is new where one is opened and none is left. -/
theorem get?_didChangeFolders_of_opened
    (hread : FolderChange.schema.readParams FolderChange.ofJson params = .ok c) {k : String}
    (hk : k ∈ keysOf c.added) (hnone : k ∈ keysOf c.removed ∨ s.workspace.folders.get? k = none) :
    ∃ e stamp, c.added.find? (fun e => e.key? = some k) = some e
      ∧ s.workspace.nextStamp ≤ stamp
      ∧ (s.notify ⟨"workspace/didChangeWorkspaceFolders", params⟩).server.workspace.folders.get? k
        = some ⟨k, e.name, false, .empty, stamp⟩ := by
  obtain ⟨stamp, hstamp, heq⟩ := get?_didChangeFolders (s := s) hread k
  obtain ⟨e, he⟩ := mem_keysOf_iff.1 hk
  refine ⟨e, stamp, he, hstamp, ?_⟩
  have hleft : (if k ∈ keysOf c.removed then none else s.workspace.folders.get? k) = none := by
    split
    · rfl
    · exact hnone.resolve_left ‹_›
  rw [heq, hleft, he]
  rfl

end Server

/-- In every reachable workspace folders lie under the normalized paths that they have. A change of
folders closes the keys of the removed folders of files and then opens those of the added ones. What
is not closed is left as it is; what is closed is emptied and its files are cleared, and nothing
else is sent; what is opened where nothing is left starts empty. Each added folder of files is
scanned, as often as it is named. -/
theorem folder_changes_are_set_operations (settings : Settings) (scanner : Scanner)
    (acts : List Act) :
    let old := ((Ledger.start settings scanner).run acts).workspace
    old.Keyed ∧ ∀ (server : Server) (params : Json) (c : FolderChange), server.workspace = old →
      FolderChange.schema.readParams FolderChange.ofJson params = .ok c →
      let h := server.notify ⟨"workspace/didChangeWorkspaceFolders", params⟩
      let new := h.server.workspace
      new.Keyed
      ∧ (∀ k, k ∈ new.folders.keys
          ↔ k ∈ old.folders.keys ∧ k ∉ keysOf c.removed ∨ k ∈ keysOf c.added)
      ∧ (∀ k f, old.folders.get? k = some f → k ∉ keysOf c.removed →
          new.folders.get? k = some f)
      ∧ (∀ k f, old.folders.get? k = some f → k ∈ keysOf c.removed →
          (∃ g, new.resolve f.ref = some g ∧ g.cache = .empty)
          ∧ ∀ p ∈ f.cache.keys, Path.isAbsolute p → ∃ u, Url.ofFilePath? p = some u
            ∧ .send (.diagnostics (.ofIssues u [])) ∈ h.events)
      ∧ (∀ e ∈ h.events, ∃ k ∈ keysOf c.removed, ∃ f, old.folders.get? k = some f
          ∧ e ∈ f.clear.2)
      ∧ (∀ k ∈ keysOf c.added, k ∈ keysOf c.removed ∨ old.folders.get? k = none →
          ∃ e stamp, c.added.find? (fun e => e.key? = some k) = some e ∧ old.nextStamp ≤ stamp
            ∧ new.folders.get? k = some ⟨k, e.name, false, .empty, stamp⟩)
      ∧ List.Forall₂ (fun k t => ∃ f, new.folders.get? k = some f ∧ t = .single (.folder f.ref))
          (keysOf c.added) h.tasks := by
  intro old
  have hlives : ((Ledger.start settings scanner).run acts).Lives True :=
    Ledger.lives_run settings scanner fun _ _ _ => trivial
  have hold : old.Keyed := hlives.keyed_normal
  have hapart : old.Apart := hlives.apart
  have hfresh : ∀ k f, old.folders.get? k = some f → f.stamp < old.nextStamp :=
    fun k f hf => hlives.fresh f (.inl ⟨k, hf⟩)
  refine ⟨hold, fun server params c hserver hread => ?_⟩
  -- From here on only these three facts about the run are needed.
  clear_value old
  subst hserver
  intro h new
  obtain ⟨hworkspace, hevents, htasks⟩ := Server.notify_didChangeFolders (s := server) hread
  change new = _ at hworkspace
  refine ⟨Server.keyed_didChangeFolders hread hold, Server.mem_keys_didChangeFolders hread, ?_, ?_,
    ?_, fun k => Server.get?_didChangeFolders_of_opened hread, ?_⟩
  · intro k f hf hk
    obtain ⟨stamp, -, heq⟩ := Server.get?_didChangeFolders (s := server) hread k
    rw [heq, if_neg hk, hf, Option.some_or]
  · intro k f hf hk
    obtain ⟨hremoved, hclear⟩ := Workspace.cleared_removeFolders hf
      (fun k' f' hf' heq => hapart k' f' k f hf' hf heq) (hfresh k f hf) hk
    refine ⟨⟨f.clear.1, ?_, rfl⟩, fun p hp habsolute => ?_⟩
    · rw [hworkspace]
      exact (hremoved.opening c.added).resolve rfl
    · obtain ⟨u, hu⟩ := Url.exists_ofFilePath? habsolute
      refine ⟨u, hu, hevents ▸ hclear _ (List.mem_flatMap.2 ⟨p, hp, ?_⟩)⟩
      simp [Publish.clear, Publish.file, Publish.diagnostics, hu]
  · intro e he
    exact Workspace.exists_of_mem_removeFolders (hevents ▸ he)
  · rw [htasks, hworkspace]
    exact Workspace.tasks_addFolders _ c.added

namespace Sample

def editorFolder (uri name : String) : Json :=
  .ofMembers [("uri", .text uri), ("name", .text name)]

/-- The folder is closed under one spelling and opened twice under another, beside one that is not
of files. -/
def folderChange : Json :=
  .ofMembers [("event", .ofMembers [
    ("added", .array [editorFolder "file:///a" "b", editorFolder "untitled:n" "n",
      editorFolder "file:///a" "c"]),
    ("removed", .array [editorFolder "file:///a/" "a"])])]

end Sample

/-- The folder loses its issue, and a new one is opened in its place and scanned twice. -/
theorem folder_changes_are_set_operations_reopened :
    let server : Server := ⟨(Sample.start.run Sample.acts).workspace, .new, false, 1⟩
    let h := server.notify ⟨"workspace/didChangeWorkspaceFolders", Sample.folderChange⟩
    let w := h.server.workspace
    (∃ g, w.resolve Sample.ref = some g ∧ g.cache = .empty)
      ∧ .send (.diagnostics (.ofIssues Sample.url [])) ∈ h.events
      ∧ (∃ stamp ≥ 1, w.folders.get? "/a" = some ⟨"/a", "b", false, .empty, stamp⟩)
      ∧ h.tasks.length = 2 := by
  intro server h w
  let c : FolderChange := FolderChange.ofJson Sample.folderChange
  have hread : FolderChange.schema.readParams FolderChange.ofJson Sample.folderChange = .ok c := rfl
  have hremoved : keysOf c.removed = ["/a"] := by decide +kernel
  have hadded : keysOf c.added = ["/a", "/a"] := by decide +kernel
  obtain ⟨-, hchange⟩ := folder_changes_are_set_operations (.standard "") ⟨.script [], none⟩
    Sample.acts
  obtain ⟨-, -, -, hclosed, -, hopened, htasks⟩ := hchange server Sample.folderChange c rfl hread
  have hmem : "/a" ∈ keysOf c.removed := hremoved ▸ List.mem_singleton_self _
  obtain ⟨hresolve, hclear⟩ := hclosed "/a" Sample.folder rfl hmem
  obtain ⟨u, hu, hsent⟩ := hclear "/a/x.js" (by decide +kernel) (by decide +kernel)
  obtain rfl : Sample.url = u := Option.some.inj (Sample.ofFilePath?_url.symm.trans hu)
  obtain ⟨e, stamp, he, hstamp, hget⟩ := hopened "/a" (hadded ▸ List.mem_cons_self) (.inl hmem)
  have hname : (c.added.find? fun e => e.key? = some "/a").map (·.name) = some "b" := by
    decide +kernel
  have hb : e.name = "b" := by simpa [he] using hname
  refine ⟨hresolve, hsent, ⟨stamp, hstamp, hb ▸ hget⟩, ?_⟩
  · exact htasks.length_eq.symm.trans (congrArg List.length hadded)

end ScanRelay
