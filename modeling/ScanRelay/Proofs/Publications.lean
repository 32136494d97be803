import Mathlib.Algebra.BigOperators.Group.List.Basic
import Mathlib.Algebra.GroupWithZero.Nat
import Mathlib.Data.Finset.Card
import ScanRelay.Proofs.Acts

/-!
# How often a file is published

New settings publish a file once at most, but for one case. Where nothing happens but that
categories are switched off, they are cleared one after another, and a file is published for each of
them that it has issues of (`Folder.publications`). So a file is published again exactly when it has
issues of two categories that are switched off together (`publications_of_new_settings`).
-/

namespace ScanRelay

theorem sum_indicator {α : Type} [DecidableEq α] (a : α) (l : List α) :
    (l.map fun b => if a = b then 1 else 0).sum = l.count a := by
  induction l with
  | nil => rfl
  | cons b rest ih =>
    rw [List.map_cons, List.sum_cons, ih, List.count_cons, Nat.add_comm]
    by_cases hb : a = b
    · simp [hb]
    · simp [hb, Ne.symm hb]

/-- What is counted in a list is counted key by key. -/
theorem countP_eq_sum_count {α : Type} [DecidableEq α] (p : α → Bool) {keys l : List α}
    (hkeys : keys.Nodup) (h : l ⊆ keys) :
    l.countP p = ((keys.filter p).map fun k => l.count k).sum := by
  induction l with
  | nil => simp
  | cons a rest ih =>
    have hone : (keys.filter p).count a = if p a then 1 else 0 := by
      rw [(hkeys.filter p).count]
      simp [h List.mem_cons_self]
    rw [List.countP_cons, ih fun b hb => h (List.mem_cons_of_mem _ hb), ← hone, ← sum_indicator,
      ← List.sum_map_add]
    simp only [List.count_cons, beq_iff_eq]

theorem CategoryFilter.nodup_newlyDisabled (f next : CategoryFilter) :
    (f.newlyDisabled next).Nodup :=
  List.Nodup.filter _ (by decide : Category.all.Nodup)

namespace Shows

variable {es : List Event} {files : List Exhibit}

theorem countP_hovers (h : Shows es files) (p : String) :
    (Event.hovers es).countP (fun d => d.path = p) = (files.map (·.1)).count p := by
  rw [h.hovers, List.countP_map, List.count, List.countP_map]
  rfl

theorem countP_diagnostics (h : Shows es files) (u : Url) :
    (Event.diagnostics es).countP (fun d => d.url = u)
      = (files.map (·.1)).countP fun p => Url.ofFilePath? p = some u := by
  rw [h.diagnostics, List.countP_filterMap, List.countP_map]
  refine List.countP_congr fun e _ => ?_
  rcases hu : Url.ofFilePath? e.1 with _ | v <;>
    simp [Exhibit.diagnostics?, hu, FileDiagnostics.ofIssues]

end Shows

namespace Folder

/-- The file has issues of the category. -/
def hasIssuesOf (f : Folder) (p : String) (c : Category) : Bool :=
  (f.cache.issuesOf p).any fun i => i.category = c

/-- How often a file is published when settings are installed. -/
def publications (before next : Settings) (f : Folder) (p : String) : Nat :=
  if before.filter.onlyDisables next.filter then
    (before.filter.issueTypes.newlyDisabled next.filter.issueTypes).countP (f.hasIssuesOf p)
  else if before.filter = next.filter then 0
  else if p ∈ f.cache.keys then 1
  else 0

theorem hasIssuesOf_iff {f : Folder} {p : String} {c : Category} :
    f.hasIssuesOf p c = true ↔ ∃ i ∈ f.cache.issuesOf p, i.category = c := by
  simp [hasIssuesOf]

theorem mem_keys_of_hasIssuesOf {f : Folder} {p : String} {c : Category}
    (h : f.hasIssuesOf p c = true) : p ∈ f.cache.keys := by
  obtain ⟨i, hi, -⟩ := hasIssuesOf_iff.1 h
  exact Cache.mem_keys_of_issuesOf_ne_nil (List.ne_nil_of_mem hi)

/-- Clearing a category leaves the others as they are. -/
theorem hasIssuesOf_removeCategory {c c' : Category} (h : c' ≠ c) (f : Folder) (p : String) :
    (f.removeCategory c).1.hasIssuesOf p c' = f.hasIssuesOf p c' := by
  rw [Bool.eq_iff_iff, hasIssuesOf_iff, hasIssuesOf_iff, issuesOf_removeCategory]
  refine exists_congr fun i => and_congr_left fun hi => ?_
  simp [hi, h]

/-! ## One category after another -/

theorem map_fst_removeCategory (f : Folder) (c : Category) : (f.removeCategory c).2.map (·.1)
    = (f.cache.entries.filter fun e =>
      (e.2.filter fun i => i.category ≠ c).length ≠ e.2.length).map (·.1) := by
  simp only [removeCategory, List.map_filterMap]
  rw [← List.filterMap_eq_map, List.filterMap_filter]
  refine List.filterMap_congr fun e _ => ?_
  split <;> simp_all

theorem count_cleared (s : Settings) (f : Folder) (c : Category) (p : String) :
    ((f.cleared s c).map (·.1)).count p = if f.hasIssuesOf p c then 1 else 0 := by
  have hmap : (f.cleared s c).map (·.1) = (f.removeCategory c).2.map (·.1) := by
    simp only [cleared, List.map_map, Function.comp_def]
  have hnodup : ((f.cleared s c).map (·.1)).Nodup := by
    rw [hmap, map_fst_removeCategory]
    exact f.cache.keys_nodup.sublist (List.filter_sublist.map _)
  rw [hnodup.count]
  simp only [List.mem_map, exists_mem_cleared_iff, hasIssuesOf_iff]

theorem map_fst_exhibits (s : Settings) (f : Folder) :
    (f.exhibits s).map (·.1) = f.cache.keys := by
  simp only [exhibits, Table.keys, List.map_map, Function.comp_def]

theorem shows_clearCategories_count (s : Settings) {cs : List Category} (hcs : cs.Nodup)
    (f : Folder) : ∃ files, Shows (chain (clearCategory s) f cs).2 files
      ∧ ∀ p, (files.map (·.1)).count p = cs.countP (f.hasIssuesOf p) := by
  induction cs generalizing f with
  | nil => exact ⟨[], .nil, fun p => rfl⟩
  | cons c cs ih =>
    obtain ⟨hc, hcs⟩ := List.nodup_cons.1 hcs
    obtain ⟨files, hshows, hcount⟩ := ih hcs (f.clearCategory s c).1
    refine ⟨f.cleared s c ++ files, (f.shows_clearCategory s c).append hshows, fun p => ?_⟩
    -- What the later categories publish is not changed by clearing this one.
    have hlater : cs.countP ((f.clearCategory s c).1.hasIssuesOf p)
        = cs.countP (f.hasIssuesOf p) := by
      refine List.countP_congr fun c' hc' => ?_
      have hne : c' ≠ c := fun heq => hc (heq ▸ hc')
      exact Bool.eq_iff_iff.1 (hasIssuesOf_removeCategory hne f p)
    rw [List.map_append, List.count_append, count_cleared, hcount, hlater, List.countP_cons,
      Nat.add_comm]

/-- Installing settings publishes each file as often as is said, and none that is not cached. -/
theorem shows_applySettings_count (before next : Settings) (f : Folder) :
    ∃ files, Shows (f.applySettings before next).2 files
      ∧ ∀ p, (files.map (·.1)).count p = f.publications before next p := by
  have hdisabled := before.filter.issueTypes.nodup_newlyDisabled next.filter.issueTypes
  unfold applySettings publications
  by_cases honly : before.filter.onlyDisables next.filter
  · simp only [honly, if_true]
    exact shows_clearCategories_count next hdisabled f
  · simp only [honly, Bool.false_eq_true, if_false]
    by_cases heq : before.filter = next.filter
    · simp only [heq, if_true]
      exact ⟨[], .nil, fun p => rfl⟩
    · simp only [heq, if_false]
      refine ⟨_, shows_publish next _ none, fun p => ?_⟩
      rw [map_fst_exhibits, keys_removeCategories, f.cache.keys_nodup.count]

theorem mem_keys_of_publications_pos {before next : Settings} {f : Folder} {p : String}
    (h : 0 < f.publications before next p) : p ∈ f.cache.keys := by
  unfold publications at h
  split at h
  · obtain ⟨c, -, hc⟩ := List.countP_pos_iff.1 h
    exact mem_keys_of_hasIssuesOf hc
  · split at h
    · exact absurd h (Nat.lt_irrefl 0)
    · split at h
      · assumption
      · exact absurd h (Nat.lt_irrefl 0)

/-- A file is published more than once when it has issues of two categories and nothing happens but
that these and perhaps others are switched off. -/
theorem one_lt_publications_iff {before next : Settings} {f : Folder} {p : String} :
    1 < f.publications before next p ↔ before.filter.onlyDisables next.filter
      ∧ ∃ c ∈ before.filter.issueTypes.newlyDisabled next.filter.issueTypes,
        ∃ c' ∈ before.filter.issueTypes.newlyDisabled next.filter.issueTypes,
          c ≠ c' ∧ f.hasIssuesOf p c ∧ f.hasIssuesOf p c' := by
  have hdisabled := before.filter.issueTypes.nodup_newlyDisabled next.filter.issueTypes
  unfold publications
  by_cases honly : before.filter.onlyDisables next.filter
  · rw [if_pos honly, List.countP_eq_length_filter,
      ← List.toFinset_card_of_nodup (hdisabled.filter _), Finset.one_lt_card]
    simp only [List.mem_toFinset, List.mem_filter, honly, true_and]
    grind
  · rw [if_neg honly]
    simp only [honly, Bool.false_eq_true, false_and, iff_false]
    split
    · simp
    · split <;> simp

end Folder

/-! ## New settings after any run -/

/-- Whatever was done before, new settings make an open folder send as many hover documents for a
file as are said, and as many lists of diagnostics for a URL as for all its files together. That is
more than one for a file exactly when nothing happens but that categories are switched off, and the
file has issues of two of them. The acts of a run are what is done to a workspace, with the same
events. -/
theorem publications_of_new_settings (s : Settings) (scanner : Scanner) (acts : List Act)
    {f : Folder} (hf : ((Ledger.start s scanner).run acts).Open f) (next : Settings) :
    let l := (Ledger.start s scanner).run acts
    let before := l.workspace.settings
    let disabled := before.filter.issueTypes.newlyDisabled next.filter.issueTypes
    let sent := share f.stamp (l.workspace.act (.applySettings next)).2
    (∀ w : Workspace, w.Performs)
      ∧ (∀ p, (Event.hovers sent).countP (fun d => d.path = p) = f.publications before next p)
      ∧ (∀ u, (Event.diagnostics sent).countP (fun d => d.url = u)
        = ((f.cache.keys.filter fun p => Url.ofFilePath? p = some u).map
            (f.publications before next)).sum)
      ∧ ∀ p, 1 < f.publications before next p ↔ before.filter.onlyDisables next.filter
        ∧ ∃ c ∈ disabled, ∃ c' ∈ disabled,
          c ≠ c' ∧ f.hasIssuesOf p c ∧ f.hasIssuesOf p c' := by
  intro l before disabled sent
  have hlives : l.Lives True := Ledger.lives_run s scanner fun _ _ _ => trivial
  have hsent : sent = (f.applySettings before next).2 := by
    obtain ⟨k, hk⟩ := hf
    exact (l.workspace.each_applySettingsSigned next).share hlives.apart k f hk
  obtain ⟨files, hshows, hcount⟩ := f.shows_applySettings_count before next
  rw [← hsent] at hshows
  refine ⟨Workspace.performs, fun p => ?_, fun u => ?_, fun p => Folder.one_lt_publications_iff⟩
  · rw [hshows.countP_hovers, hcount]
  · have hkeys : files.map (·.1) ⊆ f.cache.keys := fun p hp =>
      Folder.mem_keys_of_publications_pos (hcount p ▸ List.count_pos_iff.2 hp)
    rw [hshows.countP_diagnostics, countP_eq_sum_count _ f.cache.keys_nodup hkeys]
    simp only [hcount]

namespace Sample

/-- A second issue in the same file, of another category. -/
def qualityIssue : Issue := { issue with id := "2", issueType := .codeQualityIssue }

/-- Issues in code are not shown. -/
def withoutCode : Settings :=
  { Settings.standard "" with filter := ⟨.standard, ⟨true, false, false, true⟩⟩ }

end Sample

/-- A file with issues of one of the two categories is published once. -/
theorem publications_of_one_category :
    let sent := share 0 ((Sample.start.run Sample.acts).workspace.act
      (.applySettings Sample.withoutCode)).2
    (Event.hovers sent).countP (fun d => d.path = "/a/x.js") = 1
      ∧ ∃ u, Url.ofFilePath? "/a/x.js" = some u
        ∧ (Event.diagnostics sent).countP (fun d => d.url = u) = 1 := by
  obtain ⟨-, hhovers, hlists, -⟩ := publications_of_new_settings (.standard "") ⟨.script [], none⟩
    Sample.acts Sample.open_folder Sample.withoutCode
  obtain ⟨u, hu⟩ : ∃ u, Url.ofFilePath? "/a/x.js" = some u := ⟨_, rfl⟩
  refine ⟨(hhovers "/a/x.js").trans (by decide +kernel), u, hu, (hlists u).trans ?_⟩
  obtain rfl := Option.some.inj hu
  decide +kernel

/-- A file with issues of two categories is published twice when both are switched off. -/
theorem two_categories_publish_twice :
    let report : ScanReport := ⟨some .code, .ok [Sample.issue, Sample.qualityIssue], 0, none⟩
    let acts := [.add "/a" "a", .operate Sample.ref (.process .listed report)]
    let w := (Sample.start.run acts).workspace
    let sent := (w.applySettings Sample.withoutCode).2
    w.folders.keys = ["/a"]
      ∧ (Event.hovers sent).countP (fun d => d.path = "/a/x.js") = 2
      ∧ (Event.diagnostics sent).map (fun d => d.url.toText)
        = ["file:///a/x.js", "file:///a/x.js"] := by
  decide +kernel

end ScanRelay
