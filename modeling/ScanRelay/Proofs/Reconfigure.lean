import ScanRelay.Proofs.Operation

/-!
# New settings

What becomes of a folder when settings are installed (`Folder.applySettings`). Either each category
that was switched off is cleared, and only the files that lose issues are shown; or the categories
are removed in silence and all files are shown, unless the filters are the same. Both ways each file
then shows what is visible of it under the new settings (`applySettings_displays`): where only
categories were switched off, a file that loses nothing is left with issues on which the old and
the new filters agree.
-/

namespace ScanRelay

/-- One step for each element of a list, with all their events. -/
def chain {σ α ε : Type} (step : σ → α → σ × List ε) : σ → List α → σ × List ε
  | s, [] => (s, [])
  | s, a :: rest =>
    let next := step s a
    let last := chain step next.1 rest
    (last.1, next.2 ++ last.2)

theorem foldl_eq_chain {σ α ε : Type} (step : σ → α → σ × List ε) (l : List α) (s : σ)
    (es : List ε) : l.foldl (fun (s, es) a => let (s, more) := step s a; (s, es ++ more)) (s, es)
      = ((chain step s l).1, es ++ (chain step s l).2) := by
  induction l generalizing s es with
  | nil => simp [chain]
  | cons a rest ih =>
    rw [List.foldl_cons, ih, chain, List.append_assoc]

/-- Between two filters some categories are switched off and nothing else changes. -/
def FilterSettings.onlyDisables (before after : FilterSettings) : Bool :=
  !(before.issueTypes.newlyDisabled after.issueTypes).isEmpty && before.severity = after.severity
    && (after.issueTypes.newlyDisabled before.issueTypes).isEmpty

theorem CategoryFilter.mem_newlyDisabled {f next : CategoryFilter} {c : Category} :
    c ∈ f.newlyDisabled next ↔ f.shows c = true ∧ next.shows c = false := by
  have hall : c ∈ Category.all := by cases c <;> decide
  simp [newlyDisabled, hall]

theorem CategoryFilter.newlyDisabled_self (f : CategoryFilter) : f.newlyDisabled f = [] := by
  simp [newlyDisabled]

/-- Filters agree on an issue when only categories other than its own are switched off. -/
theorem FilterSettings.shows_eq_of_onlyDisables {before after : FilterSettings}
    (h : before.onlyDisables after) {i : Issue}
    (hi : i.category ∉ before.issueTypes.newlyDisabled after.issueTypes) :
    before.shows i = after.shows i := by
  simp only [onlyDisables, Bool.and_eq_true, decide_eq_true_eq, List.isEmpty_iff] at h
  obtain ⟨⟨-, hsev⟩, hnone⟩ := h
  have hi' : i.category ∉ after.issueTypes.newlyDisabled before.issueTypes := by simp [hnone]
  rw [CategoryFilter.mem_newlyDisabled] at hi hi'
  have hcat : before.issueTypes.shows i.category = after.issueTypes.shows i.category := by
    cases hb : before.issueTypes.shows i.category <;>
      cases ha : after.issueTypes.shows i.category <;> simp_all
  rw [shows, shows, hsev, hcat]

namespace Folder

def removeCategories (f : Folder) (cs : List Category) : Folder :=
  cs.foldl (fun g c => (g.removeCategory c).1) f

/-- What becomes of a folder when settings are installed in place of others. -/
def applySettings (before next : Settings) (f : Folder) : Folder × List Event :=
  let disabled := before.filter.issueTypes.newlyDisabled next.filter.issueTypes
  if before.filter.onlyDisables next.filter then chain (clearCategory next) f disabled
  else
    let g := f.removeCategories disabled
    (g, if before.filter = next.filter then [] else g.publish next none)

/-! ## Removing categories one after another -/

theorem issuesOf_removeCategories (f : Folder) (cs : List Category) (p : String) :
    (f.removeCategories cs).cache.issuesOf p
      = (f.cache.issuesOf p).filter fun i => i.category ∉ cs := by
  induction cs generalizing f with
  | nil => simp [removeCategories]
  | cons c cs ih =>
    rw [removeCategories, List.foldl_cons, ← removeCategories, ih, issuesOf_removeCategory,
      List.filter_filter]
    refine List.filter_congr fun i _ => ?_
    simp [Bool.and_comm]

theorem keys_removeCategories (f : Folder) (cs : List Category) :
    (f.removeCategories cs).cache.keys = f.cache.keys := by
  induction cs generalizing f with
  | nil => rfl
  | cons c cs ih =>
    rw [removeCategories, List.foldl_cons, ← removeCategories, ih, keys_removeCategory]

theorem ref_removeCategories (f : Folder) (cs : List Category) :
    (f.removeCategories cs).ref = f.ref := by
  induction cs generalizing f with
  | nil => rfl
  | cons c cs ih => exact ih _

theorem fst_clearCategories (s : Settings) (f : Folder) (cs : List Category) :
    (chain (clearCategory s) f cs).1 = f.removeCategories cs := by
  induction cs generalizing f with
  | nil => rfl
  | cons c cs ih => exact ih _

/-- The files shown are those that had issues of one of the categories, each at last with what is
visible of it in the end. -/
theorem shows_clearCategories (s : Settings) (f : Folder) (cs : List Category) :
    ∃ files, Shows (chain (clearCategory s) f cs).2 files
      ∧ (∀ e ∈ files, ∃ i ∈ f.cache.issuesOf e.1, i.category ∈ cs)
      ∧ ∀ p, (∃ i ∈ f.cache.issuesOf p, i.category ∈ cs) → ∀ last,
        lastShown p last files = (f.removeCategories cs).visible s p := by
  induction cs generalizing f with
  | nil => exact ⟨[], .nil, by simp, by simp⟩
  | cons c cs ih =>
    obtain ⟨files, hshows, hfiles, hlast⟩ := ih (f.clearCategory s c).1
    have hissues : ∀ p, (f.clearCategory s c).1.cache.issuesOf p
        = (f.cache.issuesOf p).filter fun i => i.category ≠ c := f.issuesOf_removeCategory c
    refine ⟨f.cleared s c ++ files, (f.shows_clearCategory s c).append hshows, ?_, ?_⟩
    · intro e he
      rcases List.mem_append.1 he with he | he
      · obtain ⟨i, hi, hc⟩ := exists_mem_cleared_iff.1 ⟨e, he, rfl⟩
        exact ⟨i, hi, hc ▸ List.mem_cons_self⟩
      · obtain ⟨i, hi, hc⟩ := hfiles e he
        rw [hissues] at hi
        exact ⟨i, (List.mem_filter.1 hi).1, List.mem_cons_of_mem _ hc⟩
    · rintro p ⟨i, hi, hc⟩ last
      rw [lastShown_append]
      by_cases hlater : ∃ j ∈ (f.clearCategory s c).1.cache.issuesOf p, j.category ∈ cs
      · exact hlast p hlater _
      · -- Nothing is left for the later categories, so `c` was the last to change the file.
        have hkept : ∀ e ∈ files, e.1 ≠ p := by
          rintro e he rfl
          exact hlater (hfiles e he)
        have hic : i.category = c := by
          by_contra hne
          refine hlater ⟨i, ?_, (List.mem_cons.1 hc).resolve_left hne⟩
          rw [hissues]
          exact List.mem_filter.2 ⟨hi, decide_eq_true hne⟩
        rw [lastShown_of_forall_ne hkept, lastShown_of_forall_eq
          (fun e he hep => hep ▸ mem_cleared he) (exists_mem_cleared_iff.2 ⟨i, hi, hic⟩)]
        have hsame : (f.removeCategories (c :: cs)).cache.issuesOf p
            = (f.clearCategory s c).1.cache.issuesOf p := by
          refine (issuesOf_removeCategories (f.clearCategory s c).1 cs p).trans ?_
          exact List.filter_eq_self.2 fun j hj => decide_eq_true fun hjc => hlater ⟨j, hj, hjc⟩
        rw [visible, visible, hsame]

/-! ## Installing settings -/

variable (before next : Settings) (f : Folder)

theorem fst_applySettings : (f.applySettings before next).1
    = f.removeCategories (before.filter.issueTypes.newlyDisabled next.filter.issueTypes) := by
  unfold applySettings
  split
  · exact fst_clearCategories next f _
  · rfl

theorem ref_applySettings : (f.applySettings before next).1.ref = f.ref := by
  rw [fst_applySettings, ref_removeCategories]

theorem sound_applySettings {f : Folder} (h : f.cache.Sound) :
    (f.applySettings before next).1.cache.Sound := by
  rw [fst_applySettings]
  exact h.of_sublist fun p => f.issuesOf_removeCategories _ p ▸ List.filter_sublist

/-- Installing settings turns what should be shown before into what should be shown after. -/
theorem applySettings_displays :
    ∃ files, Shows (f.applySettings before next).2 files
      ∧ Backs files f.cache (f.applySettings before next).1.cache
      ∧ Turns files (f.visible before) ((f.applySettings before next).1.visible next) := by
  rw [fst_applySettings]
  unfold applySettings
  generalize hd : before.filter.issueTypes.newlyDisabled next.filter.issueTypes = disabled
  have hkeys := f.keys_removeCategories disabled
  have hsame : ∀ p, ¬ (∃ i ∈ f.cache.issuesOf p, i.category ∈ disabled) →
      (f.removeCategories disabled).cache.issuesOf p = f.cache.issuesOf p := by
    intro p hp
    rw [issuesOf_removeCategories]
    exact List.filter_eq_self.2 fun i hi => decide_eq_true fun hc => hp ⟨i, hi, hc⟩
  by_cases honly : before.filter.onlyDisables next.filter
  · rw [if_pos honly]
    obtain ⟨files, hshows, hfiles, hlast⟩ := f.shows_clearCategories next disabled
    refine ⟨files, hshows, ?_, fun p => ?_⟩
    · refine .of_shown (fun e he _ => ?_) fun p hp => .inl (hkeys ▸ hp)
      obtain ⟨i, hi, -⟩ := hfiles e he
      exact hkeys ▸ Cache.mem_keys_of_issuesOf_ne_nil (List.ne_nil_of_mem hi)
    · by_cases hp : ∃ i ∈ f.cache.issuesOf p, i.category ∈ disabled
      · exact hlast p hp _
      · have hkept : ∀ e ∈ files, e.1 ≠ p := by
          rintro e he rfl
          exact hp (hfiles e he)
        rw [lastShown_of_forall_ne hkept, visible, visible, hsame p hp]
        refine List.filter_congr fun i hi => ?_
        exact FilterSettings.shows_eq_of_onlyDisables honly (hd ▸ fun hc => hp ⟨i, hi, hc⟩)
  · rw [if_neg honly]
    dsimp only
    by_cases heq : before.filter = next.filter
    · rw [if_pos heq]
      refine ⟨[], .nil, .of_keys fun p hp => hkeys ▸ hp, .of_eq fun p => ?_⟩
      have hnone : disabled = [] := by
        rw [← hd, heq, CategoryFilter.newlyDisabled_self]
      rw [visible, visible, hsame p (by simp [hnone]), heq]
    · rw [if_neg heq]
      refine ⟨_, shows_publish next _ none, backs_exhibits next _ fun p hp => hkeys ▸ hp, ?_⟩
      refine turns_exhibits next _ fun p hp => visible_eq_nil_of_not_mem before fun hmem => ?_
      exact hp (hkeys ▸ hmem)

end Folder

end ScanRelay
