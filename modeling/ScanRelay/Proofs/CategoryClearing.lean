import ScanRelay.Proofs.SettingsEdits

/-!
# Clearing one category

The files of a cache are visited one after another, in any order, and each loses its issues of the
category (`Folder.dropFrom`). A visit changes no other file, so in the end just the files that had
such issues were found to be shorter, once each (`Folder.Dropped.visits`), and they are published.
What is left in the cache is the same for every order, clearing a category commutes with clearing
another, and the second time it does nothing (`category_clearing_is_exact`).
-/

namespace ScanRelay

namespace Folder

variable {f g : Folder} {c : Category} {visited : List String} {es : List Exhibit}

def withoutCategory (c : Category) (issues : List Issue) : List Issue :=
  issues.filter fun i => i.category ≠ c

/-- Visits one file, which loses its issues of a category, and tells what is left of it if it got
shorter. -/
def dropFrom (c : Category) (f : Folder) (path : String) : Folder × List Exhibit :=
  let issues := f.cache.issuesOf path
  ({ f with cache := f.cache.modify path (withoutCategory c) },
    if (withoutCategory c issues).length = issues.length then []
    else [(path, withoutCategory c issues)])

/-- Visits all files in some order. -/
def dropFromAll (order : VisitOrder) (f : Folder) (c : Category) : Folder × List Exhibit :=
  chain (dropFrom c) f (order.arrange f.cache.keys)

/-- Clears a category, visiting the files in some order. -/
def clearCategoryIn (order : VisitOrder) (s : Settings) (f : Folder) (c : Category) :
    Folder × List Event :=
  let next := f.dropFromAll order c
  (next.1, next.2.flatMap fun e => Publish.file e.1 (s.filter.visible e.2))

/-! ## Visits -/

theorem withoutCategory_length_eq_iff {p : String} :
    (withoutCategory c (f.cache.issuesOf p)).length = (f.cache.issuesOf p).length
      ↔ f.hasIssuesOf p c = false := by
  simp [withoutCategory, hasIssuesOf, List.length_filter_eq_length_iff]

theorem get?_dropFrom (c : Category) (f : Folder) (path p : String) :
    (f.dropFrom c path).1.cache.get? p
      = if p = path then (f.cache.get? p).map (withoutCategory c) else f.cache.get? p := by
  show (Table.modify f.cache path _).get? p = _
  rw [Table.modify, Table.get?_mapValues]
  split <;> simp

theorem snd_dropFrom (c : Category) (f : Folder) (path : String) : (f.dropFrom c path).2
    = if f.hasIssuesOf path c then [(path, withoutCategory c (f.cache.issuesOf path))] else [] := by
  cases h : f.hasIssuesOf path c with
  | true =>
    have hshorter := mt withoutCategory_length_eq_iff.1 (ne_false_of_eq_true h)
    exact if_neg hshorter
  | false => exact if_pos (withoutCategory_length_eq_iff.2 h)

/-- After visits of some files these have lost their issues of the category, and those that had any
were found to be shorter. -/
structure Dropped (c : Category) (f : Folder) (visited : List String)
    (next : Folder × List Exhibit) : Prop where
  others : next.1 = { f with cache := next.1.cache }
  get? : ∀ p, next.1.cache.get? p
    = if p ∈ visited then (f.cache.get? p).map (withoutCategory c) else f.cache.get? p
  shorter : next.2 = (visited.filter fun p => f.hasIssuesOf p c).map fun p =>
    (p, withoutCategory c (f.cache.issuesOf p))

theorem dropped_nothing (c : Category) (f : Folder) : f.Dropped c [] (f, []) :=
  ⟨rfl, fun _ => rfl, rfl⟩

theorem Dropped.visit (h : f.Dropped c visited (g, es)) {path : String} (hpath : path ∉ visited) :
    f.Dropped c (visited ++ [path]) ((g.dropFrom c path).1, es ++ (g.dropFrom c path).2) where
  others := by
    rw [show g = _ from h.others]
    rfl
  get? := by
    intro p
    rw [get?_dropFrom, show g.cache.get? p = _ from h.get? p]
    by_cases hp : p = path
    · simp [hp, hpath]
    · simp [hp]
  shorter := by
    -- The file was not visited before, so it is found as it was.
    have hissues : g.cache.issuesOf path = f.cache.issuesOf path := by
      rw [Cache.issuesOf, show g.cache.get? path = _ from h.get? path, if_neg hpath]
      rfl
    have hhas : g.hasIssuesOf path c = f.hasIssuesOf path c := by
      rw [hasIssuesOf, hissues]
      rfl
    rw [snd_dropFrom, hissues, hhas, show es = _ from h.shorter, List.filter_append,
      List.map_append]
    cases hc : f.hasIssuesOf path c <;> simp [hc]

theorem Dropped.visits (h : f.Dropped c visited (g, es)) {files : List String}
    (hfiles : (visited ++ files).Nodup) : f.Dropped c (visited ++ files)
      ((chain (dropFrom c) g files).1, es ++ (chain (dropFrom c) g files).2) := by
  induction files generalizing visited g es with
  | nil => simpa [chain] using h
  | cons path rest ih =>
    rw [List.append_cons] at hfiles ⊢
    have hpath : path ∉ visited := fun hmem =>
      (List.nodup_append.1 hfiles.of_append_left).2.2 path hmem path (by simp) rfl
    simpa [chain] using ih (h.visit hpath) hfiles

/-! ## Whole caches -/

theorem dropped_all (order : VisitOrder) (f : Folder) (c : Category) :
    f.Dropped c (order.arrange f.cache.keys) (f.dropFromAll order c) :=
  (dropped_nothing c f).visits ((order.perm _).nodup_iff.2 f.cache.keys_nodup)

theorem fst_dropFromAll (order : VisitOrder) (f : Folder) (c : Category) :
    (f.dropFromAll order c).1 = (f.removeCategory c).1 := by
  have hdropped := f.dropped_all order c
  have hcache : (f.dropFromAll order c).1.cache = (f.removeCategory c).1.cache := by
    refine Table.ext_get? fun p => ?_
    show Table.get? (f.dropFromAll order c).1.cache p
      = (f.cache.mapValues fun _ => withoutCategory c).get? p
    rw [hdropped.get?, Table.get?_mapValues]
    split
    · rfl
    · rename_i hp
      rw [Cache.get?_eq_none_of_not_mem_keys (mt (order.perm _).mem_iff.2 hp)]
      rfl
  rw [hdropped.others, hcache]
  rfl

theorem clearCategoryIn_listed (s : Settings) (f : Folder) (c : Category) :
    f.clearCategoryIn .listed s c = f.clearCategory s c := by
  have hshorter : (f.dropFromAll .listed c).2 = (f.removeCategory c).2 := by
    rw [(f.dropped_all .listed c).shorter]
    show (f.cache.keys.filter _).map _ = _
    rw [Table.keys, List.filter_map, List.map_map, ← List.filterMap_eq_map, List.filterMap_filter]
    refine List.filterMap_congr fun e he => ?_
    have hissues : f.cache.issuesOf e.1 = e.2 := Cache.issuesOf_eq_of_mem he
    have hlength := withoutCategory_length_eq_iff (f := f) (c := c) (p := e.1)
    rw [hissues] at hlength
    simp only [Function.comp_apply, hissues]
    cases hc : f.hasIssuesOf e.1 c with
    | true => exact (if_neg (mt hlength.1 (ne_false_of_eq_true hc))).symm
    | false => exact (if_pos (hlength.2 hc)).symm
  rw [clearCategoryIn, clearCategory, fst_dropFromAll, hshorter]

theorem clearCategoryIn_eq (order : VisitOrder) (s : Settings) (f : Folder) (c : Category) :
    f.clearCategoryIn order s c = ((f.removeCategory c).1,
      ((order.arrange f.cache.keys).filter fun p => f.hasIssuesOf p c).flatMap fun p =>
        Publish.file p ((f.removeCategory c).1.visible s p)) := by
  rw [clearCategoryIn, fst_dropFromAll, (f.dropped_all order c).shorter, List.flatMap_map]
  simp only [visible, issuesOf_removeCategory]
  rfl

theorem hasIssuesOf_removeCategory_self (f : Folder) (c : Category) (p : String) :
    (f.removeCategory c).1.hasIssuesOf p c = false := by
  simp [hasIssuesOf, issuesOf_removeCategory]

theorem removeCategory_self (f : Folder) (c : Category) :
    ((f.removeCategory c).1.removeCategory c).1 = (f.removeCategory c).1 := by
  simp only [removeCategory, Table.mapValues_mapValues, List.filter_filter, Bool.and_self]

theorem removeCategory_comm (f : Folder) (c c' : Category) :
    ((f.removeCategory c).1.removeCategory c').1
      = ((f.removeCategory c').1.removeCategory c).1 := by
  simp only [removeCategory, Table.mapValues_mapValues, List.filter_comm]

end Folder

/-- To clear a category, in whatever order the files are visited, leaves each entry of the cache
without its issues of the category, and everything else of the folder as it is. Published are the
files that had such issues, each once, with what is visible of the rest, and no scan is told of. To
clear the category again does nothing and sends nothing, and of two categories it does not matter
which is cleared first. -/
theorem category_clearing_is_exact (order : VisitOrder) (s : Settings) (f : Folder)
    (c : Category) :
    let next := f.clearCategoryIn order s c
    f.clearCategoryIn .listed s c = f.clearCategory s c
    ∧ next.1 = { f with cache := next.1.cache }
    ∧ (∀ p, next.1.cache.get? p
      = (f.cache.get? p).map fun issues => issues.filter fun i => i.category ≠ c)
    ∧ (∃ files : List String, files.Nodup
      ∧ (∀ p, p ∈ files ↔ ∃ i ∈ f.cache.issuesOf p, i.category = c)
      ∧ next.2 = files.flatMap fun p => Publish.file p (next.1.visible s p))
    ∧ Event.statuses next.2 = []
    ∧ (∀ order' s', next.1.clearCategoryIn order' s' c = (next.1, []))
    ∧ ∀ order' s' c', (next.1.clearCategoryIn order' s' c').1
      = ((f.clearCategoryIn order' s' c').1.clearCategoryIn order s c).1 := by
  intro next
  have hnext : next = _ := f.clearCategoryIn_eq order s c
  refine ⟨f.clearCategoryIn_listed s c, ?_, fun p => ?_, ?_, ?_, fun order' s' => ?_,
    fun order' s' c' => ?_⟩
  · rw [hnext]
    rfl
  · rw [hnext]
    exact Table.get?_mapValues _ _ _
  · refine ⟨(order.arrange f.cache.keys).filter fun p => f.hasIssuesOf p c, ?_, fun p => ?_, ?_⟩
    · exact ((order.perm _).nodup_iff.2 f.cache.keys_nodup).filter _
    · rw [List.mem_filter, (order.perm _).mem_iff, ← Folder.hasIssuesOf_iff]
      exact and_iff_right_of_imp Folder.mem_keys_of_hasIssuesOf
    · rw [hnext]
  · rw [hnext]
    exact Event.statuses_flatMap_eq_nil fun p => Publish.statuses_file _ _
  · rw [hnext, Folder.clearCategoryIn_eq]
    simp [Folder.removeCategory_self, Folder.hasIssuesOf_removeCategory_self]
  · rw [hnext]
    simp only [Folder.clearCategoryIn_eq]
    exact f.removeCategory_comm c c'

end ScanRelay
