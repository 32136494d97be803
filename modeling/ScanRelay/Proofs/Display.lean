import Mathlib.Data.List.Induction
import ScanRelay.Engine.Folder
import ScanRelay.Proofs.Identity

/-!
# What events show

An operation shows files: for each a hover document and, when its path is absolute, a list of
diagnostics, both made from the same issues and in the same order (`Shows`). What an editor is left
with is then read off the files alone: the hovers of a file (`get?_applyAll_files`) and the
diagnostics of a URL that no two of the files share (`lastDiagnostics_of_shows`) are those of the
issues last shown for it. Where files share a URL, its last list is still that of one of them
(`exists_lastShown_of_lastDiagnostics`).
-/

namespace ScanRelay

/-- A file with the issues that are shown for it. -/
abbrev Exhibit := String × List Issue

/-- The last diagnostics of a URL in lists for several URLs. -/
def FileDiagnostics.last? (u : Url) (ds : List FileDiagnostics) : Option (List Diagnostic) :=
  (ds.filter fun d => d.url = u).getLast?.map (·.diagnostics)

namespace Event

def diagnostics? : Event → Option FileDiagnostics
  | send (.diagnostics d) => some d
  | _ => none

def diagnostics (es : List Event) : List FileDiagnostics := es.filterMap diagnostics?

/-- The diagnostics last sent for a URL. -/
def lastDiagnostics (u : Url) (es : List Event) : Option (List Diagnostic) :=
  FileDiagnostics.last? u (diagnostics es)

theorem hovers_append (es fs : List Event) : hovers (es ++ fs) = hovers es ++ hovers fs :=
  List.filterMap_append

theorem diagnostics_append (es fs : List Event) :
    diagnostics (es ++ fs) = diagnostics es ++ diagnostics fs :=
  List.filterMap_append

theorem hovers_flatMap {α : Type} (f : α → List Event) (l : List α) :
    hovers (l.flatMap f) = l.flatMap fun a => hovers (f a) :=
  List.filterMap_flatMap

theorem diagnostics_flatMap {α : Type} (f : α → List Event) (l : List α) :
    diagnostics (l.flatMap f) = l.flatMap fun a => diagnostics (f a) :=
  List.filterMap_flatMap

end Event

def Exhibit.diagnostics? (e : Exhibit) : Option FileDiagnostics :=
  (Url.ofFilePath? e.1).map fun u => .ofIssues u e.2

/-- The events show these files in this order. -/
structure Shows (es : List Event) (files : List Exhibit) : Prop where
  hovers : Event.hovers es = files.map fun e => .ofIssues e.1 e.2
  diagnostics : Event.diagnostics es = files.filterMap Exhibit.diagnostics?

namespace Shows

theorem nil : Shows [] [] := ⟨rfl, rfl⟩

theorem append {es fs : List Event} {xs ys : List Exhibit} (h : Shows es xs) (h' : Shows fs ys) :
    Shows (es ++ fs) (xs ++ ys) where
  hovers := by rw [Event.hovers_append, h.hovers, h'.hovers, List.map_append]
  diagnostics := by
    rw [Event.diagnostics_append, h.diagnostics, h'.diagnostics, List.filterMap_append]

theorem flatMap {α : Type} {f : α → List Event} {g : α → List Exhibit} :
    ∀ l : List α, (∀ a ∈ l, Shows (f a) (g a)) → Shows (l.flatMap f) (l.flatMap g)
  | [], _ => nil
  | a :: l, h => by
    rw [List.flatMap_cons, List.flatMap_cons]
    exact (h a List.mem_cons_self).append (flatMap l fun b hb => h b (List.mem_cons_of_mem _ hb))

theorem telemetry (l : List ScanDone) : Shows (l.map .telemetry) [] := by
  constructor <;> simp [Event.hovers, Event.diagnostics, Event.hover?, Event.diagnostics?]

theorem scanStatus (s : ScanStatus) : Shows [.send (.scanStatus s)] [] := ⟨rfl, rfl⟩

theorem clearInline (p : String) : Shows [.clearInline p] [] := ⟨rfl, rfl⟩

end Shows

namespace Publish

theorem hovers_diagnostics (p : String) (is : List Issue) :
    Event.hovers (diagnostics p is) = [] := by
  unfold diagnostics
  split <;> rfl

theorem diagnostics_diagnostics (p : String) (is : List Issue) :
    Event.diagnostics (diagnostics p is) = (Exhibit.diagnostics? (p, is)).toList := by
  unfold diagnostics Exhibit.diagnostics?
  split
  · rename_i u hu
    simp [hu, Event.diagnostics, Event.diagnostics?]
  · rename_i hu
    simp [hu, Event.diagnostics]

theorem hovers_hover (p : String) (is : List Issue) :
    Event.hovers (hover p is) = [.ofIssues p is] := rfl

theorem diagnostics_hover (p : String) (is : List Issue) :
    Event.diagnostics (hover p is) = [] := rfl

theorem hovers_scanResult (path : String) (product : Option Product) (is : List Issue) :
    Event.hovers [scanResult path product is] = [] := rfl

theorem diagnostics_scanResult (path : String) (product : Option Product) (is : List Issue) :
    Event.diagnostics [scanResult path product is] = [] := rfl

theorem shows_file (p : String) (is : List Issue) : Shows (file p is) [(p, is)] where
  hovers := by
    rw [file, Event.hovers_append, hovers_diagnostics, hovers_hover]
    rfl
  diagnostics := by
    rw [file, Event.diagnostics_append, diagnostics_diagnostics, diagnostics_hover]
    cases h : Exhibit.diagnostics? (p, is) <;> simp [h]

theorem shows_clear (p : String) : Shows (clear p) [(p, [])] := shows_file p []

/-- The files in a publication of files that are in order already. -/
theorem shows_folder (path : String) (product : Option Product) (c : Cache)
    (filter : FilterSettings) :
    Shows (folder path product c.entries filter)
      (c.entries.map fun e => (e.1, filter.visible e.2)) := by
  have hsort : (c.entries.mergeSort fun a b => a.1 ≤ b.1) = c.entries := by
    refine List.mergeSort_of_pairwise (c.increasing.imp fun h => ?_)
    exact decide_eq_true (Std.le_of_lt h)
  simp only [folder, hsort]
  generalize c.entries.map (fun e => (e.1, filter.visible e.2)) = shown
  constructor
  · simp only [Event.hovers_append, Event.hovers_flatMap, hovers_diagnostics, hovers_hover,
      hovers_scanResult, List.map_eq_flatMap]
    simp
  · simp only [Event.diagnostics_append, Event.diagnostics_flatMap, diagnostics_diagnostics,
      diagnostics_hover, diagnostics_scanResult, List.filterMap_eq_flatMap_toList]
    simp

end Publish

/-! ## What was shown last -/

/-- The issues last shown for a file, those from before if it is not among the files. -/
def lastShown (p : String) (before : List Issue) (files : List Exhibit) : List Issue :=
  files.foldl (fun last e => if e.1 = p then e.2 else last) before

theorem lastShown_append (p : String) (before : List Issue) (xs ys : List Exhibit) :
    lastShown p before (xs ++ ys) = lastShown p (lastShown p before xs) ys :=
  List.foldl_append

theorem lastShown_of_forall_ne {p : String} {files : List Exhibit} (h : ∀ e ∈ files, e.1 ≠ p)
    (before : List Issue) : lastShown p before files = before := by
  induction files with
  | nil => rfl
  | cons e rest ih =>
    rw [lastShown, List.foldl_cons, if_neg (h e List.mem_cons_self)]
    exact ih fun e' he' => h e' (List.mem_cons_of_mem _ he')

theorem exists_mem_lastShown {p : String} {files : List Exhibit} (hp : ∃ e ∈ files, e.1 = p)
    (before : List Issue) : ∃ e ∈ files, e.1 = p ∧ lastShown p before files = e.2 := by
  induction files generalizing before with
  | nil => simp at hp
  | cons e rest ih =>
    rw [lastShown, List.foldl_cons]
    by_cases hrest : ∃ e' ∈ rest, e'.1 = p
    · obtain ⟨e', he', hep, heq⟩ := ih hrest (if e.1 = p then e.2 else before)
      exact ⟨e', List.mem_cons_of_mem _ he', hep, heq⟩
    · have he : e.1 = p := by
        obtain ⟨e', he', hp'⟩ := hp
        rcases List.mem_cons.1 he' with rfl | he'
        · exact hp'
        · exact absurd ⟨e', he', hp'⟩ hrest
      rw [if_pos he]
      refine ⟨e, List.mem_cons_self, he, ?_⟩
      exact lastShown_of_forall_ne (fun e' he' hp' => hrest ⟨e', he', hp'⟩) e.2

theorem lastShown_of_forall_eq {p : String} {is : List Issue} {files : List Exhibit}
    (h : ∀ e ∈ files, e.1 = p → e.2 = is) (hp : ∃ e ∈ files, e.1 = p) (before : List Issue) :
    lastShown p before files = is := by
  obtain ⟨e, he, hep, heq⟩ := exists_mem_lastShown hp before
  rw [heq, h e he hep]

/-! ## What an editor is left with -/

namespace HoverTable

/-- What a table holds for a file with these hovers: nothing when there are none. -/
def entryOf (hs : List Hover) : Option (List Hover) := if hs = [] then none else some hs

theorem get?_apply (t : HoverTable) (d : HoverDocument) (p : String) :
    (t.apply d).get? p = if d.path = p then entryOf d.hovers else t.get? p := by
  unfold apply entryOf
  simp only [List.isEmpty_iff, eq_comm (a := d.path)]
  split <;> simp only [Table.get?_erase, Table.get?_insert]

/-- The hovers at a position are those of the issues around it. -/
theorem hoversAt_of_get? {t : HoverTable} {p : String} {issues : List Issue}
    (h : t.get? p = entryOf (issues.map Hover.ofIssue)) (position : Position) :
    t.hoversAt p position
      = (issues.filter fun i => i.range.contains position).map Hover.ofIssue := by
  rw [hoversAt, h]
  unfold entryOf
  split
  · rename_i hnil
    obtain rfl := List.map_eq_nil_iff.1 hnil
    rfl
  · rw [Option.getD_some, List.filter_map]
    rfl

/-- A table after the documents of some files holds the hovers last shown. -/
theorem get?_applyAll_files (files : List Exhibit) {t : HoverTable} {p : String}
    {before : List Issue} (h : t.get? p = entryOf (before.map Hover.ofIssue)) :
    (t.applyAll (files.map fun e => .ofIssues e.1 e.2)).get? p
      = entryOf ((lastShown p before files).map Hover.ofIssue) := by
  induction files generalizing t before with
  | nil => exact h
  | cons e rest ih =>
    simp only [applyAll, List.map_cons, List.foldl_cons, lastShown]
    refine ih ?_
    rw [get?_apply]
    by_cases hp : e.1 = p
    · simp [HoverDocument.ofIssues, hp]
    · simp [HoverDocument.ofIssues, hp, h]

end HoverTable

theorem HoverService.table_foldl_apply (ds : List HoverDocument) (s : HoverService) :
    (ds.foldl HoverService.apply s).table = s.table.applyAll ds := by
  induction ds generalizing s with
  | nil => rfl
  | cons d rest ih => exact ih (s.apply d)

theorem FileDiagnostics.last?_append (u : Url) (xs ys : List FileDiagnostics) :
    last? u (xs ++ ys) = (last? u ys).or (last? u xs) := by
  rw [last?, List.filter_append, List.getLast?_append, Option.map_or]
  rfl

theorem Exhibit.last?_concat (u : Url) (files : List Exhibit) (e : Exhibit) :
    FileDiagnostics.last? u ((files ++ [e]).filterMap Exhibit.diagnostics?)
      = if Url.ofFilePath? e.1 = some u then some (e.2.map Diagnostic.ofIssue)
        else FileDiagnostics.last? u (files.filterMap Exhibit.diagnostics?) := by
  rw [List.filterMap_append, FileDiagnostics.last?_append]
  rcases hu : Url.ofFilePath? e.1 with _ | v
  · simp [FileDiagnostics.last?, Exhibit.diagnostics?, hu]
  · by_cases hv : v = u
    · simp [FileDiagnostics.last?, Exhibit.diagnostics?, hu, hv, FileDiagnostics.ofIssues]
    · simp [FileDiagnostics.last?, Exhibit.diagnostics?, hu, hv, FileDiagnostics.ofIssues]

/-- When no other file has the URL of a file, its last list is that of the issues last shown. -/
theorem lastDiagnostics_of_shows {es : List Event} {files : List Exhibit} (h : Shows es files)
    {p : String} {u : Url} (hu : Url.ofFilePath? p = some u)
    (hsole : ∀ e ∈ files, Url.ofFilePath? e.1 = some u → e.1 = p) :
    (Event.lastDiagnostics u es).getD [] = (lastShown p [] files).map Diagnostic.ofIssue := by
  rw [Event.lastDiagnostics, h.diagnostics]
  clear h
  induction files using List.reverseRecOn with
  | nil => rfl
  | append_singleton files e ih =>
    rw [Exhibit.last?_concat, lastShown_append]
    have hfiles := ih fun e' he' => hsole e' (List.mem_append_left _ he')
    by_cases hp : e.1 = p
    · rw [hp, if_pos hu]
      simp [lastShown, hp]
    · have hne : Url.ofFilePath? e.1 ≠ some u := fun he => hp (hsole e (by simp) he)
      rw [if_neg hne, hfiles]
      simp [lastShown, hp]

/-- A list of diagnostics that is sent last and not empty is that of some file of its URL. -/
theorem exists_lastShown_of_lastDiagnostics {es : List Event} {files : List Exhibit}
    (h : Shows es files) {u : Url} {ds : List Diagnostic}
    (hds : Event.lastDiagnostics u es = some ds) (hne : ds ≠ []) :
    ∃ p, Url.ofFilePath? p = some u ∧ lastShown p [] files ≠ [] := by
  rw [Event.lastDiagnostics, h.diagnostics] at hds
  clear h
  induction files using List.reverseRecOn with
  | nil => simp [FileDiagnostics.last?] at hds
  | append_singleton files e ih =>
    rw [Exhibit.last?_concat] at hds
    split at hds
    · rename_i hu
      refine ⟨e.1, hu, ?_⟩
      obtain rfl := Option.some.inj hds
      rw [lastShown_append]
      simpa [lastShown] using hne
    · rename_i hu
      obtain ⟨p, hp, hlast⟩ := ih hds
      refine ⟨p, hp, ?_⟩
      have hep : e.1 ≠ p := fun he => hu (he ▸ hp)
      rw [lastShown_append]
      simpa [lastShown, hep] using hlast

end ScanRelay
