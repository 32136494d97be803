import ScanRelay.Proofs.FileUrls
import ScanRelay.Proofs.Merging

/-!
# Files that are spelt in several ways

The cache knows a file by the path that a scanner wrote, and an editor knows it by its URL, which
only tells the components. A publication sends a list for each cached path, in the order of the
paths, and an editor keeps the last list for a URL. So of the cached paths with the same components
it is left with the list of the last (`lists_of_last_spellings`).
-/

namespace ScanRelay

theorem Event.lastDiagnostics_append (u : Url) (es fs : List Event) :
    lastDiagnostics u (es ++ fs) = (lastDiagnostics u fs).or (lastDiagnostics u es) := by
  rw [lastDiagnostics, diagnostics_append, FileDiagnostics.last?_append]
  rfl

theorem Event.lastDiagnostics_telemetry (u : Url) (l : List ScanDone) :
    lastDiagnostics u (l.map .telemetry) = none := by
  rw [lastDiagnostics, (Shows.telemetry l).diagnostics]
  rfl

theorem Exhibit.last?_eq (u : Url) (files : List Exhibit) :
    FileDiagnostics.last? u (files.filterMap Exhibit.diagnostics?)
      = (files.filter fun e => Url.ofFilePath? e.1 = some u).getLast?.map
        fun e => e.2.map Diagnostic.ofIssue := by
  induction files using List.reverseRecOn with
  | nil => rfl
  | append_singleton files e ih =>
    rw [Exhibit.last?_concat, ih, List.filter_append]
    by_cases hu : Url.ofFilePath? e.1 = some u <;> simp [hu]

namespace Folder

/-- A cached path is the last of those with the components of another. -/
structure LastSpelling (f : Folder) (p q : String) : Prop where
  cached : q ∈ f.cache.keys
  same : Path.components q = Path.components p
  last : ∀ r ∈ f.cache.keys, Path.components r = Path.components p → r ≤ q

/-- The list that a publication leaves an editor with for a URL. -/
def listFor (s : Settings) (f : Folder) (u : Url) : Option (List Diagnostic) :=
  (f.cache.keys.filter fun p => Url.ofFilePath? p = some u).getLast?.map fun p =>
    (f.visible s p).map Diagnostic.ofIssue

theorem exhibits_eq_map_keys (s : Settings) (f : Folder) :
    f.exhibits s = f.cache.keys.map fun p => (p, f.visible s p) := by
  rw [exhibits, Table.keys, List.map_map]
  refine List.map_congr_left fun e he => ?_
  exact Prod.ext rfl (mem_exhibits (List.mem_map_of_mem he))

theorem lastDiagnostics_publish (s : Settings) (f : Folder) (product : Option Product) (u : Url) :
    Event.lastDiagnostics u (f.publish s product) = f.listFor s u := by
  rw [Event.lastDiagnostics, (f.shows_publish s product).diagnostics, Exhibit.last?_eq,
    exhibits_eq_map_keys, List.filter_map, List.getLast?_map, Option.map_map]
  rfl

variable {s : Settings} {f : Folder} {p q : String} {u : Url}

theorem listFor_eq_none_iff :
    f.listFor s u = none ↔ ∀ p ∈ f.cache.keys, Url.ofFilePath? p ≠ some u := by
  simp [listFor]

theorem lastSpelling_of_getLast? (hu : Url.ofFilePath? p = some u)
    (h : (f.cache.keys.filter fun r => Url.ofFilePath? r = some u).getLast? = some q) :
    f.LastSpelling p q := by
  have hmem : ∀ r, r ∈ (f.cache.keys.filter fun r => Url.ofFilePath? r = some u)
      ↔ r ∈ f.cache.keys ∧ Path.components r = Path.components p := by
    intro r
    rw [List.mem_filter, decide_eq_true_eq, Url.ofFilePath?_eq_some_iff hu]
  have hsorted : (f.cache.keys.filter fun r => Url.ofFilePath? r = some u).Pairwise (· < ·) :=
    (List.pairwise_map.2 f.cache.increasing).filter _
  obtain ⟨front, hfront⟩ := List.getLast?_eq_some_iff.1 h
  rw [hfront] at hmem hsorted
  obtain ⟨hcached, hsame⟩ := (hmem q).1 (by simp)
  refine ⟨hcached, hsame, fun r hr hrp => ?_⟩
  rcases List.mem_append.1 ((hmem r).2 ⟨hr, hrp⟩) with hr | hr
  · exact Std.le_of_lt ((List.pairwise_append.1 hsorted).2.2 r hr q (by simp))
  · obtain rfl := List.mem_singleton.1 hr
    exact String.le_refl r

theorem exists_lastSpelling (s : Settings) (hp : p ∈ f.cache.keys)
    (hu : Url.ofFilePath? p = some u) :
    ∃ q, f.LastSpelling p q ∧ f.listFor s u = some ((f.visible s q).map Diagnostic.ofIssue) := by
  have hne : f.listFor s u ≠ none := fun h => listFor_eq_none_iff.1 h p hp hu
  obtain ⟨ds, hds⟩ := Option.ne_none_iff_exists'.1 hne
  obtain ⟨q, hq, rfl⟩ := Option.map_eq_some_iff.1 hds
  exact ⟨q, lastSpelling_of_getLast? hu hq, hds⟩

theorem LastSpelling.unique {q' : String} (h : f.LastSpelling p q) (h' : f.LastSpelling p q') :
    q = q' :=
  String.le_antisymm (h'.last q h.cached h.same) (h.last q' h'.cached h'.same)

end Folder

/-! ## Reports one after another -/

namespace Folder

/-- Takes in reports one after another, each in an order of its own. -/
def processAll (s : Settings) (f : Folder) (reports : List (VisitOrder × ScanReport)) :
    Folder × List Event :=
  chain (fun f r => f.processIn r.1 s r.2) f reports

/-- Nothing has been sent for a URL that no cached file has. -/
def Silent (f : Folder) (es : List Event) : Prop :=
  ∀ u, (∀ p ∈ f.cache.keys, Url.ofFilePath? p ≠ some u) → Event.lastDiagnostics u es = none

theorem silent_nil (f : Folder) : f.Silent [] := fun _ _ => rfl

/-- For each URL the list sent last is that which a publication would leave. -/
def Current (s : Settings) (f : Folder) (es : List Event) : Prop :=
  ∀ u, Event.lastDiagnostics u es = f.listFor s u

variable {s : Settings} {f : Folder} {es : List Event}

theorem Current.silent (h : f.Current s es) : f.Silent es := fun u hu =>
  (h u).trans (listFor_eq_none_iff.2 hu)

theorem current_of_empty (h : f.cache = .empty) : f.Current s [] := by
  intro u
  rw [listFor, h]
  rfl

theorem processIn_of_error (order : VisitOrder) {r : ScanReport} (h : r.outcome.isOk = false) :
    (f.processIn order s r).1 = f
      ∧ ∀ u, Event.lastDiagnostics u (f.processIn order s r).2 = none := by
  rw [processIn_eq]
  rcases hr : r.outcome with e | issues
  · exact ⟨rfl, fun u => rfl⟩
  · rw [hr] at h
    exact absurd h (by simp [Except.isOk, Except.toBool])

theorem Silent.processIn_of_ok (h : f.Silent es) (order : VisitOrder) {r : ScanReport}
    (hok : r.outcome.isOk = true) :
    (f.processIn order s r).1.Current s (es ++ (f.processIn order s r).2) := by
  intro u
  rw [processIn_eq]
  rcases hr : r.outcome with e | issues
  · rw [hr] at hok
    exact absurd hok (by simp [Except.isOk, Except.toBool])
  · have hkeys : ∀ p ∈ f.cache.keys, p ∈ (Cache.mergeIn (order.arrange (Cache.filesOf issues))
        f.cache .empty issues).cache.keys := fun p hp => Cache.mem_keys_mergeIn hp _ _ _
    dsimp only
    rw [Event.lastDiagnostics_append, Event.lastDiagnostics_append, lastDiagnostics_publish,
      Event.lastDiagnostics_telemetry, Option.or_none]
    generalize hlist : listFor s _ u = list
    -- Where no list is sent now, no file had the URL before either, since a merge keeps all keys.
    cases list with
    | some ds => rfl
    | none => exact h u fun p hp => listFor_eq_none_iff.1 hlist p (hkeys p hp)

theorem current_processAll {reports : List (VisitOrder × ScanReport)}
    (h : f.Current s es ∨ f.Silent es ∧ ∃ r ∈ reports, r.2.outcome.isOk = true) :
    (f.processAll s reports).1.Current s (es ++ (f.processAll s reports).2) := by
  -- A failed report leaves folder and lists alone, and any other makes the lists current.
  induction reports generalizing f es with
  | nil => simpa [processAll, chain] using h
  | cons r rest ih =>
    have hsilent : f.Silent es := h.elim Current.silent And.left
    rw [processAll, chain, ← processAll, ← List.append_assoc]
    refine ih ?_
    rcases hok : r.2.outcome.isOk with _ | _
    · obtain ⟨hf, hnone⟩ := processIn_of_error (f := f) (s := s) r.1 hok
      have hlast : ∀ u, Event.lastDiagnostics u (es ++ (f.processIn r.1 s r.2).2)
          = Event.lastDiagnostics u es := fun u => by
        rw [Event.lastDiagnostics_append, hnone, Option.none_or]
      rw [hf]
      refine h.imp (fun h u => (hlast u).trans (h u)) fun h => ⟨fun u hu => ?_, ?_⟩
      · exact (hlast u).trans (hsilent u hu)
      · simpa [hok] using h.2
    · exact .inl (hsilent.processIn_of_ok r.1 hok)

end Folder

/-- Once a report was taken in, the list last sent for the URL of a cached file is that of the last
path with its components, and for other URLs none was sent. So no visible issue is missing from the
list of its URL exactly when the last path to each file has, for every visible issue of the others,
one with the same diagnostic. -/
theorem lists_of_last_spellings (s : Settings) (f : Folder)
    (reports : List (VisitOrder × ScanReport))
    (h : f.cache = .empty ∨ ∃ r ∈ reports, r.2.outcome.isOk = true) :
    let g := (f.processAll s reports).1
    let last (u : Url) := Event.lastDiagnostics u (f.processAll s reports).2
    (∀ p ∈ g.cache.keys, ∀ u, Url.ofFilePath? p = some u →
        ∃ q, g.LastSpelling p q ∧ last u = some ((g.visible s q).map Diagnostic.ofIssue))
      ∧ (∀ u, (∀ p ∈ g.cache.keys, Url.ofFilePath? p ≠ some u) → last u = none)
      ∧ ((∀ p ∈ g.cache.keys, ∀ u, Url.ofFilePath? p = some u →
          ∀ i ∈ g.visible s p, Diagnostic.ofIssue i ∈ (last u).getD [])
        ↔ ∀ p ∈ g.cache.keys, ∀ u, Url.ofFilePath? p = some u → ∀ q, g.LastSpelling p q →
          ∀ i ∈ g.visible s p,
            ∃ j ∈ g.visible s q, Diagnostic.ofIssue j = Diagnostic.ofIssue i) := by
  intro g last
  have hcurrent : ∀ u, last u = g.listFor s u := by
    have hall := Folder.current_processAll (s := s)
      (h.imp Folder.current_of_empty fun h => ⟨f.silent_nil, h⟩)
    rwa [List.nil_append] at hall
  have hlast : ∀ p ∈ g.cache.keys, ∀ u, Url.ofFilePath? p = some u →
      ∃ q, g.LastSpelling p q ∧ last u = some ((g.visible s q).map Diagnostic.ofIssue) := by
    intro p hp u hu
    rw [hcurrent]
    exact Folder.exists_lastSpelling s hp hu
  refine ⟨hlast, fun u hu => (hcurrent u).trans (Folder.listFor_eq_none_iff.2 hu), ?_⟩
  refine forall₂_congr fun p hp => forall₂_congr fun u hu => ?_
  obtain ⟨q, hq, hlist⟩ := hlast p hp u hu
  rw [hlist]
  simp only [Option.getD_some, List.mem_map]
  constructor
  · intro h q' hq'
    rw [← hq.unique hq']
    exact h
  · exact fun h => h q hq

/-- Reports of two files, with a failure between them, leave the first with its issue. -/
theorem lists_of_two_files :
    let found (i : Issue) : VisitOrder × ScanReport := (.listed, ⟨some .code, .ok [i], 0, none⟩)
    let reports := [found (Sample.found "1" "/a//x.js"),
      (.listed, ⟨some .code, .error .notConfigured, 0, none⟩), found (Sample.found "2" "/a/y.js")]
    let run := (Folder.new "/a" "a" 0).processAll (.standard "") reports
    ∃ u, Url.ofFilePath? "/a//x.js" = some u
      ∧ ∃ i, i.id = "1" ∧ Event.lastDiagnostics u run.2 = some [Diagnostic.ofIssue i] := by
  intro found reports run
  obtain ⟨hlists, -, -⟩ :=
    lists_of_last_spellings (.standard "") (.new "/a" "a" 0) reports (.inl rfl)
  have hself : run.1.LastSpelling "/a//x.js" "/a//x.js" :=
    ⟨by decide +kernel, rfl, by decide +kernel⟩
  obtain ⟨u, hu⟩ : ∃ u, Url.ofFilePath? "/a//x.js" = some u := ⟨_, rfl⟩
  obtain ⟨q, hq, hlist⟩ := hlists "/a//x.js" hself.cached u hu
  have hids : (run.1.visible (.standard "") "/a//x.js").map Issue.id = ["1"] := by decide +kernel
  obtain ⟨i, hi, hid⟩ := List.map_eq_singleton_iff.1 hids
  refine ⟨u, hu, i, hid, hlist.trans ?_⟩
  rw [hq.unique hself, hi, List.map_singleton]

/-- An issue is missing from the list of its file because the file is also spelt another way. -/
theorem respelt_file_hides_issue :
    let report : ScanReport :=
      ⟨some .code, .ok [Sample.found "1" "/a//x.js", Sample.found "2" "/a/x.js"], 0, none⟩
    let run := (Folder.new "/a" "a" 0).processReport (.standard "") report
    ∃ u, "/a//x.js" ∈ run.1.cache.keys ∧ Url.ofFilePath? "/a//x.js" = some u
      ∧ ∃ i ∈ run.1.visible (.standard "") "/a//x.js",
        Diagnostic.ofIssue i ∉ (Event.lastDiagnostics u run.2).getD [] := by
  intro report run
  have hcurrent : run.1.Current (.standard "") run.2 := by
    have h : Folder.Current (.standard "") _ ([] ++ _) :=
      (Folder.silent_nil (.new "/a" "a" 0)).processIn_of_ok .listed (r := report) rfl
    rwa [List.nil_append, Folder.processIn_listed] at h
  have hlast : run.1.LastSpelling "/a//x.js" "/a/x.js" :=
    ⟨by decide +kernel, by decide +kernel, by decide +kernel⟩
  have hkey : "/a//x.js" ∈ run.1.cache.keys := by decide +kernel
  obtain ⟨u, hu⟩ : ∃ u, Url.ofFilePath? "/a//x.js" = some u := ⟨_, rfl⟩
  obtain ⟨q, hq, hlist⟩ := Folder.exists_lastSpelling (.standard "") hkey hu
  have hfirst : ∃ i ∈ run.1.visible (.standard "") "/a//x.js", i.id = "1" := by decide +kernel
  have hsecond : ∀ j ∈ run.1.visible (.standard "") "/a/x.js", j.id = "2" := by decide +kernel
  obtain ⟨i, hi, hid⟩ := hfirst
  refine ⟨u, hkey, hu, i, hi, fun hmem => ?_⟩
  rw [hcurrent u, hlist, hq.unique hlast, Option.getD_some] at hmem
  obtain ⟨j, hj, hji⟩ := List.mem_map.1 hmem
  have hids : j.id = i.id := by simpa [Diagnostic.ofIssue] using congrArg Diagnostic.code hji
  rw [hsecond j hj, hid] at hids
  exact absurd hids (by decide)

end ScanRelay
