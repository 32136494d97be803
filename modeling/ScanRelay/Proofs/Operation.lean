import ScanRelay.Engine.Workspace
import ScanRelay.Proofs.Display

/-!
# Operations on a folder

All that can happen to a folder, as one step (`Operation.run`). A scan is two operations, its begin
and its end, because others may come between them. Each operation shows some files, and with them
it keeps two things: a file that still shows issues has an entry in the cache (`run_backed`), and,
if the operation is not silent, each file shows what is visible of its entry (`run_turned`).
Soundness of the cache is kept by all of them (`run_sound`).
-/

namespace ScanRelay

/-- An order in which files can be visited. -/
structure VisitOrder where
  arrange : List String → List String
  perm : ∀ files, (arrange files).Perm files

def VisitOrder.listed : VisitOrder := ⟨id, fun _ => .refl _⟩

inductive Operation
  /-- A scan of the whole folder returns. -/
  | endFolderScan (order : VisitOrder) (cancelled : Bool) (r : ScanReport)
  /-- A scan of one file begins; if issues of the file are cached, they are shown again. -/
  | beginFileScan (order : VisitOrder) (path : String)
  /-- A scan of one file returns. -/
  | endFileScan (order : VisitOrder) (cancelled : Bool) (r : ScanReport)
  | process (order : VisitOrder) (r : ScanReport)
  | publish (product : Option Product)
  | clearFile (path : String)
  | clearUnder (root : String)
  | clear
  | clearCategory (c : Category)
  | removeCategory (c : Category)

/-- Merges a batch, visiting its files in some order. -/
def VisitOrder.merge (order : VisitOrder) (c : Cache) (t : Tally) (batch : List Issue) :
    Cache.Merge :=
  c.mergeIn (order.arrange (Cache.filesOf batch)) t batch

/-- Takes in a report, visiting its files in some order. -/
def Folder.processIn (order : VisitOrder) (s : Settings) (f : Folder) (r : ScanReport) :
    Folder × List Event :=
  let taken := f.takeIn order.merge .standard s r
  (taken.folder, taken.events)

theorem Folder.processIn_listed (s : Settings) (f : Folder) (r : ScanReport) :
    f.processIn .listed s r = f.processReport s r :=
  rfl

theorem Folder.processIn_eq (order : VisitOrder) (s : Settings) (f : Folder) (r : ScanReport) :
    f.processIn order s r = match r.outcome with
      | .error _ => (f, [.send (.scanStatus ⟨.error, r.product, f.path, []⟩)])
      | .ok issues =>
        let merged := f.cache.mergeIn (order.arrange (Cache.filesOf issues)) .empty issues
        let g := { f with cache := merged.cache }
        (g, (ScanDone.toSend s.analytics r (merged.tally.ensure r.product)).map .telemetry
          ++ g.publish s r.product) := by
  unfold processIn takeIn
  rcases r.outcome with e | issues <;> rfl

namespace Operation

/-- The folder after an operation, and its events. `inline` tells whether the scanner keeps inline
values. -/
def run (s : Settings) (inline : Bool) (f : Folder) : Operation → Folder × List Event
  | endFolderScan order cancelled r =>
    if cancelled then (f, [])
    else
      let (g, events) := f.processIn order s r
      ({ g with scanned := g.scanned || r.outcome.isOk }, events)
  | beginFileScan order path =>
    if f.isTrusted s && !(f.cache.issuesOf path).isEmpty then
      f.processIn order s (.ofKnown (f.cache.issuesOf path))
    else (f, [])
  | endFileScan order cancelled r => if cancelled then (f, []) else f.processIn order s r
  | process order r => f.processIn order s r
  | publish product => (f, f.publish s product)
  | clearFile path => f.clearFile inline path
  | clearUnder root => f.clearUnder inline root
  | clear => f.clear
  | clearCategory c => f.clearCategory s c
  | removeCategory c => ((f.removeCategory c).1, [])

/-- Only the removal of a category changes a cache and shows nothing. -/
def isSilent : Operation → Bool
  | removeCategory _ => true
  | _ => false

theorem run_endFolderScan (s : Settings) (inline : Bool) (f : Folder) (cancelled : Bool)
    (r : ScanReport) : (endFolderScan .listed cancelled r).run s inline f
      = f.finishFolderScan s cancelled r := by
  simp only [run, Folder.finishFolderScan, Folder.processIn_listed]

theorem run_endFileScan (s : Settings) (inline : Bool) (f : Folder) (cancelled : Bool)
    (r : ScanReport) : (endFileScan .listed cancelled r).run s inline f
      = f.finishFileScan s cancelled r := by
  simp only [run, Folder.finishFileScan, Folder.processIn_listed]

theorem run_beginFileScan (s : Settings) (inline : Bool) (f : Folder) (path : String) :
    (beginFileScan .listed path).run s inline f
      = match f.startFileScan s path with
        | .replayed g events => (g, events)
        | _ => (f, []) := by
  simp only [run, Folder.startFileScan, Folder.processIn_listed]
  cases f.isTrusted s <;> cases (f.cache.issuesOf path).isEmpty <;> rfl

end Operation

/-! ## What showing files does -/

/-- Showing the files turns one view of all files into another. -/
def Turns (files : List Exhibit) (view view' : String → List Issue) : Prop :=
  ∀ p, lastShown p (view p) files = view' p

/-- When every file that shows issues has an entry, that is so again after the files are shown. -/
def Backs (files : List Exhibit) (c c' : Cache) : Prop :=
  ∀ p last, (last ≠ [] → p ∈ c.keys) → lastShown p last files ≠ [] → p ∈ c'.keys

theorem Turns.append {xs ys : List Exhibit} {v v' v'' : String → List Issue} (h : Turns xs v v')
    (h' : Turns ys v' v'') : Turns (xs ++ ys) v v'' := by
  intro p
  rw [lastShown_append, h p, h' p]

theorem Turns.of_eq {v v' : String → List Issue} (h : ∀ p, v p = v' p) : Turns [] v v' := h

/-- Files turn a view when they show the new one and the others are the same in both. -/
theorem Turns.of_shown {files : List Exhibit} {v v' : String → List Issue}
    (hshown : ∀ e ∈ files, e.2 = v' e.1)
    (hkept : ∀ p, (∀ e ∈ files, e.1 ≠ p) → v p = v' p) : Turns files v v' := by
  intro p
  by_cases hp : ∃ e ∈ files, e.1 = p
  · exact lastShown_of_forall_eq (fun e he hep => hep ▸ hshown e he) hp (v p)
  · have hne : ∀ e ∈ files, e.1 ≠ p := fun e he hep => hp ⟨e, he, hep⟩
    rw [lastShown_of_forall_ne hne, hkept p hne]

theorem Backs.append {xs ys : List Exhibit} {c c' c'' : Cache} (h : Backs xs c c')
    (h' : Backs ys c' c'') : Backs (xs ++ ys) c c'' := by
  intro p last hlast hne
  rw [lastShown_append] at hne
  exact h' p _ (h p last hlast) hne

theorem Backs.of_shown {files : List Exhibit} {c c' : Cache}
    (hshown : ∀ e ∈ files, e.2 ≠ [] → e.1 ∈ c'.keys)
    (hkeys : ∀ p ∈ c.keys, p ∈ c'.keys ∨ ∃ e ∈ files, e.1 = p) : Backs files c c' := by
  intro p last hlast hne
  by_cases hp : ∃ e ∈ files, e.1 = p
  · obtain ⟨e, he, rfl, heq⟩ := exists_mem_lastShown hp last
    exact hshown e he (heq ▸ hne)
  · rw [lastShown_of_forall_ne fun e he hep => hp ⟨e, he, hep⟩] at hne
    exact (hkeys p (hlast hne)).resolve_right hp

theorem Backs.of_keys {c c' : Cache} (h : ∀ p ∈ c.keys, p ∈ c'.keys) : Backs [] c c' :=
  .of_shown (by simp) fun p hp => .inl (h p hp)

/-! ## The cache under operations -/

namespace Cache

theorem mem_keys_append {c : Cache} {p q : String} {is : List Issue} :
    q ∈ (c.append p is).keys ↔ q = p ∨ q ∈ c.keys :=
  Table.mem_keys_insert

theorem mem_keys_erase {c : Cache} {p q : String} :
    q ∈ Table.keys (Table.erase c p) ↔ q ≠ p ∧ q ∈ c.keys := by
  simp only [Table.mem_keys_iff, Table.get?_erase]
  by_cases hq : q = p <;> simp [hq]

theorem Merge.mem_keys_issue {m : Merge} {p : String} (h : p ∈ m.cache.keys) (entry : List String)
    (i : Issue) : p ∈ (m.issue entry i).cache.keys := by
  unfold Merge.issue
  split
  · exact h
  · exact mem_keys_append.2 (.inr h)

theorem mem_keys_mergeIn {c : Cache} {p : String} (h : p ∈ c.keys) (files : List String)
    (t : Tally) (batch : List Issue) : p ∈ (mergeIn files c t batch).cache.keys := by
  refine List.foldlRecOn (motive := fun m : Merge => p ∈ m.cache.keys) files _ h ?_
  intro m hm q _
  refine List.foldlRecOn (motive := fun m : Merge => p ∈ m.cache.keys) _ _ ?_ ?_
  · exact mem_keys_append.2 (.inr hm)
  · exact fun m hm i _ => Merge.mem_keys_issue hm _ i

theorem walk_induction {σ : Type} {motive : σ → Prop} {c : Cache}
    {visit : σ → String → List Issue → σ × Bool} {s : σ} (start : motive s)
    (step : ∀ s p is, motive s → motive (visit s p is).1) : motive (c.walk visit s) := by
  unfold walk
  generalize c.entries = entries
  induction entries generalizing s with
  | nil => exact start
  | cons e rest ih =>
    unfold walk.go
    split
    rename_i s' goOn heq
    have hs' : motive s' := by
      have h := step s e.1 e.2 start
      rwa [heq] at h
    split
    · exact ih hs'
    · exact hs'

/-- A walk that never stops visits all entries. -/
theorem walk_go_induction {σ : Type} {motive : σ → List String → Prop}
    {visit : σ → String → List Issue → σ × Bool}
    (step : ∀ s p is visited, motive s visited →
      motive (visit s p is).1 (visited ++ [p]) ∧ (visit s p is).2 = true)
    (entries : List (String × List Issue)) {s : σ} {visited : List String}
    (start : motive s visited) :
    motive (walk.go visit s entries) (visited ++ entries.map (·.1)) := by
  induction entries generalizing s visited with
  | nil => rwa [List.map_nil, List.append_nil]
  | cons e rest ih =>
    obtain ⟨hnext, hgoOn⟩ := step s e.1 e.2 visited start
    rw [List.map_cons, List.append_cons]
    unfold walk.go
    rcases hvisit : visit s e.1 e.2 with ⟨s', goOn⟩
    rw [hvisit] at hnext hgoOn
    obtain rfl : goOn = true := hgoOn
    exact ih hnext

theorem walk_keys_induction {σ : Type} {motive : σ → List String → Prop} {c : Cache}
    {visit : σ → String → List Issue → σ × Bool} {s : σ} (start : motive s [])
    (step : ∀ s p is visited, motive s visited →
      motive (visit s p is).1 (visited ++ [p]) ∧ (visit s p is).2 = true) :
    motive (c.walk visit s) c.keys :=
  walk_go_induction step c.entries start

end Cache

namespace Folder

/-- What an editor should show for a file. -/
def visible (s : Settings) (f : Folder) (p : String) : List Issue :=
  s.filter.visible (f.cache.issuesOf p)

/-- All cached files with what should be shown of them. -/
def exhibits (s : Settings) (f : Folder) : List Exhibit :=
  f.cache.entries.map fun e => (e.1, s.filter.visible e.2)

theorem shows_publish (s : Settings) (f : Folder) (product : Option Product) :
    Shows (f.publish s product) (f.exhibits s) :=
  Publish.shows_folder f.path product f.cache s.filter

theorem mem_exhibits {s : Settings} {f : Folder} {e : Exhibit} (h : e ∈ f.exhibits s) :
    e.2 = f.visible s e.1 := by
  obtain ⟨e', he', rfl⟩ := List.mem_map.1 h
  rw [visible, Cache.issuesOf_eq_of_mem he']

theorem exists_mem_exhibits_iff {s : Settings} {f : Folder} {p : String} :
    (∃ e ∈ f.exhibits s, e.1 = p) ↔ p ∈ f.cache.keys := by
  simp [exhibits, Table.keys]

theorem visible_eq_nil_of_not_mem (s : Settings) {f : Folder} {p : String}
    (h : p ∉ f.cache.keys) : f.visible s p = [] := by
  have hnil : f.cache.issuesOf p = [] := by
    by_contra hne
    exact h (Cache.mem_keys_of_issuesOf_ne_nil hne)
  rw [visible, hnil]
  rfl

theorem turns_exhibits (s : Settings) (f : Folder) {view : String → List Issue}
    (h : ∀ p, p ∉ f.cache.keys → view p = []) : Turns (f.exhibits s) view (f.visible s) := by
  refine .of_shown (fun e he => mem_exhibits he) fun p hp => ?_
  have hkey : p ∉ f.cache.keys := fun hmem => by
    obtain ⟨e, he, hep⟩ := exists_mem_exhibits_iff (s := s).2 hmem
    exact hp e he hep
  rw [h p hkey, visible_eq_nil_of_not_mem s hkey]

theorem backs_exhibits (s : Settings) (f : Folder) {c : Cache}
    (h : ∀ p ∈ c.keys, p ∈ f.cache.keys) : Backs (f.exhibits s) c f.cache :=
  .of_shown (fun e he _ => exists_mem_exhibits_iff.1 ⟨e, he, rfl⟩) fun p hp => .inl (h p hp)

/-- A step of a folder shows files that back its cache and turn what should be shown before into
what should be shown after. -/
def Displays (s : Settings) (f : Folder) (next : Folder × List Event) : Prop :=
  ∃ files, Shows next.2 files ∧ Backs files f.cache next.1.cache
    ∧ Turns files (f.visible s) (next.1.visible s)

theorem displays_nothing (s : Settings) (f : Folder) : f.Displays s (f, []) :=
  ⟨[], .nil, .of_keys fun _ hp => hp, .of_eq fun _ => rfl⟩

theorem displays_publish (s : Settings) (f : Folder) (product : Option Product) :
    f.Displays s (f, f.publish s product) :=
  ⟨f.exhibits s, f.shows_publish s product, f.backs_exhibits s fun _ hp => hp,
    f.turns_exhibits s fun _ hp => visible_eq_nil_of_not_mem s hp⟩

theorem displays_processIn (order : VisitOrder) (s : Settings) (f : Folder) (r : ScanReport) :
    f.Displays s (f.processIn order s r) := by
  rw [processIn_eq]
  split
  · exact ⟨[], .scanStatus _, .of_keys fun _ hp => hp, .of_eq fun _ => rfl⟩
  · rename_i issues _
    generalize hm : Cache.mergeIn _ f.cache .empty issues = merged
    have hkeys : ∀ p ∈ f.cache.keys, p ∈ merged.cache.keys := fun p hp =>
      hm ▸ Cache.mem_keys_mergeIn hp _ _ _
    refine ⟨_, (Shows.telemetry _).append (shows_publish s _ _), backs_exhibits s _ hkeys, ?_⟩
    exact turns_exhibits s _ fun p hp => visible_eq_nil_of_not_mem s fun h => hp (hkeys p h)

theorem shows_clearFile (inline : Bool) (f : Folder) (p : String) :
    Shows (f.clearFile inline p).2 [(p, [])] := by
  unfold clearFile
  cases inline with
  | true => exact (Shows.clearInline p).append (Publish.shows_clear p)
  | false => exact Shows.nil.append (Publish.shows_clear p)

theorem displays_clearFile (s : Settings) (inline : Bool) (f : Folder) (p : String) :
    f.Displays s (f.clearFile inline p) := by
  refine ⟨[(p, [])], f.shows_clearFile inline p, ?_, ?_⟩
  · refine .of_shown (by simp) fun q hq => ?_
    by_cases hqp : q = p
    · exact .inr ⟨(p, []), by simp, hqp.symm⟩
    · exact .inl (Cache.mem_keys_erase.2 ⟨hqp, hq⟩)
  · refine .of_shown ?_ ?_
    · intro e he
      rw [List.mem_singleton.1 he, visible, clearFile, Cache.issuesOf_erase, if_pos rfl]
      rfl
    · intro q hq
      have hne : q ≠ p := fun h => hq (p, []) (by simp) h.symm
      rw [visible, visible, clearFile, Cache.issuesOf_erase, if_neg hne]

/-- What holds at the start and is kept by clearing a file holds after clearing under a path. -/
theorem clearUnder_induction {motive : Folder → List Event → Prop} {inline : Bool} {f : Folder}
    (root : String) (start : motive f [])
    (file : ∀ g es p, motive g es →
      motive (g.clearFile inline p).1 (es ++ (g.clearFile inline p).2))
    (unscanned : ∀ g es, motive g es → motive { g with scanned := false } es) :
    motive (f.clearUnder inline root).1 (f.clearUnder inline root).2 := by
  unfold clearUnder
  refine unscanned _ _ (Cache.walk_induction
    (motive := fun s : Folder × List Event => motive s.1 s.2)
    start ?_)
  rintro ⟨g, es⟩ p _ hg
  dsimp only
  split
  · exact file g es p hg
  · exact hg

theorem displays_clearUnder (s : Settings) (inline : Bool) (f : Folder) (root : String) :
    f.Displays s (f.clearUnder inline root) := by
  refine clearUnder_induction (motive := fun g es => f.Displays s (g, es)) root
    (f.displays_nothing s) ?_ fun g es h => h
  rintro g es p ⟨xs, hshows, hbacks, hturns⟩
  obtain ⟨ys, hshows', hbacks', hturns'⟩ := g.displays_clearFile s inline p
  exact ⟨xs ++ ys, hshows.append hshows', hbacks.append hbacks', hturns.append hturns'⟩

theorem displays_clear (s : Settings) (f : Folder) : f.Displays s f.clear := by
  refine ⟨f.cache.keys.flatMap fun p => [(p, [])],
    .flatMap _ fun p _ => Publish.shows_clear p, ?_, ?_⟩
  · refine .of_shown ?_ fun p hp => .inr ⟨(p, []), by simpa using hp, rfl⟩
    intro e he hne
    obtain ⟨p, -, hep⟩ := List.mem_flatMap.1 he
    rw [List.mem_singleton.1 hep] at hne
    exact absurd rfl hne
  · refine .of_shown ?_ fun p hp => ?_
    · intro e he
      obtain ⟨p, -, hep⟩ := List.mem_flatMap.1 he
      rw [List.mem_singleton.1 hep]
      rfl
    · exact visible_eq_nil_of_not_mem s fun hmem => hp (p, []) (by simpa using hmem) rfl

end Folder

/-! ## Removing a category -/

namespace Folder

theorem issuesOf_removeCategory (f : Folder) (c : Category) (p : String) :
    (f.removeCategory c).1.cache.issuesOf p
      = (f.cache.issuesOf p).filter fun i => i.category ≠ c :=
  Cache.issuesOf_mapValues f.cache (fun is => is.filter fun i => i.category ≠ c) rfl p

theorem keys_removeCategory (f : Folder) (c : Category) :
    (f.removeCategory c).1.cache.keys = f.cache.keys :=
  Table.keys_mapValues _ _

theorem mem_removeCategory {f : Folder} {c : Category} {e : Exhibit} :
    e ∈ (f.removeCategory c).2 ↔
      (∃ i ∈ f.cache.issuesOf e.1, i.category = c)
        ∧ e.2 = (f.removeCategory c).1.cache.issuesOf e.1 := by
  rw [issuesOf_removeCategory]
  simp only [removeCategory, List.mem_filterMap]
  constructor
  · rintro ⟨e', he', heq⟩
    split at heq
    · exact absurd heq (by simp)
    · rename_i hlen
      obtain rfl := Option.some.inj heq
      rw [Cache.issuesOf_eq_of_mem he']
      refine ⟨?_, rfl⟩
      simpa [List.length_filter_eq_length_iff] using hlen
  · rintro ⟨⟨i, hi, hc⟩, heq⟩
    obtain ⟨is, his⟩ :=
      Table.mem_keys_iff.1 (Cache.mem_keys_of_issuesOf_ne_nil (List.ne_nil_of_mem hi))
    have hmem := Table.mem_entries_iff.2 his
    have hof : f.cache.issuesOf e.1 = is := Cache.issuesOf_eq_of_mem hmem
    refine ⟨(e.1, is), hmem, ?_⟩
    rw [if_neg]
    · rw [← hof, ← heq]
    · rw [List.length_filter_eq_length_iff]
      exact fun h => absurd hc (by simpa using h i (hof ▸ hi))

/-- The files that are shown when a category is cleared. -/
def cleared (s : Settings) (f : Folder) (c : Category) : List Exhibit :=
  (f.removeCategory c).2.map fun e => (e.1, s.filter.visible e.2)

theorem shows_clearCategory (s : Settings) (f : Folder) (c : Category) :
    Shows (f.clearCategory s c).2 (f.cleared s c) := by
  rw [cleared, List.map_eq_flatMap]
  exact .flatMap _ fun e _ => Publish.shows_file e.1 _

theorem mem_cleared {s : Settings} {f : Folder} {c : Category} {e : Exhibit}
    (h : e ∈ f.cleared s c) : e.2 = (f.clearCategory s c).1.visible s e.1 := by
  obtain ⟨e', he', rfl⟩ := List.mem_map.1 h
  rw [(mem_removeCategory.1 he').2]
  rfl

theorem exists_mem_cleared_iff {s : Settings} {f : Folder} {c : Category} {p : String} :
    (∃ e ∈ f.cleared s c, e.1 = p) ↔ ∃ i ∈ f.cache.issuesOf p, i.category = c := by
  constructor
  · rintro ⟨e, he, rfl⟩
    obtain ⟨e', he', rfl⟩ := List.mem_map.1 he
    exact (mem_removeCategory.1 he').1
  · intro h
    have hmem : (p, (f.removeCategory c).1.cache.issuesOf p) ∈ (f.removeCategory c).2 :=
      mem_removeCategory.2 ⟨h, rfl⟩
    exact ⟨_, List.mem_map_of_mem hmem, rfl⟩

theorem displays_clearCategory (s : Settings) (f : Folder) (c : Category) :
    f.Displays s (f.clearCategory s c) := by
  have hkeys : (f.clearCategory s c).1.cache.keys = f.cache.keys := f.keys_removeCategory c
  refine ⟨f.cleared s c, f.shows_clearCategory s c, ?_, ?_⟩
  · refine .of_shown (fun e he _ => ?_) fun p hp => .inl (hkeys ▸ hp)
    obtain ⟨i, hi, -⟩ := exists_mem_cleared_iff.1 ⟨e, he, rfl⟩
    exact hkeys ▸ Cache.mem_keys_of_issuesOf_ne_nil (List.ne_nil_of_mem hi)
  · refine .of_shown (fun e he => mem_cleared he) fun p hp => ?_
    have hnone : ¬ ∃ i ∈ f.cache.issuesOf p, i.category = c := fun h => by
      obtain ⟨e, he, hep⟩ := (exists_mem_cleared_iff (s := s)).2 h
      exact hp e he hep
    have hsame : (f.clearCategory s c).1.cache.issuesOf p = f.cache.issuesOf p := by
      refine (f.issuesOf_removeCategory c p).trans (List.filter_eq_self.2 fun i hi => ?_)
      exact decide_eq_true fun hc => hnone ⟨i, hi, hc⟩
    rw [visible, visible, hsame]

end Folder

/-! ## Steps -/

namespace Operation

variable {s : Settings} {inline : Bool} {f : Folder}

/-- What an operation comes to: scans, in either half, do nothing or take in a report. -/
theorem run_cases {motive : Folder × List Event → Prop} (op : Operation)
    (nothing : motive (f, []))
    (process : ∀ order r scanned,
      motive ({ (f.processIn order s r).1 with scanned }, (f.processIn order s r).2))
    (publish : ∀ product, motive (f, f.publish s product))
    (clearFile : ∀ p, motive (f.clearFile inline p))
    (clearUnder : ∀ root, motive (f.clearUnder inline root))
    (clear : motive f.clear)
    (clearCategory : ∀ c, motive (f.clearCategory s c))
    (removeCategory : ∀ c, op = removeCategory c → motive ((f.removeCategory c).1, [])) :
    motive (op.run s inline f) := by
  cases op with
  | endFolderScan order cancelled r =>
    cases cancelled with
    | true => exact nothing
    | false => exact process order r _
  | beginFileScan order path =>
    simp only [run]
    split
    · let known := ScanReport.ofKnown (f.cache.issuesOf path)
      exact process order known (f.processIn order s known).1.scanned
    · exact nothing
  | endFileScan order cancelled r =>
    cases cancelled with
    | true => exact nothing
    | false => exact process order r _
  | process order r => exact process order r (f.processIn order s r).1.scanned
  | publish product => exact publish product
  | clearFile path => exact clearFile path
  | clearUnder root => exact clearUnder root
  | clear => exact clear
  | clearCategory c => exact clearCategory c
  | removeCategory c => exact removeCategory c rfl

theorem run_ref (s : Settings) (inline : Bool) (f : Folder) (op : Operation) :
    (op.run s inline f).1.ref = f.ref := by
  refine run_cases (motive := fun next => next.1.ref = f.ref) op rfl ?_ (fun _ => rfl)
    (fun _ => rfl) ?_ rfl (fun _ => rfl) fun _ _ => rfl
  · intro order r scanned
    rw [Folder.processIn_eq]
    split <;> rfl
  · intro root
    exact Folder.clearUnder_induction (motive := fun g _ => g.ref = f.ref) root rfl
      (fun g es p h => h) fun g es h => h

theorem run_path (s : Settings) (inline : Bool) (f : Folder) (op : Operation) :
    (op.run s inline f).1.path = f.path :=
  congrArg FolderRef.path (run_ref s inline f op)

theorem run_stamp (s : Settings) (inline : Bool) (f : Folder) (op : Operation) :
    (op.run s inline f).1.stamp = f.stamp :=
  congrArg FolderRef.stamp (run_ref s inline f op)

theorem run_sound (h : f.cache.Sound) (op : Operation) : (op.run s inline f).1.cache.Sound := by
  have herase : ∀ (g : Folder) (p : String), g.cache.Sound →
      Cache.Sound (Table.erase g.cache p) := by
    intro g p hg
    refine hg.of_sublist fun q => ?_
    rw [Cache.issuesOf_erase]
    split
    · exact List.nil_sublist _
    · exact .refl _
  have hremove : ∀ c, (f.removeCategory c).1.cache.Sound := fun c =>
    h.of_sublist fun p => f.issuesOf_removeCategory c p ▸ List.filter_sublist
  refine run_cases (motive := fun next => next.1.cache.Sound) op h ?_ (fun _ => h)
    (fun p => herase f p h) ?_ Cache.sound_empty hremove fun c _ => hremove c
  · intro order r scanned
    rw [Folder.processIn_eq]
    split
    · exact h
    · exact Cache.mergeIn_sound h _ _ _
  · intro root
    exact Folder.clearUnder_induction (motive := fun g _ => g.cache.Sound) root h
      (fun g es p hg => herase g p hg) fun g es hg => hg

theorem run_displays {op : Operation} (h : op.isSilent = false) :
    f.Displays s (op.run s inline f) := by
  refine run_cases op (f.displays_nothing s) (fun order r _ => f.displays_processIn order s r)
    (f.displays_publish s) (f.displays_clearFile s inline) (f.displays_clearUnder s inline)
    (f.displays_clear s) (f.displays_clearCategory s) ?_
  rintro c rfl
  exact absurd h (by simp [isSilent])

/-- A file that still shows issues is cached, whether the operation was silent or not. -/
theorem run_backs (op : Operation) :
    ∃ files, Shows (op.run s inline f).2 files
      ∧ Backs files f.cache (op.run s inline f).1.cache := by
  rcases hs : op.isSilent with _ | _
  · have h : f.Displays s (op.run s inline f) := run_displays hs
    obtain ⟨files, hshows, hbacks, -⟩ := h
    exact ⟨files, hshows, hbacks⟩
  · cases op with
    | removeCategory c =>
      exact ⟨[], .nil, .of_keys fun p hp => (f.keys_removeCategory c).symm ▸ hp⟩
    | _ => simp [isSilent] at hs

end Operation

end ScanRelay
