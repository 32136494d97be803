import ScanRelay.Proofs.Reconfigure

/-!
# Runs of a workspace

A ledger is a workspace with all that its folders did, each event signed by the folder it came from
(`Ledger`). It goes on by acts, which are the operations of a workspace in any order. What a run
makes of a folder is its life: the folder began empty, and each act was an operation on it, a change
of the settings, its removal, or nothing to it (`lives_run`). So what is kept along a life holds of
every folder after every run.
-/

namespace ScanRelay

/-- An event with the stamp of the folder that it came from. -/
abbrev Entry := Nat × Event

def signed (stamp : Nat) (es : List Event) : List Entry := es.map fun e => (stamp, e)

/-- The events of one folder. -/
def share (stamp : Nat) (log : List Entry) : List Event :=
  log.filterMap fun e => if e.1 = stamp then some e.2 else none

theorem share_append (stamp : Nat) (l l' : List Entry) :
    share stamp (l ++ l') = share stamp l ++ share stamp l' :=
  List.filterMap_append

theorem share_signed_self (stamp : Nat) (es : List Event) : share stamp (signed stamp es) = es := by
  simp [share, signed, List.filterMap_map]

theorem share_eq_nil {stamp : Nat} {log : List Entry} (h : ∀ e ∈ log, e.1 ≠ stamp) :
    share stamp log = [] :=
  List.filterMap_eq_nil_iff.2 fun e he => if_neg (h e he)

theorem share_signed_of_ne {stamp stamp' : Nat} (h : stamp' ≠ stamp) (es : List Event) :
    share stamp (signed stamp' es) = [] := by
  refine share_eq_nil fun e he => ?_
  obtain ⟨e', -, rfl⟩ := List.mem_map.1 he
  exact h

theorem map_snd_signed (stamp : Nat) (es : List Event) : (signed stamp es).map (·.2) = es := by
  simp [signed, Function.comp_def]

theorem mem_signed {stamp : Nat} {es : List Event} {e : Entry} (h : e ∈ signed stamp es) :
    e.1 = stamp := by
  obtain ⟨e', -, rfl⟩ := List.mem_map.1 h
  rfl

/-! ## Acts -/

namespace Workspace

def onEachSigned (w : Workspace) (op : Folder → Folder × List Event) : Workspace × List Entry :=
  ((w.onEach op).1, w.folders.values.flatMap fun f => signed f.stamp (op f).2)

/-- Installs settings and signs the events. -/
def applySettingsSigned : Workspace → Settings → Workspace × List Entry :=
  applySettingsBy onEachSigned

theorem map_snd_onEachSigned (w : Workspace) (op : Folder → Folder × List Event) :
    (w.onEachSigned op).2.map (·.2) = (w.onEach op).2 := by
  simp only [onEachSigned, onEach, List.map_flatMap, map_snd_signed]

end Workspace

theorem chain_map {σ α ε ε' : Type} {step : σ → α → σ × List ε} {step' : σ → α → σ × List ε'}
    {m : ε' → ε} (h : ∀ s a, step s a = ((step' s a).1, (step' s a).2.map m)) (l : List α) (s : σ) :
    chain step s l = ((chain step' s l).1, (chain step' s l).2.map m) := by
  induction l generalizing s with
  | nil => rfl
  | cons a rest ih => simp only [chain, h s a, ih, List.map_append]

namespace Workspace

theorem applySettingsBy_eq {ε : Type} (each : EachFolder ε) (w : Workspace) (next : Settings) :
    w.applySettingsBy each next =
      let before := w.settings.filter
      let disabled := before.issueTypes.newlyDisabled next.filter.issueTypes
      let v := { w with settings := next }
      let stripped := disabled.foldl removeCategory v
      if before.onlyDisables next.filter then chain (clearCategoryBy each) v disabled
      else (stripped, if before = next.filter then [] else stripped.republishBy each) := by
  unfold applySettingsBy FilterSettings.onlyDisables
  dsimp only
  split
  · exact (foldl_eq_chain _ _ _ _).trans (by rw [List.nil_append])
  · rfl

/-- What tells of the events of new settings is made from what tells of those of an operation. -/
theorem applySettingsBy_map {ε ε' : Type} {each : EachFolder ε} {each' : EachFolder ε'}
    {m : ε' → ε} (h : ∀ w op, each w op = ((each' w op).1, (each' w op).2.map m)) (w : Workspace)
    (next : Settings) : w.applySettingsBy each next
      = ((w.applySettingsBy each' next).1, (w.applySettingsBy each' next).2.map m) := by
  rw [applySettingsBy_eq, applySettingsBy_eq]
  dsimp only
  split
  · exact chain_map (fun w c => h w _) _ _
  · split
    · rfl
    · exact congrArg (Prod.mk _) (congrArg Prod.snd (h _ _))

/-- Signing the events of new settings changes nothing else. -/
theorem applySettings_eq_signed (w : Workspace) (next : Settings) : w.applySettings next
    = ((w.applySettingsSigned next).1, (w.applySettingsSigned next).2.map (·.2)) :=
  applySettingsBy_map (fun w op => by rw [map_snd_onEachSigned]; rfl) w next

end Workspace

inductive Act
  | add (path name : String)
  | remove (path : String)
  /-- An operation on a folder, open or removed. -/
  | operate (r : FolderRef) (op : Operation)
  /-- An operation on each open folder, which may be none. -/
  | each (op : Folder → Option Operation)
  /-- Settings are exchanged and nothing is shown. -/
  | configure (next : Settings)
  | applySettings (next : Settings)
  /-- The scanner goes on to its next run. -/
  | advance (scanner : Scanner)

/-- Whether an act may change caches or settings and show nothing. -/
def Act.isSilent : Act → Prop
  | operate _ op => op.isSilent = true
  | each op => ∃ f o, op f = some o ∧ o.isSilent = true
  | configure _ => True
  | _ => False

/-- The operation on a folder, if any. -/
def Operation.runIf (s : Settings) (inline : Bool) (f : Folder) : Option Operation →
    Folder × List Event
  | some op => op.run s inline f
  | none => (f, [])

def Workspace.act (w : Workspace) : Act → Workspace × List Entry
  | .add path name => (w.add path name, [])
  | .remove path =>
    match w.folder? path with
    | some f => ((w.remove path).1, signed f.stamp (w.remove path).2)
    | none => (w, [])
  | .operate r op =>
    let next := w.onFolder r fun f => op.run w.settings w.hasInline f
    (next.1, signed r.stamp next.2)
  | .each op => w.onEachSigned fun f => Operation.runIf w.settings w.hasInline f (op f)
  | .configure next => ({ w with settings := next }, [])
  | .applySettings next => w.applySettingsSigned next
  | .advance scanner => ({ w with scanner }, [])

namespace Workspace

variable {w : Workspace}

theorem act_remove_of_none {path : String} (h : w.folder? path = none) :
    w.act (.remove path) = (w, []) := by
  simp only [act, h]

theorem act_remove_of_some {path : String} {f : Folder} (h : w.folder? path = some f) :
    w.act (.remove path)
      = ({ w with
          folders := w.folders.erase (Path.normalize path)
          retired := f.clear.1 :: w.retired }, signed f.stamp f.clear.2) := by
  simp only [act, remove, h]

theorem act_operate_of_none {r : FolderRef} (h : w.resolve r = none) (op : Operation) :
    w.act (.operate r op) = (w, []) := by
  simp only [act, onFolder, h, signed, List.map_nil]

theorem act_operate_of_some {r : FolderRef} {f : Folder} (h : w.resolve r = some f)
    (op : Operation) : w.act (.operate r op)
      = (w.putBack (op.run w.settings w.hasInline f).1,
        signed r.stamp (op.run w.settings w.hasInline f).2) := by
  simp only [act, onFolder, h]

end Workspace

/-- A workspace with the events of its folders so far. -/
structure Ledger where
  workspace : Workspace
  log : List Entry

namespace Ledger

/-- The ledger of a workspace without folders. -/
def start (settings : Settings) (scanner : Scanner) : Ledger := ⟨.new settings scanner, []⟩

def step (l : Ledger) (a : Act) : Ledger :=
  ⟨(l.workspace.act a).1, l.log ++ (l.workspace.act a).2⟩

def run (l : Ledger) (acts : List Act) : Ledger := acts.foldl step l

def Open (l : Ledger) (f : Folder) : Prop := ∃ k, l.workspace.folders.get? k = some f

def sent (l : Ledger) (f : Folder) : List Event := share f.stamp l.log

end Ledger

/-! ## Lives -/

/-- What can become of a folder, with the settings in force, while it is open and after that. It is
`silent` that settings are exchanged, or a category is removed, without showing anything. -/
inductive Life (silent : Prop) : Bool → Settings → Folder → List Event → Prop
  | new (s : Settings) (path name : String) (stamp : Nat) :
      Life silent true s (.new path name stamp) []
  | operate {isOpen : Bool} {s : Settings} {f : Folder} {es : List Event} (inline : Bool)
      (op : Operation) (h : op.isSilent = true → silent) :
      Life silent isOpen s f es →
        Life silent isOpen s (op.run s inline f).1 (es ++ (op.run s inline f).2)
  | configure {isOpen : Bool} {s : Settings} {f : Folder} {es : List Event} (next : Settings)
      (h : isOpen = true → silent) : Life silent isOpen s f es → Life silent isOpen next f es
  | applySettings {s : Settings} {f : Folder} {es : List Event} (next : Settings) :
      Life silent true s f es → Life silent true next (f.applySettings s next).1
        (es ++ (f.applySettings s next).2)
  | close {s : Settings} {f : Folder} {es : List Event} :
      Life silent true s f es → Life silent false s f.clear.1 (es ++ f.clear.2)

theorem Operation.ref_runIf (s : Settings) (inline : Bool) (f : Folder) (op : Option Operation) :
    (Operation.runIf s inline f op).1.ref = f.ref := by
  cases op with
  | none => rfl
  | some op => exact op.run_ref s inline f

theorem Life.runIf {silent : Prop} {s : Settings} {f : Folder} {es : List Event}
    (h : Life silent true s f es)
    (inline : Bool) {op : Option Operation} (hop : ∀ o, op = some o → o.isSilent = true → silent) :
    Life silent true s (Operation.runIf s inline f op).1
      (es ++ (Operation.runIf s inline f op).2) := by
  cases op with
  | none => simpa [Operation.runIf] using h
  | some op => exact h.operate inline op (hop op rfl)

/-- No two open folders have one stamp. -/
def Workspace.Apart (w : Workspace) : Prop :=
  ∀ k f k' f', w.folders.get? k = some f → w.folders.get? k' = some f' → f.stamp = f'.stamp → k = k'

/-- Open folders lie at their paths, their stamps are their own and not used up, and each folder,
open or removed, has lived a life. -/
structure Ledger.Lives (silent : Prop) (l : Ledger) : Prop where
  keyed : ∀ k f, l.workspace.folders.get? k = some f → f.path = k
  apart : l.workspace.Apart
  gone : ∀ f, l.Open f → ∀ g ∈ l.workspace.retired, g.stamp ≠ f.stamp
  fresh : ∀ f, l.Open f ∨ f ∈ l.workspace.retired → f.stamp < l.workspace.nextStamp
  freshLog : ∀ e ∈ l.log, e.1 < l.workspace.nextStamp
  life : ∀ f, l.Open f → Life silent true l.workspace.settings f (l.sent f)
  afterlife : ∀ f ∈ l.workspace.retired, Life silent false l.workspace.settings f (l.sent f)

/-! ## One act -/

namespace Workspace

variable {w : Workspace}

/-- A folder that a scan knows is open or was removed. -/
theorem resolve_cases {r : FolderRef} {f : Folder} (h : w.resolve r = some f) :
    f.stamp = r.stamp ∧ (w.folders.get? r.path = some f ∨ f ∈ w.retired) := by
  have hretired : (w.retired.find? fun f => f.stamp = r.stamp) = some f →
      f.stamp = r.stamp ∧ (w.folders.get? r.path = some f ∨ f ∈ w.retired) := fun hf =>
    ⟨by simpa using List.find?_some hf, .inr (List.mem_of_find?_eq_some hf)⟩
  unfold resolve at h
  split at h
  · rename_i g hg
    split at h
    · rename_i hstamp
      obtain rfl := Option.some.inj h
      exact ⟨hstamp, .inl hg⟩
    · exact hretired h
  · exact hretired h

theorem putBack_of_open {f g : Folder} (h : w.folders.get? g.path = some f)
    (hstamp : f.stamp = g.stamp) :
    w.putBack g = { w with folders := w.folders.insert g.path g } := by
  simp only [putBack, h, hstamp, if_true]

theorem putBack_of_not_open {g : Folder}
    (h : ∀ f, w.folders.get? g.path = some f → f.stamp ≠ g.stamp) :
    w.putBack g
      = { w with retired := w.retired.map fun f => if f.stamp = g.stamp then g else f } := by
  unfold putBack
  split
  · rename_i f hf
    rw [if_neg (h f hf)]
  · rfl

/-- What becomes of a workspace when each open folder takes a step. -/
structure Each (w : Workspace) (op : Folder → Folder × List Event)
    (next : Workspace × List Entry) : Prop where
  folders : ∀ k, next.1.folders.get? k = (w.folders.get? k).map fun f => (op f).1
  retired : next.1.retired = w.retired
  nextStamp : next.1.nextStamp = w.nextStamp
  signed : ∀ e ∈ next.2, ∃ k f, w.folders.get? k = some f ∧ e.1 = f.stamp
  share : w.Apart → ∀ k f, w.folders.get? k = some f → share f.stamp next.2 = (op f).2

/-- Among folders with distinct stamps each has the events of its own step. -/
theorem share_flatMap_signed {op : Folder → Folder × List Event} {fs : List Folder}
    (hapart : fs.Pairwise fun f g => f.stamp ≠ g.stamp) {f : Folder} (hf : f ∈ fs) :
    ScanRelay.share f.stamp (fs.flatMap fun g => signed g.stamp (op g).2) = (op f).2 := by
  induction fs with
  | nil => exact absurd hf List.not_mem_nil
  | cons g rest ih =>
    obtain ⟨hg, hrest⟩ := List.pairwise_cons.1 hapart
    rw [List.flatMap_cons, share_append]
    rcases List.mem_cons.1 hf with rfl | hf
    · have hnil : ScanRelay.share f.stamp (rest.flatMap fun g => signed g.stamp (op g).2) = [] := by
        refine share_eq_nil fun e he => ?_
        obtain ⟨g, hmem, heg⟩ := List.mem_flatMap.1 he
        rw [mem_signed heg]
        exact (hg g hmem).symm
      rw [share_signed_self, hnil, List.append_nil]
    · rw [share_signed_of_ne (hg f hf), List.nil_append, ih hrest hf]

theorem Apart.pairwise (h : w.Apart) :
    w.folders.values.Pairwise fun f g => f.stamp ≠ g.stamp := by
  rw [Table.values, List.pairwise_map]
  refine List.Pairwise.imp_of_mem ?_ w.folders.increasing
  intro a b ha hb hlt heq
  have hkey := h a.1 a.2 b.1 b.2 (Table.mem_entries_iff.1 ha) (Table.mem_entries_iff.1 hb) heq
  exact String.lt_irrefl _ (hkey ▸ hlt)

theorem each_onEachSigned (w : Workspace) (op : Folder → Folder × List Event) :
    w.Each op (w.onEachSigned op) where
  folders := Table.get?_mapValues _ _
  retired := rfl
  nextStamp := rfl
  signed := by
    intro e he
    obtain ⟨f, hf, he⟩ := List.mem_flatMap.1 he
    obtain ⟨k, hk⟩ := Table.mem_values_iff.1 hf
    exact ⟨k, f, hk, mem_signed he⟩
  share := fun h k f hf => share_flatMap_signed h.pairwise (Table.mem_values_iff.2 ⟨k, hf⟩)

theorem each_republish (w : Workspace) :
    w.Each (fun f => (f, f.publish w.settings none)) (w, w.republishBy onEachSigned) where
  folders := by simp
  retired := rfl
  nextStamp := rfl
  signed := (w.each_onEachSigned _).signed
  share := (w.each_onEachSigned _).share

theorem Each.apart {op : Folder → Folder × List Event} {next : Workspace × List Entry}
    (h : w.Each op next) (hstamp : ∀ f, (op f).1.stamp = f.stamp) (hapart : w.Apart) :
    next.1.Apart := by
  intro k f k' f' hf hf' heq
  rw [h.folders] at hf hf'
  obtain ⟨g, hg, rfl⟩ := Option.map_eq_some_iff.1 hf
  obtain ⟨g', hg', rfl⟩ := Option.map_eq_some_iff.1 hf'
  rw [hstamp, hstamp] at heq
  exact hapart k g k' g' hg hg' heq

theorem Each.andThen {op op' : Folder → Folder × List Event} {next last : Workspace × List Entry}
    (h : w.Each op next) (h' : next.1.Each op' last) (hstamp : ∀ f, (op f).1.stamp = f.stamp) :
    w.Each (fun f => ((op' (op f).1).1, (op f).2 ++ (op' (op f).1).2))
      (last.1, next.2 ++ last.2) where
  folders := by
    intro k
    rw [h'.folders, h.folders, Option.map_map]
    rfl
  retired := h'.retired.trans h.retired
  nextStamp := h'.nextStamp.trans h.nextStamp
  signed := by
    intro e he
    rcases List.mem_append.1 he with he | he
    · exact h.signed e he
    · obtain ⟨k, f, hf, heq⟩ := h'.signed e he
      rw [h.folders] at hf
      obtain ⟨g, hg, rfl⟩ := Option.map_eq_some_iff.1 hf
      exact ⟨k, g, hg, heq.trans (hstamp g)⟩
  share := by
    intro hapart k f hf
    have hnext : next.1.folders.get? k = some (op f).1 := by rw [h.folders, hf]; rfl
    have hlast := h'.share (h.apart hstamp hapart) k _ hnext
    rw [hstamp] at hlast
    rw [share_append, h.share hapart k f hf, hlast]

theorem each_clearCategories (w : Workspace) (cs : List Category) :
    w.Each (fun f => chain (Folder.clearCategory w.settings) f cs)
      (chain (clearCategoryBy onEachSigned) w cs) := by
  induction cs generalizing w with
  | nil =>
    refine ⟨fun k => ?_, rfl, rfl, by simp [chain], fun _ _ _ _ => rfl⟩
    simp [chain]
  | cons c cs ih =>
    exact (w.each_onEachSigned fun f => f.clearCategory w.settings c).andThen
      (ih (w.clearCategoryBy onEachSigned c).1) fun f => rfl

theorem each_removeCategories (w : Workspace) (cs : List Category) :
    w.Each (fun f => (f.removeCategories cs, [])) (cs.foldl removeCategory w, []) := by
  induction cs generalizing w with
  | nil =>
    refine ⟨fun k => ?_, rfl, rfl, by simp, fun _ _ _ _ => rfl⟩
    simp [Folder.removeCategories]
  | cons c cs ih =>
    have hfirst : w.Each (fun f => ((f.removeCategory c).1, [])) (w.removeCategory c, []) :=
      ⟨Table.get?_mapValues _ _, rfl, rfl, by simp, fun _ _ _ _ => rfl⟩
    exact hfirst.andThen (ih (w.removeCategory c)) fun f => rfl

theorem settings_removeCategories (w : Workspace) (cs : List Category) :
    (cs.foldl removeCategory w).settings = w.settings := by
  induction cs generalizing w with
  | nil => rfl
  | cons c cs ih => exact ih _

theorem settings_clearCategories (w : Workspace) (cs : List Category) :
    (chain (clearCategoryBy onEachSigned) w cs).1.settings = w.settings := by
  induction cs generalizing w with
  | nil => rfl
  | cons c cs ih => exact ih _

theorem settings_applySettingsSigned (w : Workspace) (next : Settings) :
    (w.applySettingsSigned next).1.settings = next := by
  rw [applySettingsSigned, applySettingsBy_eq]
  dsimp only
  split
  · exact settings_clearCategories _ _
  · exact settings_removeCategories _ _

theorem stamp_removeCategories (f : Folder) (cs : List Category) :
    (f.removeCategories cs).stamp = f.stamp :=
  congrArg FolderRef.stamp (f.ref_removeCategories cs)

/-- New settings are a step of each folder. -/
theorem each_applySettingsSigned (w : Workspace) (next : Settings) :
    w.Each (Folder.applySettings w.settings next) (w.applySettingsSigned next) := by
  rw [applySettingsSigned, applySettingsBy_eq]
  unfold Folder.applySettings
  dsimp only
  generalize w.settings.filter.issueTypes.newlyDisabled next.filter.issueTypes = disabled
  have hnext : ∀ op out, Each { w with settings := next } op out → w.Each op out :=
    fun op out h => ⟨h.folders, h.retired, h.nextStamp, h.signed, h.share⟩
  by_cases honly : w.settings.filter.onlyDisables next.filter
  · simp only [honly, if_true]
    exact hnext _ _ (each_clearCategories { w with settings := next } disabled)
  · simp only [honly, Bool.false_eq_true, if_false]
    have hremove := hnext _ _ (each_removeCategories { w with settings := next } disabled)
    by_cases heq : w.settings.filter = next.filter
    · simpa only [heq, if_true] using hremove
    · simp only [heq, if_false]
      have hset : _ = next := settings_removeCategories { w with settings := next } disabled
      generalize disabled.foldl removeCategory { w with settings := next } = v at hremove hset
      have hshow := v.each_republish
      rw [hset] at hshow
      exact hremove.andThen hshow fun f => stamp_removeCategories f disabled

end Workspace

namespace Ledger

variable {silent : Prop} {l : Ledger}

theorem lives_start (silent : Prop) (s : Settings) (scanner : Scanner) :
    (start s scanner).Lives silent where
  keyed := fun _ _ h => by simp [start, Workspace.new] at h
  apart := fun _ _ _ _ h => by simp [start, Workspace.new] at h
  gone := fun _ ⟨_, h⟩ => by simp [start, Workspace.new] at h
  fresh := by simp [Open, start, Workspace.new]
  freshLog := by simp [start]
  life := fun _ ⟨_, h⟩ => by simp [start, Workspace.new] at h
  afterlife := by simp [start, Workspace.new]

theorem sent_of_ne {w : Workspace} {es : List Entry} {f : Folder} (h : ∀ e ∈ es, e.1 ≠ f.stamp) :
    sent ⟨w, l.log ++ es⟩ f = l.sent f := by
  rw [sent, share_append, share_eq_nil h, List.append_nil]
  rfl

/-- A step of each open folder, with settings that may change. -/
theorem Lives.each (h : l.Lives silent) {op : Folder → Folder × List Event}
    {next : Workspace × List Entry} (hnext : l.workspace.Each op next)
    (href : ∀ f, (op f).1.ref = f.ref)
    (hlife : ∀ f es, Life silent true l.workspace.settings f es →
      Life silent true next.1.settings (op f).1 (es ++ (op f).2))
    (hafter : ∀ f es, Life silent false l.workspace.settings f es →
      Life silent false next.1.settings f es) : Lives silent ⟨next.1, l.log ++ next.2⟩ := by
  have hstamp : ∀ f, (op f).1.stamp = f.stamp := fun f => congrArg FolderRef.stamp (href f)
  have hopen : ∀ k g, next.1.folders.get? k = some g →
      ∃ f, l.workspace.folders.get? k = some f ∧ (op f).1 = g := by
    intro k g hg
    rw [hnext.folders] at hg
    exact Option.map_eq_some_iff.1 hg
  refine ⟨?_, hnext.apart hstamp h.apart, ?_, ?_, ?_, ?_, ?_⟩
  · intro k g hg
    obtain ⟨f, hf, rfl⟩ := hopen k g hg
    exact (congrArg FolderRef.path (href f)).trans (h.keyed k f hf)
  · rintro g ⟨k, hg⟩ f hf
    obtain ⟨g', hg', rfl⟩ := hopen k g hg
    rw [hstamp]
    exact h.gone g' ⟨k, hg'⟩ f (hnext.retired ▸ hf)
  · rintro g (⟨k, hg⟩ | hg)
    · obtain ⟨f, hf, rfl⟩ := hopen k g hg
      rw [hnext.nextStamp, hstamp]
      exact h.fresh f (.inl ⟨k, hf⟩)
    · rw [hnext.nextStamp]
      exact h.fresh g (.inr (hnext.retired ▸ hg))
  · intro e he
    rw [hnext.nextStamp]
    rcases List.mem_append.1 he with he | he
    · exact h.freshLog e he
    · obtain ⟨k, f, hf, heq⟩ := hnext.signed e he
      exact heq ▸ h.fresh f (.inl ⟨k, hf⟩)
  · rintro g ⟨k, hg⟩
    obtain ⟨f, hf, rfl⟩ := hopen k g hg
    rw [sent, hstamp, share_append, hnext.share h.apart k f hf]
    exact hlife f _ (h.life f ⟨k, hf⟩)
  · intro g hg
    have hg' : g ∈ l.workspace.retired := hnext.retired ▸ hg
    rw [sent_of_ne]
    · exact hafter g _ (h.afterlife g hg')
    · -- A removed folder shares its stamp with no open one, so no new entry is its own.
      intro e he heq
      obtain ⟨k, f, hf, hef⟩ := hnext.signed e he
      exact h.gone f ⟨k, hf⟩ g hg' (heq.symm.trans hef)

theorem Lives.add (h : l.Lives silent) (path name : String) :
    (l.step (.add path name)).Lives silent := by
  show Lives silent ⟨l.workspace.add path name, l.log ++ []⟩
  rw [List.append_nil]
  unfold Workspace.add
  split
  · exact h
  · rename_i habsent
    have hopen : ∀ k f, (l.workspace.folders.insert (Path.normalize path)
        (.new path name l.workspace.nextStamp)).get? k = some f →
          k = Path.normalize path ∧ f = .new path name l.workspace.nextStamp ∨
            k ≠ Path.normalize path ∧ l.workspace.folders.get? k = some f := by
      intro k f hf
      rw [Table.get?_insert] at hf
      split at hf
      · exact .inl ⟨‹_›, (Option.some.inj hf).symm⟩
      · exact .inr ⟨‹_›, hf⟩
    have hlt : ∀ f, l.Open f ∨ f ∈ l.workspace.retired → f.stamp ≠ l.workspace.nextStamp :=
      fun f hf => Nat.ne_of_lt (h.fresh f hf)
    refine ⟨?_, ?_, ?_, ?_, ?_, ?_, h.afterlife⟩
    · intro k f hf
      rcases hopen k f hf with ⟨rfl, rfl⟩ | ⟨-, hf⟩
      · rfl
      · exact h.keyed k f hf
    · intro k f k' f' hf hf' heq
      rcases hopen k f hf with ⟨rfl, rfl⟩ | ⟨-, hf⟩ <;>
        rcases hopen k' f' hf' with ⟨rfl, rfl⟩ | ⟨-, hf'⟩
      · rfl
      · exact absurd heq.symm (hlt f' (.inl ⟨k', hf'⟩))
      · exact absurd heq (hlt f (.inl ⟨k, hf⟩))
      · exact h.apart k f k' f' hf hf' heq
    · rintro f ⟨k, hf⟩ g hg
      rcases hopen k f hf with ⟨-, rfl⟩ | ⟨-, hf⟩
      · exact hlt g (.inr hg)
      · exact h.gone f ⟨k, hf⟩ g hg
    · rintro f (⟨k, hf⟩ | hf)
      · rcases hopen k f hf with ⟨-, rfl⟩ | ⟨-, hf⟩
        · exact Nat.lt_succ_self _
        · exact Nat.lt_succ_of_lt (h.fresh f (.inl ⟨k, hf⟩))
      · exact Nat.lt_succ_of_lt (h.fresh f (.inr hf))
    · exact fun e he => Nat.lt_succ_of_lt (h.freshLog e he)
    · rintro f ⟨k, hf⟩
      rcases hopen k f hf with ⟨-, rfl⟩ | ⟨-, hf⟩
      · have hnil : share l.workspace.nextStamp l.log = [] :=
          share_eq_nil fun e he => Nat.ne_of_lt (h.freshLog e he)
        show Life silent true _ _ (share l.workspace.nextStamp l.log)
        rw [hnil]
        exact .new _ path name _
      · exact h.life f ⟨k, hf⟩

theorem Lives.remove (h : l.Lives silent) (path : String) :
    (l.step (.remove path)).Lives silent := by
  unfold step
  rcases hf : l.workspace.folder? path with _ | f
  · rw [Workspace.act_remove_of_none hf, List.append_nil]
    exact h
  · rw [Workspace.act_remove_of_some hf]
    have hopenf : l.Open f := ⟨_, hf⟩
    have hopen : ∀ k g, Table.get? (l.workspace.folders.erase (Path.normalize path)) k = some g →
        k ≠ Path.normalize path ∧ l.workspace.folders.get? k = some g := by
      intro k g hg
      rw [Table.get?_erase] at hg
      split at hg
      · exact absurd hg (by simp)
      · exact ⟨‹_›, hg⟩
    have hne : ∀ g, Open ⟨{ l.workspace with
        folders := l.workspace.folders.erase (Path.normalize path) }, l.log⟩ g →
          f.stamp ≠ g.stamp := by
      rintro g ⟨k, hg⟩ heq
      obtain ⟨hk, hg⟩ := hopen k g hg
      exact hk (h.apart _ f k g hf hg heq).symm
    refine ⟨?_, ?_, ?_, ?_, ?_, ?_, ?_⟩
    · exact fun k g hg => h.keyed k g (hopen k g hg).2
    · exact fun k g k' g' hg hg' => h.apart k g k' g' (hopen k g hg).2 (hopen k' g' hg').2
    · rintro g ⟨k, hg⟩ g' hg'
      rcases List.mem_cons.1 hg' with rfl | hg'
      · exact hne g ⟨k, hg⟩
      · exact h.gone g ⟨k, (hopen k g hg).2⟩ g' hg'
    · rintro g (⟨k, hg⟩ | hg)
      · exact h.fresh g (.inl ⟨k, (hopen k g hg).2⟩)
      · rcases List.mem_cons.1 hg with rfl | hg
        · exact h.fresh f (.inl hopenf)
        · exact h.fresh g (.inr hg)
    · intro e he
      rcases List.mem_append.1 he with he | he
      · exact h.freshLog e he
      · exact mem_signed he ▸ h.fresh f (.inl hopenf)
    · rintro g ⟨k, hg⟩
      rw [sent_of_ne fun e he => mem_signed he ▸ hne g ⟨k, hg⟩]
      exact h.life g ⟨k, (hopen k g hg).2⟩
    · intro g hg
      rcases List.mem_cons.1 hg with rfl | hg
      · show Life silent false _ _ (share f.stamp _)
        rw [share_append, share_signed_self]
        exact (h.life f hopenf).close
      · rw [sent_of_ne fun e he => mem_signed he ▸ (h.gone f hopenf g hg).symm]
        exact h.afterlife g hg

theorem Lives.operate (h : l.Lives silent) (r : FolderRef) {op : Operation}
    (hop : op.isSilent = true → silent) : (l.step (.operate r op)).Lives silent := by
  unfold step
  rcases hr : l.workspace.resolve r with _ | f
  · rw [Workspace.act_operate_of_none hr, List.append_nil]
    exact h
  · rw [Workspace.act_operate_of_some hr]
    obtain ⟨hstamp, hf⟩ := Workspace.resolve_cases hr
    have hpath := Operation.run_path l.workspace.settings l.workspace.hasInline f op
    have hgstamp := Operation.run_stamp l.workspace.settings l.workspace.hasInline f op
    have hlife : ∀ isOpen, Life silent isOpen l.workspace.settings f (l.sent f) → _ :=
      fun _ hlife => hlife.operate l.workspace.hasInline op hop
    generalize op.run l.workspace.settings l.workspace.hasInline f = g at hpath hgstamp hlife ⊢
    have hsent : ∀ w, sent ⟨w, l.log ++ signed r.stamp g.2⟩ g.1 = l.sent f ++ g.2 := by
      intro w
      rw [sent, share_append, ← hstamp, hgstamp, share_signed_self]
      rfl
    have hsent' : ∀ w g', f.stamp ≠ g'.stamp →
        sent ⟨w, l.log ++ signed r.stamp g.2⟩ g' = l.sent g' := fun w g' hne =>
      sent_of_ne fun e he => by rwa [mem_signed he, ← hstamp]
    have hlog : ∀ e ∈ l.log ++ signed r.stamp g.2, e.1 < l.workspace.nextStamp := by
      intro e he
      rcases List.mem_append.1 he with he | he
      · exact h.freshLog e he
      · rw [mem_signed he, ← hstamp]
        exact h.fresh f (hf.imp_left fun hf => ⟨_, hf⟩)
    rcases hf with hf | hf
    · have hkey : f.path = r.path := h.keyed _ f hf
      rw [Workspace.putBack_of_open (f := f) (by rwa [hpath, hkey]) hgstamp.symm]
      have hopen : ∀ k g', (l.workspace.folders.insert g.1.path g.1).get? k = some g' →
          k = f.path ∧ g' = g.1 ∨ f.stamp ≠ g'.stamp ∧ l.workspace.folders.get? k = some g' := by
        intro k g' hg'
        rw [Table.get?_insert, hpath] at hg'
        split at hg'
        · exact .inl ⟨‹_›, (Option.some.inj hg').symm⟩
        · rename_i hk
          refine .inr ⟨fun heq => hk ?_, hg'⟩
          exact (h.apart _ f k g' hf hg' heq).symm.trans hkey.symm
      refine ⟨?_, ?_, ?_, ?_, hlog, ?_, ?_⟩
      · intro k g' hg'
        rcases hopen k g' hg' with ⟨rfl, rfl⟩ | ⟨-, hg'⟩
        · exact hpath
        · exact h.keyed k g' hg'
      · intro k g' k' g'' hg' hg'' heq
        rcases hopen k g' hg' with ⟨rfl, rfl⟩ | ⟨hne, hg'⟩ <;>
          rcases hopen k' g'' hg'' with ⟨rfl, rfl⟩ | ⟨hne', hg''⟩
        · rfl
        · exact absurd (hgstamp.symm.trans heq) hne'
        · exact absurd (heq.trans hgstamp).symm hne
        · exact h.apart k g' k' g'' hg' hg'' heq
      · rintro g' ⟨k, hg'⟩ g'' hg''
        rcases hopen k g' hg' with ⟨-, rfl⟩ | ⟨-, hg'⟩
        · exact hgstamp ▸ h.gone f ⟨_, hf⟩ g'' hg''
        · exact h.gone g' ⟨k, hg'⟩ g'' hg''
      · rintro g' (⟨k, hg'⟩ | hg')
        · rcases hopen k g' hg' with ⟨-, rfl⟩ | ⟨-, hg'⟩
          · exact hgstamp ▸ h.fresh f (.inl ⟨_, hf⟩)
          · exact h.fresh g' (.inl ⟨k, hg'⟩)
        · exact h.fresh g' (.inr hg')
      · rintro g' ⟨k, hg'⟩
        rcases hopen k g' hg' with ⟨-, rfl⟩ | ⟨hne, hg'⟩
        · exact hsent _ ▸ hlife true (h.life f ⟨_, hf⟩)
        · exact hsent' _ g' hne ▸ h.life g' ⟨k, hg'⟩
      · intro g' hg'
        exact hsent' _ g' (h.gone f ⟨_, hf⟩ g' hg').symm ▸ h.afterlife g' hg'
    · have hopen : ∀ k f', l.workspace.folders.get? k = some f' → f'.stamp ≠ g.1.stamp := by
        intro k f' hf' heq
        exact h.gone f' ⟨k, hf'⟩ f hf (hgstamp.symm.trans heq.symm)
      rw [Workspace.putBack_of_not_open (hopen _)]
      have hretired : ∀ g' ∈ l.workspace.retired.map (fun f' =>
          if f'.stamp = g.1.stamp then g.1 else f'),
            g' = g.1 ∨ f.stamp ≠ g'.stamp ∧ g' ∈ l.workspace.retired := by
        intro g' hg'
        obtain ⟨f', hf', rfl⟩ := List.mem_map.1 hg'
        split
        · exact .inl rfl
        · rename_i hne
          exact .inr ⟨fun heq => hne (heq.symm.trans hgstamp.symm), hf'⟩
      refine ⟨h.keyed, h.apart, ?_, ?_, hlog, ?_, ?_⟩
      · rintro g' ⟨k, hg'⟩ g'' hg''
        rcases hretired g'' hg'' with rfl | ⟨-, hg''⟩
        · exact (hopen k g' hg').symm
        · exact h.gone g' ⟨k, hg'⟩ g'' hg''
      · rintro g' (⟨k, hg'⟩ | hg')
        · exact h.fresh g' (.inl ⟨k, hg'⟩)
        · rcases hretired g' hg' with rfl | ⟨-, hg'⟩
          · exact hgstamp ▸ h.fresh f (.inr hf)
          · exact h.fresh g' (.inr hg')
      · rintro g' ⟨k, hg'⟩
        exact hsent' _ g' (h.gone g' ⟨k, hg'⟩ f hf) ▸ h.life g' ⟨k, hg'⟩
      · intro g' hg'
        rcases hretired g' hg' with rfl | ⟨hne, hg'⟩
        · exact hsent _ ▸ hlife false (h.afterlife f hf)
        · exact hsent' _ g' hne ▸ h.afterlife g' hg'

/-- Each act leaves every folder with a life. -/
theorem Lives.step (h : l.Lives silent) {a : Act} (ha : a.isSilent → silent) :
    (l.step a).Lives silent := by
  cases a with
  | add path name => exact h.add path name
  | remove path => exact h.remove path
  | operate r op => exact h.operate r ha
  | each op =>
    refine h.each (l.workspace.each_onEachSigned _) ?_ ?_ fun f es hf => hf
    · exact fun f => Operation.ref_runIf _ _ f (op f)
    · exact fun f es hf => hf.runIf _ fun o ho hsilent => ha ⟨f, o, ho, hsilent⟩
  | configure next =>
    have hsilent : silent := ha trivial
    show Lives silent ⟨{ l.workspace with settings := next }, l.log ++ []⟩
    rw [List.append_nil]
    exact { h with
      life := fun f hf => (h.life f hf).configure next fun _ => hsilent
      afterlife := fun f hf => (h.afterlife f hf).configure next fun _ => hsilent }
  | applySettings next =>
    have hnext : (l.workspace.act (.applySettings next)).1.settings = next :=
      l.workspace.settings_applySettingsSigned next
    refine h.each (l.workspace.each_applySettingsSigned next) ?_ ?_ ?_
    · exact fun f => f.ref_applySettings _ next
    · intro f es hf
      rw [hnext]
      exact hf.applySettings next
    · intro f es hf
      rw [hnext]
      exact hf.configure next (by simp)
  | advance scanner =>
    show Lives silent ⟨{ l.workspace with scanner }, l.log ++ []⟩
    rw [List.append_nil]
    exact { h with }

/-- After any run each folder has lived a life, silent if some act was. -/
theorem lives_run (s : Settings) (scanner : Scanner) {acts : List Act}
    (h : ∀ a ∈ acts, a.isSilent → silent) : ((start s scanner).run acts).Lives silent :=
  List.foldlRecOn acts step (lives_start silent s scanner) fun _ hl a ha => hl.step (h a ha)

end Ledger

/-! ## A run

A folder is opened, and a scan of it finds one issue. -/

namespace Sample

def issue : Issue where
  id := "1"
  path := "/a/x.js"
  range := ⟨⟨0, 0⟩, ⟨0, 1⟩⟩
  severity := .high
  product := some .code
  issueType := .codeSecurityVulnerability
  message := "unsafe call"
  formattedMessage := ""
  descriptionUrl := none
  cwes := []
  cves := []
  additionalData := none

def report : ScanReport := ⟨some .code, .ok [issue], 0, none⟩

def ref : FolderRef := ⟨"/a", 0⟩

def acts : List Act := [.add "/a" "a", .operate ref (.endFolderScan .listed false report)]

def start : Ledger := .start (.standard "") ⟨.script [], none⟩

/-- The folder at the end of the run. -/
def folder : Folder where
  path := "/a"
  name := "a"
  scanned := true
  cache := Table.empty.insert "/a/x.js" [issue]
  stamp := 0

/-- The URL of the file. -/
def url : Url := ⟨"file", some ⟨"", "", none, none⟩, .rooted ["a", "x.js"], none, none⟩

theorem ofFilePath?_url : Url.ofFilePath? "/a/x.js" = some url := by decide +kernel

theorem open_folder : (start.run acts).Open folder := ⟨"/a", rfl⟩

theorem hovers_folder :
    Event.hovers ((start.run acts).sent folder) = [.ofIssues "/a/x.js" [issue]] := by
  decide +kernel

end Sample

end ScanRelay
