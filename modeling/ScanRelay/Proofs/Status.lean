import ScanRelay.Proofs.Deletion
import ScanRelay.Proofs.Traces

/-!
# Which folders are scanned

A workspace is watched with the scans of folders that were let in and have not returned (`Watch`).
A folder is scanned after a run if a scan of it completed and its status was not cleared since
(`scanned_iff_completed`). That is so because the status of a folder is decided step by step
(`Watch.Valid.marked_step`), and of all that can be done to a folder only the end of a scan sets it
and only clearing files unsets it (`Operation.scanned_run`), whatever the caches hold.
-/

namespace ScanRelay

/-! ## Since -/

/-- The element at a place is of a kind, which is asked with the elements before it. -/
def Occurs {α : Type} (kind : List α → α → Prop) (l : List α) (n : Nat) : Prop :=
  ∃ a, l[n]? = some a ∧ kind (l.take n) a

/-- An element of one kind occurs, and after it none of the other kind. -/
def Since {α : Type} (kind other : List α → α → Prop) (l : List α) : Prop :=
  ∃ n, Occurs kind l n ∧ ∀ m, n < m → ¬ Occurs other l m

section Since

variable {α : Type} {kind other : List α → α → Prop} {l : List α} {n : Nat}

theorem Occurs.lt_length (h : Occurs kind l n) : n < l.length := by
  obtain ⟨a, ha, -⟩ := h
  exact (List.getElem?_eq_some_iff.1 ha).1

theorem occurs_concat (a : α) :
    Occurs kind (l ++ [a]) n ↔ Occurs kind l n ∨ n = l.length ∧ kind l a := by
  unfold Occurs
  rcases Nat.lt_trichotomy n l.length with hn | rfl | hn
  · have hne : n ≠ l.length := Nat.ne_of_lt hn
    simp [List.getElem?_append_left hn, List.take_append_of_le_length (Nat.le_of_lt hn), hne]
  · simp
  · have hne : n ≠ l.length := Nat.ne_of_gt hn
    have hlength : (l ++ [a]).length ≤ n := by simpa using Nat.succ_le_of_lt hn
    simp [List.getElem?_eq_none hlength, List.getElem?_eq_none (Nat.le_of_lt hn), hne]

theorem not_since_nil : ¬ Since kind other [] := by
  rintro ⟨n, h, -⟩
  exact absurd h.lt_length (Nat.not_lt_zero n)

theorem since_concat (a : α) :
    Since kind other (l ++ [a]) ↔ kind l a ∨ Since kind other l ∧ ¬ other l a := by
  constructor
  · rintro ⟨n, hn, hnone⟩
    rcases (occurs_concat a).1 hn with hn | ⟨-, ha⟩
    · refine .inr ⟨⟨n, hn, fun m hm hother => ?_⟩, fun hother => ?_⟩
      · exact hnone m hm ((occurs_concat a).2 (.inl hother))
      · exact hnone l.length hn.lt_length ((occurs_concat a).2 (.inr ⟨rfl, hother⟩))
    · exact .inl ha
  · rintro (ha | ⟨⟨n, hn, hnone⟩, hother⟩)
    · refine ⟨l.length, (occurs_concat a).2 (.inr ⟨rfl, ha⟩), fun m hm h => ?_⟩
      exact absurd h.lt_length (by simpa using Nat.succ_le_of_lt hm)
    · refine ⟨n, (occurs_concat a).2 (.inl hn), fun m hm h => ?_⟩
      rcases (occurs_concat a).1 h with h | ⟨-, h⟩
      · exact hnone m hm h
      · exact hother h

end Since

/-! ## The status under one operation -/

namespace Operation

/-- The end of a scan of the whole folder, however the scan went. -/
def returnsFolder : Operation → Bool
  | endFolderScan .. => true
  | _ => false

/-- The status of a folder is cleared along with files, even if there are none. -/
def clearsStatus : Operation → Bool
  | clearFile _ | clearUnder _ | clear => true
  | _ => false

/-- What an operation makes of the status. -/
def status (before : Bool) : Operation → Bool
  | endFolderScan _ cancelled r => before || (!cancelled && r.outcome.isOk)
  | op => before && !op.clearsStatus

end Operation

namespace Folder

theorem scanned_processIn (order : VisitOrder) (s : Settings) (f : Folder) (r : ScanReport) :
    (f.processIn order s r).1.scanned = f.scanned := by
  rw [processIn_eq]
  split <;> rfl

theorem scanned_removeCategories (f : Folder) (cs : List Category) :
    (f.removeCategories cs).scanned = f.scanned := by
  induction cs generalizing f with
  | nil => rfl
  | cons c cs ih => exact ih _

theorem scanned_applySettings (before next : Settings) (f : Folder) :
    (f.applySettings before next).1.scanned = f.scanned := by
  rw [fst_applySettings, scanned_removeCategories]

end Folder

theorem Operation.scanned_run (s : Settings) (inline : Bool) (f : Folder) (op : Operation) :
    (op.run s inline f).1.scanned = op.status f.scanned := by
  cases op with
  | endFolderScan order cancelled r =>
    cases cancelled with
    | true => simp [run, status]
    | false => simp [run, status, Folder.scanned_processIn]
  | beginFileScan order path =>
    simp only [run, status, clearsStatus, Bool.not_false, Bool.and_true]
    split
    · exact f.scanned_processIn order s _
    · rfl
  | endFileScan order cancelled r =>
    cases cancelled <;> simp [run, status, clearsStatus, Folder.scanned_processIn]
  | process order r => simp [run, status, clearsStatus, Folder.scanned_processIn]
  | publish product => simp [run, status, clearsStatus]
  | clearFile path => simp [run, status, clearsStatus, Folder.clearFile]
  | clearUnder root => simp [run, status, clearsStatus, Folder.clearUnder]
  | clear => simp [run, status, clearsStatus, Folder.clear]
  | clearCategory c =>
    simp [run, status, clearsStatus, Folder.clearCategory, Folder.removeCategory]
  | removeCategory c => simp [run, status, clearsStatus, Folder.removeCategory]

theorem Operation.status_of_not_returnsFolder {op : Operation} (h : op.returnsFolder = false)
    (before : Bool) : op.status before = (before && !op.clearsStatus) := by
  cases op with
  | endFolderScan => simp [returnsFolder] at h
  | _ => rfl

/-! ## The status in a workspace -/

/-- Whether a scan of a whole folder may return in an act. -/
def Act.returnsFolder : Act → Prop
  | operate _ op => op.returnsFolder = true
  | each op => ∃ f o, op f = some o ∧ o.returnsFolder = true
  | _ => False

namespace Workspace

variable {w v : Workspace} {f g : Folder}

/-- No two folders that are known have one stamp. -/
theorem Tidy.known_unique (h : w.Tidy) (hf : w.Known f) (hg : w.Known g)
    (hstamp : f.stamp = g.stamp) : f = g := by
  obtain ⟨log, hlives⟩ := h.orderly
  rcases hf with ⟨k, hf⟩ | hf <;> rcases hg with ⟨k', hg⟩ | hg
  · obtain rfl : k = k' := hlives.apart k f k' g hf hg hstamp
    exact Option.some.inj (hf.symm.trans hg)
  · exact absurd hstamp.symm (hlives.gone f ⟨k, hf⟩ g hg)
  · exact absurd hstamp (hlives.gone g ⟨k', hg⟩ f hf)
  · exact List.inj_on_of_nodup_map h.apart hf hg hstamp

theorem Tidy.resolve_known (h : w.Tidy) (hf : w.Known f) : w.resolve f.ref = some f := by
  rcases hf with ⟨k, hk⟩ | hf
  · exact h.orderly.resolve_of_get? hk
  · obtain ⟨log, hlives⟩ := h.orderly
    rw [resolve_of_not_open fun g hg => (hlives.gone g ⟨_, hg⟩ f hf).symm]
    rcases hfind : w.retired.find? fun g => g.stamp = f.stamp with _ | g
    · exact absurd (decide_eq_true rfl) (List.find?_eq_none.1 hfind f hf)
    · have hstamp : g.stamp = f.stamp := by simpa using List.find?_some hfind
      have heq : g = f := h.known_unique (.inr (List.mem_of_find?_eq_some hfind)) (.inr hf) hstamp
      exact heq ▸ hfind

theorem known_putBack_of_ne (hf : w.Known f) (hne : f.stamp ≠ g.stamp) :
    (w.putBack g).Known f := by
  by_cases hopen : ∃ b, w.folders.get? g.path = some b ∧ b.stamp = g.stamp
  · obtain ⟨b, hb, hstamp⟩ := hopen
    rw [putBack_of_open hb hstamp]
    refine hf.imp_left fun ⟨k, hk⟩ => ⟨k, ?_⟩
    have hkey : k ≠ g.path := by
      rintro rfl
      exact hne (Option.some.inj (hk.symm.trans hb) ▸ hstamp)
    rw [Table.get?_insert, if_neg hkey]
    exact hk
  · rw [putBack_of_not_open fun b hb hstamp => hopen ⟨b, hb, hstamp⟩]
    refine hf.imp_right fun hf => List.mem_map.2 ⟨f, hf, if_neg hne⟩

/-- Known folders stay known, and what is new is not scanned. -/
structure Carries (w v : Workspace) (status : Folder → Bool) : Prop where
  kept : ∀ f, w.Known f → ∃ g, v.Known g ∧ g.ref = f.ref ∧ g.scanned = status f
  fresh : ∀ g, v.Known g → (∃ f, w.Known f ∧ f.ref = g.ref) ∨ g.scanned = false

theorem carries_refl (w : Workspace) : w.Carries w Folder.scanned where
  kept := fun f hf => ⟨f, hf, rfl, rfl⟩
  fresh := fun g hg => .inl ⟨g, hg, rfl⟩

theorem carries_add (w : Workspace) (path name : String) :
    w.Carries (w.add path name) Folder.scanned := by
  unfold add
  split
  · exact w.carries_refl
  · rename_i habsent
    refine ⟨?_, ?_⟩
    · rintro f (⟨k, hk⟩ | hf)
      · have hkey : k ≠ Path.normalize path := by
          rintro rfl
          exact habsent (by simp [Table.contains, hk])
        exact ⟨f, .inl ⟨k, (Table.get?_insert ..).trans ((if_neg hkey).trans hk)⟩, rfl, rfl⟩
      · exact ⟨f, .inr hf, rfl, rfl⟩
    · rintro g (⟨k, hk⟩ | hg)
      · rw [Table.get?_insert] at hk
        split at hk
        · exact .inr (Option.some.inj hk ▸ rfl)
        · exact .inl ⟨g, .inl ⟨k, hk⟩, rfl⟩
      · exact .inl ⟨g, .inr hg, rfl⟩

theorem carries_remove {path : String} (hf : w.folder? path = some f) :
    w.Carries (w.act (.remove path)).1 fun g => if f.ref = g.ref then false else g.scanned := by
  rw [act_remove_of_some hf]
  refine ⟨fun g hg => ?_, ?_⟩
  · by_cases href : f.ref = g.ref
    · exact ⟨f.clear.1, .inr List.mem_cons_self, href, (if_pos href).symm⟩
    · refine ⟨g, hg.imp (fun ⟨k, hk⟩ => ⟨k, ?_⟩) (List.mem_cons_of_mem _), rfl,
        (if_neg href).symm⟩
      have hkey : k ≠ Path.normalize path := by
        rintro rfl
        exact href (congrArg Folder.ref (Option.some.inj (hf.symm.trans hk)))
      exact (Table.get?_erase ..).trans ((if_neg hkey).trans hk)
  · rintro g (⟨k, hk⟩ | hg)
    · rw [Table.get?_erase] at hk
      split at hk
      · exact absurd hk (by simp)
      · exact .inl ⟨g, .inl ⟨k, hk⟩, rfl⟩
    · rcases List.mem_cons.1 hg with rfl | hg
      · exact .inr rfl
      · exact .inl ⟨g, .inr hg, rfl⟩

theorem Tidy.carries_putBack (h : w.Tidy) {r : FolderRef} (hf : w.resolve r = some f)
    (href : g.ref = f.ref) :
    w.Carries (w.putBack g) fun b => if f.ref = b.ref then g.scanned else b.scanned := by
  have hknown : w.Known f := known_of_resolve hf
  have hstamp : g.stamp = f.stamp := congrArg FolderRef.stamp href
  refine ⟨fun b hb => ?_, fun b hb => ?_⟩
  · by_cases hfb : f.ref = b.ref
    · have hresolve := (h.inPlace hf).resolve_putBack href
      exact ⟨g, known_of_resolve hresolve, href.trans hfb, (if_pos hfb).symm⟩
    · have hne : b.stamp ≠ g.stamp := fun heq =>
        hfb (congrArg Folder.ref (h.known_unique hknown hb (hstamp.symm.trans heq.symm)))
      exact ⟨b, known_putBack_of_ne hb hne, rfl, (if_neg hfb).symm⟩
  · rcases known_putBack hb with rfl | hb
    · exact .inl ⟨f, hknown, href.symm⟩
    · exact .inl ⟨b, hb, rfl⟩

theorem Tidy.carries_each (h : w.Tidy) {op : Folder → Folder × List Event}
    {next : Workspace × List Entry} (hnext : w.Each op next) (href : ∀ f, (op f).1.ref = f.ref) :
    w.Carries next.1 fun f =>
      if (w.folders.get? f.path).map Folder.ref = some f.ref then (op f).1.scanned
      else f.scanned := by
  obtain ⟨log, hlives⟩ := h.orderly
  refine ⟨?_, ?_⟩
  · rintro f (⟨k, hk⟩ | hf)
    · have hkey : f.path = k := hlives.keyed k f hk
      refine ⟨(op f).1, .inl ⟨k, ?_⟩, href f, ?_⟩
      · rw [hnext.folders, hk]
        rfl
      · rw [hkey, if_pos (by rw [hk]; rfl)]
    · -- A removed folder shares its stamp with no open one, so it takes no step.
      refine ⟨f, .inr (hnext.retired ▸ hf), rfl, (if_neg fun hopen => ?_).symm⟩
      obtain ⟨b, hb, hbf⟩ := Option.map_eq_some_iff.1 hopen
      exact hlives.gone b ⟨_, hb⟩ f hf (congrArg FolderRef.stamp hbf).symm
  · rintro g (⟨k, hk⟩ | hg)
    · rw [hnext.folders] at hk
      obtain ⟨f, hf, rfl⟩ := Option.map_eq_some_iff.1 hk
      exact .inl ⟨f, .inl ⟨k, hf⟩, (href f).symm⟩
    · exact .inl ⟨g, .inr (hnext.retired ▸ hg), rfl⟩

/-- The operation that an act is on a folder, if it is one. New settings are not. -/
def operationOn (w : Workspace) (f : Folder) : Act → Option Operation
  | .remove path => if (w.folder? path).map Folder.ref = some f.ref then some .clear else none
  | .operate r op => if (w.resolve r).map Folder.ref = some f.ref then some op else none
  | .each op => if (w.folders.get? f.path).map Folder.ref = some f.ref then op f else none
  | _ => none

theorem returnsFolder_operationOn {a : Act} {op : Operation}
    (ha : ¬ a.returnsFolder) (hop : w.operationOn f a = some op) : op.returnsFolder = false := by
  cases a with
  | remove path =>
    obtain ⟨-, rfl⟩ : _ ∧ Operation.clear = op := by simpa [operationOn] using hop
    rfl
  | operate r o =>
    obtain ⟨-, rfl⟩ : _ ∧ o = op := by simpa [operationOn] using hop
    exact Bool.eq_false_iff.2 ha
  | each o =>
    obtain ⟨-, ho⟩ : _ ∧ o f = some op := by simpa [operationOn] using hop
    exact Bool.eq_false_iff.2 fun hreturns => ha ⟨f, op, ho, hreturns⟩
  | _ => simp [operationOn] at hop

/-- What an act makes of the status of a folder. -/
def statusAfter (w : Workspace) (a : Act) (f : Folder) : Bool :=
  ((w.operationOn f a).map (·.status f.scanned)).getD f.scanned

theorem Carries.congr {status status' : Folder → Bool} (h : w.Carries v status)
    (heq : ∀ f, w.Known f → status f = status' f) : w.Carries v status' where
  kept := fun f hf => heq f hf ▸ h.kept f hf
  fresh := h.fresh

theorem Tidy.carries_act (h : w.Tidy) (a : Act) : w.Carries (w.act a).1 (w.statusAfter a) := by
  cases a with
  | add path name => exact w.carries_add path name
  | remove path =>
    rcases hf : w.folder? path with _ | f
    · rw [act_remove_of_none hf]
      exact w.carries_refl.congr fun g _ => by simp [statusAfter, operationOn, hf]
    · refine (carries_remove hf).congr fun g _ => ?_
      by_cases hfg : f.ref = g.ref <;>
        simp [statusAfter, operationOn, hf, hfg, Operation.status, Operation.clearsStatus]
  | operate r op =>
    rcases hf : w.resolve r with _ | f
    · rw [act_operate_of_none hf]
      exact w.carries_refl.congr fun g _ => by simp [statusAfter, operationOn, hf]
    · rw [act_operate_of_some hf]
      refine (h.carries_putBack hf (op.run_ref _ _ f)).congr fun g hg => ?_
      by_cases hfg : f.ref = g.ref
      · obtain rfl : f = g :=
          h.known_unique (known_of_resolve hf) hg (congrArg FolderRef.stamp hfg)
        simp [statusAfter, operationOn, hf, op.scanned_run]
      · simp [statusAfter, operationOn, hf, hfg]
  | each op =>
    refine (h.carries_each (w.each_onEachSigned _) fun f =>
      Operation.ref_runIf _ _ f (op f)).congr fun f _ => ?_
    by_cases hopen : (w.folders.get? f.path).map Folder.ref = some f.ref
    · rcases ho : op f with _ | o <;>
        simp [statusAfter, operationOn, hopen, ho, Operation.runIf, Operation.scanned_run]
    · simp [statusAfter, operationOn, hopen]
  | configure next => exact ⟨w.carries_refl.kept, w.carries_refl.fresh⟩
  | applySettings next =>
    refine (h.carries_each (w.each_applySettingsSigned next) fun f =>
      f.ref_applySettings _ next).congr fun f _ => ?_
    simp [statusAfter, operationOn, Folder.scanned_applySettings]
  | advance scanner => exact ⟨w.carries_refl.kept, w.carries_refl.fresh⟩

end Workspace

/-! ## The status alone -/

/-- A walk on which no visit changes anything changes nothing. -/
theorem Cache.walk_of_still {σ : Type} {c : Cache} {visit : σ → String → List Issue → σ × Bool}
    {s : σ} (h : ∀ e ∈ c.entries, visit s e.1 e.2 = (s, true)) : c.walk visit s = s := by
  unfold walk
  generalize c.entries = entries at h
  induction entries with
  | nil => rfl
  | cons e rest ih =>
    obtain ⟨he, hrest⟩ := List.forall_mem_cons.1 h
    unfold walk.go
    rw [he]
    exact ih hrest

namespace Folder

/-- Makes a folder unscanned and leaves its files. -/
def unscan (f : Folder) : Folder := { f with scanned := false }

/-- To clear under a path that no cached file has in its own clears the status all the same. -/
theorem clearUnder_of_none {f : Folder} {root : String}
    (h : ∀ p ∈ f.cache.keys, occursIn root.toList p.toList = false) (inline : Bool) :
    f.clearUnder inline root = (f.unscan, []) := by
  unfold clearUnder
  rw [Cache.walk_of_still fun e he => ?_]
  · rfl
  · have hnone := h e.1 (List.mem_map_of_mem he)
    simp only [hnone, Bool.false_eq_true, if_false]

theorem exists_occursIn_eq_false (paths : List String) :
    ∃ root : String, ∀ p ∈ paths, occursIn root.toList p.toList = false := by
  let all := (paths.map String.toList).flatten
  refine ⟨String.ofList ('a' :: all), fun p hp => Bool.eq_false_iff.2 fun h => ?_⟩
  rw [String.toList_ofList, occursIn_iff] at h
  have hlonger : all.length + 1 ≤ p.toList.length := h.length_le
  have hle : p.toList.length ≤ all.length :=
    (List.sublist_flatten_of_mem (List.mem_map_of_mem hp)).length_le
  exact absurd (Nat.le_trans hlonger hle) (Nat.not_succ_le_self _)

end Folder

namespace Workspace

variable {w : Workspace} {f : Folder}

/-- Makes a folder that a scan knows unscanned. -/
def unscan (w : Workspace) (r : FolderRef) : Workspace := (w.onFolder r fun f => (f.unscan, [])).1

theorem exists_unscan_eq (w : Workspace) (r : FolderRef) :
    ∃ root, w.unscan r = (w.act (.operate r (.clearUnder root))).1 := by
  rcases hf : w.resolve r with _ | f
  · exact ⟨"", by simp [unscan, onFolder, hf, act_operate_of_none hf]⟩
  · obtain ⟨root, hroot⟩ := Folder.exists_occursIn_eq_false f.cache.keys
    refine ⟨root, ?_⟩
    simp [unscan, onFolder, hf, act_operate_of_some hf, Operation.run,
      Folder.clearUnder_of_none hroot]

end Workspace

/-! ## Steps -/

/-- A scan of a folder that was let in, with the settings of that moment. -/
structure Admission where
  folder : FolderRef
  settings : Settings

/-- A workspace with the scans of folders that are inside the scanner. -/
structure Watch where
  workspace : Workspace
  inside : List Admission

namespace Watch

inductive Step
  | act (a : Act) (h : ¬ a.returnsFolder)
  | unscan (r : FolderRef)
  /-- A scan of a folder begins; it is let in if the folder is trusted. -/
  | enter (r : FolderRef)
  /-- One of the scans that were let in returns. -/
  | leave (place : Nat) (order : VisitOrder) (cancelled : Bool) (report : ScanReport)

def start (settings : Settings) (scanner : Scanner) : Watch := ⟨.new settings scanner, []⟩

/-- Lets a scan in, if the folder is trusted. -/
def enter (y : Watch) (r : FolderRef) : Watch :=
  match y.workspace.resolve r with
  | some f =>
    match f.startFolderScan y.workspace.settings with
    | .entered => { y with inside := y.inside ++ [⟨f.ref, y.workspace.settings⟩] }
    | _ => y
  | none => y

def leave (y : Watch) (place : Nat) (order : VisitOrder) (cancelled : Bool) (report : ScanReport) :
    Watch :=
  match y.inside[place]? with
  | some a =>
    ⟨(y.workspace.act (.operate a.folder (.endFolderScan order cancelled report))).1,
      y.inside.eraseIdx place⟩
  | none => y

def step (y : Watch) : Step → Watch
  | .act a _ => { y with workspace := (y.workspace.act a).1 }
  | .unscan r => { y with workspace := y.workspace.unscan r }
  | .enter r => y.enter r
  | .leave place order cancelled report => y.leave place order cancelled report

def run (y : Watch) (steps : List Step) : Watch := steps.foldl step y

/-- The step is the end of a scan of the folder, which was trusted when the scan was let in. The
scan was not cancelled, and it succeeded. -/
def Completes (y : Watch) (r : FolderRef) : Step → Prop
  | .leave place _ cancelled report => cancelled = false ∧ report.outcome.isOk = true
      ∧ ∃ a, y.inside[place]? = some a ∧ a.folder = r ∧ a.settings.trust.trusts r.path = true
  | _ => False

/-- The step clears the status of the folder, alone or along with files. -/
def Unscans (y : Watch) (r : FolderRef) : Step → Prop
  | .act a _ => ∃ f, y.workspace.Known f ∧ f.ref = r
      ∧ ∃ op, y.workspace.operationOn f a = some op ∧ op.clearsStatus = true
  | .unscan r' => (y.workspace.resolve r').map Folder.ref = some r
  | _ => False

/-- The folder is known and scanned. -/
def Marked (y : Watch) (r : FolderRef) : Prop :=
  ∃ f, y.workspace.Known f ∧ f.ref = r ∧ f.scanned = true

/-- Scans are inside for folders that are known, and were trusted when the scans were let in. -/
structure Valid (y : Watch) : Prop where
  tidy : y.workspace.Tidy
  known : ∀ a ∈ y.inside, ∃ f, y.workspace.Known f ∧ f.ref = a.folder
  trusted : ∀ a ∈ y.inside, a.settings.trust.trusts a.folder.path = true

variable {y : Watch}

theorem enter_cases (y : Watch) (r : FolderRef) : y.enter r = y
    ∨ ∃ f, y.workspace.resolve r = some f ∧ f.isTrusted y.workspace.settings = true
      ∧ y.enter r = { y with inside := y.inside ++ [⟨f.ref, y.workspace.settings⟩] } := by
  unfold enter
  rcases hf : y.workspace.resolve r with _ | f
  · exact .inl rfl
  · by_cases htrusted : f.isTrusted y.workspace.settings
    · exact .inr ⟨f, rfl, htrusted, by simp [Folder.startFolderScan, htrusted]⟩
    · exact .inl (by simp [Folder.startFolderScan, htrusted])

theorem workspace_enter (y : Watch) (r : FolderRef) : (y.enter r).workspace = y.workspace := by
  rcases y.enter_cases r with h | ⟨f, -, -, h⟩ <;> rw [h]

/-- Among known folders the reference tells which folder a step clears. -/
theorem Valid.unscans_act_iff (h : y.Valid) {f : Folder} (hf : y.workspace.Known f) {a : Act}
    (ha : ¬ a.returnsFolder) : y.Unscans f.ref (.act a ha)
      ↔ ∃ op, y.workspace.operationOn f a = some op ∧ op.clearsStatus = true := by
  constructor
  · rintro ⟨g, hg, href, hop⟩
    rwa [← h.tidy.known_unique hg hf (congrArg FolderRef.stamp href)]
  · exact fun hop => ⟨f, hf, rfl, hop⟩

/-- A step changes the workspace as some act does. The folders that it leaves scanned are the one
whose scan completes and those that were scanned and are not cleared. -/
theorem Valid.exists_act (h : y.Valid) (s : Step) :
    ∃ a, (y.step s).workspace = (y.workspace.act a).1
      ∧ ∀ f, y.workspace.Known f → (y.workspace.statusAfter a f = true
        ↔ y.Completes f.ref s ∨ f.scanned = true ∧ ¬ y.Unscans f.ref s) := by
  cases s with
  | act a ha =>
    refine ⟨a, rfl, fun f hf => ?_⟩
    rw [h.unscans_act_iff hf ha, Workspace.statusAfter]
    rcases hop : y.workspace.operationOn f a with _ | op
    · simp [Completes]
    · have hreturns := Workspace.returnsFolder_operationOn ha hop
      simp [Completes, Operation.status_of_not_returnsFolder hreturns]
  | unscan r =>
    obtain ⟨root, hroot⟩ := y.workspace.exists_unscan_eq r
    refine ⟨_, hroot, fun f hf => ?_⟩
    by_cases href : (y.workspace.resolve r).map Folder.ref = some f.ref <;>
      simp [Workspace.statusAfter, Workspace.operationOn, Completes, Unscans, href,
        Operation.status, Operation.clearsStatus]
  | enter r =>
    refine ⟨.advance y.workspace.scanner, y.workspace_enter r, fun f hf => ?_⟩
    simp [Workspace.statusAfter, Workspace.operationOn, Completes, Unscans]
  | leave place order cancelled report =>
    rcases ha : y.inside[place]? with _ | a
    · refine ⟨.advance y.workspace.scanner, by simp [step, leave, ha, Workspace.act],
        fun f hf => ?_⟩
      simp [Workspace.statusAfter, Workspace.operationOn, Completes, Unscans, ha]
    · -- The folder is still known, so the end of the scan reaches it.
      let op : Operation := .endFolderScan order cancelled report
      refine ⟨.operate a.folder op, by simp [step, leave, ha, op], fun f hf => ?_⟩
      obtain ⟨g, hg, hga⟩ := h.known a (List.mem_of_getElem? ha)
      have hresolve : y.workspace.resolve a.folder = some g := hga ▸ h.tidy.resolve_known hg
      have hop : y.workspace.operationOn f (.operate a.folder op)
          = if a.folder = f.ref then some op else none := by
        simp [Workspace.operationOn, hresolve, hga]
      rw [Workspace.statusAfter, hop]
      by_cases hfa : a.folder = f.ref
      · have htrusted : a.settings.trust.trusts f.ref.path = true :=
          hfa ▸ h.trusted a (List.mem_of_getElem? ha)
        simp [Completes, Unscans, ha, hfa, htrusted, op, Operation.status, or_comm]
      · simp [Completes, Unscans, ha, hfa]

theorem Valid.carries_step (h : y.Valid) (s : Step) :
    ∃ status, y.workspace.Carries (y.step s).workspace status ∧ ∀ f, y.workspace.Known f →
      (status f = true ↔ y.Completes f.ref s ∨ f.scanned = true ∧ ¬ y.Unscans f.ref s) := by
  obtain ⟨a, ha, hstatus⟩ := h.exists_act s
  exact ⟨_, ha ▸ h.tidy.carries_act a, hstatus⟩

theorem valid_start (settings : Settings) (scanner : Scanner) : (start settings scanner).Valid where
  tidy := Workspace.tidy_new settings scanner
  known := by simp [start]
  trusted := by simp [start]

/-- Scans that are inside after a step were inside before, or are let in by it. -/
theorem mem_inside_step {s : Step} {a : Admission} (ha : a ∈ (y.step s).inside) : a ∈ y.inside
    ∨ ∃ f, y.workspace.Known f ∧ f.ref = a.folder
      ∧ a.settings.trust.trusts a.folder.path = true := by
  cases s with
  | act b hb => exact .inl ha
  | unscan r => exact .inl ha
  | enter r =>
    rcases y.enter_cases r with h | ⟨f, hf, htrusted, h⟩ <;> rw [step, h] at ha
    · exact .inl ha
    · rcases List.mem_append.1 ha with ha | ha
      · exact .inl ha
      · obtain rfl := List.mem_singleton.1 ha
        exact .inr ⟨f, Workspace.known_of_resolve hf, rfl, htrusted⟩
  | leave place order cancelled report =>
    left
    rw [step, leave] at ha
    split at ha
    · exact List.mem_of_mem_eraseIdx ha
    · exact ha

theorem Valid.step (h : y.Valid) (s : Step) : (y.step s).Valid := by
  obtain ⟨act, hact, -⟩ := h.exists_act s
  obtain ⟨status, hcarries, -⟩ := h.carries_step s
  have hadmitted : ∀ a ∈ (y.step s).inside, (∃ f, y.workspace.Known f ∧ f.ref = a.folder)
      ∧ a.settings.trust.trusts a.folder.path = true := by
    intro a ha
    rcases mem_inside_step ha with ha | ⟨f, hf, href, htrusted⟩
    · exact ⟨h.known a ha, h.trusted a ha⟩
    · exact ⟨⟨f, hf, href⟩, htrusted⟩
  refine ⟨hact ▸ h.tidy.act act, fun a ha => ?_, fun a ha => (hadmitted a ha).2⟩
  obtain ⟨f, hf, href⟩ := (hadmitted a ha).1
  obtain ⟨g, hg, hgf, -⟩ := hcarries.kept f hf
  exact ⟨g, hg, hgf.trans href⟩

theorem Valid.run (h : y.Valid) (steps : List Step) : (y.run steps).Valid :=
  List.foldlRecOn steps Watch.step h fun _ hy s _ => hy.step s

/-- A folder is scanned after a step if its scan completes, or if it was scanned and is not
cleared. -/
theorem Valid.marked_step (h : y.Valid) (s : Step) (r : FolderRef) :
    (y.step s).Marked r ↔ y.Completes r s ∨ y.Marked r ∧ ¬ y.Unscans r s := by
  obtain ⟨status, hcarries, hstatus⟩ := h.carries_step s
  have hmarks : ∀ f, y.workspace.Known f → status f = true → (y.step s).Marked f.ref := by
    intro f hf hscanned
    obtain ⟨g, hg, href, heq⟩ := hcarries.kept f hf
    exact ⟨g, hg, href, heq.trans hscanned⟩
  constructor
  · rintro ⟨g, hg, rfl, hscanned⟩
    rcases hcarries.fresh g hg with ⟨f, hf, href⟩ | hnew
    · -- What `f` became has the stamp of `g`, so it is `g`.
      obtain ⟨g', hg', href', heq⟩ := hcarries.kept f hf
      obtain rfl : g' = g := (h.step s).tidy.known_unique hg' hg
        (congrArg FolderRef.stamp (href'.trans href))
      rw [← href]
      exact ((hstatus f hf).1 (heq.symm.trans hscanned)).imp_right
        fun hkept => ⟨⟨f, hf, rfl, hkept.1⟩, hkept.2⟩
    · exact absurd hscanned (by simp [hnew])
  · rintro (hcompletes | ⟨⟨f, hf, rfl, hscanned⟩, hkept⟩)
    · obtain ⟨f, hf, rfl⟩ : ∃ f, y.workspace.Known f ∧ f.ref = r := by
        cases s with
        | leave place order cancelled report =>
          obtain ⟨-, -, a, ha, rfl, -⟩ := hcompletes
          exact h.known a (List.mem_of_getElem? ha)
        | _ => exact hcompletes.elim
      exact hmarks f hf ((hstatus f hf).2 (.inl hcompletes))
    · exact hmarks f hf ((hstatus f hf).2 (.inr ⟨hscanned, hkept⟩))

theorem run_concat (y : Watch) (steps : List Step) (s : Step) :
    y.run (steps ++ [s]) = (y.run steps).step s := by
  simp [run]

/-- Some step of a run completed a scan of the folder, and none after it cleared the status. -/
def StaysScanned (y : Watch) (r : FolderRef) (steps : List Step) : Prop :=
  Since (fun before s => (y.run before).Completes r s) (fun before s => (y.run before).Unscans r s)
    steps

theorem marked_run (settings : Settings) (scanner : Scanner) (steps : List Step) (r : FolderRef) :
    ((start settings scanner).run steps).Marked r
      ↔ (start settings scanner).StaysScanned r steps := by
  induction steps using List.reverseRecOn with
  | nil =>
    refine iff_of_false ?_ not_since_nil
    rintro ⟨f, ⟨k, hk⟩ | hf, -⟩
    · simp [run, start, Workspace.new] at hk
    · simp [run, start, Workspace.new] at hf
  | append_singleton steps s ih =>
    have hvalid := (valid_start settings scanner).run steps
    rw [run_concat, hvalid.marked_step, ih]
    unfold StaysScanned
    rw [since_concat]

end Watch

/-- After any run, a folder that is known, open or removed, is scanned just if a scan of it
completed and its status was not cleared since. The scan was let in while the folder was trusted;
trust is not asked again when it returns. Any further step that neither completes a scan of the
folder nor clears its status keeps it as scanned as it is. The acts of a run are what is done to a
workspace, with the same events. -/
theorem scanned_iff_completed (settings : Settings) (scanner : Scanner) (steps : List Watch.Step)
    {f : Folder} (hf : ((Watch.start settings scanner).run steps).workspace.Known f) :
    let y := (Watch.start settings scanner).run steps
    (∀ w : Workspace, w.Performs)
      ∧ (f.scanned = true ↔ (Watch.start settings scanner).StaysScanned f.ref steps)
      ∧ ∀ s, ¬ y.Completes f.ref s → ¬ y.Unscans f.ref s →
        ∃ g, (y.step s).workspace.Known g ∧ g.ref = f.ref ∧ g.scanned = f.scanned := by
  intro y
  have hvalid : y.Valid := (Watch.valid_start settings scanner).run steps
  refine ⟨Workspace.performs, ?_, fun s hcompletes hunscans => ?_⟩
  · rw [← Watch.marked_run]
    constructor
    · exact fun hscanned => ⟨f, hf, rfl, hscanned⟩
    · rintro ⟨g, hg, href, hscanned⟩
      rwa [← hvalid.tidy.known_unique hg hf (congrArg FolderRef.stamp href)]
  · obtain ⟨status, hcarries, hstatus⟩ := hvalid.carries_step s
    obtain ⟨g, hg, href, heq⟩ := hcarries.kept f hf
    refine ⟨g, hg, href, heq.trans (Bool.eq_iff_iff.2 ?_)⟩
    rw [hstatus f hf, or_iff_right hcompletes]
    exact and_iff_left hunscans

namespace Sample

/-- A folder is opened, and a scan of it is let in and finds an issue. -/
def watched : List Watch.Step :=
  [.act (.add "/a" "a") id, .enter ref, .leave 0 .listed false report]

/-- Files under a path are cleared, and there are none. -/
def clearNothing : Watch.Step :=
  .act (.operate ref (.clearUnder "/b")) (by simp [Act.returnsFolder, Operation.returnsFolder])

def watch : Watch := .start (.standard "") ⟨.script [], none⟩

theorem known_watched : (watch.run watched).workspace.Known folder := .inl ⟨"/a", rfl⟩

theorem known_clearNothing :
    (watch.run (watched ++ [clearNothing])).workspace.Known folder.unscan := .inl ⟨"/a", rfl⟩

end Sample

/-- The scan makes the folder scanned, and to clear no file at all makes it unscanned. -/
theorem scanned_iff_completed_scan :
    Sample.watch.StaysScanned Sample.ref Sample.watched
      ∧ ¬ Sample.watch.StaysScanned Sample.ref (Sample.watched ++ [Sample.clearNothing]) := by
  have hscan := scanned_iff_completed (.standard "") ⟨.script [], none⟩ Sample.watched
    Sample.known_watched
  have hclear := scanned_iff_completed (.standard "") ⟨.script [], none⟩
    (Sample.watched ++ [Sample.clearNothing]) Sample.known_clearNothing
  exact ⟨hscan.2.1.1 rfl, fun h => Bool.false_ne_true (hclear.2.1.2 h)⟩

end ScanRelay
