import Mathlib.Data.List.Fold
import Mathlib.Data.List.MinMax
import ScanRelay.Proofs.Passes

/-!
# Scans side by side

A scan of the whole workspace lets only so many scans into the scanner at once. Its polls come to an
end when every scan returns, because each that can change anything leaves less work
(`Task.work_pollStrands`). At the end each folder has taken in the run that it was dealt, and runs
are dealt in the order of the folders, so the workspace is the one that scans one after another
would have left (`workspace_scan_is_sequential`).
-/

namespace ScanRelay

/-! ## What is left to do -/

/-- Whether a poll changes anything when so many permits are free. -/
def Strand.canMove (c : Bool) (free : Nat) : Strand → Bool
  | queued _ => 0 < free
  | underway o => o.canMove c
  | finished => false

theorem Task.canMove_strands (c : Bool) (free : Nat) (ss : List Strand) :
    canMove c (.strands free ss) = ss.any (Strand.canMove c free) := rfl

/-- More rounds than these are not spent on a strand, when no run takes more than `busy`. -/
def Strand.work (busy : Nat) : Strand → Nat
  | queued _ => busy + 2
  | underway o => o.run.rounds + 1
  | finished => 0

def Task.work (busy : Nat) : List Strand → Nat
  | [] => 0
  | s :: rest => s.work busy + work busy rest

theorem Task.need_strands (folders busy free : Nat) (ss : List Strand) :
    need folders busy (.strands free ss) = work busy ss := by
  have hfold : ∀ n : Nat, ss.foldl (fun n s => n + s.work busy) n = n + work busy ss := by
    induction ss with
    | nil => exact fun n => rfl
    | cons s rest ih =>
      intro n
      rw [List.foldl_cons, ih, work, Nat.add_assoc]
  have hneed := hfold 0
  rw [Nat.zero_add] at hneed
  rw [← hneed]
  rfl

/-- No run that the scanner may deal is busy for more rounds than these. -/
def Scanner.Within (s : ScannerSettings) (busy : Nat) (scanner : Scanner) : Prop :=
  match scanner.source with
  | .script runs => ∀ run ∈ runs, run.rounds ≤ busy
  | .program start => ∀ c path folder, (ScanRun.ofProgram s start c path folder).rounds ≤ busy

theorem Command.durationMs_scan_le (s : ScannerSettings) (start : Launch → ProgramRun)
    (cancelled : Bool) (path folder : String) :
    (scan s start (if cancelled then some 0 else none) path folder).durationMs.toNat
      ≤ s.timeoutSeconds.toNat * 1000 := by
  have hrun : (run s start (if cancelled then some 0 else none) path folder).1
      ≤ s.timeoutSeconds.toNat * 1000 := by
    unfold run
    dsimp only
    split
    · exact Nat.zero_le _
    · cases cancelled
      · simp only [Bool.false_eq_true, if_false, reduceCtorEq]
        split
        · exact Nat.zero_le _
        · simp only [Option.any_none, Bool.false_eq_true, if_false]
          split
          · exact Nat.le_refl _
          · omega
      · exact Nat.zero_le _
  unfold scan
  dsimp only
  rw [UInt64.toNat_ofNat']
  exact (Nat.mod_le _ _).trans hrun

namespace Scanner

variable {s : ScannerSettings} {busy : Nat} {scanner : Scanner}

theorem within_busy (s : ScannerSettings) (scanner : Scanner) :
    scanner.Within s (scanner.busy s) := by
  rcases hsource : scanner.source with runs | start <;> simp only [Within, busy, hsource]
  · intro run hrun
    rw [List.foldl_eq_foldr]
    exact List.le_max_of_le' 0 (List.mem_map_of_mem hrun) (Nat.le_refl _)
  · intro c path folder
    have hms := Command.durationMs_scan_le s start c path folder
    exact Nat.succ_le_succ (Nat.div_le_of_le_mul (Nat.mul_comm _ 1000 ▸ hms))

/-- The next run is among those that the scanner may deal, and so are all after it. -/
theorem Within.next (h : scanner.Within s busy) (c : Bool) (path folder : String) :
    (scanner.next s c path folder).1.rounds ≤ busy
      ∧ (scanner.next s c path folder).2.Within s busy := by
  unfold Within at h
  unfold Scanner.next
  rcases hsource : scanner.source with (_ | ⟨run, _ | ⟨run', rest⟩⟩) | start <;>
    simp only [hsource] at h ⊢
  · exact ⟨Nat.zero_le _, by simp [Within, hsource]⟩
  · exact ⟨h run (by simp), by simpa [Within, hsource] using h⟩
  · exact ⟨h run (by simp), fun r hr => h r (List.mem_cons_of_mem _ hr)⟩
  · exact ⟨h c path folder, by simpa [Within, hsource] using h⟩

end Scanner

/-! ## Polls leave less to do -/

namespace Workspace

variable {w v : Workspace} {busy : Nat}

/-- The same settings are in force, and the scanner deals no run that is busy for longer. -/
structure KeepsPace (busy : Nat) (w v : Workspace) : Prop where
  settings : v.settings = w.settings
  within : v.scanner.Within w.settings.scanner busy

theorem KeepsPace.trans {u : Workspace} (h : KeepsPace busy w v) (h' : KeepsPace busy v u) :
    KeepsPace busy w u where
  settings := h'.settings.trans h.settings
  within := h.settings ▸ h'.within

theorem keepsPace_putBack (hw : w.scanner.Within w.settings.scanner busy) (f : Folder) :
    KeepsPace busy w (w.putBack f) := by
  unfold putBack
  split
  · split <;> exact ⟨rfl, hw⟩
  · exact ⟨rfl, hw⟩

theorem keepsPace_finish (hw : w.scanner.Within w.settings.scanner busy) (cancelled : Bool)
    (o : OpenScan) : KeepsPace busy w (o.finish w cancelled).1 := by
  unfold OpenScan.finish onFolder
  split
  · exact keepsPace_putBack hw _
  · exact ⟨rfl, hw⟩

end Workspace

open Workspace (KeepsPace)

section Work

variable {w : Workspace} {busy : Nat}

/-- A poll of a scan that can move leaves less to do. -/
theorem OpenScan.work_poll (hw : w.scanner.Within w.settings.scanner busy) (c : Bool)
    (o : OpenScan) : KeepsPace busy w (o.poll w c).workspace
      ∧ (o.poll w c).left.work busy ≤ o.run.rounds
        ∨ o.canMove c = false ∧ o.poll w c = ⟨w, .underway o, []⟩ := by
  unfold OpenScan.poll
  rcases hrounds : o.run.rounds with _ | n
  · by_cases hstuck : (o.run.hangs && !c) = true
    · refine .inr ⟨?_, by simp [hstuck]⟩
      simp only [Bool.and_eq_true, Bool.not_eq_true'] at hstuck
      simp [OpenScan.canMove, hrounds, hstuck]
    · refine .inl ?_
      simp only [hstuck, Bool.false_eq_true, if_false]
      exact ⟨Workspace.keepsPace_finish hw c o, Nat.le_refl 0⟩
  · exact .inl ⟨⟨rfl, hw⟩, Nat.le_refl _⟩

theorem Strand.work_start (hw : w.scanner.Within w.settings.scanner busy) (c : Bool)
    (job : ScanJob) : KeepsPace busy w (start w c job).workspace
      ∧ (start w c job).left.work busy ≤ busy + 1 := by
  have hnothing : KeepsPace busy w w := ⟨rfl, hw⟩
  have henter : ∀ f file, KeepsPace busy w (OpenScan.enter w c f file).workspace
      ∧ (OpenScan.enter w c f file).left.work busy ≤ busy + 1 := by
    intro f file
    obtain ⟨hrounds, hnext⟩ := hw.next c (file.getD f.path) f.path
    rcases hdealt : w.scanner.next w.settings.scanner c (file.getD f.path) f.path
      with ⟨run, scanner⟩
    rw [hdealt] at hrounds hnext
    have hadvance : KeepsPace busy w { w with scanner } := ⟨rfl, hnext⟩
    simp only [OpenScan.enter, hdealt]
    rcases OpenScan.work_poll (w := { w with scanner }) hnext c ⟨f.ref, file, run⟩
      with ⟨hkeeps, hwork⟩ | ⟨-, hsame⟩
    · exact ⟨hadvance.trans hkeeps, hwork.trans (hrounds.trans (Nat.le_succ busy))⟩
    · rw [hsame]
      exact ⟨hadvance, Nat.succ_le_succ hrounds⟩
  have hfile : ∀ f path, KeepsPace busy w (startFile w c f path).workspace
      ∧ (startFile w c f path).left.work busy ≤ busy + 1 := by
    intro f path
    unfold startFile
    split
    · exact ⟨hnothing, Nat.zero_le _⟩
    · exact ⟨Workspace.keepsPace_putBack hw _, Nat.zero_le _⟩
    · exact henter f _
  unfold start
  cases job <;> dsimp only <;> split
  · exact hfile _ _
  · exact ⟨hnothing, Nat.zero_le _⟩
  · exact hfile _ _
  · exact ⟨hnothing, Nat.zero_le _⟩
  · unfold startFolder
    split
    · exact henter _ none
    · exact ⟨hnothing, Nat.zero_le _⟩
  · exact ⟨hnothing, Nat.zero_le _⟩

/-- A poll of strands leaves no more to do, and less if any of them can move. -/
theorem Task.work_pollStrands (hw : w.scanner.Within w.settings.scanner busy) (c : Bool)
    (ss : List Strand) (free : Nat) :
    let p := pollStrands w c free ss
    KeepsPace busy w p.workspace ∧ work busy p.left.2 ≤ work busy ss
      ∧ (canMove c (.strands free ss) = true → work busy p.left.2 < work busy ss) := by
  induction ss generalizing w free with
  | nil => exact ⟨⟨rfl, hw⟩, Nat.le_refl _, fun h => absurd h Bool.false_ne_true⟩
  | cons s rest ih =>
    cases s with
    | finished =>
      obtain ⟨hkeeps, hle, hlt⟩ := ih hw free
      simp only [pollStrands, work]
      refine ⟨hkeeps, Nat.add_le_add_left hle _, fun hmove => Nat.add_lt_add_left (hlt ?_) _⟩
      simpa [canMove] using hmove
    | queued job =>
      by_cases hfree : free = 0
      · obtain ⟨hkeeps, hle, hlt⟩ := ih hw free
        simp only [pollStrands, hfree, if_true, work] at hkeeps hle hlt ⊢
        refine ⟨hkeeps, Nat.add_le_add_left hle _, fun hmove => Nat.add_lt_add_left (hlt ?_) _⟩
        simpa [canMove] using hmove
      · obtain ⟨hstart, hwork⟩ := Strand.work_start hw c job
        obtain ⟨hkeeps, hle, -⟩ := ih (w := (Strand.start w c job).workspace)
          (hstart.settings ▸ hstart.within)
          (if (Strand.start w c job).left.isFinished then free else free - 1)
        have hqueued : (Strand.queued job).work busy = busy + 2 := rfl
        simp only [pollStrands, hfree, if_false, work, hqueued]
        exact ⟨hstart.trans hkeeps, by omega, fun _ => by omega⟩
    | underway o =>
      have hunderway : (Strand.underway o).work busy = o.run.rounds + 1 := rfl
      obtain ⟨hpoll, hwork⟩ | ⟨hstuck, hsame⟩ := OpenScan.work_poll hw c o
      · obtain ⟨hkeeps, hle, -⟩ := ih (w := (o.poll w c).workspace)
          (hpoll.settings ▸ hpoll.within)
          (if (o.poll w c).left.isFinished then free + 1 else free)
        simp only [pollStrands, work, hunderway]
        exact ⟨hpoll.trans hkeeps, by omega, fun _ => by omega⟩
      · obtain ⟨hkeeps, hle, hlt⟩ := ih hw free
        simp only [pollStrands, hsame, work, Strand.isFinished, Bool.false_eq_true, if_false]
        refine ⟨hkeeps, Nat.add_le_add_left hle _, fun hmove => Nat.add_lt_add_left (hlt ?_) _⟩
        simpa [canMove, hstuck] using hmove

end Work

/-! ## What the scanner deals -/

/-- The runs that are dealt for folders in their order when nothing is cancelled. -/
def Scanner.deal (s : Settings) (scanner : Scanner) : List Folder → List Dealing × Scanner
  | [] => ([], scanner)
  | f :: rest =>
    if f.isTrusted s then
      let (run, next) := scanner.next s.scanner false f.path f.path
      let (ds, last) := deal s next rest
      ((f, some run) :: ds, last)
    else
      let (ds, last) := deal s scanner rest
      ((f, none) :: ds, last)

/-- Each run that is dealt for these folders comes to an end. -/
def Scanner.Returns (s : Settings) (scanner : Scanner) (fs : List Folder) : Prop :=
  ∀ d ∈ (scanner.deal s fs).1, ∀ run ∈ d.2, run.hangs = false

/-- What a folder is after its scan. -/
def Dealing.result (s : Settings) (d : Dealing) : Folder :=
  match d.2 with
  | some run => (d.1.finishFolderScan s false run.report).1
  | none => d.1

namespace Scanner

variable {s : Settings} {scanner : Scanner} {f : Folder}

theorem deal_of_untrusted (h : f.isTrusted s = false) (rest : List Folder) :
    scanner.deal s (f :: rest)
      = ((f, none) :: (scanner.deal s rest).1, (scanner.deal s rest).2) := by
  simp [deal, h]

theorem deal_of_trusted (h : f.isTrusted s = true) {run : ScanRun} {next : Scanner}
    (hnext : scanner.next s.scanner false f.path f.path = (run, next)) (rest : List Folder) :
    scanner.deal s (f :: rest)
      = ((f, some run) :: (next.deal s rest).1, (next.deal s rest).2) := by
  simp [deal, h, hnext]

theorem map_fst_deal (s : Settings) (scanner : Scanner) (fs : List Folder) :
    (scanner.deal s fs).1.map (·.1) = fs := by
  induction fs generalizing scanner with
  | nil => rfl
  | cons f rest ih =>
    rcases htrusted : f.isTrusted s
    · rw [deal_of_untrusted htrusted, List.map_cons, ih]
    · rw [deal_of_trusted htrusted (Prod.mk.eta).symm, List.map_cons, ih]

theorem deal_append (s : Settings) (scanner : Scanner) (fs gs : List Folder) :
    scanner.deal s (fs ++ gs) = ((scanner.deal s fs).1 ++ ((scanner.deal s fs).2.deal s gs).1,
      ((scanner.deal s fs).2.deal s gs).2) := by
  induction fs generalizing scanner with
  | nil => rfl
  | cons f rest ih =>
    rw [List.cons_append]
    rcases htrusted : f.isTrusted s
    · rw [deal_of_untrusted htrusted, deal_of_untrusted htrusted, ih]
      rfl
    · rw [deal_of_trusted htrusted (Prod.mk.eta).symm, deal_of_trusted htrusted (Prod.mk.eta).symm,
        ih]
      rfl

end Scanner

/-- Lines that do not wait were dealt what their folders are dealt in their order. -/
theorem Scanner.deal_of_started {s : Settings} {lines : List Line} {scanner last : Scanner}
    (hstages : ∀ l ∈ lines, Stage (· = false) s l.folder l.run l.strand l.now)
    (hstarted : ∀ l ∈ lines, l.strand.isQueued = false)
    (hdealt : Dealt (· = false) s scanner (lines.map Line.dealing) last) :
    scanner.deal s (lines.map Line.folder) = (lines.map Line.dealing, last) := by
  induction lines generalizing scanner with
  | nil => exact congrArg (Prod.mk []) hdealt.symm
  | cons a rest ih =>
    have hrest : ∀ {scanner : Scanner}, Dealt (· = false) s scanner (rest.map Line.dealing) last →
        scanner.deal s (rest.map Line.folder) = (rest.map Line.dealing, last) :=
      ih (fun l hl => hstages l (List.mem_cons_of_mem _ hl))
        fun l hl => hstarted l (List.mem_cons_of_mem _ hl)
    have hstage := hstages a List.mem_cons_self
    have hqueued := hstarted a List.mem_cons_self
    obtain ⟨f, run, strand, now⟩ := a
    dsimp only at hstage hqueued
    cases hstage with
    | waiting => exact nomatch hqueued
    | refused hf =>
      rw [List.map_cons, deal_of_untrusted hf, hrest hdealt]
      rfl
    | inside hf run rounds | done hf run hc =>
      obtain ⟨c, next, rfl, hnext, hdealt⟩ := hdealt
      rw [List.map_cons, deal_of_trusted hf hnext, hrest hdealt]
      rfl

/-- If each run that is dealt for folders returns, so does each that was dealt by now. -/
theorem Progress.run_returns {w : Workspace} {limit : Nat} {lines : List Line} {p : Pass}
    (h : Progress (· = false) w limit lines p)
    (hreturns : w.scanner.Returns w.settings (lines.map Line.folder)) {l : Line} (hl : l ∈ lines)
    {run : ScanRun} (hrun : l.run = some run) : run.hangs = false := by
  obtain ⟨left, right, rfl, hleft, hright⟩ := Line.exists_started h.queue
  have hmem : l ∈ left := (List.mem_append.1 hl).resolve_right fun hwaits =>
    nomatch hrun.symm.trans ((h.stages l hl).run_of_queued (hright l hwaits))
  have hdealt := h.dealt
  rw [List.map_append] at hdealt hreturns
  obtain ⟨mid, hdealt, -⟩ := dealt_append.1 hdealt
  have hdeal := Scanner.deal_of_started (fun a ha => h.stages a (List.mem_append_left _ ha)) hleft
    hdealt
  refine hreturns l.dealing ?_ run hrun
  rw [Scanner.deal_append, hdeal]
  exact List.mem_append_left _ (List.mem_map_of_mem hmem)

/-! ## Scans of folders one after another -/

namespace Workspace

/-- What becomes of a workspace when these folders are scanned: each takes in the run that it is
dealt in their order, and nothing else changes. -/
structure Scanned (w : Workspace) (fs : List Folder) (v : Workspace) : Prop where
  alike : w.Alike v
  scanner : v.scanner = (w.scanner.deal w.settings fs).2
  at_path : ∀ d ∈ (w.scanner.deal w.settings fs).1,
    v.folders.get? d.1.path = some (d.result w.settings)
  others : ∀ k, (∀ f ∈ fs, f.path ≠ k) → v.folders.get? k = w.folders.get? k

variable {w u v : Workspace} {f : Folder} {fs : List Folder}

/-- So there is just one such workspace. -/
theorem Scanned.unique (h : w.Scanned fs u) (h' : w.Scanned fs v) : u = v := by
  have hfolders : u.folders = v.folders := by
    refine Table.ext_get? fun k => ?_
    by_cases hk : ∃ f ∈ fs, f.path = k
    · obtain ⟨f, hf, rfl⟩ := hk
      rw [← Scanner.map_fst_deal w.settings w.scanner fs] at hf
      obtain ⟨d, hd, rfl⟩ := List.mem_map.1 hf
      rw [h.at_path d hd, h'.at_path d hd]
    · have hne : ∀ f ∈ fs, f.path ≠ k := fun f hf hfk => hk ⟨f, hf, hfk⟩
      rw [h.others k hne, h'.others k hne]
  obtain ⟨hsettings, hretired, hstamp⟩ := h.alike
  obtain ⟨hsettings', hretired', hstamp'⟩ := h'.alike
  have hscanner : u.scanner = v.scanner := h.scanner.trans h'.scanner.symm
  cases u
  cases v
  simp_all

theorem scanned_nil (w : Workspace) : w.Scanned [] w where
  alike := ⟨rfl, rfl, rfl⟩
  scanner := rfl
  at_path := fun _ hd => absurd hd List.not_mem_nil
  others := fun _ _ => rfl

theorem Scanned.cons (h : w.Scanned [f] u) (h' : u.Scanned fs v)
    (hapart : ∀ g ∈ fs, f.path ≠ g.path) : w.Scanned (f :: fs) v := by
  have hdeal : w.scanner.deal w.settings (f :: fs) = ((w.scanner.deal w.settings [f]).1
      ++ (u.scanner.deal u.settings fs).1, (u.scanner.deal u.settings fs).2) := by
    rw [h.alike.settings, h.scanner]
    exact Scanner.deal_append w.settings w.scanner [f] fs
  refine ⟨⟨h'.alike.settings.trans h.alike.settings, h'.alike.retired.trans h.alike.retired,
    h'.alike.nextStamp.trans h.alike.nextStamp⟩, ?_, ?_, ?_⟩
  · rw [hdeal]
    exact h'.scanner
  · intro d hd
    rw [hdeal] at hd
    rcases List.mem_append.1 hd with hd | hd
    · have hf : d.1 = f := by
        have hmem := List.mem_map_of_mem (f := fun d : Dealing => d.1) hd
        rw [Scanner.map_fst_deal] at hmem
        exact List.mem_singleton.1 hmem
      rw [h'.others d.1.path fun g hg => hf ▸ (hapart g hg).symm]
      exact h.at_path d hd
    · rw [h'.at_path d hd, h.alike.settings]
  · intro k hk
    rw [h'.others k fun g hg => hk g (List.mem_cons_of_mem _ hg), h.others k]
    exact fun g hg => hk g (List.mem_singleton.1 hg ▸ List.mem_cons_self)

end Workspace

/-! ## Scans side by side come to an end -/

section End

variable {C : Bool → Prop} {w v : Workspace} {limit free busy : Nat} {lines : List Line}
  {ss : List Strand} {es : List Event} {p : Pass} {c : Bool}

theorem Task.work_le_of_mem {s : Strand} (hs : s ∈ ss) : s.work busy ≤ work busy ss := by
  induction hs with
  | head rest => exact Nat.le_add_right _ _
  | tail a _ ih => exact ih.trans (Nat.le_add_left _ _)

theorem Task.canMove_of_work (h : work busy ss = 0) : canMove c (.strands free ss) = false := by
  refine List.any_eq_false.2 fun s hs => ?_
  have hwork : s.work busy = 0 := Nat.le_zero.1 (h ▸ work_le_of_mem hs)
  cases s with
  | finished => exact Bool.false_ne_true
  | queued job => exact absurd hwork (Nat.succ_ne_zero _)
  | underway o => exact absurd hwork (Nat.succ_ne_zero _)

/-- A poll takes a scan from one moment to another. -/
theorem Moment.pollStrands (h : Moment C w limit [] lines ⟨v, free, [], ss, es⟩) (hc : C c) :
    let q := Task.pollStrands v c free ss
    ∃ lines', Moment C w limit [] lines' ⟨q.workspace, q.left.1, [], q.left.2, es ++ q.events⟩
      ∧ lines'.map Line.folder = lines.map Line.folder := by
  intro q
  obtain ⟨n, hn⟩ := Task.exists_run_pollStrands c ss v free [] es
  have hflags : ∀ b ∈ List.replicate n c, C b := fun b hb => List.eq_of_mem_replicate hb ▸ hc
  obtain ⟨left, right, hrun, hfolders⟩ := h.run hflags
  rw [hn] at hrun
  -- All strands have been polled, so the next step only begins the next poll.
  obtain rfl : right = [] := List.map_eq_nil_iff.1 hrun.ahead.symm
  refine ⟨left, ⟨?_, rfl, hrun.polled, .inr fun a ha => absurd ha List.not_mem_nil⟩, ?_⟩
  · have hprogress := hrun.progress
    rw [List.append_nil] at hprogress
    exact hprogress.of_eq rfl rfl rfl
  · rwa [List.append_nil, List.nil_append] at hfolders

/-- A scan that cannot move and has nothing inside the scanner is finished. -/
theorem Moment.finished_of_none_inside (h : Moment C w limit [] lines ⟨v, free, [], ss, es⟩)
    (hlimit : 0 < limit) (hstill : ∀ l ∈ lines, l.strand.canMove c free = false)
    (hinside : ∀ l ∈ lines, l.strand.isUnderway = false) : ∀ l ∈ lines, l.strand = .finished := by
  have hprogress : Progress C w limit lines ⟨v, free, [], ss, es⟩ := h.progress
  intro l hl
  have hstage := hprogress.stages l hl
  have hnot := hstill l hl
  have hout := hinside l hl
  obtain ⟨f, run, strand, now⟩ := l
  dsimp only at hstage
  cases hstage with
  | waiting =>
    -- A line can wait only while another one holds a permit, and no line is inside the scanner.
    have hfree : free = 0 := by simpa [Strand.canMove] using hnot
    have hcount : lines.countP (fun l => l.strand.isUnderway) = 0 :=
      List.countP_eq_zero.2 fun a ha => Bool.eq_false_iff.1 (hinside a ha)
    have hpermits : free + lines.countP (fun l => l.strand.isUnderway) = limit :=
      hprogress.permits
    omega
  | refused htrusted => rfl
  | inside htrusted run rounds => exact absurd hout.symm Bool.false_ne_true
  | done htrusted run hc => rfl

theorem Moment.still_of_stuck (h : Moment C w limit [] lines ⟨v, free, [], ss, es⟩)
    (hstuck : Task.canMove c (.strands free ss) = false) :
    ∀ l ∈ lines, l.strand.canMove c free = false := by
  have hahead : ss = lines.map Line.strand := h.ahead
  rw [Task.canMove_strands, hahead, List.any_map] at hstuck
  exact fun l hl => Bool.eq_false_iff.2 (List.any_eq_false.1 hstuck l hl)

/-- A scan of which every run returns can move until it is finished. -/
theorem Moment.finished_of_stuck
    (h : Moment (· = false) w limit [] lines ⟨v, free, [], ss, es⟩) (hlimit : 0 < limit)
    (hreturns : w.scanner.Returns w.settings (lines.map Line.folder))
    (hstuck : Task.canMove false (.strands free ss) = false) :
    ∀ l ∈ lines, l.strand = .finished := by
  have hprogress : Progress (· = false) w limit lines ⟨v, free, [], ss, es⟩ := h.progress
  have hstill := h.still_of_stuck hstuck
  refine h.finished_of_none_inside hlimit hstill fun l hl => ?_
  have hstage := hprogress.stages l hl
  have hnot := hstill l hl
  have hhangs : ∀ run, l.run = some run → run.hangs = false := fun run =>
    hprogress.run_returns hreturns hl
  obtain ⟨f, run, strand, now⟩ := l
  dsimp only at hstage
  cases hstage with
  | inside htrusted run rounds =>
    simp [Strand.canMove, OpenScan.canMove, hhangs run rfl] at hnot
  | _ => rfl

theorem Moment.rounds (h : Moment C w limit [] lines ⟨v, free, [], ss, es⟩) (hc : C c)
    (hv : v.scanner.Within w.settings.scanner busy) {fuel : Nat}
    (hfuel : Task.work busy ss ≤ fuel) :
    ∃ v' lines' free' ss' es',
      Task.rounds c fuel ⟨v, [.strands free ss], es⟩ = ⟨v', [.strands free' ss'], es'⟩
        ∧ Moment C w limit [] lines' ⟨v', free', [], ss', es'⟩
        ∧ lines'.map Line.folder = lines.map Line.folder
        ∧ Task.canMove c (.strands free' ss') = false := by
  induction fuel generalizing v lines free ss es with
  | zero =>
    exact ⟨v, lines, free, ss, es, rfl, h, rfl, Task.canMove_of_work (Nat.le_zero.1 hfuel)⟩
  | succ fuel ih =>
    rcases hmove : Task.canMove c (.strands free ss)
    · refine ⟨v, lines, free, ss, es, ?_, h, rfl, hmove⟩
      simp [Task.rounds, hmove]
    · have hsettings : v.settings = w.settings := h.progress.alike.settings
      obtain ⟨hkeeps, -, hless⟩ := Task.work_pollStrands (hsettings ▸ hv) c ss free
      obtain ⟨lines', hpoll, hfolders⟩ := h.pollStrands hc
      have hle := Nat.le_of_lt_succ ((hless hmove).trans_le hfuel)
      obtain ⟨v', lines'', free', ss', es', hrounds, hmoment, hfolders', hstill⟩ :=
        ih hpoll (hsettings ▸ hkeeps.within) hle
      refine ⟨v', lines'', free', ss', es', ?_, hmoment, hfolders'.trans hfolders, hstill⟩
      rw [← hrounds]
      simp [Task.rounds, hmove, Task.round, Task.poll]

/-- Each folder of a scan that came to its end has taken in the run that it was dealt. -/
theorem Progress.scanned (h : Progress (· = false) w limit lines p)
    (hfinished : ∀ l ∈ lines, l.strand = .finished) :
    w.Scanned (lines.map Line.folder) p.workspace := by
  have hdeal := Scanner.deal_of_started h.stages (fun l hl => hfinished l hl ▸ rfl) h.dealt
  refine ⟨h.alike, (congrArg Prod.snd hdeal).symm, fun d hd => ?_, fun k hk => ?_⟩
  · rw [hdeal] at hd
    obtain ⟨l, hl, rfl⟩ := List.mem_map.1 hd
    refine (h.at_path l hl).trans (congrArg some ?_)
    have hstage := h.stages l hl
    have hdone := hfinished l hl
    obtain ⟨f, run, strand, now⟩ := l
    dsimp only at hstage hdone
    cases hstage with
    | waiting => exact nomatch hdone
    | refused htrusted => rfl
    | inside htrusted run rounds => exact nomatch hdone
    | done htrusted run hc => rw [hc]; rfl
  · exact h.others k fun l hl => hk l.folder (List.mem_map_of_mem hl)

/-- The scanner was entered for each trusted folder of a scan that came to its end. -/
theorem Moment.entries_of_finished (h : Moment C w limit [] lines ⟨v, free, [], ss, es⟩)
    (hfinished : ∀ l ∈ lines, l.strand = .finished) :
    Event.entries es = w.due (lines.map Line.folder) :=
  h.progress.entries_started fun l hl => hfinished l hl ▸ rfl

/-- Rounds enough take a scan of which every run returns to its end. -/
theorem Moment.rounds_scanned (h : Moment (· = false) w limit [] lines ⟨v, free, [], ss, es⟩)
    (hlimit : 0 < limit) (hreturns : w.scanner.Returns w.settings (lines.map Line.folder))
    (hv : v.scanner.Within w.settings.scanner busy) {fuel : Nat}
    (hfuel : Task.work busy ss ≤ fuel) :
    w.Scanned (lines.map Line.folder)
      (Task.rounds false fuel ⟨v, [.strands free ss], es⟩).workspace := by
  obtain ⟨v', lines', free', ss', es', hrounds, hmoment, hfolders, hstuck⟩ :=
    h.rounds rfl hv hfuel
  have hfinished := hmoment.finished_of_stuck hlimit (hfolders ▸ hreturns) hstuck
  have hprogress : Progress (· = false) w limit lines' ⟨v', free', [], ss', es'⟩ :=
    hmoment.progress
  rw [hrounds, ← hfolders]
  exact hprogress.scanned hfinished

end End

/-! ## Scans of folders -/

theorem Task.work_queue (busy : Nat) (fs : List Folder) :
    work busy (Strand.queue fs) = fs.length * (busy + 2) := by
  induction fs with
  | nil => exact (Nat.zero_mul _).symm
  | cons f rest ih =>
    rw [List.length_cons, Nat.succ_mul, ← ih, Nat.add_comm]
    rfl

/-- The first round looks the folders up, and the rest of the rounds go on with their strands. -/
theorem Task.run_workspace {w : Workspace} (hlimit : w.mostScans ≤ mostPermits) (c : Bool) :
    let q := pollStrands w c w.mostScans (Strand.queue w.folders.values)
    run w c [.workspace]
      = rounds c (1 + w.folders.size * (w.scanner.busy w.settings.scanner + 2))
        ⟨q.workspace, [.strands q.left.1 q.left.2], q.events⟩ := by
  intro q
  have hround : round w c [.workspace]
      = ⟨q.workspace, [.strands q.left.1 q.left.2], q.events⟩ := by
    rw [round, poll_opened, opened_workspace hlimit]
    simp [round, poll, q]
  let fuel := 1 + w.folders.size * (w.scanner.busy w.settings.scanner + 2)
  show rounds c (fuel + 1) ⟨w, [.workspace], []⟩ = _
  rw [rounds, hround]
  rfl

namespace Workspace

variable {w : Workspace} {fs : List Folder}

/-- A scan of one folder. -/
def scanFolder (w : Workspace) (f : Folder) : Workspace :=
  (w.run .never (.single (.folder f.ref))).1

section

variable (hopen : ∀ f ∈ fs, w.folders.get? f.path = some f)
  (hapart : fs.Pairwise fun f g => f.path ≠ g.path) (hreturns : w.scanner.Returns w.settings fs)
include hopen hapart hreturns

theorem scanned_strands {limit : Nat} (hlimit : 0 < limit) :
    w.Scanned fs (w.run .never (.strands limit (Strand.queue fs))).1 := by
  have hstart : Moment (· = false) w limit [] (fs.map Line.waiting)
      ⟨w, limit, [], Strand.queue fs, []⟩ := Moment.start hopen hapart limit
  have hfuel : Task.work (w.scanner.busy w.settings.scanner) (Strand.queue fs)
      ≤ 1 + Task.need w.folders.size (w.scanner.busy w.settings.scanner)
        (.strands limit (Strand.queue fs)) := by
    rw [Task.need_strands]
    exact Nat.le_add_left _ 1
  have hscanned := hstart.rounds_scanned hlimit ((Line.map_folder_waiting fs).symm ▸ hreturns)
    (Scanner.within_busy w.settings.scanner w.scanner) hfuel
  rw [Line.map_folder_waiting] at hscanned
  exact hscanned

/-- Scans of folders one after another. -/
theorem scanned_foldl : w.Scanned fs (fs.foldl scanFolder w) := by
  induction fs generalizing w with
  | nil => exact scanned_nil w
  | cons f rest ih =>
    obtain ⟨hf, hrest⟩ := List.pairwise_cons.1 hapart
    have hdeal := Scanner.deal_append w.settings w.scanner [f] rest
    have hfirst : w.scanner.Returns w.settings [f] := fun d hd =>
      hreturns d (hdeal ▸ List.mem_append_left _ hd)
    have hone : w.scanFolder f = (w.run .never (.strands 1 (Strand.queue [f]))).1 := rfl
    have hscanned : w.Scanned [f] (w.scanFolder f) := hone ▸ scanned_strands
      (fun g hg => hopen g (List.mem_singleton.1 hg ▸ List.mem_cons_self))
      (List.pairwise_singleton _ f) hfirst Nat.one_pos
    refine hscanned.cons (ih (fun g hg => ?_) hrest fun d hd => ?_) hf
    · rw [hscanned.others _ fun a ha => List.mem_singleton.1 ha ▸ hf g hg]
      exact hopen g (List.mem_cons_of_mem _ hg)
    · rw [hscanned.alike.settings, hscanned.scanner] at hd
      exact hreturns d (hdeal ▸ List.mem_append_right _ hd)

end

/-- A scan of the whole workspace gets to a moment at which nothing can move. -/
theorem exists_moment_run {C : Bool → Prop} {c : Bool} (hc : C c)
    (hopen : ∀ f ∈ w.folders.values, w.folders.get? f.path = some f)
    (hapart : w.folders.values.Pairwise fun f g => f.path ≠ g.path)
    (hlimit : w.mostScans ≤ Task.mostPermits) :
    ∃ v lines free ss es, Task.run w c [.workspace] = ⟨v, [.strands free ss], es⟩
      ∧ Moment C w w.mostScans [] lines ⟨v, free, [], ss, es⟩
      ∧ lines.map Line.folder = w.folders.values
      ∧ Task.canMove c (.strands free ss) = false := by
  let busy := w.scanner.busy w.settings.scanner
  let q := Task.pollStrands w c w.mostScans (Strand.queue w.folders.values)
  have hstart : Moment C w w.mostScans [] (w.folders.values.map Line.waiting)
      ⟨w, w.mostScans, [], Strand.queue w.folders.values, []⟩ :=
    Moment.start hopen hapart w.mostScans
  obtain ⟨lines, hpoll, hfolders⟩ := hstart.pollStrands hc
  rw [Line.map_folder_waiting] at hfolders
  obtain ⟨hkeeps, hwork, -⟩ := Task.work_pollStrands
    (Scanner.within_busy w.settings.scanner w.scanner) c (Strand.queue w.folders.values)
    w.mostScans
  have hfuel : Task.work busy q.left.2 ≤ 1 + w.folders.size * (busy + 2) := by
    refine hwork.trans ((Task.work_queue busy _).trans_le ?_)
    rw [Table.values, List.length_map]
    exact Nat.le_add_left _ 1
  obtain ⟨v, lines', free, ss, es, hrounds, hmoment, hfolders', hstuck⟩ :=
    hpoll.rounds hc hkeeps.within hfuel
  exact ⟨v, lines', free, ss, es, (Task.run_workspace hlimit c).trans hrounds, hmoment,
    hfolders'.trans hfolders, hstuck⟩

/-- A scan of the whole workspace. -/
theorem scanned_workspace (hopen : ∀ f ∈ w.folders.values, w.folders.get? f.path = some f)
    (hapart : w.folders.values.Pairwise fun f g => f.path ≠ g.path)
    (hreturns : w.scanner.Returns w.settings w.folders.values)
    (hlimit : w.mostScans ≤ Task.mostPermits) :
    w.Scanned w.folders.values (w.run .never .workspace).1
      ∧ Event.entries (w.run .never .workspace).2 = w.due w.folders.values := by
  obtain ⟨v, lines, free, ss, es, hrun, hmoment, hfolders, hstuck⟩ :=
    exists_moment_run (C := (· = false)) rfl hopen hapart hlimit
  have hpermits : 0 < w.mostScans := Nat.le_max_right _ 1
  have hfinished := hmoment.finished_of_stuck hpermits (hfolders ▸ hreturns) hstuck
  have hprogress : Progress (· = false) w w.mostScans lines ⟨v, free, [], ss, es⟩ :=
    hmoment.progress
  have hnever : w.run .never .workspace = (v, es) := by
    show ((Task.run w false [.workspace]).workspace, (Task.run w false [.workspace]).events) = _
    rw [hrun]
  rw [hnever, ← hfolders]
  exact ⟨hprogress.scanned hfinished, hmoment.entries_of_finished hfinished⟩

/-- Open folders are looked up in the order of the paths at which they lie. -/
theorem Orderly.increasing (h : w.Orderly) :
    (∀ f ∈ w.folders.values, w.folders.get? f.path = some f)
      ∧ w.folders.values.Pairwise fun f g => f.path < g.path := by
  obtain ⟨log, hlives⟩ := h
  have hkey : ∀ e ∈ w.folders.entries, e.2.path = e.1 := fun e he =>
    hlives.keyed e.1 e.2 (Table.mem_entries_iff.1 he)
  refine ⟨fun f hf => ?_, List.pairwise_map.2 ?_⟩
  · obtain ⟨e, he, rfl⟩ := List.mem_map.1 hf
    rw [hkey e he]
    exact Table.mem_entries_iff.1 he
  · refine w.folders.increasing.imp_of_mem fun {a b} ha hb hlt => ?_
    rwa [hkey a ha, hkey b hb]

theorem Orderly.apart (h : w.Orderly) :
    w.folders.values.Pairwise fun f g => f.path ≠ g.path := by
  refine h.increasing.2.imp fun hlt heq => ?_
  rw [heq] at hlt
  exact String.lt_irrefl _ hlt

end Workspace

/-- A scan of the whole workspace, at every moment of it. No more scans are inside the scanner than
may be there at once. The scanner was entered for the first of the trusted folders in the order of
their paths, and for all of them once none waits. If the scan is cancelled now, no folder changes
any more, and those whose scan is not finished are as they were. If every scan returns and nothing
is cancelled, the workspace is in the end the one that scans of the folders one after another
leave. -/
theorem workspace_scan_is_sequential (settings : Settings) (scanner : Scanner) (acts : List Act)
    (hlimit : ((Ledger.start settings scanner).run acts).workspace.mostScans
      ≤ Task.mostPermits) :
    let w := ((Ledger.start settings scanner).run acts).workspace
    let fs := w.folders.values
    let begun := Pass.start w w.mostScans (Strand.queue fs)
    fs.Pairwise (fun f g => f.path < g.path)
      ∧ (∀ cs, ∃ flags, let p := begun.run flags
        p.workspace = (Task.workspace.polls w cs).workspace
          ∧ p.events = (Task.workspace.polls w cs).events ∧ p.polled = []
          ∧ (Task.workspace.polls w cs).left.opened p.workspace = .strands p.free p.ahead)
      ∧ (∀ flags, let p := begun.run flags
        p.strands.countP Strand.isUnderway ≤ w.mostScans
          ∧ Event.entries p.events <+: w.due fs
          ∧ ((∀ s ∈ p.strands, s.isQueued = false) → Event.entries p.events = w.due fs)
          ∧ (∀ n, (p.run (List.replicate n true)).workspace.folders = p.workspace.folders)
          ∧ ∀ f s, (f, s) ∈ fs.zip p.strands →
            s.isFinished = false ∨ f.isTrusted w.settings = false →
            p.workspace.folders.get? f.path = some f)
      ∧ (w.scanner.Returns w.settings fs →
        (w.run .never .workspace).1 = fs.foldl Workspace.scanFolder w
          ∧ Event.entries (w.run .never .workspace).2 = w.due fs) := by
  intro w fs begun
  have horderly : w.Orderly :=
    ⟨_, Ledger.lives_run settings scanner fun _ _ _ => trivial⟩
  obtain ⟨hopen, hincreasing⟩ := horderly.increasing
  have hapart : fs.Pairwise fun f g => f.path ≠ g.path := horderly.apart
  refine ⟨hincreasing, Task.exists_run_polls (Task.opened_workspace hlimit), fun flags => ?_,
    fun hreturns => ?_⟩
  · intro p
    have hstart : Moment (fun _ => True) w w.mostScans [] (fs.map Line.waiting) begun :=
      .start hopen hapart w.mostScans
    have hflags : ∀ c ∈ flags, True := fun _ _ => trivial
    obtain ⟨left, right, hmoment, hfolders⟩ := hstart.run hflags
    have hprogress := hmoment.progress
    rw [List.nil_append, Line.map_folder_waiting] at hfolders
    have hstrands : p.strands = (left ++ right).map Line.strand := hmoment.strands_eq
    refine ⟨?_, hfolders ▸ hprogress.entries_prefix, fun hstarted => ?_, hmoment.run_cancelled,
      ?_⟩
    · rw [hstrands, List.countP_map]
      exact (Nat.le_add_left _ p.free).trans_eq hprogress.permits
    · rw [hstrands, List.forall_mem_map] at hstarted
      exact hfolders ▸ hprogress.entries_started hstarted
    · intro f s hfs hearly
      rw [hstrands, ← hfolders, List.zip_map'] at hfs
      obtain ⟨l, hl, hline⟩ := List.mem_map.1 hfs
      obtain ⟨rfl, rfl⟩ := Prod.mk.inj hline
      rw [hprogress.at_path l hl, (hprogress.stages l hl).now_eq hearly]
  · obtain ⟨hscanned, hentries⟩ := Workspace.scanned_workspace hopen hapart hreturns hlimit
    exact ⟨hscanned.unique (Workspace.scanned_foldl hopen hapart hreturns), hentries⟩

namespace Sample

/-- Of the folders one is not trusted. The scan of the first one is busy for two rounds, and that of
the last one has failed by then. -/
def crowd : Ledger :=
  .run (.start { Settings.standard "" with trust := ⟨true, ["/a", "/c"]⟩ }
    ⟨.script [⟨2, false, report⟩, ⟨0, false, ⟨none, .error .notConfigured, 0, none⟩⟩], none⟩)
    [.add "/c" "c", .add "/b" "b", .add "/a" "a"]

end Sample

theorem workspace_scan_is_sequential_crowd :
    let w := Sample.crowd.workspace
    w.mostScans = 2 ∧ (w.run .never .workspace).1 = w.folders.values.foldl Workspace.scanFolder w
      ∧ Event.entries (w.run .never .workspace).2 = [("/a", "/a"), ("/c", "/c")] := by
  intro w
  have hlimit : w.mostScans = 2 := by decide
  have hreturns : w.scanner.Returns w.settings w.folders.values := by
    unfold Scanner.Returns
    decide +kernel
  have hdue : w.due w.folders.values = [("/a", "/a"), ("/c", "/c")] := by decide +kernel
  obtain ⟨-, -, -, hscan⟩ := workspace_scan_is_sequential _ _ _ (by decide : w.mostScans ≤ _)
  obtain ⟨hworkspace, hentries⟩ := hscan hreturns
  exact ⟨hlimit, hworkspace, hentries.trans hdue⟩

end ScanRelay
