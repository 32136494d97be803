import ScanRelay.Proofs.Concurrency
import ScanRelay.Proofs.Written

/-!
# Permits for a scan of the workspace

Settings are accepted with any number of scans at once but zero, and a semaphore has a bound of its
own on its permits. Within the bound a scan of the workspace enters the scanner for each trusted
folder, however it is cancelled (`Workspace.entries_run_workspace`). Beyond it there is no semaphore
and nothing is scanned at all, though the settings are in force
(`accepted_settings_scan_iff_permits`).
-/

namespace ScanRelay

/-! ## Scans that are cancelled come to an end -/

section Cancelled

variable {C : Bool → Prop} {w v : Workspace} {limit free : Nat} {lines : List Line}
  {ss : List Strand} {es : List Event}

/-- A scan that is cancelled can move until it is finished, whatever its runs do. -/
theorem Moment.finished_of_stuck_cancelled
    (h : Moment C w limit [] lines ⟨v, free, [], ss, es⟩) (hlimit : 0 < limit)
    (hstuck : Task.canMove true (.strands free ss) = false) :
    ∀ l ∈ lines, l.strand = .finished := by
  have hstill := h.still_of_stuck hstuck
  refine h.finished_of_none_inside hlimit hstill fun l hl => ?_
  have hnot := hstill l hl
  cases hstrand : l.strand with
  | underway o => simp [hstrand, Strand.canMove, OpenScan.canMove] at hnot
  | _ => rfl

/-- To cancel a scan at a moment takes it to its end. -/
theorem Moment.entries_cancelled (h : Moment C w limit [] lines ⟨v, free, [], ss, es⟩)
    (hlimit : 0 < limit) (hC : C true) :
    Event.entries (es ++ (Task.run v true [.strands free ss]).events)
      = w.due (lines.map Line.folder) := by
  let busy := v.scanner.busy v.settings.scanner
  have hwithin : v.scanner.Within w.settings.scanner busy :=
    h.progress.alike.settings ▸ Scanner.within_busy v.settings.scanner v.scanner
  have hfuel : Task.work busy ss ≤ 1 + Task.need v.folders.size busy (.strands free ss) := by
    rw [Task.need_strands]
    exact Nat.le_add_left _ 1
  obtain ⟨v', lines', free', ss', es', hrounds, hmoment, hfolders, hstuck⟩ :=
    h.rounds hC hwithin hfuel
  have hevents : es ++ (Task.run v true [.strands free ss]).events = es' := by
    rw [Task.rounds_events] at hrounds
    exact congrArg Polled.events hrounds
  rw [hevents, ← hfolders]
  exact hmoment.entries_of_finished (hmoment.finished_of_stuck_cancelled hlimit hstuck)

end Cancelled

/-- A scan of the whole workspace enters the scanner once for each trusted folder, in the order of
their paths, if there can be its permits. One that is never cancelled may have to wait for runs, so
these must return. -/
theorem Workspace.entries_run_workspace {w : Workspace} (hw : w.Orderly)
    (hlimit : w.mostScans ≤ Task.mostPermits) (cancel : Cancel)
    (hreturns : cancel = .never → w.scanner.Returns w.settings w.folders.values) :
    Event.entries (w.run cancel .workspace).2 = w.due w.folders.values := by
  have hopen := hw.increasing.1
  have hapart := hw.apart
  have hpermits : 0 < w.mostScans := Nat.le_max_right _ 1
  cases cancel with
  | never => exact (scanned_workspace hopen hapart (hreturns rfl) hlimit).2
  | beforehand =>
    obtain ⟨v, lines, free, ss, es, hrun, hmoment, hfolders, hstuck⟩ :=
      exists_moment_run (C := fun _ => True) (c := true) trivial hopen hapart hlimit
    have hfinished := hmoment.finished_of_stuck_cancelled hpermits hstuck
    show Event.entries (Task.run w true [.workspace]).events = _
    rw [hrun, ← hfolders]
    exact hmoment.entries_of_finished hfinished
  | whenStuck =>
    obtain ⟨v, lines, free, ss, es, hrun, hmoment, hfolders, -⟩ :=
      exists_moment_run (C := fun _ => True) (c := false) trivial hopen hapart hlimit
    show Event.entries ((Task.run w false [.workspace]).events
      ++ (Task.run (Task.run w false [.workspace]).workspace true
        (Task.run w false [.workspace]).left).events) = _
    rw [hrun, ← hfolders]
    exact hmoment.entries_cancelled hpermits trivial

/-! ## Semaphores -/

theorem Semaphore.isSome_new? (permits : Nat) :
    (new? permits).isSome = true ↔ permits ≤ Task.mostPermits := by
  unfold new?
  split <;> simp_all

/-- Without its semaphore a scan of the workspace does nothing. -/
theorem Workspace.run_workspace_of_none {w : Workspace} (h : Semaphore.new? w.mostScans = none)
    (cancel : Cancel) : w.run cancel .workspace = (w, []) := by
  have hround : ∀ c, Task.round w c [.workspace] = ⟨w, [.strands 0 []], []⟩ := by
    intro c
    simp [Task.round, Task.poll, Task.openWorkspace, h, Task.pollStrands]
  have hrun : ∀ c, Task.run w c [.workspace] = ⟨w, [.strands 0 []], []⟩ := by
    intro c
    let fuel := 1 + w.folders.size * (w.scanner.busy w.settings.scanner + 2)
    show Task.rounds c (fuel + 1) ⟨w, [.workspace], []⟩ = _
    rw [Task.rounds, hround]
    exact Task.rounds_of_stuck rfl fuel
  have hrest : Task.run w true [.strands 0 []] = ⟨w, [.strands 0 []], []⟩ :=
    Task.rounds_of_stuck rfl _
  cases cancel <;> simp [Workspace.run, hrun, hrest]

/-! ## Accepted settings -/

/-- A payload is accepted as a change of settings to others. -/
structure Settings.Accepts (base : Settings) (payload : Json) (next : Settings) : Prop where
  update : base.update payload = .ok next
  valid : next.validate = .ok ()

namespace Settings

variable {base next : Settings} {payload : Json}

theorem validate_eq_ok_iff (s : Settings) : s.validate = .ok ()
    ↔ s.scanner.timeoutSeconds ≠ 0 ∧ s.limits.maxConcurrentScans ≠ 0 := by
  unfold validate
  split
  · rename_i h
    simp [h]
  · rename_i htimeout
    split
    · rename_i h
      simp [h]
    · rename_i hscans
      simp [htimeout, hscans]

/-- Settings are accepted with any other number of scans but zero. -/
theorem Accepts.exists_limit (h : base.Accepts payload next) {n : UInt64} (hn : n ≠ 0) :
    ∃ payload, base.Accepts payload { next with limits := ⟨n⟩ } := by
  let asked : Settings := { next with limits := ⟨n⟩ }
  refine ⟨asked.toJson, update_of_written (payloadOf_toJson asked) base, ?_⟩
  exact (validate_eq_ok_iff asked).2 ⟨((validate_eq_ok_iff next).1 h.valid).1, hn⟩

theorem Accepts.mostScans (h : base.Accepts payload next) {w : Workspace}
    (hw : w.settings = next) : w.mostScans = next.limits.maxConcurrentScans.toNat := by
  have hscans : next.limits.maxConcurrentScans.toNat ≠ 0 := by
    rw [← UInt64.toNat_zero, Ne, UInt64.toNat_inj]
    exact ((validate_eq_ok_iff next).1 h.valid).2
  rw [Workspace.mostScans, hw]
  omega

end Settings

/-- An accepted change of the settings is installed. -/
theorem Server.settings_notify {s : Server} {params : Json} {next : Settings}
    (hcheck : Params.settingsSchema.check params = .ok ())
    (haccepted : s.workspace.settings.Accepts (Params.settingsOfJson params) next) :
    (s.notify ⟨"workspace/didChangeConfiguration", params⟩).server.workspace.settings = next := by
  have hread := Schema.readParams_of_ok hcheck Params.settingsOfJson
  have hupdate : orFault .payload (s.workspace.settings.update (Params.settingsOfJson params))
      = .ok next := by rw [haccepted.update]; rfl
  have hvalid : orFault .settings next.validate = .ok () := by rw [haccepted.valid]; rfl
  have hrun : (didChangeSettings params).run s.unchanged
      = (.ok (), s.unchanged.changed (s.workspace.applySettings next)) := by
    rw [didChangeSettings, Handler.run_read_bind hread, Handler.run_bind, Handler.run_workspace]
    dsimp only [unchanged]
    rw [Handler.run_read_bind hupdate, Handler.run_read_bind hvalid]
    rfl
  rw [notify_of_run (n := ⟨"workspace/didChangeConfiguration", params⟩) hrun]
  show (s.workspace.applySettings next).1.settings = next
  rw [Workspace.applySettings_eq_signed]
  exact s.workspace.settings_applySettingsSigned next

/-- Accepted settings are installed, and any other number of scans but zero is accepted as well.
While they are in force, a scan of any workspace asks for as many permits as they name, which are
there exactly if there can be so many. If so, it enters the scanner once for each trusted folder, in
the order of their paths, cancelled or not, unless it waits for a run that never returns. If not, it
enters the scanner for none and changes nothing. -/
theorem accepted_settings_scan_iff_permits {base next : Settings} {payload : Json}
    (haccepted : base.Accepts payload next) :
    (∀ (s : Server) (params : Json), s.workspace.settings = base →
      Params.settingsSchema.check params = .ok () → Params.settingsOfJson params = payload →
      (s.notify ⟨"workspace/didChangeConfiguration", params⟩).server.workspace.settings = next)
    ∧ (∀ n : UInt64, n ≠ 0 → ∃ payload, base.Accepts payload { next with limits := ⟨n⟩ })
    ∧ ∀ w : Workspace, w.Orderly → w.settings = next →
      w.mostScans = next.limits.maxConcurrentScans.toNat
      ∧ ((Semaphore.new? w.mostScans).isSome = true
        ↔ next.limits.maxConcurrentScans.toNat ≤ Task.mostPermits)
      ∧ (next.limits.maxConcurrentScans.toNat ≤ Task.mostPermits → ∀ cancel,
        (cancel = .never → w.scanner.Returns w.settings w.folders.values) →
        Event.entries (w.run cancel .workspace).2 = w.due w.folders.values)
      ∧ (Task.mostPermits < next.limits.maxConcurrentScans.toNat → ∀ cancel,
        w.run cancel .workspace = (w, [])) := by
  refine ⟨?_, fun n hn => haccepted.exists_limit hn, fun w hw hsettings => ?_⟩
  · rintro s params rfl hcheck rfl
    exact Server.settings_notify hcheck haccepted
  · have hscans := haccepted.mostScans hsettings
    refine ⟨hscans, hscans ▸ Semaphore.isSome_new? _, fun hlimit cancel hreturns => ?_,
      fun hlimit cancel => ?_⟩
    · exact w.entries_run_workspace hw (hscans ▸ hlimit) cancel hreturns
    · refine Workspace.run_workspace_of_none ?_ cancel
      rw [hscans]
      exact if_neg (Nat.not_le.2 hlimit)

namespace Sample

/-- The settings of the crowd when so many scans may run at once. -/
def crowdSettings (limit : UInt64) : Settings :=
  { Settings.standard "" with trust := ⟨true, ["/a", "/c"]⟩, limits := ⟨limit⟩ }

/-- What an editor sends to have so many scans run at once. -/
def limitPayload (limit : UInt64) : Json :=
  .object [("limits", .object [("maxConcurrentScans", .uint64 limit)])]

/-- The crowd with other settings. -/
def busyCrowd (limit : UInt64) : Workspace :=
  (crowd.step (.applySettings (crowdSettings limit))).workspace

end Sample

/-- There can be as many permits as this, and one more is too many. -/
theorem accepted_settings_scan_iff_permits_crowd :
    let w := Sample.busyCrowd 2305843009213693951
    (Sample.crowdSettings 2).Accepts (Sample.limitPayload 2305843009213693951) w.settings
      ∧ (Semaphore.new? w.mostScans).isSome = true
      ∧ Event.entries (w.run .never .workspace).2 = [("/a", "/a"), ("/c", "/c")] := by
  intro w
  have haccepted : (Sample.crowdSettings 2).Accepts (Sample.limitPayload 2305843009213693951)
      w.settings := ⟨rfl, rfl⟩
  have horderly : w.Orderly :=
    Workspace.Orderly.act ⟨_, Ledger.lives_run _ _ fun _ _ _ => trivial⟩ (.applySettings _)
  obtain ⟨-, -, hscan⟩ := accepted_settings_scan_iff_permits haccepted
  obtain ⟨-, hsome, hentries, -⟩ := hscan w horderly rfl
  have hlimit : w.settings.limits.maxConcurrentScans.toNat ≤ Task.mostPermits := by decide
  have hreturns : w.scanner.Returns w.settings w.folders.values := by
    unfold Scanner.Returns
    decide +kernel
  have hdue : w.due w.folders.values = [("/a", "/a"), ("/c", "/c")] := by decide +kernel
  exact ⟨haccepted, hsome.2 hlimit, (hentries hlimit .never fun _ => hreturns).trans hdue⟩

/-- One scan more at once is accepted too, and then no trusted folder is scanned. -/
theorem accepted_limit_without_permits :
    let w := Sample.busyCrowd 2305843009213693952
    (Sample.crowdSettings 2).Accepts (Sample.limitPayload 2305843009213693952) w.settings
      ∧ Semaphore.new? w.mostScans = none
      ∧ w.due w.folders.values = [("/a", "/a"), ("/c", "/c")]
      ∧ ∀ cancel, w.run cancel .workspace = (w, []) := by
  intro w
  have hnone : Semaphore.new? w.mostScans = none := by decide +kernel
  exact ⟨⟨rfl, rfl⟩, hnone, by decide +kernel, Workspace.run_workspace_of_none hnone⟩

end ScanRelay
