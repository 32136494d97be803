import ScanRelay.Proofs.Clearing

/-!
# Where ranges meet

Positions stand in one row, line after line, and a range holds a stretch of it that is never empty:
a cursor holds the one position where it stands (`Range.contains_iff`). So ranges meet where their
stretches do, and to meet a cursor is to hold its position. The two questions that an editor asks
about a cursor therefore have one answer, the issues that a folder finds there (`Folder.issuesFor`)
and the hovers that are shown there (`HoverTable.hoversAt`), for each file that was published last
with all of its cached issues (`overlap_is_intersection`).
-/

namespace ScanRelay

/-! ## Positions in a row -/

namespace Position

variable {p q : Position}

/-- The place of a position in the row. -/
def rank (p : Position) : Nat := p.line.toNat * 4294967296 + p.character.toNat

theorem lt_iff : p < q ↔ p.rank < q.rank := by
  have hp := p.character.toNat_lt
  have hq := q.character.toNat_lt
  show (p.line < q.line ∨ p.line = q.line ∧ p.character < q.character) ↔ _
  rw [UInt32.lt_iff_toNat_lt, UInt32.lt_iff_toNat_lt, ← UInt32.toNat_inj, rank, rank]
  omega

theorem le_iff : p ≤ q ↔ p.rank ≤ q.rank := by
  have hp := p.character.toNat_lt
  have hq := q.character.toNat_lt
  show (p.line < q.line ∨ p.line = q.line ∧ p.character ≤ q.character) ↔ _
  rw [UInt32.lt_iff_toNat_lt, UInt32.le_iff_toNat_le, ← UInt32.toNat_inj, rank, rank]
  omega

theorem eq_iff : p = q ↔ p.rank = q.rank := by
  obtain ⟨line, character⟩ := p
  obtain ⟨line', character'⟩ := q
  have hp := character.toNat_lt
  have hq := character'.toNat_lt
  simp only [mk.injEq, ← UInt32.toNat_inj, rank]
  omega

end Position

/-! ## Ranges as stretches -/

namespace Range

variable {a b r : Range} {p : Position}

/-- The place where the stretch of a range is over. -/
def past (r : Range) : Nat := max r.stop.rank (r.start.rank + 1)

theorem isEmpty_iff : r.isEmpty = true ↔ r.stop.rank ≤ r.start.rank := by
  rw [isEmpty, decide_eq_true_eq, Position.le_iff]

theorem contains_iff : r.contains p = true ↔ r.start.rank ≤ p.rank ∧ p.rank < r.past := by
  unfold contains past
  split
  · rename_i h
    rw [isEmpty_iff] at h
    rw [decide_eq_true_eq, Position.eq_iff]
    omega
  · rename_i h
    rw [isEmpty_iff] at h
    rw [Bool.and_eq_true, decide_eq_true_eq, decide_eq_true_eq, Position.le_iff, Position.lt_iff]
    omega

@[simp]
theorem contains_start (r : Range) : r.contains r.start = true :=
  contains_iff.2 (by unfold past; omega)

/-- Ranges meet when each begins before the other is over. -/
theorem overlaps_iff : a.overlaps b = true ↔ a.start.rank < b.past ∧ b.start.rank < a.past := by
  unfold overlaps
  split <;> rename_i ha hb
  · rw [isEmpty_iff] at ha hb
    rw [decide_eq_true_eq, Position.eq_iff, past, past]
    omega
  · rw [isEmpty_iff] at ha
    rw [contains_iff, past, past]
    omega
  · rw [isEmpty_iff] at hb
    rw [contains_iff, past, past]
    omega
  · rw [Bool.eq_false_iff, ne_eq, isEmpty_iff] at ha hb
    rw [Bool.and_eq_true, decide_eq_true_eq, decide_eq_true_eq, Position.lt_iff, Position.lt_iff,
      past, past]
    omega

theorem overlaps_iff_exists :
    a.overlaps b = true ↔ ∃ p, a.contains p = true ∧ b.contains p = true := by
  rw [overlaps_iff]
  constructor
  · -- The later of the two starts lies in both.
    rintro ⟨hab, hba⟩
    rcases Nat.le_total a.start.rank b.start.rank with h | h
    · exact ⟨b.start, contains_iff.2 ⟨h, hba⟩, b.contains_start⟩
    · exact ⟨a.start, a.contains_start, contains_iff.2 ⟨h, hab⟩⟩
  · rintro ⟨p, ha, hb⟩
    rw [contains_iff] at ha hb
    exact ⟨Nat.lt_of_le_of_lt ha.1 hb.2, Nat.lt_of_le_of_lt hb.1 ha.2⟩

theorem overlaps_comm (a b : Range) : a.overlaps b = b.overlaps a :=
  Bool.eq_iff_iff.2 (by rw [overlaps_iff, overlaps_iff, and_comm])

theorem overlaps_of_isEmpty (h : b.isEmpty = true) : a.overlaps b = a.contains b.start := by
  have hpast : b.past = b.start.rank + 1 := by
    have hstop := isEmpty_iff.1 h
    unfold past
    omega
  rw [Bool.eq_iff_iff, overlaps_iff, contains_iff, hpast]
  exact Iff.and Nat.lt_succ_iff Iff.rfl

end Range

/-! ## Issues and hovers at a cursor -/

/-- Everything that a folder has cached of a file is visible, and the last of the hover documents
for the file shows it. -/
structure Folder.PublishedIn (f : Folder) (s : Settings) (path : String)
    (documents : List HoverDocument) : Prop where
  visible : ∀ i ∈ f.cache.issuesOf path, s.filter.shows i = true
  last : (documents.filter fun d => d.path = path).getLast?
    = some (.ofIssues path (f.visible s path))

section Cursor

variable {f : Folder} {s : Settings} {path : String} {cursor : Range}

theorem Folder.issuesFor_of_isEmpty (h : cursor.isEmpty = true) : f.issuesFor path cursor
    = (f.cache.issuesOf path).filter fun i => i.range.contains cursor.start :=
  List.filter_congr fun _ _ => Range.overlaps_of_isEmpty h

theorem HoverTable.hoversAt_eq_issuesFor {t : HoverTable} (hcursor : cursor.isEmpty = true)
    (hvisible : ∀ i ∈ f.cache.issuesOf path, s.filter.shows i = true)
    (h : t.get? path = entryOf ((f.visible s path).map Hover.ofIssue)) :
    t.hoversAt path cursor.start = (f.issuesFor path cursor).map Hover.ofIssue := by
  have hall : f.visible s path = f.cache.issuesOf path := List.filter_eq_self.2 hvisible
  rw [hoversAt_of_get? h, hall, Folder.issuesFor_of_isEmpty hcursor]

theorem Folder.PublishedIn.get?_applyAll {docs : List HoverDocument}
    (h : f.PublishedIn s path docs) (t : HoverTable) :
    Table.get? (t.applyAll docs) path
      = HoverTable.entryOf ((f.visible s path).map Hover.ofIssue) := by
  rw [HoverTable.get?_applyAll, h.last]
  rfl

end Cursor

/-! ## Runs -/

theorem HoverService.table_settle_take (s : HoverService) :
    s.take.settle.table = s.settle.table := by
  unfold take
  split
  · rfl
  · rename_i d rest hqueue
    simp only [settle, hqueue]
    rfl

namespace World

theorem table_settle_act {w : World} (h : w.hovers.running = true) (a : Act) :
    (w.step (.act a)).hovers.settle.table = w.hovers.settle.table.applyAll
      (Event.hovers ((w.ledger.workspace.act a).2.map (·.2))) := by
  show (w.hovers.sendAll _).settle.table = _
  rw [HoverService.sendAll_of_running h]
  exact List.foldl_append

/-- As long as nothing is dropped, all that was sent is taken up or queued. -/
theorem table_settle_run (s : Settings) (scanner : Scanner) {moves : List Move}
    (h : .clearHovers ∉ moves) :
    let w := (start s scanner).run moves
    w.hovers.settle.table
      = HoverTable.applyAll .empty (Event.hovers (w.ledger.log.map (·.2))) := by
  induction moves using List.reverseRecOn with
  | nil => rfl
  | append_singleton moves m ih =>
    rw [List.mem_append, List.mem_singleton, not_or] at h
    intro w
    have hw : w = ((start s scanner).run moves).step m := by simp [w, run]
    rw [hw]
    cases m with
    | act a =>
      rw [table_settle_act (flows_run s scanner moves).running, ih h.1]
      simp only [step, Ledger.step, List.map_append, Event.hovers_append, HoverTable.applyAll,
        List.foldl_append]
    | take => exact (HoverService.table_settle_take _).trans (ih h.1)
    | clearHovers => exact absurd rfl h.2

theorem lives_run {silent : Prop} (s : Settings) (scanner : Scanner) {moves : List Move}
    (h : ∀ a, .act a ∈ moves → a.isSilent → silent) :
    ((start s scanner).run moves).ledger.Lives silent := by
  have hstart : (start s scanner).ledger.Lives silent := Ledger.lives_start silent s scanner
  refine List.foldlRecOn (motive := fun w => w.ledger.Lives silent) moves step hstart
    fun w hw m hm => ?_
  cases m with
  | act a => exact hw.step (h a hm)
  | take => exact hw
  | clearHovers => exact hw

end World

/-- Of all folders that have sent hovers for a file, this one did last. -/
def Ledger.ShownLastBy (l : Ledger) (f : Folder) (path : String) : Prop :=
  ∀ d, ((documents l.log).filter fun d => d.2.path = path).getLast? = some d → d.1 = f.stamp

/-- Two ranges meet exactly if some position lies in both, so in either order, and a range meets an
empty one exactly if it holds its start. Where a folder has published a file with all of its cached
issues, the hovers at a cursor are therefore those of the issues that it finds there, in their
order. So it is after every run in which nothing is silent and no hovers are dropped, for the folder
that sent hovers for the file last. -/
theorem overlap_is_intersection (a b : Range) :
    (a.overlaps b = true ↔ ∃ p, a.contains p = true ∧ b.contains p = true)
      ∧ a.overlaps b = b.overlaps a
      ∧ (b.isEmpty = true → a.overlaps b = a.contains b.start)
      ∧ (b.isEmpty = true → ∀ (s : Settings) (f : Folder) (path : String) (t : HoverTable)
          (docs : List HoverDocument), f.PublishedIn s path docs →
        (t.applyAll docs).hoversAt path b.start = (f.issuesFor path b).map Hover.ofIssue)
      ∧ (b.isEmpty = true → ∀ (s : Settings) (scanner : Scanner) (moves : List Move),
        (∀ a, .act a ∈ moves → ¬ a.isSilent) → .clearHovers ∉ moves →
        let w := (World.start s scanner).run moves
        ∀ f path, w.ledger.Open f → w.ledger.ShownLastBy f path →
          (∀ i ∈ f.cache.issuesOf path, w.ledger.workspace.settings.filter.shows i = true) →
          w.hovers.settle.table.hoversAt path b.start
            = (f.issuesFor path b).map Hover.ofIssue) := by
  refine ⟨Range.overlaps_iff_exists, Range.overlaps_comm a b, Range.overlaps_of_isEmpty,
    ?_, ?_⟩
  · intro hb s f path t docs hpublished
    exact HoverTable.hoversAt_eq_issuesFor hb hpublished.visible (hpublished.get?_applyAll t)
  · intro hb s scanner moves hloud hkept w f path hf hlast hvisible
    refine HoverTable.hoversAt_eq_issuesFor hb hvisible ?_
    have hlives : w.ledger.Lives False := World.lives_run s scanner hloud
    have htable : w.hovers.settle.table
        = HoverTable.applyAll .empty (Event.hovers (w.ledger.log.map (·.2))) :=
      World.table_settle_run s scanner hkept
    rw [htable, ← get?_hovers_share hlast]
    exact hlives.get?_hovers hf path

/-- After a scan, with its document still queued, a cursor in the issue that it found meets its
range, and has its hover. -/
theorem overlap_is_intersection_scan :
    let cursor : Range := ⟨⟨0, 0⟩, ⟨0, 0⟩⟩
    let w := (World.start (.standard "") ⟨.script [], none⟩).run (Sample.acts.map .act)
    Sample.issue.range.overlaps cursor = true
      ∧ Sample.folder.issuesFor "/a/x.js" cursor = [Sample.issue]
      ∧ w.hovers.settle.table.hoversAt "/a/x.js" ⟨0, 0⟩ = [.ofIssue Sample.issue] := by
  intro cursor w
  obtain ⟨hmeets, -, -, -, hruns⟩ := overlap_is_intersection Sample.issue.range cursor
  have hfound : Sample.folder.issuesFor "/a/x.js" cursor = [Sample.issue] := rfl
  refine ⟨hmeets.2 ⟨⟨0, 0⟩, by decide, by decide⟩, hfound, ?_⟩
  have hloud : ∀ a, Move.act a ∈ Sample.acts.map .act → ¬ a.isSilent := by
    simp [Sample.acts, Act.isSilent, Operation.isSilent]
  have hlast : w.ledger.ShownLastBy Sample.folder "/a/x.js" := by
    have hdocs : ((documents w.ledger.log).filter fun d => d.2.path = "/a/x.js").getLast?
        = some (0, .ofIssues "/a/x.js" [Sample.issue]) := by
      decide +kernel
    intro d hd
    exact congrArg Prod.fst (Option.some.inj (hd.symm.trans hdocs))
  have hhovers := hruns rfl (.standard "") ⟨.script [], none⟩ _ hloud (by simp) Sample.folder
    "/a/x.js" Sample.open_folder hlast (by decide +kernel)
  rwa [hfound] at hhovers

end ScanRelay
