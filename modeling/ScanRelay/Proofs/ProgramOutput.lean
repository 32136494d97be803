import Mathlib.Data.List.DropRight
import ScanRelay.Proofs.Saving
import ScanRelay.Scan.Command

/-!
# The output of programs

A program has written a list of issues or it has not, and only in the second case its status counts
(`Command.classify_eq_ok_iff`). The issues of a list are completed by the product of the scanner and
the folder. A path that is relative is joined to that of the folder, so its components come after
those of the folder (`Path.components_join`), and once completed an issue stays as it is
(`output_is_classified`).
-/

namespace ScanRelay

/-! ## Blank ends -/

/-- What is left of a text without the characters at its ends that satisfy `p`. -/
structure TrimsTo (p : Char → Bool) (cs rest : List Char) : Prop where
  around : ∃ before after, cs = before ++ rest ++ after ∧ ∀ c ∈ before ++ after, p c = true
  first : ∀ c ∈ rest.head?, p c = false
  last : ∀ c ∈ rest.getLast?, p c = false

theorem trimsTo_trimBoth (p : Char → Bool) (cs : List Char) : TrimsTo p cs (trimBoth p cs) := by
  let front := cs.dropWhile p
  have htrim : trimBoth p cs = front.rdropWhile p := rfl
  have hfront : front.rdropWhile p ++ front.rtakeWhile p = front :=
    List.rdropWhile_append_rtakeWhile
  rw [htrim]
  refine ⟨⟨cs.takeWhile p, front.rtakeWhile p, ?_, ?_⟩, fun c hc => ?_, fun c hc => ?_⟩
  · rw [List.append_assoc, hfront]
    exact List.takeWhile_append_dropWhile.symm
  · exact List.forall_mem_append.2
      ⟨fun c => List.mem_takeWhile_imp, fun c => List.mem_rtakeWhile_imp⟩
  · -- The head of what is left is that of what was left after the first cut.
    have hhead : front.head? = some c := by
      rw [← hfront, List.head?_append, Option.mem_def.1 hc]
      rfl
    have hnot := List.head?_dropWhile_not p cs
    rw [show (cs.dropWhile p).head? = some c from hhead] at hnot
    exact hnot
  · obtain ⟨hne, rfl⟩ := List.mem_getLast?_eq_getLast hc
    exact Bool.eq_false_iff.2 (List.rdropWhile_last_not p front hne)

/-! ## Joined paths -/

namespace Path

variable {folder p : String}

/-- The text of a path that is joined to that of a folder. -/
theorem toList_join (hp : isAbsolute p = false) {cs : List Char} {c : Char}
    (hfolder : folder.toList = cs ++ [c]) : (join folder p).toList
      = if c = '/' then folder.toList ++ p.toList else folder.toList ++ '/' :: p.toList := by
  have hlast : folder.toList.getLast? = some c := by rw [hfolder, List.getLast?_concat]
  rw [join, hp, if_neg Bool.false_ne_true, hlast]
  dsimp only
  split <;> simp

/-- A path that is joined to that of a folder goes on from it. -/
theorem components_join (h : isAbsolute folder = true) (hp : isAbsolute p = false) :
    components (join folder p)
      = components folder ++ (splitAt '/' p.toList).filterMap component? := by
  obtain ⟨fs, hfs⟩ := exists_toList_of_isAbsolute h
  rcases List.eq_nil_or_concat' fs with rfl | ⟨fs, c, rfl⟩
  · have htext := toList_join hp (show folder.toList = [] ++ ['/'] from hfs)
    rw [if_pos rfl, hfs] at htext
    rw [components_of_toList htext, components_of_toList hfs]
    rfl
  · have htext := toList_join hp (show folder.toList = ('/' :: fs) ++ [c] from hfs)
    split at htext
    · rename_i hc
      rw [hfs, hc, List.cons_append, List.append_assoc] at htext
      rw [components_of_toList htext, components_of_toList hfs, hc]
      simp [splitAt_append_sep, splitAt, component?]
    · rw [hfs, List.cons_append] at htext
      rw [components_of_toList htext, components_of_toList hfs, splitAt_append_sep,
        List.filterMap_append, List.cons_append]

theorem contains_join (h : isAbsolute folder = true) (hp : isAbsolute p = false) :
    contains folder (join folder p) = true := by
  rw [contains, components_join h hp]
  exact List.isPrefixOf_iff_prefix.2 (List.prefix_append _ _)

theorem isAbsolute_join (h : isAbsolute folder = true) (p : String) :
    isAbsolute (join folder p) = true := by
  cases hp : isAbsolute p with
  | true => rwa [join, hp, if_pos rfl]
  | false =>
    obtain ⟨fs, hfs⟩ := exists_toList_of_isAbsolute h
    have hne : folder.toList ≠ [] := hfs ▸ List.cons_ne_nil _ _
    obtain ⟨cs, c, hlast⟩ := (List.eq_nil_or_concat' folder.toList).resolve_left hne
    have htext := toList_join hp hlast
    rw [hfs] at htext
    split at htext
    · exact isAbsolute_of_toList htext
    · exact isAbsolute_of_toList htext

end Path

/-! ## Completed issues -/

namespace Command

variable {product : Option Product} {folder : String} {i j : Issue}

/-- The second issue is the first with a product, if there is one to give it, and with a path seen
from the folder. -/
structure Completes (product : Option Product) (folder : String) (i j : Issue) : Prop where
  product : j.product = if i.product.isSome then i.product else product
  path : j.path = if Path.isAbsolute i.path then i.path else Path.join folder i.path
  others : j = { i with product := j.product, path := j.path }

theorem completes_iff : Completes product folder i j ↔ j = stamp product folder i := by
  have hproduct : i.product.or product = if i.product.isSome then i.product else product := by
    cases i.product <;> rfl
  constructor
  · intro h
    rw [h.others, h.product, h.path, stamp, hproduct]
  · rintro rfl
    exact ⟨hproduct, rfl, rfl⟩

theorem Completes.isAbsolute (h : Completes product folder i j) (hfolder : Path.isAbsolute folder) :
    Path.isAbsolute j.path = true := by
  rw [h.path]
  split
  · assumption
  · exact Path.isAbsolute_join hfolder _

theorem Completes.contains (h : Completes product folder i j) (hfolder : Path.isAbsolute folder)
    (hi : Path.isAbsolute i.path = false) : Path.contains folder j.path = true := by
  rw [h.path, hi, if_neg Bool.false_ne_true]
  exact Path.contains_join hfolder hi

/-- To complete an issue again changes nothing. -/
theorem Completes.stamp_eq (h : Completes product folder i j) (hfolder : Path.isAbsolute folder) :
    stamp product folder j = j := by
  have habsolute := h.isAbsolute hfolder
  have hproduct : j.product.or product = j.product := by
    rw [h.product]
    cases i.product <;> cases product <;> rfl
  rw [stamp, hproduct, habsolute, if_pos rfl]

/-! ## Output -/

section Classify

variable {o : ProgramOutput} {issues : List Issue} {e : ScanError}

/-- Whether a program has written nothing but white space. -/
def WroteBlank (o : ProgramOutput) : Prop := ∀ c ∈ Utf8.decode o.stdout, isBlank c = true

theorem allBlank_iff : allBlank (Utf8.decodeText o.stdout) = true ↔ WroteBlank o := by
  rw [allBlank, Utf8.decodeText, String.toList_ofList, List.all_eq_true]
  rfl

theorem map_stamp_eq_iff {found : List Issue} : found.map (stamp product folder) = issues
    ↔ List.Forall₂ (Completes product folder) found issues := by
  have hcompletes : Completes product folder = fun i j => stamp product folder i = j := by
    funext i j
    exact propext (completes_iff.trans eq_comm)
  rw [hcompletes, ← List.forall₂_map_left_iff, List.forall₂_eq_eq_eq]

theorem classify_eq_ok_iff : classify product folder o = .ok issues
    ↔ (WroteBlank o ∧ o.status = some 0 ∧ issues = [])
      ∨ (¬ WroteBlank o ∧ ∃ found, Issue.listOfText (Utf8.decodeText o.stdout) = .ok found
        ∧ List.Forall₂ (Completes product folder) found issues) := by
  unfold classify
  dsimp only
  by_cases hblank : WroteBlank o
  · rw [if_pos (allBlank_iff.2 hblank)]
    by_cases hstatus : o.status = some 0 <;> simp [hblank, hstatus, eq_comm]
  · rw [if_neg (mt allBlank_iff.1 hblank)]
    cases hlist : Issue.listOfText (Utf8.decodeText o.stdout) with
    | ok found => simp [hblank, map_stamp_eq_iff]
    | error fault => simp [hblank]

theorem exists_completes (h : classify product folder o = .ok issues) :
    ∀ j ∈ issues, ∃ i, Completes product folder i j := by
  intro j hj
  rcases classify_eq_ok_iff.1 h with ⟨-, -, rfl⟩ | ⟨-, found, -, hfound⟩
  · exact absurd hj List.not_mem_nil
  · rw [← map_stamp_eq_iff.2 hfound] at hj
    obtain ⟨i, -, hi⟩ := List.mem_map.1 hj
    exact ⟨i, completes_iff.2 hi.symm⟩

/-- Why there is no list of issues: the output of a program that succeeded is at fault, or else the
program has failed. -/
theorem classify_eq_error (h : classify product folder o = .error e) :
    if o.status = some 0 then
      ∃ fault, Issue.listOfText (Utf8.decodeText o.stdout) = .error fault ∧ e = .invalidOutput fault
    else ∃ stderr, TrimsTo isBlank (Utf8.decode o.stderr) (String.toList stderr)
      ∧ e = .exited (o.status.getD (-1)) stderr := by
  have hexited : ∃ stderr, TrimsTo isBlank (Utf8.decode o.stderr) (String.toList stderr)
      ∧ exited o = .exited (o.status.getD (-1)) stderr := by
    refine ⟨_, ?_, rfl⟩
    rw [trimBlank, Utf8.decodeText, String.toList_ofList, String.toList_ofList]
    exact trimsTo_trimBoth isBlank _
  unfold classify at h
  dsimp only at h
  split at h
  · split at h
    · exact absurd h (by simp)
    · rename_i hstatus
      rw [if_neg hstatus, ← Except.error.inj h]
      exact hexited
  · split at h
    · exact absurd h (by simp)
    · rename_i fault hfault
      split at h
      · rename_i hstatus
        exact (if_pos hstatus).mpr ⟨fault, hfault, (Except.error.inj h).symm⟩
      · rename_i hstatus
        rw [if_neg hstatus, ← Except.error.inj h]
        exact hexited

end Classify

/-- A run that ends in time and is not cancelled by then is told by its output. -/
theorem outcome_scan {s : ScannerSettings} {start : Launch → ProgramRun} {binary path : String}
    {cancelAt : Option Nat} {ms : Nat} {o : ProgramOutput} (hbinary : s.binaryPath = some binary)
    (hrun : start (launchOf s binary path folder) = .ended ms o)
    (hcancel : ∀ t ∈ cancelAt, ms < t) (htime : ms < s.timeoutSeconds.toNat * 1000) :
    (scan s start cancelAt path folder).outcome = classify s.product folder o := by
  have hbefore : cancelAt ≠ some 0 := fun h => absurd (hcancel 0 h) (Nat.not_lt_zero ms)
  have hnever : (cancelAt.any fun t => t ≤ min ms (s.timeoutSeconds.toNat * 1000)) = false := by
    cases cancelAt with
    | none => rfl
    | some t =>
      have ht : ms < t := hcancel t rfl
      simp only [Option.any_some, decide_eq_false_iff_not]
      omega
  simp only [scan, run, hbinary, hbefore, if_false, hrun, hnever, Bool.false_eq_true,
    Nat.not_le.2 htime]

end Command

/-- A scanner is a program that is started in a folder with an absolute path, and that ends in time
and before it is cancelled, with any output and any status, or by a signal. The scan succeeds if the
program has written nothing but white space and succeeded, or if it has written a list of issues,
whatever its status. Otherwise the output is at fault if the program succeeded, and else the scan
fails by its status and what it wrote of errors, without the white space around that. The issues of
a scan that succeeds are those of the list, in their order and each completed; their paths are
absolute, those that were relative lie in the folder, and to complete them again changes nothing. -/
theorem output_is_classified {s : ScannerSettings} {start : Launch → ProgramRun}
    {binary path folder : String} {cancelAt : Option Nat} {ms : Nat} {o : ProgramOutput}
    (hbinary : s.binaryPath = some binary)
    (hrun : start (Command.launchOf s binary path folder) = .ended ms o)
    (hcancel : ∀ t ∈ cancelAt, ms < t) (htime : ms < s.timeoutSeconds.toNat * 1000)
    (hfolder : Path.isAbsolute folder = true) :
    let r := Command.scan s start cancelAt path folder
    let text := Utf8.decodeText o.stdout
    (∀ issues, r.outcome = .ok issues
      ↔ (Command.WroteBlank o ∧ o.status = some 0 ∧ issues = [])
        ∨ (¬ Command.WroteBlank o ∧ ∃ found, Issue.listOfText text = .ok found
          ∧ List.Forall₂ (Command.Completes s.product folder) found issues))
    ∧ (∀ e, r.outcome = .error e → r.found = []
      ∧ if o.status = some 0 then
          ∃ fault, Issue.listOfText text = .error fault ∧ e = .invalidOutput fault
        else ∃ stderr, TrimsTo isBlank (Utf8.decode o.stderr) (String.toList stderr)
          ∧ e = .exited (o.status.getD (-1)) stderr)
    ∧ (∀ issues, r.outcome = .ok issues →
      (∀ j ∈ issues, Path.isAbsolute j.path = true ∧ ∃ u, Url.ofFilePath? j.path = some u)
      ∧ issues.map (Command.stamp s.product folder) = issues)
    ∧ ∀ i j, Command.Completes s.product folder i j → Path.isAbsolute i.path = false →
      Path.contains folder j.path = true := by
  intro r text
  have houtcome : r.outcome = Command.classify s.product folder o :=
    Command.outcome_scan hbinary hrun hcancel htime
  rw [houtcome]
  refine ⟨fun issues => Command.classify_eq_ok_iff, fun e he => ⟨?_, Command.classify_eq_error he⟩,
    fun issues hissues => ?_, fun i j h => h.contains hfolder⟩
  · rw [ScanReport.found, houtcome, he]
  · have hcompleted := Command.exists_completes hissues
    refine ⟨fun j hj => ?_, ?_⟩
    · obtain ⟨i, hi⟩ := hcompleted j hj
      have habsolute := hi.isAbsolute hfolder
      exact ⟨habsolute, Url.exists_ofFilePath? habsolute⟩
    · refine (List.map_congr_left fun j hj => ?_).trans (List.map_id issues)
      obtain ⟨i, hi⟩ := hcompleted j hj
      exact hi.stamp_eq hfolder

/-- What a program writes that has found an issue. -/
def Sample.listing : String :=
  "[[\"1\",\"x.js\",[[0,0],[0,1]],\"high\",null,\"codeQualityIssue\",\"m\"]]"

/-- A program that ends with a failure status has found an issue, and gives it a relative path and
no product. -/
theorem output_is_classified_failure :
    let s : ScannerSettings :=
      { (Settings.standard "").scanner with binaryPath := some "scan", product := some .code }
    let o : ProgramOutput := ⟨Utf8.encode Sample.listing.toList, [], some 1⟩
    let start : Launch → ProgramRun := fun _ => .ended 5 o
    ∃ i, (Command.scan s start (some 6) "/a" "/a").outcome = .ok [i]
      ∧ i.path = "/a/x.js" ∧ i.product = some .code ∧ Path.contains "/a" i.path = true := by
  intro s o start
  have hdecode : Utf8.decode o.stdout = Sample.listing.toList := Utf8.decode_encode _
  have hread : ∃ found, Issue.listOfText (Utf8.decodeText o.stdout) = .ok [found]
      ∧ found.path = "x.js" ∧ found.product = none := by
    have hpaths : ((Issue.listOfText Sample.listing).toOption.map fun is =>
        is.map fun i => (i.path, i.product)) = some [("x.js", none)] := by decide +kernel
    rw [Utf8.decodeText, hdecode, String.ofList_toList]
    cases hlist : Issue.listOfText Sample.listing with
    | error fault => simp [hlist, Except.toOption] at hpaths
    | ok issues =>
      simp only [hlist, Except.toOption, Option.map_some, Option.some.injEq,
        List.map_eq_singleton_iff, Prod.mk.injEq] at hpaths
      obtain ⟨found, rfl, hpath, hproduct⟩ := hpaths
      exact ⟨found, rfl, hpath, hproduct⟩
  obtain ⟨found, hfound, hpath, hproduct⟩ := hread
  have hwrote : ¬ Command.WroteBlank o := fun hblank => by
    have hbracket := hblank '[' (hdecode ▸ List.mem_cons_self)
    exact absurd hbracket (by decide)
  have hbinary : s.binaryPath = some "scan" := rfl
  have hrun : start (Command.launchOf s "scan" "/a" "/a") = .ended 5 o := rfl
  have hcancel : ∀ t ∈ some 6, 5 < t := by decide
  have htime : 5 < s.timeoutSeconds.toNat * 1000 := by decide
  have hfolder : Path.isAbsolute "/a" = true := by decide
  obtain ⟨hok, -, -, hcontains⟩ := output_is_classified hbinary hrun hcancel htime hfolder
  have hcompletes : Command.Completes s.product "/a" found (Command.stamp s.product "/a" found) :=
    Command.completes_iff.2 rfl
  refine ⟨_, (hok _).2 (.inr ⟨hwrote, [found], hfound, .cons hcompletes .nil⟩), ?_, ?_, ?_⟩
  · rw [hcompletes.path, hpath]
    decide +kernel
  · rw [hcompletes.product, hproduct]
    rfl
  · exact hcontains _ _ hcompletes (hpath ▸ by decide)

end ScanRelay
