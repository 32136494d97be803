import Mathlib.Data.List.Perm.Basic
import ScanRelay.Proofs.Ledger

/-!
# What a merge brings

A merge visits the files of its batch in some order, and on the way it changes the entries, the
identities met so far and the counts. Whatever the batch, it is one pass over the issues in the
order in which they are met, and appends the first of each identity that is new (`mergeIn_grows`):
the identities that an entry held when it was opened are among those met so far, so looking for an
issue among them as well refuses nothing more.

When no two files of the batch share an identity, an issue is only ever refused for the sake of the
cache or of its own file. Then the order of the files plays no part, and each file gets what is new
of it in the batch (`mergeIn_appends_new`).
-/

namespace ScanRelay

/-- The first issue of each identity that is not known. -/
def firsts (known : List String) (issues : List Issue) : List Issue :=
  (issues.filter fun i => i.identity ∉ known).eraseDupsBy fun i j => i.identity = j.identity

/-- No two files share an identity. -/
def Unambiguous (issues : List Issue) : Prop :=
  ∀ i ∈ issues, ∀ j ∈ issues, i.identity = j.identity → i.path = j.path

instance (issues : List Issue) : Decidable (Unambiguous issues) :=
  inferInstanceAs <| Decidable <|
    ∀ i ∈ issues, ∀ j ∈ issues, i.identity = j.identity → i.path = j.path

theorem Unambiguous.of_subset {xs ys : List Issue} (h : Unambiguous ys) (hsub : xs ⊆ ys) :
    Unambiguous xs :=
  fun i hi j hj => h i (hsub hi) j (hsub hj)

/-! ## First issues -/

section Firsts

variable {known known' : List String} {issues : List Issue}

@[simp]
theorem firsts_nil (known : List String) : firsts known [] = [] := rfl

theorem firsts_cons (known : List String) (i : Issue) (rest : List Issue) :
    firsts known (i :: rest) = if i.identity ∈ known then firsts known rest
      else i :: firsts (i.identity :: known) rest := by
  unfold firsts
  split
  · rename_i hi
    rw [List.filter_cons_of_neg (by simpa using hi)]
  · rename_i hi
    rw [List.filter_cons_of_pos (by simpa using hi), List.eraseDupsBy_cons, List.filter_filter]
    simp

theorem firsts_congr (h : ∀ i ∈ issues, i.identity ∈ known ↔ i.identity ∈ known') :
    firsts known issues = firsts known' issues := by
  have hsame : (issues.filter fun i => i.identity ∉ known)
      = issues.filter fun i => i.identity ∉ known' :=
    List.filter_congr fun i hi => by simp [h i hi]
  rw [firsts, hsame, firsts]

theorem firsts_append (known : List String) (xs ys : List Issue) :
    firsts known (xs ++ ys)
      = firsts known xs ++ firsts (known ++ xs.map Issue.identity) ys := by
  induction xs generalizing known with
  | nil => simp
  | cons i rest ih =>
    rw [List.cons_append, firsts_cons, firsts_cons, ih, ih]
    split
    · rename_i hi
      congr 1
      refine firsts_congr fun j _ => ?_
      simp only [List.mem_append, List.map_cons, List.mem_cons]
      grind
    · rw [List.cons_append]
      congr 2
      refine firsts_congr fun j _ => ?_
      simp only [List.mem_append, List.map_cons, List.mem_cons]
      grind

theorem firsts_subset : firsts known issues ⊆ issues := by
  induction issues generalizing known with
  | nil => simp
  | cons i rest ih =>
    rw [firsts_cons]
    split
    · exact List.subset_cons_of_subset _ ih
    · exact List.cons_subset_cons _ ih

/-- Each identity that is new has its first issue. -/
theorem exists_mem_firsts {i : Issue} (hi : i ∈ issues) (hnew : i.identity ∉ known) :
    ∃ j ∈ firsts known issues, j.identity = i.identity := by
  induction issues generalizing known with
  | nil => exact absurd hi List.not_mem_nil
  | cons k rest ih =>
    rw [firsts_cons]
    split
    · rename_i hk
      rcases List.mem_cons.1 hi with rfl | hi
      · exact absurd hk hnew
      · exact ih hi hnew
    · by_cases heq : k.identity = i.identity
      · exact ⟨k, List.mem_cons_self, heq⟩
      · have hrest : i ∈ rest := (List.mem_cons.1 hi).resolve_left fun h => heq (h ▸ rfl)
        have hnew' : i.identity ∉ k.identity :: known := fun h =>
          (List.mem_cons.1 h).elim (fun h => heq h.symm) hnew
        obtain ⟨j, hj, hji⟩ := ih hrest hnew'
        exact ⟨j, List.mem_cons_of_mem _ hj, hji⟩

/-- When files share no identity, the first issues of a file are found in that file alone. -/
theorem filter_firsts (h : Unambiguous issues) (known : List String) (p : String) :
    (firsts known issues).filter (fun i => i.path = p)
      = firsts known (issues.filter fun i => i.path = p) := by
  induction issues generalizing known with
  | nil => rfl
  | cons i rest ih =>
    have hrest : Unambiguous rest := h.of_subset (List.subset_cons_self i rest)
    by_cases hp : i.path = p
    · rw [firsts_cons, List.filter_cons_of_pos (by simpa using hp), firsts_cons]
      split
      · exact ih hrest known
      · rw [List.filter_cons_of_pos (by simpa using hp), ih hrest]
    · rw [firsts_cons, List.filter_cons_of_neg (by simpa using hp)]
      split
      · exact ih hrest known
      · rw [List.filter_cons_of_neg (by simpa using hp), ih hrest]
        -- Knowing `i` refuses nothing of the file, because `i` lies in another one.
        refine firsts_congr fun j hj => ?_
        obtain ⟨hj, hjp⟩ := List.mem_filter.1 hj
        have hne : j.identity ≠ i.identity := fun heq => hp <| by
          rw [h i List.mem_cons_self j (List.mem_cons_of_mem _ hj) heq.symm]
          simpa using hjp
        simp [hne]

end Firsts

/-! ## Counts -/

theorem SeverityCount.of_increment (c : SeverityCount) (s s' : Severity) :
    (c.increment s).of s' = c.of s' + if s = s' then 1 else 0 := by
  cases s <;> cases s' <;> rfl

theorem SeverityCount.increment_comm (c : SeverityCount) (s s' : Severity) :
    (c.increment s).increment s' = (c.increment s').increment s := by
  cases s <;> cases s' <;> rfl

namespace Tally

theorem entry?_setEntry (t : Tally) (p q : Product) (c : SeverityCount) :
    Tally.entry? (t.setEntry p c) q = if q = p then some c else t.entry? q := by
  cases p <;> cases q <;> rfl

theorem ext_entry? {t t' : Tally} (h : ∀ p, t.entry? p = t'.entry? p) : t = t' := by
  have h₁ := h .openSource
  have h₂ := h .code
  have h₃ := h .infrastructureAsCode
  have h₄ := h .unknown
  cases t
  cases t'
  simp_all [ entry?]

theorem entry?_record (t : Tally) (i : Issue) (p : Product) :
    Tally.entry? (t.record i) p = if p = Product.orUnknown i.product
      then some ((t.get i.product).increment i.severity) else t.entry? p :=
  t.entry?_setEntry _ _ _

theorem get_record (t : Tally) (i : Issue) (p : Option Product) :
    (t.record i).get p = if Product.orUnknown i.product = Product.orUnknown p
      then (t.get p).increment i.severity else t.get p := by
  simp only [get, entry?_record, eq_comm (a := Product.orUnknown p)]
  split
  · rename_i hp
    rw [hp]
    rfl
  · rfl

/-- Two issues may be counted in either order. -/
theorem record_comm (t : Tally) (i j : Issue) :
    (t.record i).record j = (t.record j).record i := by
  refine ext_entry? fun p => ?_
  simp only [entry?_record, get_record]
  by_cases hij : Product.orUnknown i.product = Product.orUnknown j.product
  · have hget : t.get i.product = t.get j.product := by simp only [get, hij]
    by_cases hp : p = Product.orUnknown j.product <;>
      simp [hij, hp, hget, SeverityCount.increment_comm]
  · by_cases hp : p = Product.orUnknown i.product <;>
      by_cases hq : p = Product.orUnknown j.product <;> simp_all [eq_comm]

theorem recordAll_append (t : Tally) (xs ys : List Issue) :
    t.recordAll (xs ++ ys) = (t.recordAll xs).recordAll ys :=
  List.foldl_append

theorem recordAll_perm {xs ys : List Issue} (h : xs.Perm ys) (t : Tally) :
    t.recordAll xs = t.recordAll ys :=
  h.foldl_eq' (fun i _ j _ t => t.record_comm i j) t

/-- Each count grows by the issues of its product and severity. -/
theorem of_get_recordAll (t : Tally) (issues : List Issue) (product : Option Product)
    (severity : Severity) : ((t.recordAll issues).get product).of severity
      = (t.get product).of severity + issues.countP fun i =>
        Product.orUnknown i.product = Product.orUnknown product && i.severity = severity := by
  induction issues generalizing t with
  | nil => rfl
  | cons i rest ih =>
    rw [recordAll, List.foldl_cons, ← recordAll, ih, get_record, List.countP_cons]
    by_cases hp : Product.orUnknown i.product = Product.orUnknown product
    · rw [if_pos hp, SeverityCount.of_increment]
      simp only [hp, decide_true, Bool.true_and, decide_eq_true_eq]
      omega
    · simp [hp]

end Tally

/-! ## One pass -/

/-- An issue of which only its identity counts. -/
def Sample.found (id path : String) : Issue := { issue with id, path }

namespace Cache

theorem get?_eq_some_of_mem_keys {c : Cache} {p : String} (h : p ∈ c.keys) :
    c.get? p = some (c.issuesOf p) := by
  obtain ⟨is, hp⟩ := Table.mem_keys_iff.1 h
  simp [issuesOf, hp]

theorem get?_eq_none_of_not_mem_keys {c : Cache} {p : String} (h : p ∉ c.keys) :
    c.get? p = none := by
  rw [Table.mem_keys_iff, not_exists] at h
  exact Option.eq_none_iff_forall_ne_some.2 h

namespace Merge

/-- Between two moments of a merge these files were opened and these issues met. -/
structure Grows (m n : Merge) (files : List String) (met : List Issue) : Prop where
  issues : ∀ p, n.cache.issuesOf p
    = m.cache.issuesOf p ++ (firsts m.known met).filter fun i => i.path = p
  keys : ∀ p, p ∈ n.cache.keys ↔ p ∈ m.cache.keys ∨ p ∈ files
  known : ∀ x, x ∈ n.known ↔ x ∈ m.known ∨ x ∈ met.map Issue.identity
  tally : n.tally = m.tally.recordAll (firsts m.known met)
  accepted : n.accepted = m.accepted + (firsts m.known met).length
  handled : n.accepted + n.duplicates = m.accepted + m.duplicates + met.length

/-- All that is cached has been met. -/
def Knows (m : Merge) : Prop := ∀ p, ∀ i ∈ m.cache.issuesOf p, i.identity ∈ m.known

variable {m n o : Merge} {files files' : List String} {met met' : List Issue}

theorem Grows.refl (m : Merge) : m.Grows m [] [] := by
  constructor <;> simp [Tally.recordAll]

theorem Grows.trans (h : m.Grows n files met) (h' : n.Grows o files' met') :
    m.Grows o (files ++ files') (met ++ met') := by
  have hfirsts : firsts n.known met' = firsts (m.known ++ met.map Issue.identity) met' :=
    firsts_congr fun i _ => by rw [h.known, List.mem_append]
  constructor
  · intro p
    rw [h'.issues, h.issues, hfirsts, firsts_append, List.filter_append, List.append_assoc]
  · intro p
    rw [h'.keys, h.keys, List.mem_append, or_assoc]
  · intro x
    rw [h'.known, h.known, List.map_append, List.mem_append, or_assoc]
  · rw [h'.tally, h.tally, hfirsts, firsts_append, Tally.recordAll_append]
  · rw [h'.accepted, h.accepted, hfirsts, firsts_append, List.length_append, Nat.add_assoc]
  · rw [h'.handled, h.handled, List.length_append, Nat.add_assoc]

theorem Grows.knows (h : m.Grows n files met) (hm : m.Knows) : n.Knows := by
  intro p i hi
  rw [h.known]
  rw [h.issues] at hi
  rcases List.mem_append.1 hi with hi | hi
  · exact .inl (hm p i hi)
  · exact .inr (List.mem_map_of_mem (firsts_subset (List.mem_filter.1 hi).1))

theorem knows_start (c : Cache) (t : Tally) : (start c t).Knows := fun p i hi =>
  mem_identities_iff.2 ⟨p, i, hi, rfl⟩

theorem grows_issue {entry : List String} (hentry : ∀ x ∈ entry, x ∈ m.known) {i : Issue}
    (hkey : i.path ∈ m.cache.keys) : m.Grows (m.issue entry i) [] [i] := by
  unfold issue
  split
  · rename_i hknown
    -- What the entry held has been met, so looking there as well refuses nothing more.
    have hi : i.identity ∈ m.known := by
      simp only [Bool.or_eq_true, List.contains_iff_mem] at hknown
      exact hknown.elim (hentry _) id
    have hnone : firsts m.known [i] = [] := by rw [firsts_cons, if_pos hi, firsts_nil]
    constructor <;> simp [hnone, hi, Tally.recordAll, Nat.add_assoc]
  · rename_i hnew
    have hi : i.identity ∉ m.known := fun hi => hnew (by simp [hi])
    have hone : firsts m.known [i] = [i] := by rw [firsts_cons, if_neg hi, firsts_nil]
    constructor
    · intro p
      rw [hone, issuesOf_append]
      by_cases hp : i.path = p
      · simp [hp]
      · simp [hp, Ne.symm hp]
    · intro p
      rw [mem_keys_append]
      simp only [List.not_mem_nil, or_false]
      exact ⟨fun hp => hp.elim (fun hp => hp ▸ hkey) id, .inr⟩
    · simp [or_comm]
    · simp [hone, Tally.recordAll]
    · simp [hone]
    · simp only [List.length_singleton]
      omega

theorem grows_issues {entry : List String} (hentry : ∀ x ∈ entry, x ∈ m.known)
    (hkeys : ∀ i ∈ met, i.path ∈ m.cache.keys) :
    m.Grows (met.foldl (issue entry) m) [] met := by
  induction met generalizing m with
  | nil => exact .refl m
  | cons i rest ih =>
    have hone := grows_issue hentry (hkeys i List.mem_cons_self)
    refine hone.trans (ih (fun x hx => (hone.known x).2 (.inl (hentry x hx))) fun j hj => ?_)
    exact (hone.keys _).2 (.inl (hkeys j (List.mem_cons_of_mem _ hj)))

theorem grows_file (hm : m.Knows) (batch : List Issue) (p : String) :
    m.Grows (file batch m p) [p] (batch.filter fun i => i.path = p) := by
  have hopen : m.Grows { m with cache := m.cache.append p [] } [p] [] := by
    constructor
    · simp [issuesOf_append_nil]
    · intro q
      rw [mem_keys_append, List.mem_singleton, or_comm]
    all_goals simp [Tally.recordAll]
  refine hopen.trans (grows_issues (fun x hx => ?_) fun i hi => ?_)
  · obtain ⟨i, hi, rfl⟩ := List.mem_map.1 hx
    exact hm p i hi
  · obtain ⟨-, hp⟩ := List.mem_filter.1 hi
    rw [of_decide_eq_true hp]
    exact mem_keys_append.2 (.inl rfl)

end Merge

/-- The issues of a batch in the order in which a merge meets them. -/
def visited (files : List String) (batch : List Issue) : List Issue :=
  files.flatMap fun p => batch.filter fun i => i.path = p

theorem Merge.grows_files {m : Merge} (hm : m.Knows) (batch : List Issue) (files : List String) :
    m.Grows (files.foldl (Merge.file batch) m) files (visited files batch) := by
  induction files generalizing m with
  | nil => exact .refl m
  | cons p rest ih =>
    have hone := Merge.grows_file hm batch p
    exact hone.trans (ih (hone.knows hm))

/-- A merge appends the first of each new identity, as it meets the issues. -/
theorem mergeIn_grows (files : List String) (c : Cache) (t : Tally) (batch : List Issue) :
    (Merge.start c t).Grows (mergeIn files c t batch) files (visited files batch) :=
  Merge.grows_files (Merge.knows_start c t) batch files

/-! ## The order of the files -/

theorem mem_filesOf {batch : List Issue} {p : String} :
    p ∈ filesOf batch ↔ ∃ i ∈ batch, i.path = p := by
  simp [filesOf, Table.mem_keys_ofList]

theorem nodup_filesOf (batch : List Issue) : (filesOf batch).Nodup := Table.keys_nodup _

theorem filter_visited {files : List String} (hfiles : files.Nodup) (batch : List Issue)
    (p : String) : (visited files batch).filter (fun i => i.path = p)
      = if p ∈ files then batch.filter (fun i => i.path = p) else [] := by
  have hother : ∀ q, q ≠ p →
      (batch.filter fun i => i.path = q).filter (fun i => i.path = p) = [] := by
    intro q hq
    refine List.filter_eq_nil_iff.2 fun i hi hp => hq ?_
    rw [← of_decide_eq_true (List.mem_filter.1 hi).2, of_decide_eq_true hp]
  induction files with
  | nil => simp [visited]
  | cons q rest ih =>
    obtain ⟨hq, hrest⟩ := List.nodup_cons.1 hfiles
    rw [visited, List.flatMap_cons, List.filter_append, ← visited, ih hrest]
    by_cases hp : q = p
    · rw [if_neg (hp ▸ hq), hp, if_pos List.mem_cons_self, List.append_nil, List.filter_filter]
      simp
    · rw [hother q hp, List.nil_append]
      simp [Ne.symm hp]

/-- Issues that agree file by file agree but for their order. -/
theorem perm_of_filter_path {xs ys : List Issue}
    (h : ∀ p, xs.filter (fun i => i.path = p) = ys.filter fun i => i.path = p) : xs.Perm ys := by
  classical
  refine List.perm_iff_count.2 fun i => ?_
  have hcount : ∀ l : List Issue, (l.filter fun j => j.path = i.path).count i = l.count i :=
    fun l => List.count_filter (decide_eq_true rfl)
  rw [← hcount xs, h, hcount]

section Order

variable {files : List String} {batch : List Issue}

theorem filter_visited_of_perm (h : files.Perm (filesOf batch)) (p : String) :
    (visited files batch).filter (fun i => i.path = p) = batch.filter fun i => i.path = p := by
  rw [filter_visited (h.nodup_iff.2 (nodup_filesOf batch))]
  split
  · rfl
  · rename_i hp
    rw [h.mem_iff, mem_filesOf] at hp
    exact (List.filter_eq_nil_iff.2 fun i hi hip => hp ⟨i, hi, of_decide_eq_true hip⟩).symm

theorem visited_perm (h : files.Perm (filesOf batch)) : (visited files batch).Perm batch :=
  perm_of_filter_path (filter_visited_of_perm h)

/-- What of a batch is new to the cache: of the issues whose identity is not cached anywhere, the
first of each identity. -/
def newIn (c : Cache) (batch : List Issue) : List Issue := firsts c.identities batch

variable (hbatch : Unambiguous batch) (hfiles : files.Perm (filesOf batch)) (c : Cache) (t : Tally)
include hbatch hfiles

/-- What is appended to a file does not depend on when the file is visited. -/
theorem filter_firsts_visited (p : String) :
    (firsts c.identities (visited files batch)).filter (fun i => i.path = p)
      = (c.newIn batch).filter fun i => i.path = p := by
  have hvisited : Unambiguous (visited files batch) :=
    hbatch.of_subset (visited_perm hfiles).subset
  rw [filter_firsts hvisited, filter_visited_of_perm hfiles, newIn, filter_firsts hbatch]

theorem firsts_visited_perm :
    (firsts c.identities (visited files batch)).Perm (c.newIn batch) :=
  perm_of_filter_path (filter_firsts_visited hbatch hfiles c)

theorem issuesOf_mergeIn (p : String) : (mergeIn files c t batch).cache.issuesOf p
    = c.issuesOf p ++ (c.newIn batch).filter fun i => i.path = p := by
  rw [← filter_firsts_visited hbatch hfiles]
  exact (mergeIn_grows files c t batch).issues p

theorem tally_mergeIn : (mergeIn files c t batch).tally = t.recordAll (c.newIn batch) := by
  rw [← Tally.recordAll_perm (firsts_visited_perm hbatch hfiles c)]
  exact (mergeIn_grows files c t batch).tally

theorem accepted_mergeIn : (mergeIn files c t batch).accepted = (c.newIn batch).length := by
  rw [← (firsts_visited_perm hbatch hfiles c).length_eq]
  exact (mergeIn_grows files c t batch).accepted.trans (Nat.zero_add _)

end Order

theorem mem_keys_mergeIn_iff {files : List String} {batch : List Issue}
    (hfiles : files.Perm (filesOf batch)) (c : Cache) (t : Tally) (p : String) :
    p ∈ (mergeIn files c t batch).cache.keys ↔ p ∈ c.keys ∨ ∃ i ∈ batch, i.path = p := by
  rw [(mergeIn_grows files c t batch).keys, hfiles.mem_iff, mem_filesOf]
  rfl

theorem handled_mergeIn {files : List String} {batch : List Issue}
    (hfiles : files.Perm (filesOf batch)) (c : Cache) (t : Tally) :
    (mergeIn files c t batch).accepted + (mergeIn files c t batch).duplicates = batch.length := by
  rw [(mergeIn_grows files c t batch).handled, (visited_perm hfiles).length_eq]
  exact Nat.zero_add _

/-- Merging a batch whose files share no identity gives each of them what is new of it, after what
it had, and leaves all other entries alone. The rest of the batch is duplicates, and the counts grow
by what is new. Nothing of this depends on the order in which the files are visited. -/
theorem mergeIn_appends_new {batch : List Issue} (hbatch : Unambiguous batch) {files : List String}
    (hfiles : files.Perm (filesOf batch)) (c : Cache) (t : Tally) :
    let m := mergeIn files c t batch
    let new := c.newIn batch
    (∀ p, (∃ i ∈ batch, i.path = p) →
        m.cache.get? p = some (c.issuesOf p ++ new.filter fun i => i.path = p))
      ∧ (∀ p, (∀ i ∈ batch, i.path ≠ p) → m.cache.get? p = c.get? p)
      ∧ m.accepted = new.length ∧ m.accepted + m.duplicates = batch.length
      ∧ m.tally = t.recordAll new
      ∧ ∀ product severity, (m.tally.get product).of severity
        = (t.get product).of severity + new.countP fun i =>
          Product.orUnknown i.product = Product.orUnknown product && i.severity = severity := by
  intro m new
  have htally : m.tally = t.recordAll new := tally_mergeIn hbatch hfiles c t
  refine ⟨fun p hp => ?_, fun p hp => ?_, accepted_mergeIn hbatch hfiles c t,
    handled_mergeIn hfiles c t, htally, fun product severity => ?_⟩
  · have hkey : p ∈ m.cache.keys := (mem_keys_mergeIn_iff hfiles c t p).2 (.inr hp)
    rw [get?_eq_some_of_mem_keys hkey, issuesOf_mergeIn hbatch hfiles]
  · have hnone : new.filter (fun i => i.path = p) = [] :=
      List.filter_eq_nil_iff.2 fun i hi hip => hp i (firsts_subset hi) (of_decide_eq_true hip)
    have hkey : p ∈ m.cache.keys ↔ p ∈ c.keys := by
      rw [mem_keys_mergeIn_iff hfiles]
      exact or_iff_left fun ⟨i, hi, hip⟩ => hp i hi hip
    by_cases hmem : p ∈ c.keys
    · rw [get?_eq_some_of_mem_keys (hkey.2 hmem), get?_eq_some_of_mem_keys hmem,
        issuesOf_mergeIn hbatch hfiles, hnone, List.append_nil]
    · rw [get?_eq_none_of_not_mem_keys (mt hkey.1 hmem), get?_eq_none_of_not_mem_keys hmem]
  · rw [htally, Tally.of_get_recordAll]

/-- A batch of two files, the later one visited first: one of its issues is cached and one comes
twice, and each file gets the new one of its own. -/
theorem mergeIn_appends_new_of_two_files :
    let c : Cache := Table.empty.insert "/a/x.js" [Sample.found "1" "/a/x.js"]
    let batch := [Sample.found "2" "/a/y.js", Sample.found "1" "/a/x.js",
      Sample.found "2" "/a/y.js", Sample.found "3" "/a/x.js"]
    let m := mergeIn ["/a/y.js", "/a/x.js"] c .empty batch
    m.cache.get? "/a/x.js" = some [Sample.found "1" "/a/x.js", Sample.found "3" "/a/x.js"]
      ∧ m.cache.get? "/a/y.js" = some [Sample.found "2" "/a/y.js"]
      ∧ m.accepted = 2 ∧ m.accepted + m.duplicates = 4
      ∧ (m.tally.get (some .code)).of .high = 2 := by
  intro c batch m
  have hbatch : Unambiguous batch := by decide +kernel
  obtain ⟨hfile, -, haccepted, hhandled, -, hcounts⟩ :=
    mergeIn_appends_new hbatch (List.Perm.swap "/a/x.js" "/a/y.js" []) c .empty
  exact ⟨hfile "/a/x.js" ⟨_, .tail _ (.head _), rfl⟩, hfile "/a/y.js" ⟨_, .head _, rfl⟩, haccepted,
    hhandled, hcounts (some .code) .high⟩

end Cache

end ScanRelay
