import Mathlib.Data.Finset.Card
import ScanRelay.Proofs.Records
import ScanRelay.Proofs.Shutdown

/-!
# What telemetry counts

A report with a product that is taken in is reported to telemetry, once, and what is counted is new
findings: an identity of the batch counts if the cache did not have it before, and it counts for the
product and the severity of its first issue in the batch (`Cache.newIdentities`). A merge arrives at
that number on the way (`countP_firsts`), and whether the telemetry that is sent is taken or not,
the folder and what it shows are the same (`Folder.handOver_eq`).
-/

namespace ScanRelay

/-! ## First issues -/

/-- The first issue of a batch with an identity. -/
def firstOf (batch : List Issue) (x : String) : Option Issue := batch.find? fun i => i.identity = x

section Firsts

variable {known : List String} {batch : List Issue}

theorem identity_of_firstOf {x : String} {i : Issue} (h : firstOf batch x = some i) :
    i.identity = x := by
  simpa using List.find?_some h

theorem firstOf_cons (j : Issue) (rest : List Issue) (x : String) :
    firstOf (j :: rest) x = if j.identity = x then some j else firstOf rest x := by
  unfold firstOf
  by_cases hx : j.identity = x <;> simp [hx]

/-- The first issues are those that come first of their identity in the whole batch. -/
theorem mem_firsts_iff {i : Issue} :
    i ∈ firsts known batch ↔ i.identity ∉ known ∧ firstOf batch i.identity = some i := by
  induction batch generalizing known with
  | nil => simp [firstOf]
  | cons j rest ih =>
    rw [firsts_cons, firstOf_cons]
    by_cases hji : j.identity = i.identity
    · have hnone : i ∉ firsts (j.identity :: known) rest := fun hi =>
        (ih.1 hi).1 (hji ▸ List.mem_cons_self)
      have hrest : j.identity ∈ known → i ∉ firsts known rest := fun hj hi =>
        (ih.1 hi).1 (hji ▸ hj)
      rw [if_pos hji]
      split
      · rename_i hj
        exact ⟨fun hi => absurd hi (hrest hj), fun hi => absurd (hji ▸ hj) hi.1⟩
      · rename_i hj
        rw [List.mem_cons, or_iff_left hnone, Option.some.injEq]
        exact ⟨fun hi => ⟨hji ▸ hj, hi.symm⟩, fun hi => hi.2.symm⟩
    · have hne : i ≠ j := fun hi => hji (hi ▸ rfl)
      rw [if_neg hji]
      split
      · exact ih
      · rw [List.mem_cons, or_iff_right hne, ih, List.mem_cons, not_or]
        exact and_congr_left fun _ => and_iff_right (Ne.symm hji)

theorem nodup_map_identity_firsts (known : List String) (batch : List Issue) :
    ((firsts known batch).map Issue.identity).Nodup := by
  induction batch generalizing known with
  | nil => exact List.nodup_nil
  | cons j rest ih =>
    rw [firsts_cons]
    split
    · exact ih known
    · rw [List.map_cons, List.nodup_cons]
      refine ⟨fun hmem => ?_, ih _⟩
      obtain ⟨i, hi, hij⟩ := List.mem_map.1 hmem
      exact (mem_firsts_iff.1 hi).1 (hij ▸ List.mem_cons_self)

/-- To count first issues is to count identities, each by its first issue. -/
theorem countP_firsts (known : List String) (batch : List Issue) (p : Issue → Bool) :
    (firsts known batch).countP p
      = {x ∈ (batch.map Issue.identity).toFinset | x ∉ known ∧ (firstOf batch x).any p}.card := by
  have hnodup : (((firsts known batch).filter p).map Issue.identity).Nodup :=
    (nodup_map_identity_firsts known batch).sublist (List.filter_sublist.map _)
  rw [List.countP_eq_length_filter, ← List.length_map (f := Issue.identity),
    ← List.toFinset_card_of_nodup hnodup]
  congr 1
  ext x
  simp only [List.mem_toFinset, List.mem_map, List.mem_filter, Finset.mem_filter, mem_firsts_iff,
    Option.any_eq_true]
  constructor
  · rintro ⟨i, ⟨⟨hknown, hfirst⟩, hp⟩, rfl⟩
    exact ⟨⟨i, List.mem_of_find?_eq_some hfirst, rfl⟩, hknown, i, hfirst, hp⟩
  · rintro ⟨-, hknown, i, hfirst, hp⟩
    obtain rfl := identity_of_firstOf hfirst
    exact ⟨i, ⟨⟨hknown, hfirst⟩, hp⟩, rfl⟩

end Firsts

/-! ## Counts -/

/-- The identities of a batch that the cache does not have, and whose first issue there counts for
the product and has the severity. -/
def Cache.newIdentities (c : Cache) (batch : List Issue) (product : Product)
    (severity : Severity) : Finset String :=
  {x ∈ (batch.map Issue.identity).toFinset | x ∉ c.identities ∧ (firstOf batch x).any fun i =>
    Product.orUnknown i.product = product && i.severity = severity}

theorem Cache.newIdentities_eq_empty {c : Cache} {batch : List Issue}
    (h : ∀ i ∈ batch, i.identity ∈ c.identities) (product : Product) (severity : Severity) :
    c.newIdentities batch product severity = ∅ := by
  refine Finset.filter_eq_empty_iff.2 fun x hx hnew => ?_
  obtain ⟨i, hi, rfl⟩ := List.mem_map.1 (List.mem_toFinset.1 hx)
  exact hnew.1 (h i hi)

theorem SeverityCount.ext_of {c d : SeverityCount} (h : ∀ s, c.of s = d.of s) : c = d := by
  obtain ⟨critical, high, medium, low⟩ := c
  obtain rfl : critical = d.critical := h .critical
  obtain rfl : high = d.high := h .high
  obtain rfl : medium = d.medium := h .medium
  obtain rfl : low = d.low := h .low
  rfl

theorem Tally.get_ensure (t : Tally) (p q : Option Product) : (t.ensure p).get q = t.get q := by
  unfold ensure
  simp only [get, entry?_setEntry]
  split
  · rename_i hq
    rw [hq]
    rfl
  · rfl

section Merged

variable {batch : List Issue} {files : List String}

theorem Cache.of_get_tally_mergeIn (hbatch : Unambiguous batch)
    (hfiles : files.Perm (filesOf batch)) (c : Cache) (p : Product) (severity : Severity) :
    ((mergeIn files c .empty batch).tally.get (some p)).of severity
      = (c.newIdentities batch p severity).card := by
  have hzero : (Tally.empty.get (some p)).of severity = 0 := by cases p <;> cases severity <;> rfl
  rw [tally_mergeIn hbatch hfiles, Tally.of_get_recordAll, hzero, Nat.zero_add, newIn,
    countP_firsts]
  rfl

/-- Where each file has got what is new of it, all identities of the batch are cached, whether they
were new or not. -/
theorem Cache.mem_identities_of_issuesOf {c d : Cache} (h : ∀ p, d.issuesOf p
    = c.issuesOf p ++ (c.newIn batch).filter fun i => i.path = p) {x : String} :
    x ∈ d.identities ↔ x ∈ c.identities ++ batch.map Issue.identity := by
  rw [List.mem_append]
  constructor
  · intro hx
    obtain ⟨p, i, hi, rfl⟩ := mem_identities_iff.1 hx
    rw [h] at hi
    rcases List.mem_append.1 hi with hi | hi
    · exact .inl (mem_identities_iff.2 ⟨p, i, hi, rfl⟩)
    · exact .inr (List.mem_map_of_mem (firsts_subset (List.mem_filter.1 hi).1))
  · intro hx
    by_cases hknown : x ∈ c.identities
    · obtain ⟨p, i, hi, rfl⟩ := mem_identities_iff.1 hknown
      exact mem_identities_iff.2 ⟨p, i, h p ▸ List.mem_append_left _ hi, rfl⟩
    · obtain ⟨i, hi, rfl⟩ := List.mem_map.1 (hx.resolve_left hknown)
      obtain ⟨j, hj, hji⟩ := exists_mem_firsts hi hknown
      refine mem_identities_iff.2 ⟨j.path, j, h j.path ▸ List.mem_append_right _ ?_, hji⟩
      exact List.mem_filter.2 ⟨hj, decide_eq_true rfl⟩

/-- After a merge all identities of the batch are cached. -/
theorem Cache.mem_identities_mergeIn (hbatch : Unambiguous batch)
    (hfiles : files.Perm (filesOf batch)) (c : Cache) (t : Tally) {i : Issue} (hi : i ∈ batch) :
    i.identity ∈ (mergeIn files c t batch).cache.identities :=
  (mem_identities_of_issuesOf (issuesOf_mergeIn hbatch hfiles c t)).2
    (List.mem_append_right _ (List.mem_map_of_mem hi))

end Merged

/-! ## Payloads -/

namespace ScanDone

/-- The number of new issues of a severity that a payload tells. -/
def countIn (payload : Json) (severity : Severity) : Option Json :=
  (((payload.member? "data").bind (Json.member? "attributes")).bind
    (Json.member? "uniqueIssueCount")).bind (Json.member? severity.name)

theorem countIn_toJson (e : ScanDone) (severity : Severity) :
    countIn e.toJson severity = some (.nat (e.counts.of severity)) := by
  have hcounts : e.counts.toJson.member? severity.name = some (.nat (e.counts.of severity)) := by
    cases severity <;>
      simp [SeverityCount.toJson, Json.member?_ofMembers, lookupEntry, Severity.name,
        SeverityCount.of]
  have hattributes : e.attributes.member? "uniqueIssueCount" = some e.counts.toJson := by
    simp [attributes, Json.member?_ofMembers, lookupEntry]
  simp [countIn, toJson, Json.member?_ofMembers, lookupEntry, hattributes, hcounts]

end ScanDone

/-! ## Telemetry among events -/

namespace Event

def telemetry? : Event → Option ScanDone
  | telemetry e => some e
  | _ => none

/-- What is reported to telemetry. -/
def telemetries (es : List Event) : List ScanDone := es.filterMap telemetry?

theorem telemetries_append (es fs : List Event) :
    telemetries (es ++ fs) = telemetries es ++ telemetries fs :=
  List.filterMap_append

theorem telemetries_telemetry (l : List ScanDone) : telemetries (l.map .telemetry) = l := by
  simp [telemetries, telemetry?, List.filterMap_map, Function.comp_def]

theorem telemetries_publish (f : Folder) (s : Settings) (product : Option Product) :
    telemetries (f.publish s product) = [] := by
  refine List.filterMap_eq_nil_iff.2 fun e he => ?_
  rcases Folder.mem_publish he with ⟨m, rfl⟩ | ⟨d, rfl⟩ <;> rfl

end Event

/-- Of a successful scan one event is sent when telemetry is on and the scan has a product, and none
otherwise. -/
theorem ScanDone.toSend_of_ok (settings : AnalyticsSettings) {r : ScanReport} {issues : List Issue}
    (hr : r.outcome = .ok issues) (counted : Tally) :
    (∃ e, toSend settings r counted = [e] ∧ settings.enabled = true ∧ r.product = some e.product
        ∧ e.counts = counted.get r.product)
      ∨ (toSend settings r counted = [] ∧ (settings.enabled = false ∨ r.product = none)) := by
  unfold toSend ofReport
  rcases hproduct : r.product with _ | p
  · exact .inr ⟨by simp, .inr rfl⟩
  · rcases henabled : settings.enabled with _ | _
    · exact .inr ⟨by simp, .inl rfl⟩
    · rw [hr]
      exact .inl ⟨_, rfl, rfl, rfl, rfl⟩

namespace Folder

variable {issues : List Issue} {r : ScanReport} (order : VisitOrder) (s : Settings) (f : Folder)

/-- The counts of a report that is taken in. -/
def countedIn (issues : List Issue) (product : Option Product) : Tally :=
  (Cache.mergeIn (order.arrange (Cache.filesOf issues)) f.cache .empty issues).tally.ensure product

theorem telemetries_processIn (hr : r.outcome = .ok issues) :
    Event.telemetries (f.processIn order s r).2
      = ScanDone.toSend s.analytics r (f.countedIn order issues r.product) := by
  rw [processIn_eq]
  simp only [hr, Event.telemetries_append, Event.telemetries_telemetry, Event.telemetries_publish,
    List.append_nil]
  rfl

theorem of_telemetries_processIn (hbatch : Unambiguous issues) (hr : r.outcome = .ok issues)
    {e : ScanDone} (he : e ∈ Event.telemetries (f.processIn order s r).2) :
    r.product = some e.product
      ∧ ∀ severity, e.counts.of severity
        = (f.cache.newIdentities issues e.product severity).card := by
  rw [f.telemetries_processIn order s hr] at he
  rcases ScanDone.toSend_of_ok s.analytics hr (f.countedIn order issues r.product) with
    ⟨e', hsent, -, hproduct, hcounts⟩ | ⟨hnone, -⟩
  · rw [hsent, List.mem_singleton] at he
    subst he
    refine ⟨hproduct, fun severity => ?_⟩
    rw [hcounts, countedIn, Tally.get_ensure, hproduct]
    exact Cache.of_get_tally_mergeIn hbatch (order.perm _) f.cache e.product severity
  · rw [hnone] at he
    exact absurd he List.not_mem_nil

theorem mem_identities_processIn (hbatch : Unambiguous issues) (hr : r.outcome = .ok issues)
    {i : Issue} (hi : i ∈ issues) : i.identity ∈ (f.processIn order s r).1.cache.identities := by
  rw [processIn_eq]
  simp only [hr]
  exact Cache.mem_identities_mergeIn hbatch (order.perm _) f.cache .empty hi

end Folder

/-! ## Telemetry that is not taken -/

/-- The log complains of what the sink does not take. -/
theorem TelemetrySink.filterMap_complaint_ne_nil_iff (sink : TelemetrySink) (sent : List ScanDone) :
    sent.filterMap sink.complaint? ≠ [] ↔ ∃ e ∈ sent, (sink e).isOk = false := by
  have hcomplaint : ∀ e, sink.complaint? e ≠ none ↔ (sink e).isOk = false := by
    intro e
    unfold complaint?
    rcases sink e with reason | taken <;> simp [Except.isOk, Except.toBool]
  simp [List.filterMap_eq_nil_iff, ← hcomplaint]

/-- Takes in a report with a sink for its telemetry, visiting its files in some order. -/
def Folder.handOver (sink : TelemetrySink) (order : VisitOrder) (s : Settings) (f : Folder)
    (r : ScanReport) : Intake :=
  f.takeIn order.merge sink s r

/-- The sink has a say in the log and in nothing else. -/
theorem Folder.handOver_eq (sink : TelemetrySink) (order : VisitOrder) (s : Settings) (f : Folder)
    (r : ScanReport) :
    let handed := f.handOver sink order s r
    (handed.folder, handed.events) = f.processIn order s r
      ∧ (handed.log ≠ [] ↔ ∃ e ∈ Event.telemetries (f.processIn order s r).2,
        (sink e).isOk = false) := by
  rcases hr : r.outcome with e | issues
  · simp [handOver, takeIn, processIn_eq, hr, Event.telemetries, Event.telemetry?]
  · rw [f.telemetries_processIn order s hr, processIn_eq]
    simp only [handOver, takeIn, hr]
    exact ⟨rfl, sink.filterMap_complaint_ne_nil_iff _⟩

/-- A successful report of which no two files share an identity, in any state of a folder and under
any settings. At most one event is sent to telemetry, and one is sent exactly if telemetry is on and
the report has a product. For each severity it tells how many identities of the batch were not
cached and have a first issue of that product and severity. So when the report is taken in again,
with whatever settings, it tells of none. Whether the sink takes the event or not makes no
difference but to the log. The files of a report may be visited in any order; the program visits
them as they are listed. -/
theorem telemetry_counts_new_findings {issues : List Issue} (hbatch : Unambiguous issues)
    {r : ScanReport} (hr : r.outcome = .ok issues) (order : VisitOrder) (s : Settings)
    (f : Folder) :
    let next := f.processIn order s r
    let sent := Event.telemetries next.2
    f.processIn .listed s r = f.processReport s r
    ∧ sent.length ≤ 1
    ∧ (sent ≠ [] ↔ s.analytics.enabled = true ∧ r.product ≠ none)
    ∧ (∀ e ∈ sent, r.product = some e.product ∧ ∀ severity,
      e.counts.of severity = (f.cache.newIdentities issues e.product severity).card
      ∧ ScanDone.countIn e.toJson severity
        = some (.nat (f.cache.newIdentities issues e.product severity).card))
    ∧ (∀ order' s', ∀ e ∈ Event.telemetries (next.1.processIn order' s' r).2, e.counts = .zero)
    ∧ ∀ sink, let handed := f.handOver sink order s r
      (handed.folder, handed.events) = next
      ∧ (handed.log ≠ [] ↔ ∃ e ∈ sent, (sink e).isOk = false) := by
  intro next sent
  have hsent : sent = ScanDone.toSend s.analytics r (f.countedIn order issues r.product) :=
    f.telemetries_processIn order s hr
  have hcases := ScanDone.toSend_of_ok s.analytics hr (f.countedIn order issues r.product)
  rw [← hsent] at hcases
  refine ⟨f.processIn_listed s r, ?_, ?_, fun e he => ?_, fun order' s' e he => ?_,
    fun sink => f.handOver_eq sink order s r⟩
  · rcases hcases with ⟨e, hone, -⟩ | ⟨hnone, -⟩
    · rw [hone]
      exact Nat.le_refl 1
    · rw [hnone]
      exact Nat.zero_le 1
  · rcases hcases with ⟨e, hone, henabled, hproduct, -⟩ | ⟨hnone, hwhy⟩
    · simp [hone, henabled, hproduct]
    · rw [hnone]
      rcases hwhy with hoff | hproduct
      · simp [hoff]
      · simp [hproduct]
  · obtain ⟨hproduct, hcounts⟩ := f.of_telemetries_processIn order s hbatch hr he
    refine ⟨hproduct, fun severity => ⟨hcounts severity, ?_⟩⟩
    rw [ScanDone.countIn_toJson, hcounts]
  · -- All identities of the batch are cached by now.
    obtain ⟨-, hcounts⟩ := next.1.of_telemetries_processIn order' s' hbatch hr he
    refine SeverityCount.ext_of fun severity => ?_
    rw [hcounts, Cache.newIdentities_eq_empty fun i hi =>
      f.mem_identities_processIn order s hbatch hr hi]
    cases severity <;> rfl

/-- Of four issues one is cached, one comes twice and one has no product: one is counted. -/
theorem telemetry_counts_new_findings_once :
    let issues := [Sample.found "2" "/a/y.js", Sample.found "1" "/a/x.js",
      { Sample.found "2" "/a/y.js" with severity := .low },
      { Sample.found "3" "/a/x.js" with product := none }]
    let r : ScanReport := ⟨some .code, .ok issues, 0, none⟩
    let next := Sample.folder.processIn .listed (.standard "") r
    ∃ e ∈ Event.telemetries next.2, e.counts.of .high = 1 ∧ e.counts.of .low = 0
      ∧ ScanDone.countIn e.toJson .high = some (.nat 1) := by
  intro issues r next
  have hbatch : Unambiguous issues := by decide +kernel
  obtain ⟨-, -, hsome, hcounts, -, -⟩ := telemetry_counts_new_findings hbatch (r := r) rfl .listed
    (.standard "") Sample.folder
  obtain ⟨e, he⟩ := List.exists_mem_of_ne_nil _ (hsome.2 ⟨rfl, by decide⟩)
  obtain ⟨hproduct, hcount⟩ := hcounts e he
  obtain hcode : Product.code = e.product := Option.some.inj hproduct
  rw [← hcode] at hcount
  have hhigh : (Sample.folder.cache.newIdentities issues .code .high).card = 1 := by
    decide +kernel
  have hlow : (Sample.folder.cache.newIdentities issues .code .low).card = 0 := by decide +kernel
  obtain ⟨hof, hin⟩ := hcount .high
  exact ⟨e, he, hof.trans hhigh, (hcount .low).1.trans hlow, hhigh ▸ hin⟩

end ScanRelay
