import ScanRelay.Editor.Message
import ScanRelay.Proofs.Written

/-!
# Issues that are written and read again

Parts of an issue that say nothing are left out when it is written, and a part that is missing is
read as one that says nothing. Only an additional value that is null does not fit in with that: it
is written, and read as none. So an issue is read back as it was exactly when it has no such value
(`Issue.decode_toJson_iff`). No issue that was read has one, whatever it was read from
(`Issue.additionalData_ofJson`), and so the issues that a scanner reports come back as they were,
alone and in a scan status (`findings_survive_wire`).
-/

namespace ScanRelay

/-! ## Objects some of whose members are left out -/

theorem lookupEntry_eq_some_iff_of_nodup {α : Type} {key : String} {value : α}
    {entries : List (String × α)} (h : (entries.map (·.1)).Nodup) :
    lookupEntry key entries = some value ↔ (key, value) ∈ entries := by
  refine ⟨mem_of_lookupEntry, fun hmem => ?_⟩
  induction entries with
  | nil => exact absurd hmem List.not_mem_nil
  | cons e rest ih =>
    obtain ⟨hfresh, hrest⟩ := List.nodup_cons.1 h
    rcases List.mem_cons.1 hmem with rfl | hmem
    · simp [lookupEntry]
    · have hne : key ≠ e.1 := by
        rintro rfl
        exact hfresh (List.mem_map.2 ⟨_, hmem, rfl⟩)
      rw [lookupEntry, if_neg hne]
      exact ih hrest hmem

namespace Json

/-- The members that are not left out. -/
def given (members : List (String × Option Json)) : List (String × Json) :=
  members.filterMap fun m => m.2.map fun v => (m.1, v)

variable {members : List (String × Option Json)}

theorem mem_given {key : String} {value : Json} :
    (key, value) ∈ given members ↔ (key, some value) ∈ members := by
  simp only [given, List.mem_filterMap, Option.map_eq_some_iff, Prod.mk.injEq]
  constructor
  · rintro ⟨⟨k, v?⟩, hmem, v, rfl, rfl, rfl⟩
    exact hmem
  · exact fun hmem => ⟨_, hmem, value, rfl, rfl, rfl⟩

theorem nodup_given (h : (members.map (·.1)).Nodup) : ((given members).map (·.1)).Nodup := by
  refine h.sublist ?_
  clear h
  induction members with
  | nil => exact List.nil_sublist _
  | cons m rest ih =>
    obtain ⟨key, _ | value⟩ := m
    · exact ih.cons key
    · exact ih.cons_cons key

/-- A member is read by its name, and as null when it was left out. -/
theorem field_given (h : (members.map (·.1)).Nodup) (index : Nat) (name : String) :
    (ofMembers (given members)).field index name = (lookupEntry name members).join.getD .null := by
  have hnodup : ((given members).reverse.map (·.1)).Nodup := by
    rw [List.map_reverse]
    exact (List.reverse_perm _).nodup_iff.2 (nodup_given h)
  have hlookup : lookupEntry name (given members).reverse = (lookupEntry name members).join := by
    refine Option.ext fun value => ?_
    rw [lookupEntry_eq_some_iff_of_nodup hnodup, List.mem_reverse, mem_given,
      ← lookupEntry_eq_some_iff_of_nodup h, Option.join_eq_some_iff]
  rw [field_ofMembers, hlookup]

/-! ## Numbers and lists -/

theorem asNat_uint32 (n : UInt32) : (uint32 n).asNat = n.toNat := by
  have hlt : n.toNat < UInt64.size := Nat.lt_trans n.toNat_lt (by decide)
  exact UInt64.toNat_ofNat_of_lt' hlt

@[simp]
theorem asUInt32_uint32 (n : UInt32) : (uint32 n).asUInt32 = n := by
  rw [asUInt32, asNat_uint32, UInt32.ofNat_toNat]

theorem asOption_map {α : Type} {read : Json → α} {write : α → Json}
    (h : ∀ a, read (write a) = a ∧ write a ≠ .null) (a? : Option α) :
    ((a?.map write).getD .null).asOption read = a? := by
  refine Eq.trans ?_ (asOption_ofOption h a?)
  cases a? <;> rfl

theorem asOption_getD_null {j? : Option Json} (h : j? ≠ some .null) :
    ((j?.getD .null).asOption fun j => j) = j? := by
  rcases j? with _ | _ | _ <;> first | rfl | exact absurd rfl h

theorem asOption_ne_null (j : Json) : (j.asOption fun j => j) ≠ some .null := by
  cases j <;> simp [asOption]

theorem asList_array_map {α : Type} {read : Json → α} {write : α → Json} {l : List α}
    (h : ∀ a ∈ l, read (write a) = a) : (array (l.map write)).asList read = l := by
  simp only [asList, items, List.map_map]
  exact (List.map_congr_left h).trans (List.map_id l)

end Json

namespace Schema

@[simp]
theorem check_uint32 (n : UInt32) : uint32.check (Json.uint32 n) = .ok () := by
  have hle : (Json.uint32 n).asNat ≤ UInt32.size - 1 := by
    rw [Json.asNat_uint32]
    exact Nat.le_of_lt_succ n.toNat_lt
  exact if_pos hle

end Schema

namespace Fields

/-- Contents for the fields of a record, in their order. One with a default may be left out. -/
inductive Filled : Fields → List (String × Option Json) → Prop
  | nil : Filled .nil []
  | cons {name p s v? rest members} (hgiven : p = .default ∨ p = .required ∧ ∃ v, v? = some v)
    (hcheck : ∀ v, v? = some v → s.check v = .ok ()) (hrest : Filled rest members) :
    Filled (.cons name p s rest) ((name, v?) :: members)

namespace Filled

variable {fields rest : Fields} {members : List (String × Option Json)} {name : String} {s : Schema}

theorem required {v : Json} (hcheck : s.check v = .ok ()) (hrest : rest.Filled members) :
    Filled (.cons name .required s rest) ((name, some v) :: members) :=
  .cons (.inr ⟨rfl, v, rfl⟩) (by rintro _ ⟨⟩; exact hcheck) hrest

theorem default {v? : Option Json} (hcheck : ∀ v, v? = some v → s.check v = .ok ())
    (hrest : rest.Filled members) :
    Filled (.cons name .default s rest) ((name, v?) :: members) :=
  .cons (.inl rfl) hcheck hrest

theorem hasMerged (h : fields.Filled members) : fields.hasMerged = false := by
  induction h with
  | nil => rfl
  | cons hgiven _ _ ih => rcases hgiven with rfl | ⟨rfl, -⟩ <;> exact ih

theorem mem_of_required (h : fields.Filled members) {key : String} (hkey : key ∈ fields.required) :
    ∃ v, (key, some v) ∈ members := by
  induction h with
  | nil => exact absurd hkey List.not_mem_nil
  | cons hgiven _ _ ih =>
    rcases hgiven with rfl | ⟨rfl, v, rfl⟩
    · exact (ih hkey).imp fun _ => List.mem_cons_of_mem _
    · rcases List.mem_cons.1 hkey with rfl | hkey
      · exact ⟨v, List.mem_cons_self⟩
      · exact (ih hkey).imp fun _ => List.mem_cons_of_mem _

theorem check_of_mem (h : fields.Filled members) (hnodup : (members.map (·.1)).Nodup)
    {key : String} {v : Json} (hmem : (key, some v) ∈ members)
    (hs : fields.schemaOf? key = some s) : s.check v = .ok () := by
  induction h with
  | nil => exact absurd hmem List.not_mem_nil
  | @cons name p _ v? rest _ hgiven hcheck _ ih =>
    obtain ⟨hfresh, hnodup⟩ := List.nodup_cons.1 hnodup
    rcases List.mem_cons.1 hmem with heq | hmem
    · obtain ⟨rfl, rfl⟩ : key = name ∧ some v = v? := Prod.mk.inj heq
      have hp : p ≠ .merged := by rcases hgiven with rfl | ⟨rfl, -⟩ <;> exact Presence.noConfusion
      obtain rfl : _ = s := by simpa [schemaOf?, hp] using hs
      exact hcheck v rfl
    · have hne : name ≠ key := fun heq => hfresh (List.mem_map.2 ⟨_, hmem, heq.symm⟩)
      exact ih hnodup hmem (by simpa [schemaOf?, hne] using hs)

end Filled

end Fields

namespace Schema

theorem decode_eq_ok_iff {ν α : Type} [Document ν] {s : Schema} {read : Json → α} {d : ν} {a : α} :
    s.decode read d = .ok a ↔ s.check d = .ok () ∧ read (Document.value d) = a := by
  rw [decode]
  rcases s.check d with fault | ⟨⟩ <;> simp [bind, Except.bind, pure, Except.pure]

/-- A record is accepted without the fields that were left out. -/
theorem check_given {name : String} {fields : Fields} {members : List (String × Option Json)}
    (h : fields.Filled members) (hnodup : (members.map (·.1)).Nodup) :
    (record name fields).check (Json.ofMembers (Json.given members)) = .ok () := by
  refine check_record_ofMembers h.hasMerged ?_ fun key hkey => ?_
  · rintro ⟨key, v⟩ hm s hs
    exact h.check_of_mem hnodup (Json.mem_given.1 hm) hs
  · obtain ⟨v, hv⟩ := h.mem_of_required hkey
    exact List.mem_map.2 ⟨_, Json.mem_given.2 hv, rfl⟩

end Schema

/-! ## The parts of an issue -/

theorem Position.check_toJson (p : Position) : schema.check p.toJson = .ok () := by
  refine Schema.check_record_ofMembers rfl ?_ ?_
  · simp [Fields.ofRequired, Fields.schemaOf?]
  · simp [Fields.ofRequired, Fields.required]

theorem Position.ofJson_toJson (p : Position) : ofJson p.toJson = p := by
  simp [ofJson, toJson, Json.field_ofMembers, lookupEntry]

theorem Range.check_toJson (r : Range) : schema.check r.toJson = .ok () := by
  refine Schema.check_record_ofMembers rfl ?_ ?_
  · simp [Fields.ofRequired, Fields.schemaOf?, Position.check_toJson]
  · simp [Fields.ofRequired, Fields.required]

theorem Range.ofJson_toJson (r : Range) : ofJson r.toJson = r := by
  simp [ofJson, toJson, Json.field_ofMembers, lookupEntry, Position.ofJson_toJson]

theorem Severity.check_toJson (s : Severity) : schema.check s.toJson = .ok () := by
  cases s <;> rfl

theorem Severity.ofJson_toJson (s : Severity) : ofJson s.toJson = s := by
  cases s <;> rfl

theorem IssueType.check_toJson (t : IssueType) : schema.check t.toJson = .ok () := by
  cases t <;> rfl

theorem IssueType.ofJson_toJson (t : IssueType) : ofJson t.toJson = t := by
  cases t <;> rfl

theorem Product.toJson_ne_null (p : Product) : p.toJson ≠ .null := Json.noConfusion

namespace Issue

/-- Texts as they are written, which no texts are not. -/
def someTexts (ts : List String) : Option Json := if ts.isEmpty then none else some (.texts ts)

theorem check_someTexts {ts : List String} {v : Json} (h : someTexts ts = some v) :
    (Schema.list .text).check v = .ok () := by
  unfold someTexts at h
  split at h
  · cases h
  · obtain rfl : Json.texts ts = v := by simpa using h
    exact Schema.check_texts ts

theorem asList_someTexts (ts : List String) :
    ((someTexts ts).getD .null).asList Json.asText = ts := by
  cases ts with
  | nil => rfl
  | cons t ts => exact Json.asList_texts (t :: ts)

/-- The members of a written issue, with those that are left out. -/
def members (i : Issue) : List (String × Option Json) :=
  [("id", some (.text i.id)), ("affectedFilePath", some (.text i.path)),
    ("range", some i.range.toJson), ("severity", some i.severity.toJson),
    ("product", i.product.map Product.toJson), ("issueType", some i.issueType.toJson),
    ("message", some (.text i.message)), ("formattedMessage", some (.text i.formattedMessage)),
    ("issueDescriptionUrl", i.descriptionUrl.map .text), ("cwes", someTexts i.cwes),
    ("cves", someTexts i.cves), ("additionalData", i.additionalData)]

theorem toJson_eq_given (i : Issue) : i.toJson = .ofMembers (Json.given i.members) := by
  unfold toJson members Json.given
  cases i.product <;> cases i.descriptionUrl <;> cases i.cwes <;> cases i.cves <;>
    cases i.additionalData <;> rfl

theorem nodup_members (i : Issue) : (i.members.map (·.1)).Nodup := by
  simp [members]

theorem field_toJson (i : Issue) (index : Nat) (name : String) :
    i.toJson.field index name = (lookupEntry name i.members).join.getD .null := by
  rw [toJson_eq_given, Json.field_given i.nodup_members]

theorem check_toJson (i : Issue) : schema.check i.toJson = .ok () := by
  have hwritten : ∀ {α : Type} {s : Schema} {write : α → Json} {a? : Option α},
      (∀ a, s.check (write a) = .ok ()) →
      ∀ v, a?.map write = some v → (Schema.optional s).check v = .ok () := by
    rintro α s write a? h v hv
    obtain ⟨a, -, rfl⟩ := Option.map_eq_some_iff.1 hv
    exact Schema.check_optional (h a)
  rw [toJson_eq_given]
  refine Schema.check_given ?_ i.nodup_members
  exact .required rfl <| .required rfl <| .required i.range.check_toJson <|
    .required i.severity.check_toJson <| .default (hwritten Product.check_toJson) <|
    .required i.issueType.check_toJson <| .required rfl <| .default (by rintro _ ⟨⟩; rfl) <|
    .default (hwritten fun _ => rfl) <| .default (fun _ => check_someTexts) <|
    .default (fun _ => check_someTexts) <| .default (fun _ _ => Schema.check_optional rfl) .nil

theorem ofJson_toJson {i : Issue} (h : i.additionalData ≠ some .null) : ofJson i.toJson = i := by
  have hproduct : ((i.product.map Product.toJson).getD .null).asOption Product.ofJson = i.product :=
    Json.asOption_map (fun p => ⟨p.ofJson_toJson, p.toJson_ne_null⟩) i.product
  have hurl : ((i.descriptionUrl.map Json.text).getD .null).asOption Json.asText
      = i.descriptionUrl := Json.asOption_map (by simp) i.descriptionUrl
  simp only [ofJson, field_toJson]
  simp [members, lookupEntry, Range.ofJson_toJson, Severity.ofJson_toJson, IssueType.ofJson_toJson,
    hproduct, hurl, asList_someTexts, Json.asOption_getD_null h]

theorem additionalData_ofJson (j : Json) : (ofJson j).additionalData ≠ some .null :=
  Json.asOption_ne_null _

/-- An issue is read back as it was exactly when it has no additional value that is null. -/
theorem decode_toJson_iff {i : Issue} :
    decode i.toJson = .ok i ↔ i.additionalData ≠ some .null := by
  rw [decode, Schema.decode_of_check i.check_toJson, Except.ok.injEq]
  refine ⟨fun h => ?_, ofJson_toJson⟩
  rw [← h]
  exact additionalData_ofJson i.toJson

/-- No issue that was read has an additional value that is null. -/
theorem additionalData_of_decode {ν : Type} [Document ν] {d : ν} {i : Issue}
    (h : schema.decode ofJson d = .ok i) : i.additionalData ≠ some .null := by
  obtain ⟨-, rfl⟩ := Schema.decode_eq_ok_iff.1 h
  exact additionalData_ofJson _

end Issue

/-! ## Scan statuses -/

namespace ScanStatus

theorem check_verdict (v : ScanVerdict) :
    (Schema.variants (ScanVerdict.all.map ScanVerdict.name)).check (Json.text v.name) = .ok () := by
  cases v <;> rfl

theorem named_verdict (v : ScanVerdict) :
    named ScanVerdict.name ScanVerdict.all (.text v.name) = v := by
  cases v <;> rfl

theorem check_issuesJson (issues : List Issue) :
    (Schema.list Issue.schema).check (issuesJson issues) = .ok () := by
  refine Schema.check_list_iff.2 fun j hj => ?_
  obtain ⟨i, -, rfl⟩ := List.mem_map.1 hj
  exact i.check_toJson

theorem check_toJson (s : ScanStatus) : schema.check s.toJson = .ok () := by
  have hproduct : (Schema.optional Product.schema).check (Json.ofOption Product.toJson s.product)
      = .ok () := Schema.check_ofOption Product.check_toJson s.product
  refine Schema.check_record_ofMembers rfl ?_ ?_
  · simp [Fields.schemaOf?, check_verdict, check_issuesJson, hproduct]
  · simp [Fields.required]

theorem ofJson_toJson {s : ScanStatus} (h : ∀ i ∈ s.issues, i.additionalData ≠ some .null) :
    ofJson s.toJson = s := by
  have hproduct : (Json.ofOption Product.toJson s.product).asOption Product.ofJson = s.product :=
    Json.asOption_ofOption (fun p => ⟨p.ofJson_toJson, p.toJson_ne_null⟩) s.product
  have hissues : (issuesJson s.issues).asList Issue.ofJson = s.issues :=
    Json.asList_array_map fun i hi => Issue.ofJson_toJson (h i hi)
  simp [ofJson, toJson, Json.field_ofMembers, lookupEntry, named_verdict, hproduct, hissues]

end ScanStatus

/-- An issue that was read from a document of any form is written and read back as it was, and so is
the status of a scan, with all such issues, that is sent as the parameters of its message. -/
theorem findings_survive_wire :
    (∀ {ν : Type} [Document ν] (d : ν) (i : Issue), Issue.schema.decode Issue.ofJson d = .ok i →
      Issue.decode i.toJson = .ok i)
    ∧ ∀ s : ScanStatus, (∀ i ∈ s.issues, ∃ j, Issue.decode j = .ok i) →
        (Message.scanStatus s).toJson.member? "method" = some (.text "$/findings.scan")
          ∧ ∃ params, (Message.scanStatus s).toJson.member? "params" = some params
            ∧ ScanStatus.schema.decode ScanStatus.ofJson params = .ok s := by
  refine ⟨fun d i h => Issue.decode_toJson_iff.2 (Issue.additionalData_of_decode h),
    fun s h => ⟨?_, s.toJson, ?_, ?_⟩⟩
  · simp [Message.toJson, Message.notice, Message.scanMethod, Json.member?_ofMembers, lookupEntry]
  · simp [Message.toJson, Message.notice, Json.member?_ofMembers, lookupEntry]
  · rw [Schema.decode_of_check s.check_toJson, ScanStatus.ofJson_toJson fun i hi => ?_]
    obtain ⟨j, hj⟩ := h i hi
    exact Issue.additionalData_of_decode hj

/-- The issue is the array of its first parts, with null for the product. -/
theorem findings_survive_wire_array :
    let place : Json := .array [.array [.nat 2, .nat 0], .array [.nat 2, .nat 7]]
    let j : Json := .array [.text "a", .text "/a/x.js", place, .object [("high", .null)], .null,
      .text "codeQualityIssue", .text "m"]
    ∃ i, Issue.decode j = .ok i ∧ Issue.decode i.toJson = .ok i
      ∧ let s : ScanStatus := ⟨.success, none, "/a", [i]⟩
        ∃ params, (Message.scanStatus s).toJson.member? "params" = some params
          ∧ ScanStatus.schema.decode ScanStatus.ofJson params = .ok s := by
  intro place j
  have hread : Issue.decode j = .ok (Issue.ofJson j) := rfl
  obtain ⟨hissues, hstatuses⟩ := findings_survive_wire
  obtain ⟨-, hparams⟩ := hstatuses ⟨.success, none, "/a", [Issue.ofJson j]⟩
    fun i hi => ⟨j, hread.trans (congrArg Except.ok (List.mem_singleton.1 hi).symm)⟩
  exact ⟨_, hread, hissues j _ hread, hparams⟩

end ScanRelay
