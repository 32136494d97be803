import ScanRelay.Proofs.Parts

/-!
# Written settings

Settings are written as an object with an object for each section. What was written is accepted, and
it is read back as it was, section by section (`check_toJson`, `ofJson_toJson`). Written settings
give all their parts (`given?_of_written`), so a payload of them decides every part, whatever the
settings were before (`written_settings_read_back`).
-/

namespace ScanRelay

/-! ## Lists, tables and options -/

theorem checkEach_eq_ok_iff {α : Type} {check : α → Except Fault Unit} {l : List α} :
    checkEach check l = .ok () ↔ ∀ a ∈ l, check a = .ok () := by
  induction l with
  | nil => simp [checkEach]
  | cons a rest ih =>
    rcases hcheck : check a with fault | ⟨⟩ <;>
      simp [checkEach, hcheck, ih, bind, Except.bind]

namespace Schema

variable {s : Schema}

theorem check_list_iff {items : List Json} :
    (list s).check (Json.array items) = .ok () ↔ ∀ j ∈ items, s.check j = .ok () := by
  simp only [check, Document.view, Json.view, checkEnding]
  rw [← checkEach_eq_ok_iff]
  rcases checkEach (fun item => s.check item) items with fault | ⟨⟩ <;> simp [bind, Except.bind]

theorem check_table_iff {members : List (String × Json)} :
    (table s).check (Json.object members) = .ok () ↔ ∀ m ∈ members, s.check m.2 = .ok () := by
  simp only [check, Document.view, Json.view, checkEnding]
  rw [← checkEach_eq_ok_iff]
  rcases checkEach (fun m : String × Json => s.check m.2) members with fault | ⟨⟩ <;>
    simp [bind, Except.bind]

theorem check_optional {j : Json} (h : s.check j = .ok ()) : (optional s).check j = .ok () := by
  simp only [check, Document.absent, bind, Except.bind, h]
  cases j.isNull <;> rfl

@[simp]
theorem check_bool (b : Bool) : bool.check (Json.bool b) = .ok () := rfl

@[simp]
theorem check_text (t : String) : text.check (Json.text t) = .ok () := rfl

@[simp]
theorem check_texts (ts : List String) : (list text).check (Json.texts ts) = .ok () :=
  check_list_iff.2 fun j hj => by
    obtain ⟨t, -, rfl⟩ := List.mem_map.1 hj
    rfl

theorem check_uint64 (name : String) (n : UInt64) :
    (natural name (UInt64.size - 1)).check (Json.uint64 n) = .ok () :=
  if_pos (Nat.le_of_lt_succ n.toNat_lt)

theorem check_ofOption {α : Type} {write : α → Json} (h : ∀ a, s.check (write a) = .ok ())
    (a? : Option α) : (optional s).check (Json.ofOption write a?) = .ok () := by
  cases a? with
  | none => rfl
  | some a => exact check_optional (h a)

end Schema

namespace Json

@[simp]
theorem asBool_bool (b : Bool) : (bool b).asBool = b := rfl

@[simp]
theorem asText_text (t : String) : (text t).asText = t := rfl

@[simp]
theorem asUInt64_uint64 (n : UInt64) : (uint64 n).asUInt64 = n := UInt64.ofNat_toNat

@[simp]
theorem asList_texts (ts : List String) : (texts ts).asList asText = ts := by
  simp only [asList, texts, items, List.map_map]
  exact List.map_id _

theorem asOption_ofOption {α : Type} {read : Json → α} {write : α → Json}
    (h : ∀ a, read (write a) = a ∧ write a ≠ .null) (a? : Option α) :
    (ofOption write a?).asOption read = a? := by
  cases a? with
  | none => rfl
  | some a =>
    obtain ⟨hread, hnull⟩ := h a
    show (write a).asOption read = some a
    rw [← congrArg some hread]
    cases hj : write a <;> first | rfl | exact absurd hj hnull

end Json

/-! ## The sections -/

theorem insertEntry_of_forall_lt {α : Type} {key : String} {value : α}
    {entries : List (String × α)} (h : ∀ e ∈ entries, e.1 < key) :
    insertEntry key value entries = entries ++ [(key, value)] := by
  induction entries with
  | nil => rfl
  | cons e rest ih =>
    have hlt : e.1 < key := h e List.mem_cons_self
    have hge : ¬ key < e.1 := fun hlt' => String.lt_irrefl _ (String.lt_trans hlt hlt')
    have hne : key ≠ e.1 := fun heq => String.lt_irrefl _ (heq ▸ hlt)
    simp [insertEntry, hge, hne, ih fun e' he' => h e' (List.mem_cons_of_mem _ he')]

theorem Table.ofList_entries {α : Type} (t : Table α) : ofList t.entries = t := by
  have hfold : ∀ (rest : List (String × α)) (t' : Table α), Increasing (t'.entries ++ rest) →
      (rest.foldl (fun t b => t.insert b.1 b.2) t').entries = t'.entries ++ rest := by
    intro rest
    induction rest with
    | nil => simp
    | cons b rest ih =>
      intro t' h
      have hinsert : (t'.insert b.1 b.2).entries = t'.entries ++ [b] :=
        insertEntry_of_forall_lt fun e he =>
          (List.pairwise_append.1 h).2.2 e he b List.mem_cons_self
      rw [List.foldl_cons, ih _ (by rwa [hinsert, List.append_assoc]), hinsert,
        List.append_assoc]
      rfl
  have hentries : (ofList t.entries).entries = t.entries := hfold t.entries empty t.increasing
  revert hentries
  cases ofList t.entries
  cases t
  rintro rfl
  rfl

theorem Product.check_toJson (p : Product) : schema.check p.toJson = .ok () := by
  cases p <;> rfl

theorem Product.ofJson_toJson (p : Product) : ofJson p.toJson = p := by
  cases p <;> rfl

namespace TrustSettings

theorem check_toJson (t : TrustSettings) : schema.check t.toJson = .ok () := by
  refine Schema.check_ofMembers ?_
  simp [lookupEntry]

theorem ofJson_toJson (t : TrustSettings) : ofJson t.toJson = t := by
  simp [ofJson, toJson, Json.field_ofMembers, lookupEntry]

end TrustSettings

namespace SeverityFilter

theorem check_toJson (f : SeverityFilter) : schema.check f.toJson = .ok () := by
  refine Schema.check_ofMembers ?_
  simp [lookupEntry]

theorem ofJson_toJson (f : SeverityFilter) : ofJson f.toJson = f := by
  simp [ofJson, toJson, Json.fieldD_ofMembers, lookupEntry]

end SeverityFilter

namespace CategoryFilter

theorem check_toJson (f : CategoryFilter) : schema.check f.toJson = .ok () := by
  refine Schema.check_ofMembers ?_
  simp [lookupEntry]

theorem ofJson_toJson (f : CategoryFilter) : ofJson f.toJson = f := by
  simp [ofJson, toJson, Json.fieldD_ofMembers, lookupEntry]

end CategoryFilter

namespace ScannerSettings

theorem check_env (env : Table String) : (Schema.table .text).check
    (Json.object (env.entries.map fun e => (e.1, .text e.2))) = .ok () := by
  refine Schema.check_table_iff.2 fun m hm => ?_
  obtain ⟨e, -, rfl⟩ := List.mem_map.1 hm
  rfl

theorem envOfJson_env (env : Table String) :
    envOfJson (.object (env.entries.map fun e => (e.1, .text e.2))) = env := by
  simp [envOfJson, Function.comp_def, Table.ofList_entries]

theorem check_toJson (s : ScannerSettings) : schema.check s.toJson = .ok () := by
  have hpath : (Schema.optional .path).check (Json.ofOption Json.text s.binaryPath) = .ok () :=
    Schema.check_ofOption (fun _ => rfl) s.binaryPath
  have htimeout := Schema.check_uint64 "u64" s.timeoutSeconds
  refine Schema.check_ofMembers ?_
  simpa [lookupEntry, check_env, Schema.check_ofOption, Product.check_toJson]
    using And.intro hpath htimeout

theorem ofJson_toJson (s : ScannerSettings) : ofJson s.toJson = s := by
  have hpath : (Json.ofOption Json.text s.binaryPath).asOption Json.asText = s.binaryPath :=
    Json.asOption_ofOption (by simp) s.binaryPath
  have hproduct : (Json.ofOption Product.toJson s.product).asOption Product.ofJson = s.product :=
    Json.asOption_ofOption
      (fun p => ⟨p.ofJson_toJson, fun (h : p.toJson = .null) => by simp [Product.toJson] at h⟩)
      s.product
  simp [ofJson, toJson, Json.field_ofMembers, Json.fieldD_ofMembers, lookupEntry, envOfJson_env,
    hpath, hproduct]

end ScannerSettings

namespace LimitSettings

theorem check_toJson (l : LimitSettings) : schema.check l.toJson = .ok () := by
  refine Schema.check_ofMembers ?_
  simpa [lookupEntry] using Schema.check_uint64 "usize" l.maxConcurrentScans

theorem ofJson_toJson (l : LimitSettings) : ofJson l.toJson = l := by
  simp [ofJson, toJson, Json.fieldD_ofMembers, lookupEntry]

end LimitSettings

/-! ## All parts -/

namespace Settings

/-- How a part is written. -/
def Part.toJson : (p : Part) → p.Value → Json
  | trust => TrustSettings.toJson
  | severity => SeverityFilter.toJson
  | issueTypes => CategoryFilter.toJson
  | scanner => ScannerSettings.toJson
  | limits => LimitSettings.toJson
  | enabled => .bool
  | deviceId | integrationName | integrationVersion => .text

theorem Part.decode_toJson (p : Part) (x : p.Value) :
    p.schema.decode p.ofJson (p.toJson x) = .ok x := by
  have hsection : ∀ {α : Type} {s : Schema} {read : Json → α} {x : α} {j : Json},
      s.check j = .ok () → read j = x → s.decode read j = .ok x := fun hcheck hread =>
    (Schema.decode_of_check hcheck _).trans (congrArg Except.ok hread)
  cases p with
  | trust => exact hsection (TrustSettings.check_toJson x) (TrustSettings.ofJson_toJson x)
  | severity => exact hsection (SeverityFilter.check_toJson x) (SeverityFilter.ofJson_toJson x)
  | issueTypes => exact hsection (CategoryFilter.check_toJson x) (CategoryFilter.ofJson_toJson x)
  | scanner => exact hsection (ScannerSettings.check_toJson x) (ScannerSettings.ofJson_toJson x)
  | limits => exact hsection (LimitSettings.check_toJson x) (LimitSettings.ofJson_toJson x)
  | _ => rfl

variable {c : Settings} {v : Json}

/-- Written settings have every part at its place. -/
theorem given?_of_written (h : payloadOf v = c.toJson) (p : Part) :
    p.given? v = some (p.get c) := by
  have hplace : p.json? v = some (p.toJson (p.get c)) := by
    rw [Part.json?, h]
    cases p <;> simp [Part.names, toJson, FilterSettings.toJson, AnalyticsSettings.toJson,
      Json.member?_ofMembers, lookupEntry] <;> rfl
  rw [Part.given?, hplace, Option.bind_some, Part.decode_toJson]
  rfl

theorem update_of_written (h : payloadOf v = c.toJson) (b : Settings) : b.update v = .ok c := by
  obtain ⟨next, hnext, hparts⟩ := exists_update b (v := v) (h ▸ rfl)
  have hsame : next = c := ext_get fun p => by
    rw [hparts, given?_of_written h]
    rfl
  rw [hnext, hsame]

theorem ofPayload_of_written (h : payloadOf v = c.toJson) (device : String) :
    ofPayload device v = .ok c := by
  have hfilter : (payloadOf v).member? "filter" = some c.filter.toJson := by
    simp [h, toJson, Json.member?_ofMembers, lookupEntry]
  have hanalytics : (payloadOf v).member? "analytics" = some c.analytics.toJson := by
    simp [h, toJson, Json.member?_ofMembers, lookupEntry]
  rw [ofPayload_eq_update device (h ▸ rfl), update_of_written h]
  · simp [hfilter, FilterSettings.toJson, Json.ofMembers]
  · simp [hanalytics, AnalyticsSettings.toJson, Json.ofMembers]

/-- Written settings have no section of their own name. -/
theorem payloadOf_toJson (c : Settings) : payloadOf c.toJson = c.toJson := by
  simp [payloadOf, sectionName, toJson, Json.member?_ofMembers, lookupEntry]

/-- Settings that were written, alone or as our section among an editor's settings, are read back
as they were, and to change any settings by them gives them too. -/
theorem written_settings_read_back (c b : Settings) (device : String) :
    ofPayload device c.toJson = .ok c
      ∧ ofPayload device (.ofMembers [(sectionName, c.toJson)]) = .ok c
      ∧ b.update c.toJson = .ok c
      ∧ b.update (.ofMembers [(sectionName, c.toJson)]) = .ok c := by
  have halone : payloadOf c.toJson = c.toJson := payloadOf_toJson c
  have hsection : payloadOf (.ofMembers [(sectionName, c.toJson)]) = c.toJson := by
    simp [payloadOf, Json.member?_ofMembers, lookupEntry]
  exact ⟨ofPayload_of_written halone device, ofPayload_of_written hsection device,
    update_of_written halone b, update_of_written hsection b⟩

end Settings

end ScanRelay
