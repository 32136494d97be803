import ScanRelay.Policy.Wire
import ScanRelay.Proofs.Records

/-!
# Settings in parts

Settings are made of parts, and a payload has a place for each of them (`Part.json?`). A change puts
in the parts that the payload gives and leaves the others, each on its own (`updates_go_by_parts`).
Settings that are read as a whole are the defaults with the given parts put in, so the two ways to
read a payload agree wherever the whole can be read (`get_ofJson`); where it cannot, the second way
is taken anyway (`payload_readers_agree`).
-/

namespace ScanRelay.Settings

/-- What a change of the settings replaces as a whole. -/
inductive Part
  | trust
  | severity
  | issueTypes
  | scanner
  | limits
  | enabled
  | deviceId
  | integrationName
  | integrationVersion
deriving DecidableEq

namespace Part

def Value : Part → Type
  | trust => TrustSettings
  | severity => SeverityFilter
  | issueTypes => CategoryFilter
  | scanner => ScannerSettings
  | limits => LimitSettings
  | enabled => Bool
  | deviceId | integrationName | integrationVersion => String

def get : (p : Part) → Settings → p.Value
  | trust, s => s.trust
  | severity, s => s.filter.severity
  | issueTypes, s => s.filter.issueTypes
  | scanner, s => s.scanner
  | limits, s => s.limits
  | enabled, s => s.analytics.enabled
  | deviceId, s => s.analytics.deviceId
  | integrationName, s => s.analytics.integrationName
  | integrationVersion, s => s.analytics.integrationVersion

/-- The names under which a part stands in a payload, the outer one first. -/
def names : Part → List String
  | trust => ["trust"]
  | severity => ["filter", "severity"]
  | issueTypes => ["filter", "issueTypes"]
  | scanner => ["scanner"]
  | limits => ["limits"]
  | enabled => ["analytics", "enabled"]
  | deviceId => ["analytics", "deviceId"]
  | integrationName => ["analytics", "integrationName"]
  | integrationVersion => ["analytics", "integrationVersion"]

/-- The documents that are read as a part. -/
def schema : Part → Schema
  | trust => TrustSettings.schema
  | severity => SeverityFilter.schema
  | issueTypes => CategoryFilter.schema
  | scanner => ScannerSettings.schema
  | limits => LimitSettings.schema
  | enabled => .bool
  | deviceId | integrationName | integrationVersion => .text

def ofJson : (p : Part) → Json → p.Value
  | trust => TrustSettings.ofJson
  | severity => SeverityFilter.ofJson
  | issueTypes => CategoryFilter.ofJson
  | scanner => ScannerSettings.ofJson
  | limits => LimitSettings.ofJson
  | enabled => Json.asBool
  | deviceId | integrationName | integrationVersion => Json.asText

/-- What stands at the place of a part. -/
def json? (p : Part) (v : Json) : Option Json :=
  p.names.foldl (fun j? name => j?.bind (Json.member? name)) (some (payloadOf v))

/-- The part that a payload gives: nothing when it is missing or cannot be read. -/
def given? (p : Part) (v : Json) : Option p.Value :=
  (p.json? v).bind fun j => (p.schema.decode p.ofJson j).toOption

end Part

theorem ext_get {a b : Settings} (h : ∀ p : Part, p.get a = p.get b) : a = b := by
  obtain ⟨trust, ⟨severity, issueTypes⟩, scanner, limits, ⟨enabled, device, name, version⟩⟩ := a
  obtain ⟨trust', ⟨severity', issueTypes'⟩, scanner', limits', analytics'⟩ := b
  obtain ⟨enabled', device', name', version'⟩ := analytics'
  obtain rfl : trust = trust' := h .trust
  obtain rfl : severity = severity' := h .severity
  obtain rfl : issueTypes = issueTypes' := h .issueTypes
  obtain rfl : scanner = scanner' := h .scanner
  obtain rfl : limits = limits' := h .limits
  obtain rfl : enabled = enabled' := h .enabled
  obtain rfl : device = device' := h .deviceId
  obtain rfl : name = name' := h .integrationName
  obtain rfl : version = version' := h .integrationVersion
  rfl

/-! ## Changes -/

variable {v : Json}

theorem bind_member?_getD_null {α : Type} (j? : Option Json) (name : String)
    (read : Json → Option α) : ((j?.getD .null).member? name).bind read
      = (j?.bind (Json.member? name)).bind read := by
  cases j? <;> rfl

theorem decode_bool (j : Json) : (Schema.bool.decode Json.asBool j).toOption = j.bool? := by
  cases j <;> rfl

theorem decode_text (j : Json) : (Schema.text.decode Json.asText j).toOption = j.text? := by
  cases j <;> rfl

/-- A change of an object succeeds, and puts in the parts that are given. -/
theorem exists_update (s : Settings) (h : (payloadOf v).isObject = true) :
    ∃ next, s.update v = .ok next ∧ ∀ p : Part, p.get next = (p.given? v).getD (p.get s) := by
  simp only [update, h, Bool.not_true, Bool.false_eq_true, if_false, part?,
    ← funext decode_bool, ← funext decode_text, bind, bind_member?_getD_null]
  refine ⟨_, rfl, fun p => ?_⟩
  cases p <;> rfl

theorem isObject_of_update {s next : Settings} (h : s.update v = .ok next) :
    (payloadOf v).isObject = true := by
  cases hobject : (payloadOf v).isObject with
  | true => rfl
  | false => simp [update, hobject] at h

theorem get_of_update {s next : Settings} (h : s.update v = .ok next) (p : Part) :
    p.get next = (p.given? v).getD (p.get s) := by
  obtain ⟨next', hnext', hparts⟩ := exists_update s (isObject_of_update h)
  obtain rfl : next' = next := Except.ok.inj (hnext'.symm.trans h)
  exact hparts p

/-- A change that is no object fails and gives no settings. Any other succeeds, and then each part
is what the payload gives for it, or as it was where the payload gives nothing; so it does not
depend on the rest of the payload. The same change a second time changes nothing. -/
theorem updates_go_by_parts (s : Settings) (v : Json) :
    ((payloadOf v).isObject = false → s.update v = .error .notAnObject)
      ∧ ((payloadOf v).isObject = true → ∃ next, s.update v = .ok next
        ∧ (∀ p : Part, p.get next = (p.given? v).getD (p.get s))
        ∧ next.update v = .ok next
        ∧ ∀ (s' next' : Settings) (v' : Json), s'.update v' = .ok next' → ∀ p : Part,
          p.json? v' = p.json? v → p.get s' = p.get s → p.get next' = p.get next) := by
  refine ⟨fun hobject => by simp [update, hobject], fun hobject => ?_⟩
  obtain ⟨next, hnext, hparts⟩ := exists_update s hobject
  refine ⟨next, hnext, hparts, ?_, ?_⟩
  · obtain ⟨again, hagain, hparts'⟩ := exists_update next hobject
    have hsame : again = next := ext_get fun p => by
      rw [hparts', hparts]
      cases p.given? v <;> rfl
    rw [hagain, hsame]
  · intro s' next' v' hnext' p hplace hbefore
    have hgiven : p.given? v' = p.given? v := by rw [Part.given?, Part.given?, hplace]
    rw [get_of_update hnext', hparts, hgiven, hbefore]

/-- Trust settings of the wrong kind stay as they were, and the limits beside them are put in. -/
theorem updates_go_by_parts_malformed :
    let s : Settings := { standard "" with trust := ⟨true, []⟩ }
    let bad : Json := .object [("enabled", .text "not-a-bool")]
    let v : Json := .object [("limits", .object [("maxConcurrentScans", .nat 8)]), ("trust", bad)]
    (standard "").update (.nat 42) = .error .notAnObject
      ∧ ∃ next, s.update v = .ok next ∧ next.trust = ⟨true, []⟩ ∧ next.limits = ⟨8⟩
        ∧ next.update v = .ok next
        ∧ ∀ next', s.update (.object [("trust", bad)]) = .ok next' → next'.trust = next.trust := by
  intro s bad v
  obtain ⟨next, hnext, hparts, hagain, hlocal⟩ := (updates_go_by_parts s v).2 rfl
  refine ⟨(updates_go_by_parts (standard "") (.nat 42)).1 rfl, next, hnext, hparts .trust,
    hparts .limits, hagain, fun next' hnext' => ?_⟩
  exact hlocal s next' _ hnext' .trust rfl rfl

/-! ## Settings that are read as a whole -/

/-- Settings that can be read as a whole are the defaults with the given parts put in. -/
theorem get_ofJson (device : String) {members : List (String × Json)}
    (hpayload : payloadOf v = .object members) (hcheck : schema.check (payloadOf v) = .ok ())
    (hfilter : ∀ items, (payloadOf v).member? "filter" ≠ some (.array items))
    (hanalytics : ∀ items, (payloadOf v).member? "analytics" ≠ some (.array items)) (p : Part) :
    p.get (ofJson device (payloadOf v)) = (p.given? v).getD (p.get (standard device)) := by
  unfold Part.given? Part.json?
  rw [hpayload] at hcheck hfilter hanalytics ⊢
  let place (name : String) : Json := ((Json.object members).member? name).getD (.object [])
  have hfilterOf : (ofJson device (.object members)).filter
      = FilterSettings.ofJson (place "filter") := Json.fieldD_of_empty rfl members 1 "filter"
  have hanalyticsOf : (ofJson device (.object members)).analytics
      = AnalyticsSettings.ofJson device (place "analytics") :=
    Json.fieldD_of_empty rfl members 4 "analytics"
  cases p with
  | trust => exact Schema.fieldD_of_check hcheck rfl 0 _ _
  | severity =>
    exact (congrArg (·.severity) hfilterOf).trans
      (Schema.fieldD_field_of_check hcheck rfl hfilter rfl 0 _ _)
  | issueTypes =>
    exact (congrArg (·.issueTypes) hfilterOf).trans
      (Schema.fieldD_field_of_check hcheck rfl hfilter rfl 1 _ _)
  | scanner => exact Schema.fieldD_of_check hcheck rfl 2 _ _
  | limits => exact Schema.fieldD_of_check hcheck rfl 3 _ _
  | enabled =>
    exact (congrArg (·.enabled) hanalyticsOf).trans
      (Schema.fieldD_field_of_check hcheck rfl hanalytics rfl 0 _ _)
  | deviceId =>
    exact (congrArg (·.deviceId) hanalyticsOf).trans
      (Schema.fieldD_field_of_check hcheck rfl hanalytics rfl 1 _ _)
  | integrationName =>
    exact (congrArg (·.integrationName) hanalyticsOf).trans
      (Schema.fieldD_field_of_check hcheck rfl hanalytics rfl 2 _ _)
  | integrationVersion =>
    exact (congrArg (·.integrationVersion) hanalyticsOf).trans
      (Schema.fieldD_field_of_check hcheck rfl hanalytics rfl 3 _ _)

/-- Wherever a payload can be read as a whole, that is to change the defaults by it. -/
theorem ofPayload_eq_update (device : String) (hobject : (payloadOf v).isObject = true)
    (hfilter : ∀ items, (payloadOf v).member? "filter" ≠ some (.array items))
    (hanalytics : ∀ items, (payloadOf v).member? "analytics" ≠ some (.array items)) :
    ofPayload device v = (standard device).update v := by
  obtain ⟨members, hpayload⟩ : ∃ members, payloadOf v = .object members := by
    cases hv : payloadOf v <;> simp [hv, Json.isObject] at hobject ⊢
  rcases hcheck : schema.check (payloadOf v) with fault | ⟨⟩
  · simp [ofPayload, Schema.decode, hcheck, bind, Except.bind]
  · obtain ⟨next, hnext, hparts⟩ := exists_update (standard device) hobject
    have hsame : ofJson device (payloadOf v) = next := ext_get fun p =>
      (get_ofJson device hpayload hcheck hfilter hanalytics p).trans (hparts p).symm
    rw [ofPayload, Schema.decode_of_check hcheck, hnext, hsame]

/-- To read the settings that an editor sends at the start is to change the defaults by them, with
whatever is malformed in them, and only the device may differ, when they do not name it. Lists for
the filters or the analytics settings are left out. -/
theorem payload_readers_agree (device device' : String) {v : Json}
    (hobject : (payloadOf v).isObject = true)
    (hfilter : ∀ items, (payloadOf v).member? "filter" ≠ some (.array items))
    (hanalytics : ∀ items, (payloadOf v).member? "analytics" ≠ some (.array items)) :
    let place := ((payloadOf v).member? "analytics").bind (Json.member? "deviceId")
    let named := place.bind Json.text?
    ∃ read merged, ofPayload device v = .ok read ∧ (standard device').update v = .ok merged
      ∧ merged.analytics.deviceId = named.getD device'
      ∧ read = { merged with
          analytics := { merged.analytics with deviceId := named.getD device } } := by
  intro place named
  obtain ⟨read, hread, hparts⟩ := exists_update (standard device) hobject
  obtain ⟨merged, hmerged, hparts'⟩ := exists_update (standard device') hobject
  have hnamed : Part.deviceId.given? v = named := congrArg (Option.bind _) (funext decode_text)
  refine ⟨read, merged, ?_, hmerged, ?_, ext_get fun p => ?_⟩
  · rw [ofPayload_eq_update device hobject hfilter hanalytics, hread]
  · exact (hparts' .deviceId).trans (congrArg (Option.getD · device') hnamed)
  · cases p with
    | deviceId => exact (hparts .deviceId).trans (congrArg (Option.getD · device) hnamed)
    | _ => exact (hparts _).trans (hparts' _).symm

/-- Trust settings that are null keep the payload from being read as a whole. It names no device. -/
theorem payload_readers_agree_malformed :
    let low : Json := .object [("severity", .object [("low", .bool false)])]
    let v : Json := .object [("findings", .object [("analytics", .object []), ("filter", low),
      ("trust", .null)])]
    ∃ read merged, ofPayload "a" v = .ok read ∧ (standard "b").update v = .ok merged
      ∧ merged.analytics.deviceId = "b"
      ∧ read = { merged with analytics := { merged.analytics with deviceId := "a" } } := by
  intro low v
  have hfilter : (payloadOf v).member? "filter" = some low := rfl
  have hanalytics : (payloadOf v).member? "analytics" = some (.object []) := rfl
  exact payload_readers_agree "a" "b" rfl (by simp [hfilter, low]) (by simp [hanalytics])

end ScanRelay.Settings
