import ScanRelay.Json.Schema

/-!
# Records

The members of an object may be written in any order, and each is read by its name
(`Json.member?_ofMembers`). A record accepts an object exactly when no field comes twice, the
content of each is accepted, and none is missing that may not be (`Schema.check_record_iff`). Where
all fields have a default, one that is there was read, and one that is missing has its default
(`Schema.fieldD_of_check`).
-/

namespace ScanRelay

/-! ## Objects -/

theorem lookupEntry_append {α : Type} (key : String) (xs ys : List (String × α)) :
    lookupEntry key (xs ++ ys) = (lookupEntry key xs).or (lookupEntry key ys) := by
  induction xs with
  | nil => rfl
  | cons x xs ih =>
    by_cases hkey : key = x.1
    · simp [lookupEntry, hkey]
    · simp [lookupEntry, hkey, ih]

theorem mem_of_lookupEntry {α : Type} {key : String} {value : α} {entries : List (String × α)}
    (h : lookupEntry key entries = some value) : (key, value) ∈ entries := by
  induction entries with
  | nil => simp [lookupEntry] at h
  | cons e rest ih =>
    by_cases hkey : key = e.1
    · simp only [lookupEntry, hkey, if_true, Option.some.injEq] at h
      simp [hkey, ← h]
    · simp only [lookupEntry, hkey, if_false] at h
      exact List.mem_cons_of_mem _ (ih h)

theorem exists_lookupEntry_of_mem {α : Type} {key : String} {entries : List (String × α)}
    (h : key ∈ entries.map (·.1)) : ∃ value, lookupEntry key entries = some value := by
  induction entries with
  | nil => exact absurd h List.not_mem_nil
  | cons e rest ih =>
    by_cases hkey : key = e.1
    · exact ⟨e.2, by simp [lookupEntry, hkey]⟩
    · obtain ⟨value, hvalue⟩ := ih ((List.mem_cons.1 h).resolve_left hkey)
      exact ⟨value, by simp [lookupEntry, hkey, hvalue]⟩

/-- Of bindings that are put in one after the other, the last of each key is found. -/
theorem lookupEntry_foldl_insertEntry {α : Type} (key : String) (bindings : List (String × α))
    {entries : List (String × α)} (h : Increasing entries) :
    lookupEntry key (bindings.foldl (fun es b => insertEntry b.1 b.2 es) entries)
      = (lookupEntry key bindings.reverse).or (lookupEntry key entries) := by
  induction bindings generalizing entries with
  | nil => rfl
  | cons b rest ih =>
    rw [List.foldl_cons, ih (increasing_insertEntry h), lookupEntry_insertEntry h,
      List.reverse_cons, lookupEntry_append, Option.or_assoc]
    by_cases hkey : key = b.1
    · simp [lookupEntry, hkey]
    · simp [lookupEntry, hkey]

theorem mem_foldl_insertEntry {α : Type} {x : String × α} {bindings entries : List (String × α)}
    (h : x ∈ bindings.foldl (fun es b => insertEntry b.1 b.2 es) entries) :
    x ∈ bindings ∨ x ∈ entries := by
  induction bindings generalizing entries with
  | nil => exact .inr h
  | cons b rest ih =>
    rcases ih h with hx | hx
    · exact .inl (List.mem_cons_of_mem _ hx)
    · rcases mem_insertEntry hx with rfl | hx
      · exact .inl List.mem_cons_self
      · exact .inr hx

namespace Json

/-- What an object is made of. -/
theorem exists_ofMembers (members : List (String × Json)) :
    ∃ entries, ofMembers members = .object entries ∧ Increasing entries
      ∧ (∀ m ∈ entries, m ∈ members)
      ∧ ∀ key, lookupEntry key entries = lookupEntry key members.reverse := by
  refine ⟨_, rfl, ?_, fun m hm => ?_, fun key => ?_⟩
  · exact List.foldlRecOn members _ .nil fun _ h _ _ => increasing_insertEntry h
  · simpa using mem_foldl_insertEntry hm
  · rw [lookupEntry_foldl_insertEntry key members .nil]
    exact Option.or_none

theorem member?_ofMembers (members : List (String × Json)) (key : String) :
    (ofMembers members).member? key = lookupEntry key members.reverse := by
  obtain ⟨entries, heq, -, -, hlookup⟩ := exists_ofMembers members
  rw [heq]
  exact hlookup key

theorem field_ofMembers (members : List (String × Json)) (index : Nat) (name : String) :
    (ofMembers members).field index name = (lookupEntry name members.reverse).getD .null :=
  congrArg (Option.getD · Json.null) (member?_ofMembers members name)

theorem fieldD_ofMembers {α : Type} (members : List (String × Json)) (index : Nat) (name : String)
    (read : Json → α) (default : α) : (ofMembers members).fieldD index name read default
      = ((lookupEntry name members.reverse).map read).getD default :=
  congrArg (fun j => (Option.map read j).getD default) (member?_ofMembers members name)

/-- Where the default is what the empty object is read as, a missing field is the empty object. -/
theorem fieldD_of_empty {α : Type} {read : Json → α} {default : α}
    (h : read (.object []) = default) (members : List (String × Json)) (index : Nat)
    (name : String) : (object members).fieldD index name read default
      = read (((object members).member? name).getD (.object [])) := by
  simp only [fieldD, member?]
  cases lookupEntry name members
  · exact h.symm
  · rfl

end Json

/-! ## What a record accepts -/

variable {name : String} {fields : List (String × Schema)} {members : List (String × Json)}

namespace Fields

/-- What a field of this name is to be. -/
def schemaOf? (key : String) : Fields → Option Schema
  | .nil => none
  | .cons name p s rest => if name = key && p ≠ .merged then some s else rest.schemaOf? key

/-- The names of the fields that may not be missing. -/
def required : Fields → List String
  | .nil => []
  | .cons name .required _ rest => name :: rest.required
  | .cons _ _ _ rest => rest.required

theorem declares_eq_isSome (fields : Fields) (key : String) :
    fields.declares key = (fields.schemaOf? key).isSome := by
  induction fields using schemaOf?.induct key with
  | case1 => rfl
  | case2 name p s rest h => simp only [declares, schemaOf?, h]; rfl
  | case3 name p s rest h ih => simp only [declares, schemaOf?, h, ih]; rfl

theorem checkField_eq_check (fields : Fields) (key : String) (j : Json) :
    fields.checkField key j = ((fields.schemaOf? key).map fun s => s.check j).getD (.ok ()) := by
  induction fields using schemaOf?.induct key with
  | case1 => rfl
  | case2 name p s rest h => simp only [checkField, schemaOf?, h, if_true]; rfl
  | case3 name p s rest h ih => simp only [checkField, schemaOf?, h, ih]; rfl

theorem isSome_of_mem_required {fields : Fields} {key : String} (h : key ∈ fields.required) :
    (fields.schemaOf? key).isSome := by
  induction fields using required.induct with
  | case1 => exact absurd h List.not_mem_nil
  | case2 name s rest ih =>
    by_cases hkey : name = key
    · simp [schemaOf?, hkey]
    · have hrest : key ∈ rest.required := (List.mem_cons.1 h).resolve_left (Ne.symm hkey)
      simp [schemaOf?, hkey, ih hrest]
  | case3 name p s rest hp ih =>
    have hrest : key ∈ rest.required := by rwa [required] at h; exact hp
    unfold schemaOf?
    split
    · rfl
    · exact ih hrest

theorem missing_eq_ok_iff {fields : Fields} {present : List String} :
    fields.missing present = .ok () ↔ ∀ key ∈ fields.required, key ∈ present := by
  induction fields using required.induct with
  | case1 => simp [missing, required]
  | case2 name s rest ih =>
    by_cases hname : name ∈ present <;> simp [missing, required, hname, ih]
  | case3 name p s rest hp ih =>
    rw [missing, required, ih] <;> exact hp

theorem checkMerged_of_hasMerged {fields : Fields} (h : fields.hasMerged = false)
    (members : List (String × Json)) : fields.checkMerged members = .ok () := by
  induction fields using required.induct with
  | case1 => rfl
  | case2 name s rest ih =>
    simp only [hasMerged, Bool.or_eq_false_iff] at h
    simp only [checkMerged, reduceCtorEq, if_false]
    exact ih h.2
  | case3 name p s rest hp ih =>
    simp only [hasMerged, Bool.or_eq_false_iff, decide_eq_false_iff_not] at h
    simp only [checkMerged, h.1, if_false]
    exact ih h.2

theorem schemaOf?_ofDefault (fields : List (String × Schema)) (key : String) :
    (ofDefault fields).schemaOf? key = lookupEntry key fields := by
  induction fields with
  | nil => rfl
  | cons f rest ih =>
    by_cases hkey : key = f.1
    · simp [ofDefault, schemaOf?, lookupEntry, hkey]
    · simp [ofDefault, schemaOf?, lookupEntry, hkey, Ne.symm hkey, ih]

theorem required_ofDefault (fields : List (String × Schema)) :
    (ofDefault fields).required = [] := by
  induction fields with
  | nil => rfl
  | cons f rest ih => simpa [ofDefault, required] using ih

theorem hasMerged_ofDefault (fields : List (String × Schema)) :
    (ofDefault fields).hasMerged = false := by
  induction fields with
  | nil => rfl
  | cons f rest ih => simpa [ofDefault, hasMerged] using ih

end Fields

/-- Members are read to the end when no field comes twice and each has content that is accepted.
Then the fields among them were met, the last of them first. -/
theorem checkMembers_eq_ok_iff (declares : String → Bool)
    (check : String → Json → Except Fault Unit) (present names : List String)
    (members : List (String × Json)) :
    checkMembers declares check present members = .ok names ↔
      ((members.map (·.1)).filter declares).Nodup
        ∧ (∀ m ∈ members, declares m.1 → m.1 ∉ present ∧ check m.1 m.2 = .ok ())
        ∧ names = ((members.map (·.1)).filter declares).reverse ++ present := by
  induction members generalizing present with
  | nil => simp [checkMembers, eq_comm (a := names)]
  | cons m rest ih =>
    obtain ⟨key, j⟩ := m
    by_cases hdeclared : declares key
    · by_cases hpresent : key ∈ present
      · simp [checkMembers, hdeclared, hpresent]
      · rcases hcheck : check key j with fault | ⟨⟩
        · simp [checkMembers, hdeclared, hpresent, hcheck, bind, Except.bind]
        · have hnext : checkMembers declares check present ((key, j) :: rest)
              = checkMembers declares check (key :: present) rest := by
            simp [checkMembers, hdeclared, hpresent, hcheck, bind, Except.bind]
          rw [hnext, ih]
          simp only [List.map_cons, List.filter_cons_of_pos hdeclared, List.nodup_cons,
            List.mem_filter, List.mem_map, List.mem_cons, forall_eq_or_imp, List.reverse_cons,
            List.append_assoc, List.singleton_append]
          grind
    · have hnext : checkMembers declares check present ((key, j) :: rest)
          = checkMembers declares check present rest := by
        simp [checkMembers, hdeclared, Document.skip, bind, Except.bind]
      rw [hnext, ih]
      simp [hdeclared]

namespace Schema

/-- An object is accepted as a record exactly when no field comes twice, the content of each is
accepted, and none is missing that may not be. -/
theorem check_record_iff {fields : Fields} (hmerged : fields.hasMerged = false) :
    (record name fields).check (Json.object members) = .ok () ↔
      ((members.map (·.1)).filter fun key => (fields.schemaOf? key).isSome).Nodup
        ∧ (∀ m ∈ members, ∀ s, fields.schemaOf? m.1 = some s → s.check m.2 = .ok ())
        ∧ ∀ key ∈ fields.required, key ∈ members.map (·.1) := by
  have hiff := fun names => checkMembers_eq_ok_iff fields.declares
    (fun key j => fields.checkField key j) [] names members
  simp only [Fields.declares_eq_isSome, Fields.checkField_eq_check] at hiff
  simp only [check, Document.view, Json.view, checkEnding, Fields.checkMerged_of_hasMerged hmerged,
    Fields.declares_eq_isSome, Fields.checkField_eq_check]
  have hends : ∀ read : Except Fault (List String),
      (do let names ← read; Except.ok (); fields.missing names; Except.ok ()) = Except.ok () ↔
        ∃ names, read = .ok names ∧ fields.missing names = .ok () := by
    rintro (fault | names)
    · simp [bind, Except.bind]
    · rcases hmissing : fields.missing names with fault | ⟨⟩ <;>
        simp [hmissing, bind, Except.bind]
  rw [hends]
  simp only [hiff, Fields.missing_eq_ok_iff]
  constructor
  · rintro ⟨names, ⟨hnodup, haccepted, rfl⟩, hrequired⟩
    refine ⟨hnodup, fun m hm s hs => ?_, fun key hkey => ?_⟩
    · simpa [hs] using (haccepted m hm (by simp [hs])).2
    · have hmem := hrequired key hkey
      simp only [List.append_nil, List.mem_reverse, List.mem_filter] at hmem
      exact hmem.1
  · rintro ⟨hnodup, haccepted, hrequired⟩
    refine ⟨_, ⟨hnodup, fun m hm hdeclared => ⟨List.not_mem_nil, ?_⟩, rfl⟩, fun key hkey => ?_⟩
    · obtain ⟨s, hs⟩ := Option.isSome_iff_exists.1 hdeclared
      simpa [hs] using haccepted m hm s hs
    · simp only [List.append_nil, List.mem_reverse, List.mem_filter]
      exact ⟨hrequired key hkey, Fields.isSome_of_mem_required hkey⟩

theorem check_object_iff : (record name (.ofDefault fields)).check (Json.object members) = .ok () ↔
    ((members.map (·.1)).filter fun key => (lookupEntry key fields).isSome).Nodup
      ∧ ∀ m ∈ members, ∀ s, lookupEntry m.1 fields = some s → s.check m.2 = .ok () := by
  rw [check_record_iff (Fields.hasMerged_ofDefault fields)]
  simp only [Fields.schemaOf?_ofDefault, Fields.required_ofDefault]
  simp

/-- A record stands as an object or as an array. -/
theorem exists_of_check_record {fields : Fields} {j : Json}
    (h : (record name fields).check j = .ok ()) :
    (∃ members, j = .object members) ∨ ∃ items, j = .array items := by
  cases j with
  | object members => exact .inl ⟨members, rfl⟩
  | array items => exact .inr ⟨items, rfl⟩
  | _ => simp [check, Document.view, Json.view, View.refuse, View.found] at h

theorem decode_of_check {α : Type} {s : Schema} {j : Json} (h : s.check j = .ok ())
    (read : Json → α) : s.decode read j = .ok (read j) := by
  rw [decode, h]
  rfl

/-- In an object that is accepted, a field is read from what stands under its name. -/
theorem fieldD_of_check {α : Type} {s : Schema} {key : String}
    (h : (record name (.ofDefault fields)).check (Json.object members) = .ok ())
    (hfield : lookupEntry key fields = some s) (index : Nat) (read : Json → α) (default : α) :
    (Json.object members).fieldD index key read default
      = (((Json.object members).member? key).bind fun j => (s.decode read j).toOption).getD
        default := by
  simp only [Json.fieldD, Json.member?]
  rcases hkey : lookupEntry key members with _ | j
  · rfl
  · have hmem : (key, j) ∈ members := mem_of_lookupEntry hkey
    have hcheck := (check_object_iff.1 h).2 _ hmem s hfield
    simp [decode_of_check hcheck, Except.toOption]

/-- A field of a record that is itself a field, and no array. When the outer field is missing, the
inner one is too. -/
theorem fieldD_field_of_check {α : Type} {inner outer key : String}
    {fields' : List (String × Schema)} {s : Schema}
    (h : (record name (.ofDefault fields)).check (Json.object members) = .ok ())
    (houter : lookupEntry outer fields = some (record inner (.ofDefault fields')))
    (harray : ∀ items, (Json.object members).member? outer ≠ some (.array items))
    (hinner : lookupEntry key fields' = some s) (index : Nat) (read : Json → α) (default : α) :
    (((Json.object members).member? outer).getD (.object [])).fieldD index key read default
      = ((((Json.object members).member? outer).bind (Json.member? key)).bind fun j =>
        (s.decode read j).toOption).getD default := by
  rcases hkey : (Json.object members).member? outer with _ | j
  · rfl
  · have hcheck := (check_object_iff.1 h).2 _ (mem_of_lookupEntry hkey) _ houter
    rcases exists_of_check_record hcheck with ⟨ms, rfl⟩ | ⟨items, rfl⟩
    · exact fieldD_of_check hcheck hinner index read default
    · exact absurd hkey (harray items)

/-- An object of accepted contents is accepted, in whatever order they were written, if no field is
missing that may not be. -/
theorem check_record_ofMembers {fields : Fields} (hmerged : fields.hasMerged = false)
    (h : ∀ m ∈ members, ∀ s, fields.schemaOf? m.1 = some s → s.check m.2 = .ok ())
    (hrequired : ∀ key ∈ fields.required, key ∈ members.map (·.1)) :
    (record name fields).check (Json.ofMembers members) = .ok () := by
  obtain ⟨entries, heq, hincreasing, hmem, hlookup⟩ := Json.exists_ofMembers members
  rw [heq, check_record_iff hmerged]
  refine ⟨List.Pairwise.filter _ (Table.keys_nodup ⟨entries, hincreasing⟩),
    fun m hm => h m (hmem m hm), fun key hkey => ?_⟩
  have hpresent : key ∈ members.reverse.map (·.1) := by simpa using hrequired key hkey
  obtain ⟨value, hvalue⟩ := exists_lookupEntry_of_mem hpresent
  rw [← hlookup] at hvalue
  exact List.mem_map_of_mem (f := (·.1)) (mem_of_lookupEntry hvalue)

theorem check_ofMembers
    (h : ∀ m ∈ members, ∀ s, lookupEntry m.1 fields = some s → s.check m.2 = .ok ()) :
    (record name (.ofDefault fields)).check (Json.ofMembers members) = .ok () := by
  refine check_record_ofMembers (Fields.hasMerged_ofDefault fields) ?_ ?_
  · simpa only [Fields.schemaOf?_ofDefault] using h
  · simp [Fields.required_ofDefault]

end Schema

end ScanRelay
