/-!
# Tables

A finite map from text to values. The entries stand in strictly increasing order of their keys, so
two tables with the same look-ups are equal, and every walk over a table follows that order. The
order of text is by code point, which is also the order of its UTF-8 bytes.
-/

namespace ScanRelay

universe u v

/-- The entries with `key` bound to `value`, in the place its order gives it. -/
def insertEntry {α : Type u} (key : String) (value : α) :
    List (String × α) → List (String × α)
  | [] => [(key, value)]
  | (k, v) :: rest =>
    if key < k then (key, value) :: (k, v) :: rest
    else if key = k then (key, value) :: rest
    else (k, v) :: insertEntry key value rest

/-- The value bound to `key`. -/
def lookupEntry {α : Type u} (key : String) : List (String × α) → Option α
  | [] => none
  | (k, v) :: rest => if key = k then some v else lookupEntry key rest

/-- Keys in strictly increasing order. -/
def Increasing {α : Type u} (entries : List (String × α)) : Prop :=
  entries.Pairwise fun a b => a.1 < b.1

theorem mem_insertEntry {α : Type u} {key : String} {value : α} {x : String × α} :
    ∀ {entries : List (String × α)}, x ∈ insertEntry key value entries →
      x = (key, value) ∨ x ∈ entries
  | [], h => by simpa [insertEntry] using h
  | (k, v) :: rest, h => by
    unfold insertEntry at h
    split at h
    · simpa using h
    · split at h
      · rcases List.mem_cons.1 h with h | h
        · exact .inl h
        · exact .inr (List.mem_cons_of_mem _ h)
      · rcases List.mem_cons.1 h with h | h
        · exact .inr (h ▸ List.mem_cons_self)
        · rcases mem_insertEntry h with h | h
          · exact .inl h
          · exact .inr (List.mem_cons_of_mem _ h)

theorem increasing_insertEntry {α : Type u} {key : String} {value : α} :
    ∀ {entries : List (String × α)}, Increasing entries →
      Increasing (insertEntry key value entries)
  | [], _ => by simp [insertEntry, Increasing]
  | (k, v) :: rest, h => by
    obtain ⟨hk, hr⟩ := List.pairwise_cons.1 h
    unfold insertEntry
    split
    · rename_i hlt
      refine List.pairwise_cons.2 ⟨fun x hx => ?_, h⟩
      rcases List.mem_cons.1 hx with rfl | hx
      · exact hlt
      · exact String.lt_trans hlt (hk x hx)
    · rename_i hge
      split
      · rename_i heq
        exact List.pairwise_cons.2 ⟨heq ▸ hk, hr⟩
      · rename_i hne
        refine List.pairwise_cons.2 ⟨fun x hx => ?_, increasing_insertEntry hr⟩
        rcases mem_insertEntry hx with rfl | hx
        · exact Std.lt_of_le_of_ne hge fun e => hne e.symm
        · exact hk x hx

/-- A finite map whose entries are sorted by key. -/
structure Table (α : Type u) where
  entries : List (String × α)
  increasing : Increasing entries
deriving DecidableEq

namespace Table

variable {α : Type u} {β : Type v}

def empty : Table α := ⟨[], .nil⟩

instance : Inhabited (Table α) := ⟨empty⟩

instance : EmptyCollection (Table α) := ⟨empty⟩

def get? (t : Table α) (key : String) : Option α := lookupEntry key t.entries

def contains (t : Table α) (key : String) : Bool := (t.get? key).isSome

def insert (t : Table α) (key : String) (value : α) : Table α :=
  ⟨insertEntry key value t.entries, increasing_insertEntry t.increasing⟩

/-- Keeps the entries that `p` accepts. -/
def filter (p : String → α → Bool) (t : Table α) : Table α :=
  ⟨t.entries.filter fun e => p e.1 e.2, t.increasing.filter _⟩

def erase (t : Table α) (key : String) : Table α := t.filter fun k _ => k ≠ key

/-- Applies `f` to every value. -/
def mapValues (f : String → α → β) (t : Table α) : Table β :=
  ⟨t.entries.map fun e => (e.1, f e.1 e.2), by
    simpa [Increasing, List.pairwise_map] using t.increasing⟩

/-- Applies `f` to the value of `key`; an absent key stays absent. -/
def modify (t : Table α) (key : String) (f : α → α) : Table α :=
  t.mapValues fun k v => if k = key then f v else v

def keys (t : Table α) : List String := t.entries.map (·.1)

def values (t : Table α) : List α := t.entries.map (·.2)

def size (t : Table α) : Nat := t.entries.length

def isEmpty (t : Table α) : Bool := t.entries.isEmpty

/-- Later bindings of a key replace earlier ones. -/
def ofList (bindings : List (String × α)) : Table α :=
  bindings.foldl (fun t b => t.insert b.1 b.2) empty

end Table

theorem lookupEntry_insertEntry {α : Type u} {key k : String} {value : α} :
    ∀ {entries : List (String × α)}, Increasing entries →
      lookupEntry k (insertEntry key value entries)
        = if k = key then some value else lookupEntry k entries
  | [], _ => by simp [insertEntry, lookupEntry]
  | (k', v) :: rest, h => by
    obtain ⟨_, hr⟩ := List.pairwise_cons.1 h
    unfold insertEntry
    split
    · rfl
    · split
      · rename_i heq
        subst heq
        simp only [lookupEntry]
        split <;> rfl
      · rename_i hne
        simp only [lookupEntry, lookupEntry_insertEntry hr]
        split
        · rename_i heq
          subst heq
          rw [if_neg fun e => hne e.symm]
        · rfl

theorem lookupEntry_eq_some_iff {α : Type u} {key : String} {value : α} :
    ∀ {entries : List (String × α)}, Increasing entries →
      (lookupEntry key entries = some value ↔ (key, value) ∈ entries)
  | [], _ => by simp [lookupEntry]
  | (k, v) :: rest, h => by
    obtain ⟨hk, hr⟩ := List.pairwise_cons.1 h
    simp only [lookupEntry, List.mem_cons, Prod.mk.injEq]
    split
    · rename_i heq
      subst heq
      refine ⟨fun hv => .inl ⟨rfl, (Option.some.inj hv).symm⟩, fun hm => ?_⟩
      rcases hm with ⟨-, rfl⟩ | hm
      · rfl
      · exact absurd (hk _ hm) (String.lt_irrefl _)
    · rename_i hne
      rw [lookupEntry_eq_some_iff hr]
      exact ⟨.inr, fun hm => hm.resolve_left fun e => hne e.1⟩

theorem lookupEntry_map {α : Type u} {β : Type v} (f : String → α → β) (key : String) :
    ∀ entries : List (String × α),
      lookupEntry key (entries.map fun e => (e.1, f e.1 e.2))
        = (lookupEntry key entries).map (f key)
  | [] => rfl
  | (k, v) :: rest => by
    simp only [List.map_cons, lookupEntry, lookupEntry_map f key rest]
    split
    · rename_i heq
      subst heq
      rfl
    · rfl

namespace Table

variable {α : Type u} {β : Type v}

theorem get?_insert (t : Table α) (key k : String) (value : α) :
    (t.insert key value).get? k = if k = key then some value else t.get? k :=
  lookupEntry_insertEntry t.increasing

@[simp]
theorem get?_empty (key : String) : (empty : Table α).get? key = none := rfl

theorem mem_entries_iff {t : Table α} {key : String} {value : α} :
    (key, value) ∈ t.entries ↔ t.get? key = some value :=
  (lookupEntry_eq_some_iff t.increasing).symm

theorem mem_keys_iff {t : Table α} {key : String} : key ∈ t.keys ↔ ∃ v, t.get? key = some v := by
  simp only [keys, List.mem_map, Prod.exists, exists_and_right, exists_eq_right, mem_entries_iff]

theorem mem_values_iff {t : Table α} {value : α} :
    value ∈ t.values ↔ ∃ key, t.get? key = some value := by
  simp only [values, List.mem_map, Prod.exists, exists_eq_right, mem_entries_iff]

theorem mem_keys_insert {t : Table α} {key k : String} {value : α} :
    k ∈ (t.insert key value).keys ↔ k = key ∨ k ∈ t.keys := by
  simp only [mem_keys_iff, get?_insert]
  split
  · rename_i hk
    simp [hk]
  · rename_i hk
    simp [hk]

theorem mem_keys_ofList {bindings : List (String × α)} {k : String} :
    k ∈ (ofList bindings).keys ↔ k ∈ bindings.map (·.1) := by
  have hfold : ∀ t : Table α, k ∈ (bindings.foldl (fun t b => t.insert b.1 b.2) t).keys
      ↔ k ∈ bindings.map (·.1) ∨ k ∈ t.keys := by
    induction bindings with
    | nil => simp
    | cons b rest ih =>
      intro t
      rw [List.foldl_cons, ih, mem_keys_insert, List.map_cons, List.mem_cons, or_left_comm,
        or_assoc]
  exact (hfold empty).trans (by simp [keys, empty])

theorem keys_nodup (t : Table α) : t.keys.Nodup := by
  refine List.pairwise_map.2 (List.Pairwise.imp ?_ t.increasing)
  intro a b hlt heq
  rw [heq] at hlt
  exact String.lt_irrefl _ hlt

theorem get?_mapValues (t : Table α) (f : String → α → β) (key : String) :
    (t.mapValues f).get? key = (t.get? key).map (f key) :=
  lookupEntry_map f key t.entries

theorem get?_erase (t : Table α) (key k : String) :
    (t.erase key).get? k = if k = key then none else t.get? k := by
  refine Option.ext fun v => ?_
  rw [← mem_entries_iff]
  simp only [erase, filter, List.mem_filter, mem_entries_iff, decide_eq_true_eq]
  split
  · rename_i heq
    simp [heq]
  · rename_i hne
    simp [hne]

@[simp]
theorem keys_mapValues (t : Table α) (f : String → α → β) : (t.mapValues f).keys = t.keys := by
  simp [keys, mapValues, Function.comp_def]

end Table

end ScanRelay
