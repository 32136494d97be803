import Mathlib.Data.List.Lattice
import Mathlib.Data.List.Nodup
import Mathlib.Data.List.Pairwise
import ScanRelay.Store.Cache

/-!
# Identities in the cache

A cache is *sound* when each issue lies under its own file and no two issues have one identity.
Merging keeps it so in whatever order the files of a batch are visited (`mergeIn_sound`): at every
moment the identities met so far include all those that are cached, so what is added is new to the
whole cache. Taking issues away keeps it so as well (`Sound.of_sublist`).
-/

namespace ScanRelay

namespace Cache

/-! ## Look-ups -/

@[simp]
theorem issuesOf_empty (p : String) : issuesOf Table.empty p = [] := rfl

theorem issuesOf_append (c : Cache) (p q : String) (is : List Issue) :
    (c.append p is).issuesOf q = if q = p then c.issuesOf p ++ is else c.issuesOf q := by
  simp only [issuesOf, append, Table.get?_insert]
  split <;> rfl

theorem issuesOf_append_nil (c : Cache) (p q : String) :
    (c.append p []).issuesOf q = c.issuesOf q := by
  rw [issuesOf_append]
  split
  · rename_i heq
    rw [heq, List.append_nil]
  · rfl

theorem issuesOf_erase (c : Cache) (p q : String) :
    issuesOf (Table.erase c p) q = if q = p then [] else c.issuesOf q := by
  simp only [issuesOf, Table.get?_erase]
  split <;> rfl

theorem issuesOf_mapValues (c : Cache) (f : List Issue → List Issue) (hf : f [] = []) (p : String) :
    issuesOf (Table.mapValues (fun _ is => f is) c) p = f (c.issuesOf p) := by
  simp only [issuesOf, Table.get?_mapValues]
  cases c.get? p with
  | none => exact hf.symm
  | some is => rfl

theorem issuesOf_eq_of_mem {c : Cache} {e : String × List Issue} (h : e ∈ c.entries) :
    c.issuesOf e.1 = e.2 := by
  rw [issuesOf, Table.mem_entries_iff.1 h]
  rfl

theorem mem_keys_of_issuesOf_ne_nil {c : Cache} {p : String} (h : c.issuesOf p ≠ []) :
    p ∈ c.keys := by
  unfold issuesOf at h
  rcases hg : c.get? p with _ | is
  · rw [hg] at h
    exact absurd rfl h
  · exact Table.mem_keys_iff.2 ⟨is, hg⟩

theorem mem_identities_iff {c : Cache} {x : String} :
    x ∈ c.identities ↔ ∃ p, ∃ i ∈ c.issuesOf p, i.identity = x := by
  simp only [identities, List.mem_map, List.mem_flatten, Table.mem_values_iff]
  constructor
  · rintro ⟨i, ⟨is, ⟨p, hp⟩, hi⟩, rfl⟩
    exact ⟨p, i, by rwa [issuesOf, hp], rfl⟩
  · rintro ⟨p, i, hi, rfl⟩
    obtain ⟨is, hp⟩ :=
      Table.mem_keys_iff.1 (mem_keys_of_issuesOf_ne_nil (List.ne_nil_of_mem hi))
    rw [issuesOf, hp] at hi
    exact ⟨i, ⟨is, ⟨p, hp⟩, hi⟩, rfl⟩

theorem identities_eq_flatMap (c : Cache) :
    c.identities = c.keys.flatMap fun p => (c.issuesOf p).map Issue.identity := by
  have hv : c.values = c.keys.map c.issuesOf := by
    simp only [Table.values, Table.keys, List.map_map]
    exact List.map_congr_left fun e he => (issuesOf_eq_of_mem he).symm
  rw [identities, hv, List.map_flatten, List.map_map, List.flatMap_def]
  rfl

/-- Identities are distinct when they are so inside each file and between any two files. -/
theorem identities_nodup_iff {c : Cache} :
    c.identities.Nodup ↔ (∀ p, ((c.issuesOf p).map Issue.identity).Nodup) ∧
      ∀ p q, p ≠ q → ∀ i ∈ c.issuesOf p, ∀ j ∈ c.issuesOf q, i.identity ≠ j.identity := by
  rw [identities_eq_flatMap, List.nodup_flatMap]
  constructor
  · rintro ⟨hin, hout⟩
    have : Std.Symm (Function.onFun List.Disjoint fun p => (c.issuesOf p).map Issue.identity) :=
      ⟨fun _ _ h => List.Disjoint.symm h⟩
    refine ⟨fun p => ?_, fun p q hpq i hi j hj he => ?_⟩
    · by_cases hp : c.issuesOf p = []
      · simp [hp]
      · exact hin p (mem_keys_of_issuesOf_ne_nil hp)
    · have hp := mem_keys_of_issuesOf_ne_nil (List.ne_nil_of_mem hi)
      have hq := mem_keys_of_issuesOf_ne_nil (List.ne_nil_of_mem hj)
      exact hout.forall hp hq hpq (List.mem_map_of_mem hi) (he ▸ List.mem_map_of_mem hj)
  · rintro ⟨hin, hout⟩
    refine ⟨fun p _ => hin p, c.keys_nodup.imp fun {p q} hpq x hx hy => ?_⟩
    obtain ⟨i, hi, rfl⟩ := List.mem_map.1 hx
    obtain ⟨j, hj, hji⟩ := List.mem_map.1 hy
    exact hout p q hpq i hi j hj hji.symm

/-! ## Soundness -/

/-- Each issue lies under its own file, and no two issues of the cache have one identity. -/
structure Sound (c : Cache) : Prop where
  keyed : ∀ p, ∀ i ∈ c.issuesOf p, i.path = p
  distinct : c.identities.Nodup

theorem sound_empty : Sound Table.empty where
  keyed := fun _ i hi => absurd hi (by simp)
  distinct := List.nodup_nil

theorem Sound.of_sublist {c d : Cache} (h : c.Sound)
    (hsub : ∀ p, (d.issuesOf p).Sublist (c.issuesOf p)) : d.Sound := by
  obtain ⟨hin, hout⟩ := identities_nodup_iff.1 h.distinct
  refine ⟨fun p i hi => h.keyed p i ((hsub p).subset hi), identities_nodup_iff.2 ⟨fun p => ?_, ?_⟩⟩
  · exact (hin p).sublist ((hsub p).map _)
  · intro p q hpq i hi j hj
    exact hout p q hpq i ((hsub p).subset hi) j ((hsub q).subset hj)

theorem Sound.of_issuesOf_eq {c d : Cache} (h : c.Sound)
    (heq : ∀ p, d.issuesOf p = c.issuesOf p) : d.Sound :=
  h.of_sublist fun p => heq p ▸ List.Sublist.refl _

theorem Sound.append {c : Cache} (h : c.Sound) {i : Issue} (hi : i.identity ∉ c.identities) :
    (c.append i.path [i]).Sound := by
  obtain ⟨hin, hout⟩ := identities_nodup_iff.1 h.distinct
  have hnew : ∀ p, ∀ j ∈ c.issuesOf p, j.identity ≠ i.identity := fun p j hj he =>
    hi (mem_identities_iff.2 ⟨p, j, hj, he⟩)
  have hmem : ∀ p, ∀ j ∈ (c.append i.path [i]).issuesOf p,
      j ∈ c.issuesOf p ∨ p = i.path ∧ j = i := by
    intro p j hj
    rw [issuesOf_append] at hj
    split at hj
    · rename_i hp
      rcases List.mem_append.1 hj with hj | hj
      · exact .inl (hp ▸ hj)
      · exact .inr ⟨hp, List.mem_singleton.1 hj⟩
    · exact .inl hj
  refine ⟨fun p j hj => ?_, identities_nodup_iff.2 ⟨fun p => ?_, ?_⟩⟩
  · rcases hmem p j hj with hj | ⟨rfl, rfl⟩
    · exact h.keyed p j hj
    · rfl
  · rw [issuesOf_append]
    split
    · rw [List.map_append, List.nodup_append]
      refine ⟨hin _, by simp, fun x hx y hy => ?_⟩
      obtain ⟨j, hj, rfl⟩ := List.mem_map.1 hx
      obtain rfl : y = i.identity := by simpa using hy
      exact hnew _ j hj
    · exact hin p
  · intro p q hpq j hj k hk
    rcases hmem p j hj with hj' | ⟨hp, rfl⟩ <;> rcases hmem q k hk with hk' | ⟨hq, rfl⟩
    · exact hout p q hpq j hj' k hk'
    · exact hnew p j hj'
    · exact (hnew q k hk').symm
    · exact absurd (hp.trans hq.symm) hpq

/-! ## Merging -/

namespace Merge

/-- A merge under way: its cache is sound, and all cached identities have been met. -/
structure Sound (m : Merge) : Prop where
  cache : m.cache.Sound
  known : ∀ x ∈ m.cache.identities, x ∈ m.known

theorem sound_start {c : Cache} (h : c.Sound) (t : Tally) : (start c t).Sound :=
  ⟨h, fun _ hx => hx⟩

theorem Sound.issue {m : Merge} (h : m.Sound) (entry : List String) (i : Issue) :
    (m.issue entry i).Sound := by
  unfold Merge.issue
  split
  · exact ⟨h.cache, h.known⟩
  · rename_i hnew
    have hi : i.identity ∉ m.cache.identities := fun hm => hnew (by simp [h.known _ hm])
    refine ⟨h.cache.append hi, fun x hx => ?_⟩
    obtain ⟨p, j, hj, rfl⟩ := mem_identities_iff.1 hx
    rw [issuesOf_append] at hj
    split at hj
    · rcases List.mem_append.1 hj with hj | hj
      · exact List.mem_cons_of_mem _ (h.known _ (mem_identities_iff.2 ⟨_, j, hj, rfl⟩))
      · rw [List.mem_singleton.1 hj]
        exact List.mem_cons_self
    · exact List.mem_cons_of_mem _ (h.known _ (mem_identities_iff.2 ⟨_, j, hj, rfl⟩))

theorem Sound.file {m : Merge} (h : m.Sound) (batch : List Issue) (p : String) :
    (file batch m p).Sound := by
  have hopen : Sound { m with cache := m.cache.append p [] } := by
    refine ⟨h.cache.of_issuesOf_eq (issuesOf_append_nil m.cache p), fun x hx => ?_⟩
    obtain ⟨q, j, hj, rfl⟩ := mem_identities_iff.1 hx
    exact h.known _ (mem_identities_iff.2 ⟨q, j, issuesOf_append_nil m.cache p q ▸ hj, rfl⟩)
  exact List.foldlRecOn _ _ hopen fun _ hm i _ => hm.issue _ i

end Merge

/-- Merging keeps a cache sound, in whatever order the files are visited. -/
theorem mergeIn_sound {c : Cache} (h : c.Sound) (files : List String) (t : Tally)
    (batch : List Issue) : (mergeIn files c t batch).cache.Sound :=
  (List.foldlRecOn (motive := Merge.Sound) files _ (Merge.sound_start h t)
    fun _ hm p _ => hm.file batch p).cache

end Cache

end ScanRelay
