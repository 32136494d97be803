import ScanRelay.Proofs.Telemetry

/-!
# How findings are batched

Between two batches an issue is known by what is cached, and inside one by what was met before. The
two come to the same, because after a merge the identities of its batch are cached, those of refused
issues included (`Cache.mem_identities_of_issuesOf`). So two merges in a row, counted together,
bring what one merge of both batches does (`Merge.Brings.append`). When the batches change places,
another issue may come first of its identity, and nothing else changes (`merging_ignores_batching`).
-/

namespace ScanRelay

/-! ## First issues -/

theorem mem_map_identity_firsts {known : List String} {batch : List Issue} {x : String} :
    x ∈ (firsts known batch).map Issue.identity ↔ x ∉ known ∧ x ∈ batch.map Issue.identity := by
  simp only [List.mem_map]
  constructor
  · rintro ⟨i, hi, rfl⟩
    exact ⟨(mem_firsts_iff.1 hi).1, i, firsts_subset hi, rfl⟩
  · rintro ⟨hnew, i, hi, rfl⟩
    exact exists_mem_firsts hi hnew

/-- Batches of the same issues have equally many first ones. -/
theorem length_firsts_of_perm {xs ys : List Issue} (h : xs.Perm ys) (known : List String) :
    (firsts known xs).length = (firsts known ys).length := by
  have hidentities : ((firsts known xs).map Issue.identity).Perm
      ((firsts known ys).map Issue.identity) := by
    refine (List.perm_ext_iff_of_nodup (nodup_map_identity_firsts known xs)
      (nodup_map_identity_firsts known ys)).2 fun x => ?_
    rw [mem_map_identity_firsts, mem_map_identity_firsts, (h.map _).mem_iff]
  simpa using hidentities.length_eq

/-! ## What a merge brings -/

namespace Cache

/-- Merges a batch, visiting its files in some order. -/
def mergeBy (order : VisitOrder) (c : Cache) (t : Tally) (batch : List Issue) : Merge :=
  mergeIn (order.arrange (filesOf batch)) c t batch

namespace Merge

/-- The second of two merges in a row, with what the first accepted and refused counted in. -/
def countedFrom (m n : Merge) : Merge :=
  { n with
    accepted := m.accepted + n.accepted
    duplicates := m.duplicates + n.duplicates }

/-- Over a cache and a tally, the merge has brought a batch. -/
structure Brings (m : Merge) (c : Cache) (t : Tally) (batch : List Issue) : Prop where
  keys : ∀ p, p ∈ m.cache.keys ↔ p ∈ c.keys ∨ ∃ i ∈ batch, i.path = p
  issues : ∀ p, m.cache.issuesOf p
    = c.issuesOf p ++ (c.newIn batch).filter fun i => i.path = p
  tally : m.tally = t.recordAll (c.newIn batch)
  accepted : m.accepted = (c.newIn batch).length
  handled : m.accepted + m.duplicates = batch.length

variable {m n : Merge} {c : Cache} {t : Tally} {batch xs ys : List Issue}

theorem brings_mergeBy (hbatch : Unambiguous batch) (order : VisitOrder) (c : Cache) (t : Tally) :
    (c.mergeBy order t batch).Brings c t batch where
  keys := mem_keys_mergeIn_iff (order.perm _) c t
  issues := issuesOf_mergeIn hbatch (order.perm _) c t
  tally := tally_mergeIn hbatch (order.perm _) c t
  accepted := accepted_mergeIn hbatch (order.perm _) c t
  handled := handled_mergeIn (order.perm _) c t

namespace Brings

/-- What two batches bring as one is what the first brings and what the second brings after it. -/
theorem newIn_append (h : m.Brings c t xs) (ys : List Issue) :
    c.newIn (xs ++ ys) = c.newIn xs ++ m.cache.newIn ys := by
  unfold newIn
  rw [firsts_append]
  congr 1
  exact firsts_congr fun i _ => (mem_identities_of_issuesOf h.issues).symm

theorem append (h : m.Brings c t xs) (h' : n.Brings m.cache m.tally ys) :
    (m.countedFrom n).Brings c t (xs ++ ys) where
  keys := by
    intro p
    show p ∈ n.cache.keys ↔ _
    simp only [h'.keys, h.keys, List.mem_append, or_and_right, exists_or, or_assoc]
  issues := by
    intro p
    show n.cache.issuesOf p = _
    rw [h'.issues, h.issues, h.newIn_append, List.filter_append, List.append_assoc]
  tally := by
    show n.tally = _
    rw [h'.tally, h.tally, h.newIn_append, Tally.recordAll_append]
  accepted := by
    show m.accepted + n.accepted = _
    rw [h'.accepted, h.accepted, h.newIn_append, List.length_append]
  handled := by
    have hm := h.handled
    have hn := h'.handled
    show m.accepted + n.accepted + (m.duplicates + n.duplicates) = _
    rw [List.length_append]
    omega

/-- What a merge has brought tells all of it but the order in which identities were met. -/
theorem unique (h : m.Brings c t batch) (h' : n.Brings c t batch) : m.cache = n.cache
    ∧ m.tally = n.tally ∧ m.accepted = n.accepted ∧ m.duplicates = n.duplicates := by
  have haccepted : m.accepted = n.accepted := h.accepted.trans h'.accepted.symm
  refine ⟨ext_issuesOf (fun p => ?_) fun p => ?_, h.tally.trans h'.tally.symm, haccepted, ?_⟩
  · rw [h.keys, h'.keys]
  · rw [h.issues, h'.issues]
  · have hm := h.handled
    have hn := h'.handled
    omega

/-- The identities that a file has afterwards. -/
theorem mem_map_identity (h : m.Brings c t batch) (hbatch : Unambiguous batch) {p x : String} :
    x ∈ (m.cache.issuesOf p).map Issue.identity ↔ x ∈ (c.issuesOf p).map Issue.identity
      ∨ x ∉ c.identities ∧ ∃ i ∈ batch, i.path = p ∧ i.identity = x := by
  rw [h.issues, newIn, filter_firsts hbatch, List.map_append, List.mem_append,
    mem_map_identity_firsts]
  simp [and_assoc]

/-- Batches of the same issues bring the same files, identities and totals. -/
theorem of_perm (h : m.Brings c t xs) (h' : n.Brings c t ys) (hxs : Unambiguous xs)
    (hperm : xs.Perm ys) : (∀ p, p ∈ m.cache.keys ↔ p ∈ n.cache.keys)
      ∧ (∀ p x, x ∈ (m.cache.issuesOf p).map Issue.identity
        ↔ x ∈ (n.cache.issuesOf p).map Issue.identity)
      ∧ m.accepted = n.accepted ∧ m.duplicates = n.duplicates := by
  have hys : Unambiguous ys := hxs.of_subset hperm.symm.subset
  have haccepted : m.accepted = n.accepted := by
    rw [h.accepted, h'.accepted]
    exact length_firsts_of_perm hperm c.identities
  refine ⟨fun p => ?_, fun p x => ?_, haccepted, ?_⟩
  · simp only [h.keys, h'.keys, hperm.mem_iff]
  · simp only [h.mem_map_identity hxs, h'.mem_map_identity hys, hperm.mem_iff]
  · have hlength := hperm.length_eq
    have hm := h.handled
    have hn := h'.handled
    omega

end Brings

end Merge

end Cache

open Cache

/-- Two batches in which no two files share an identity, merged over any cache and tally. To merge
them as one or one after the other, whatever the orders in which files are visited, gives the same
cache and the same tally, and as many issues are accepted and refused. When the second is merged
before the first, the cache has the same files, each with the same identities, and again as many
issues are accepted and refused. -/
theorem merging_ignores_batching {xs ys : List Issue} (h : Unambiguous (xs ++ ys)) (c : Cache)
    (t : Tally) (order order₁ order₂ order₃ order₄ : VisitOrder) :
    let whole := c.mergeBy order t (xs ++ ys)
    let first := c.mergeBy order₁ t xs
    let second := first.cache.mergeBy order₂ first.tally ys
    let early := c.mergeBy order₃ t ys
    let late := early.cache.mergeBy order₄ early.tally xs
    c.mergeBy .listed t (xs ++ ys) = c.merge t (xs ++ ys)
    ∧ (second.cache = whole.cache ∧ second.tally = whole.tally
      ∧ first.accepted + second.accepted = whole.accepted
      ∧ first.duplicates + second.duplicates = whole.duplicates)
    ∧ (∀ p, p ∈ late.cache.keys ↔ p ∈ second.cache.keys)
    ∧ (∀ p x, x ∈ (late.cache.issuesOf p).map Issue.identity
      ↔ x ∈ (second.cache.issuesOf p).map Issue.identity)
    ∧ early.accepted + late.accepted = first.accepted + second.accepted
    ∧ early.duplicates + late.duplicates = first.duplicates + second.duplicates := by
  intro whole first second early late
  have hxs : Unambiguous xs := h.of_subset (List.subset_append_left xs ys)
  have hys : Unambiguous ys := h.of_subset (List.subset_append_right xs ys)
  have hboth : (first.countedFrom second).Brings c t (xs ++ ys) :=
    (Merge.brings_mergeBy hxs order₁ c t).append (Merge.brings_mergeBy hys order₂ _ _)
  have hswapped : (early.countedFrom late).Brings c t (ys ++ xs) :=
    (Merge.brings_mergeBy hys order₃ c t).append (Merge.brings_mergeBy hxs order₄ _ _)
  have hyx : Unambiguous (ys ++ xs) := h.of_subset List.perm_append_comm.subset
  exact ⟨rfl, hboth.unique (Merge.brings_mergeBy h order c t),
    hswapped.of_perm hboth hyx List.perm_append_comm⟩

/-- One issue is cached, one comes in both batches with two severities, and files are visited in
both directions. -/
theorem merging_ignores_batching_repeated :
    let c : Cache := Table.empty.insert "/a/x.js" [Sample.found "1" "/a/x.js"]
    let backwards : VisitOrder := ⟨List.reverse, fun _ => List.reverse_perm _⟩
    let low : Issue := { Sample.found "2" "/a/y.js" with severity := .low }
    let xs := [Sample.found "2" "/a/y.js", Sample.found "1" "/a/x.js"]
    let ys := [low, Sample.found "3" "/a/x.js"]
    let first := c.mergeBy backwards .empty xs
    let early := c.mergeBy backwards .empty ys
    (first.cache.mergeBy .listed first.tally ys).cache
        = (c.mergeBy backwards .empty (xs ++ ys)).cache
      ∧ ("2|/a/y.js" ∈ ((early.cache.mergeBy .listed early.tally xs).cache.issuesOf "/a/y.js").map
        Issue.identity ↔ "2|/a/y.js" ∈ ((first.cache.mergeBy .listed first.tally ys).cache.issuesOf
          "/a/y.js").map Issue.identity)
      ∧ early.accepted + (early.cache.mergeBy .listed early.tally xs).accepted = 2 := by
  intro c backwards low xs ys first early
  have hbatches : Unambiguous (xs ++ ys) := by decide +kernel
  obtain ⟨-, ⟨hcache, -⟩, -, hidentities, haccepted, -⟩ :=
    merging_ignores_batching hbatches c .empty backwards backwards .listed backwards .listed
  exact ⟨hcache, hidentities _ _, haccepted.trans (by decide +kernel)⟩

end ScanRelay
