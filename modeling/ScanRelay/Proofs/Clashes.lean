import ScanRelay.Proofs.Merging

/-!
# Identities that clash

The identity of an issue is its id and its path with a bar between them, and either may hold a bar
itself. Two issues of different files have one identity exactly when the id of one goes on, past a
bar, into the path of the other (`identity_eq_iff`). So a merge can take an issue for one that it
knows from another file. It does so exactly when an issue that clashes with it is cached, and every
other issue of the batch is afterwards found in its own file (`mergeIn_keeps_iff`).
-/

namespace ScanRelay

/-- A bar may be taken for the one that joins two texts. -/
theorem joined_eq_iff {a b p q : String} : a ++ "|" ++ p = b ++ "|" ++ q ↔
    (a = b ∧ p = q) ∨ (∃ w, b = a ++ "|" ++ w ∧ p = w ++ "|" ++ q)
      ∨ ∃ w, a = b ++ "|" ++ w ∧ q = w ++ "|" ++ p := by
  -- The longer of `a` and `b` is the shorter with the bar and a part of the other path.
  have hlonger : ∀ {a b p q : String} {rest : List Char}, b.toList = a.toList ++ rest →
      '|' :: p.toList = rest ++ '|' :: q.toList →
        (a = b ∧ p = q) ∨ ∃ w, b = a ++ "|" ++ w ∧ p = w ++ "|" ++ q := by
    intro a b p q rest hb hp
    cases rest with
    | nil =>
      refine .inl ⟨?_, ?_⟩
      · exact String.toList_inj.1 (by simpa using hb.symm)
      · exact String.toList_inj.1 (by simpa using hp)
    | cons c rest =>
      obtain ⟨rfl, hp⟩ := List.cons.inj hp
      refine .inr ⟨String.ofList rest, ?_, ?_⟩
      · exact String.toList_inj.1 (by simpa using hb)
      · exact String.toList_inj.1 (by simpa using hp)
  constructor
  · intro h
    have hlists : a.toList ++ '|' :: p.toList = b.toList ++ '|' :: q.toList := by
      simpa using congrArg String.toList h
    rcases List.append_eq_append_iff.1 hlists with ⟨rest, hb, hp⟩ | ⟨rest, ha, hq⟩
    · exact (hlonger hb hp).imp_right .inl
    · rcases hlonger ha hq with ⟨hba, hqp⟩ | h
      · exact .inl ⟨hba.symm, hqp.symm⟩
      · exact .inr (.inr h)
  · rintro (⟨rfl, rfl⟩ | ⟨w, rfl, rfl⟩ | ⟨w, rfl, rfl⟩)
    · rfl
    · simp only [String.append_assoc]
    · simp only [String.append_assoc]

namespace Issue

/-- The id of one goes on past a bar, and what follows there is where the path of the other
begins. -/
def Clashes (i j : Issue) : Prop :=
  ∃ w, (j.id = i.id ++ "|" ++ w ∧ i.path = w ++ "|" ++ j.path)
    ∨ (i.id = j.id ++ "|" ++ w ∧ j.path = w ++ "|" ++ i.path)

theorem identity_eq_iff {i j : Issue} :
    i.identity = j.identity ↔ (i.id = j.id ∧ i.path = j.path) ∨ i.Clashes j := by
  rw [identity, identity, joined_eq_iff, Clashes, exists_or]

theorem Clashes.identity_eq {i j : Issue} (h : i.Clashes j) : i.identity = j.identity :=
  identity_eq_iff.2 (.inr h)

/-- In one file the id tells issues apart. -/
theorem identity_eq_iff_of_path_eq {i j : Issue} (h : i.path = j.path) :
    i.identity = j.identity ↔ i.id = j.id := by
  rw [identity, identity, h, String.append_left_inj, String.append_left_inj]

theorem Clashes.path_ne {i j : Issue} (h : i.Clashes j) : i.path ≠ j.path := by
  intro hp
  have hlength := congrArg String.length hp
  obtain ⟨w, ⟨-, h⟩ | ⟨-, h⟩⟩ := h <;>
  · rw [h] at hlength
    simp only [String.length_append] at hlength
    have hbar : "|".length = 1 := by decide
    omega

end Issue

namespace Cache

/-- The caches that merges make from the empty one, each visiting its files in some order. -/
inductive Merged : Cache → Prop
  | empty : Merged .empty
  | merge {c : Cache} {batch : List Issue} {files : List String} (t : Tally)
      (hfiles : files.Perm (filesOf batch)) :
      Merged c → Merged (mergeIn files c t batch).cache

theorem Merged.sound {c : Cache} (h : c.Merged) : c.Sound := by
  induction h with
  | empty => exact sound_empty
  | merge t hfiles _ ih => exact mergeIn_sound ih _ t _

/-- In a sound cache an identity is that of an issue in its own file or of one that clashes. -/
theorem Sound.mem_identities_iff {c : Cache} (h : c.Sound) {i : Issue} :
    i.identity ∈ c.identities ↔ (∃ j ∈ c.issuesOf i.path, j.id = i.id)
      ∨ ∃ p, ∃ j ∈ c.issuesOf p, i.Clashes j := by
  rw [Cache.mem_identities_iff]
  constructor
  · rintro ⟨p, j, hj, hji⟩
    rcases Issue.identity_eq_iff.1 hji.symm with ⟨hid, hpath⟩ | hclash
    · exact .inl ⟨j, by rwa [hpath, h.keyed p j hj], hid.symm⟩
    · exact .inr ⟨p, j, hj, hclash⟩
  · rintro (⟨j, hj, hid⟩ | ⟨p, j, hj, hclash⟩)
    · exact ⟨_, j, hj, (Issue.identity_eq_iff_of_path_eq (h.keyed _ j hj)).2 hid⟩
    · exact ⟨p, j, hj, hclash.identity_eq.symm⟩

/-! ## What a merge keeps -/

theorem firsts_concat (known : List String) (xs : List Issue) (i : Issue) :
    firsts known (xs ++ [i]) = firsts known xs
      ++ if i.identity ∈ known ∨ ∃ j ∈ xs, j.identity = i.identity then [] else [i] := by
  simp only [firsts_append, firsts_cons, firsts_nil, List.mem_append, List.mem_map]

/-- An issue is skipped when its identity is cached or came before it. -/
theorem accepted_concat_iff {xs : List Issue} {i : Issue} (h : Unambiguous (xs ++ [i])) (c : Cache)
    (t : Tally) : (c.merge t (xs ++ [i])).accepted = (c.merge t xs).accepted
      ↔ i.identity ∈ c.identities ∨ ∃ j ∈ xs, j.identity = i.identity := by
  have hxs : Unambiguous xs := h.of_subset (List.subset_append_left xs [i])
  rw [merge, merge, accepted_mergeIn h (.refl _), accepted_mergeIn hxs (.refl _), newIn, newIn,
    firsts_concat, List.length_append]
  split <;> simp [*]

/-- In a cache that merges have made, each issue of a batch is afterwards found in its own file,
unless an issue that clashes with it was cached. When its turn comes it is skipped for the sake of
an issue with its id in its own file, cached or earlier in the batch, or of one that clashes. -/
theorem mergeIn_keeps_iff {c : Cache} (hc : c.Merged) {batch : List Issue}
    (hbatch : Unambiguous batch) {files : List String} (hfiles : files.Perm (filesOf batch))
    (t : Tally) {i : Issue} (hi : i ∈ batch) :
    ((∃ j ∈ (mergeIn files c t batch).cache.issuesOf i.path, j.id = i.id)
        ↔ ¬ ∃ p, ∃ j ∈ c.issuesOf p, i.Clashes j)
      ∧ ∀ xs ys, batch = xs ++ i :: ys →
        ((c.merge t (xs ++ [i])).accepted = (c.merge t xs).accepted
          ↔ (∃ j ∈ c.issuesOf i.path, j.id = i.id) ∨ (∃ j ∈ xs, j.id = i.id ∧ j.path = i.path)
            ∨ ∃ p, ∃ j ∈ c.issuesOf p, i.Clashes j) := by
  have hsound : (mergeIn files c t batch).cache.Sound := mergeIn_sound hc.sound files t batch
  have hissues := issuesOf_mergeIn hbatch hfiles c t
  refine ⟨⟨?_, fun hnone => ?_⟩, ?_⟩
  · rintro ⟨j, hj, hid⟩ ⟨p, k, hk, hclash⟩
    -- The two would have one identity, but no cache that merges make has an identity twice.
    have hk' : k ∈ (mergeIn files c t batch).cache.issuesOf p :=
      hissues p ▸ List.mem_append_left _ hk
    have hjk : j.identity = k.identity :=
      ((Issue.identity_eq_iff_of_path_eq (hsound.keyed _ j hj)).2 hid).trans hclash.identity_eq
    have hpath : i.path ≠ p := hc.sound.keyed p k hk ▸ hclash.path_ne
    exact (identities_nodup_iff.1 hsound.distinct).2 _ p hpath j hj k hk' hjk
  · by_cases hknown : i.identity ∈ c.identities
    · obtain ⟨j, hj, hid⟩ := (hc.sound.mem_identities_iff.1 hknown).resolve_right hnone
      exact ⟨j, hissues i.path ▸ List.mem_append_left _ hj, hid⟩
    · obtain ⟨j, hj, hji⟩ := exists_mem_firsts hi hknown
      have hpath : j.path = i.path := hbatch j (firsts_subset hj) i hi hji
      refine ⟨j, ?_, (Issue.identity_eq_iff_of_path_eq hpath).1 hji⟩
      rw [hissues]
      exact List.mem_append_right _ (List.mem_filter.2 ⟨hj, decide_eq_true hpath⟩)
  · rintro xs ys rfl
    have hprefix : xs ++ [i] <+: xs ++ i :: ys := ⟨ys, by simp⟩
    have hfirst : Unambiguous (xs ++ [i]) := hbatch.of_subset hprefix.subset
    have hearlier : (∃ j ∈ xs, j.identity = i.identity)
        ↔ ∃ j ∈ xs, j.id = i.id ∧ j.path = i.path := by
      refine exists_congr fun j => and_congr_right fun hj => ⟨fun hji => ?_, fun ⟨hid, hpath⟩ => ?_⟩
      · have hpath := hfirst j (List.mem_append_left _ hj) i (by simp) hji
        exact ⟨(Issue.identity_eq_iff_of_path_eq hpath).1 hji, hpath⟩
      · exact (Issue.identity_eq_iff_of_path_eq hpath).2 hid
    rw [accepted_concat_iff hfirst, hc.sound.mem_identities_iff, hearlier, or_assoc, or_comm
      (a := ∃ p, ∃ j ∈ c.issuesOf p, i.Clashes j)]

/-- With one issue cached, a batch that brings it again and another of the same id is kept. -/
theorem mergeIn_keeps_same_id :
    let c := (Cache.merge .empty .empty [Sample.found "1" "/a/x.js"]).cache
    let batch := [Sample.found "1" "/a/x.js", Sample.found "1" "/a/y.js"]
    ∃ j ∈ (mergeIn ["/a/y.js", "/a/x.js"] c .empty batch).cache.issuesOf "/a/y.js", j.id = "1" := by
  intro c batch
  have hc : c.Merged := .merge .empty (.refl _) .empty
  have hbatch : Unambiguous batch := by decide +kernel
  have hnew : Issue.identity (Sample.found "1" "/a/y.js") ∉ c.identities := by decide +kernel
  have hi : Sample.found "1" "/a/y.js" ∈ batch := .tail _ (.head _)
  refine (mergeIn_keeps_iff hc hbatch (List.Perm.swap "/a/x.js" "/a/y.js" []) .empty hi).1.2 ?_
  rintro ⟨p, j, hj, hclash⟩
  exact hnew (mem_identities_iff.2 ⟨p, j, hj, hclash.identity_eq.symm⟩)

/-- The only issue of a batch is taken for a cached one of another file. -/
theorem merge_loses_clashing_issue :
    let c := (Cache.merge .empty .empty [Sample.found "a" "/p|/q"]).cache
    let batch := [Sample.found "a|/p" "/q"]
    c.Merged ∧ Unambiguous batch
      ∧ ¬ ∃ j ∈ (c.merge .empty batch).cache.issuesOf "/q", j.id = "a|/p" := by
  refine ⟨.merge .empty (.refl _) .empty, by decide +kernel, ?_⟩
  rintro ⟨j, hj, -⟩
  exact absurd hj List.not_mem_nil

end Cache

end ScanRelay
