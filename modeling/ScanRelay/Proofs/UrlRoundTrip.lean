import ScanRelay.Proofs.Sessions
import ScanRelay.Proofs.UrlText
import ScanRelay.Proofs.View

/-!
# From a path to its URL and back

Every absolute path has a URL, and no other has one. The URL tells the components of the path: the
text that it names is a spelling of them (`Path.components_spelling`), and no two lists of
components are written alike (`Url.toText_eq_iff`). Reading a URL's text gives that URL again unless
it has double dots, since these move when they are read (`Url.parse_toText_iff`).
-/

namespace ScanRelay

namespace Path

variable {p : String} {rest : List Component} {c : Component}

/-- A component is that of its own text. -/
theorem component?_text (hp : components p = .root :: rest) (hc : c ∈ rest) :
    component? c.text = some c := by
  have hinner : c.Inner := inner_of_components hp c hc
  cases c with
  | root => exact hinner.elim
  | current => exact hinner.elim
  | parent => rfl
  | name s =>
    have hempty : s.toList ≠ [] := fun h => hinner.1 (String.toList_inj.1 h)
    have hdots : s.toList ≠ ['.', '.'] := fun h => hinner.2 (String.toList_inj.1 h)
    have hdot : s.toList ≠ ['.'] := (name_of_mem_components hp hc).1
    simp [component?, Component.text, hempty, hdot, hdots]

theorem separator_not_mem_text (hp : components p = .root :: rest) (hc : c ∈ rest) :
    '/' ∉ c.text := by
  have hinner : c.Inner := inner_of_components hp c hc
  cases c with
  | root => exact hinner.elim
  | current => exact hinner.elim
  | parent => decide
  | name s => exact (name_of_mem_components hp hc).2

/-- Components are spelt so that they are read again. -/
theorem components_spelling (hp : components p = .root :: rest) :
    components (String.ofList (spelling rest)) = .root :: rest := by
  unfold spelling
  split
  · rename_i hrest
    rw [List.isEmpty_iff.1 hrest]
    rfl
  · rename_i hrest
    have htexts : ∀ t ∈ rest.map Component.text, '/' ∉ t :=
      List.forall_mem_map.2 fun c hc => separator_not_mem_text hp hc
    have hread : (rest.map Component.text).filterMap component? = rest := by
      rw [List.filterMap_map]
      exact (List.filterMap_congr fun c hc => component?_text hp hc).trans List.filterMap_some
    have hflat : (rest.flatMap fun c => '/' :: c.text)
        = (rest.map Component.text).flatMap ('/' :: ·) := by
      rw [List.flatMap_map]
    rw [hflat, components_close_flatMap (by simpa using hrest) htexts, hread]

end Path

namespace Url

open ScanRelay.Path

variable {p q : String} {u v : Url}

theorem isSome_ofFilePath?_iff : (ofFilePath? p).isSome ↔ isAbsolute p := by
  refine ⟨fun h => ?_, fun h => Option.isSome_iff_exists.2 (exists_ofFilePath? h)⟩
  obtain ⟨u, hu⟩ := Option.isSome_iff_exists.1 h
  obtain ⟨rest, hp, -⟩ := ofFilePath?_eq_some.1 hu
  obtain ⟨cs, hcs, -⟩ := exists_toList_of_components hp
  exact isAbsolute_of_toList hcs

/-- The URL of a path names a path with its components. -/
theorem exists_filePath (hu : ofFilePath? p = some u) :
    ∃ r, u.filePath = .ok r ∧ components r = components p := by
  obtain ⟨rest, hp, -⟩ := ofFilePath?_eq_some.1 hu
  exact ⟨_, filePath_of_toFilePath? (toFilePath?_eq_some_spelling hu hp),
    (components_spelling hp).trans hp.symm⟩

theorem writtenPath_injective {ss ts : List String} (hss : ∀ s ∈ ss, ∀ c ∈ s.toList, Kept c)
    (hts : ∀ s ∈ ts, ∀ c ∈ s.toList, Kept c) (h : writtenPath ss = writtenPath ts) : ss = ts := by
  have hpieces := congrArg (splitAt '/') h
  rw [splitAt_writtenPath hss, splitAt_writtenPath hts] at hpieces
  exact List.map_injective_iff.2 (fun _ _ => String.toList_inj.1) (List.cons.inj hpieces).2

theorem eq_iff_components (hu : ofFilePath? p = some u) (hv : ofFilePath? q = some v) :
    u = v ↔ components p = components q := by
  rw [← ofFilePath?_eq_some_iff hv, hu, Option.some.injEq]

/-- The URLs of two files have the same text only if they are the same. -/
theorem toText_eq_iff (hu : ofFilePath? p = some u) (hv : ofFilePath? q = some v) :
    u.toText = v.toText ↔ u = v := by
  refine ⟨fun h => ?_, congrArg toText⟩
  obtain ⟨rest, hp, rfl⟩ := ofFilePath?_eq_some.1 hu
  obtain ⟨rest', hq, rfl⟩ := ofFilePath?_eq_some.1 hv
  have htext := congrArg String.toList h
  rw [toList_toText_file, toList_toText_file] at htext
  rw [writtenPath_injective (kept_of_mem_segmentsOf (inner_of_components hp))
    (kept_of_mem_segmentsOf (inner_of_components hq)) (List.append_cancel_left htext)]

/-- The text of a file's URL is read as this URL exactly if it has no double dots. -/
theorem parse_toText_iff (hu : ofFilePath? p = some u) :
    parse u.toText = .ok u ↔ .parent ∉ components p := by
  obtain ⟨rest, hp, hurl⟩ := ofFilePath?_eq_some.1 hu
  have hsame : parse u.toText = .ok u ↔ fileSegments (trailOf rest) = segmentsOf rest := by
    rw [parse_toText hu hp, hurl]
    simp
  have hmem : .parent ∈ components p ↔ .parent ∈ rest := by simp [hp]
  rw [hsame, hmem]
  refine ⟨fun hsegments hparent => ?_, fileSegments_trailOf hp⟩
  -- All segments that were read are settled, and double dots are not.
  have hdots : segmentOf .parent ∈ fileSegments (trailOf rest) := by
    have hne : rest.isEmpty = false := List.isEmpty_eq_false_iff.2 (List.ne_nil_of_mem hparent)
    rw [hsegments, segmentsOf, hne, if_neg Bool.false_ne_true]
    exact List.mem_map_of_mem hparent
  have hinner : Component.parent.Inner := trivial
  have htext : textOf (segmentOf .parent) = Component.parent.text :=
    (isText_of_decode (decode_segmentOf hinner)).2
  exact (settled_trailOf hp _ hdots).still (by rw [String.ofList_toList, htext]; rfl)

/-- The absolute paths are those that have a URL. Two of them have the same URL, in its parts as in
its text, exactly if they have the same components, whatever the characters in these. The URL of a
path names a path with the same components, and reading its text gives the URL itself exactly if
there are no double dots among them. -/
theorem urls_tell_components (p q : String) :
    ((ofFilePath? p).isSome ↔ isAbsolute p)
      ∧ (isAbsolute p → isAbsolute q → ∃ u v r,
        ofFilePath? p = some u ∧ ofFilePath? q = some v
          ∧ (u = v ↔ components p = components q)
          ∧ (u.toText = v.toText ↔ components p = components q)
          ∧ u.filePath = .ok r ∧ components r = components p
          ∧ (parse u.toText = .ok u ↔ .parent ∉ components p)) := by
  refine ⟨isSome_ofFilePath?_iff, fun hp hq => ?_⟩
  obtain ⟨u, hu⟩ := exists_ofFilePath? hp
  obtain ⟨v, hv⟩ := exists_ofFilePath? hq
  obtain ⟨r, hr, hcomponents⟩ := exists_filePath hu
  have hsame := eq_iff_components hu hv
  exact ⟨u, v, r, hu, hv, hsame, (toText_eq_iff hu hv).trans hsame, hr, hcomponents,
    parse_toText_iff hu⟩

/-- A name with a percent sign is told from one that looks like its encoding, and is read back
together with a last name that looks like a drive. -/
theorem urls_tell_components_escaped :
    let p := "/50% é?//x:"
    let q := "/50%25 é?/x:"
    isAbsolute p ∧ isAbsolute q ∧ ∃ u v r,
      ofFilePath? p = some u ∧ ofFilePath? q = some v ∧ u ≠ v ∧ u.toText ≠ v.toText
        ∧ u.filePath = .ok r ∧ components r = [.root, .name "50% é?", .name "x:"]
        ∧ parse u.toText = .ok u := by
  intro p q
  have hp : isAbsolute p := by decide
  have hq : isAbsolute q := by decide
  have hcomponents : components p = [.root, .name "50% é?", .name "x:"] := by decide
  have hne : components p ≠ components q := by decide
  obtain ⟨u, v, r, hu, hv, hsame, htext, hr, hread, hparse⟩ := (urls_tell_components p q).2 hp hq
  exact ⟨hp, hq, u, v, r, hu, hv, mt hsame.1 hne, mt htext.1 hne, hr, hread.trans hcomponents,
    hparse.2 (by rw [hcomponents]; decide)⟩

end Url

end ScanRelay
