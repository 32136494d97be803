import Mathlib.Data.List.DropRight
import ScanRelay.Proofs.UrlText

/-!
# Containment

A folder contains a path if its components begin those of the path, however the two are spelt. So
paths form a tree, and the folders around one path lie along a branch of it. Separators at the end
of a path say nothing when there is something before them: cutting them off (`normalize`) changes
what a path contains only if it has no text, and then makes it the root
(`containment_is_tree_order`).
-/

namespace ScanRelay.Path

variable {f g p : String}

/-! ## Components by pieces -/

/-- The component of the piece that a path begins with. Before a separator, no text is the root. -/
def first? (piece : List Char) (rest : List (List Char)) : Option Component :=
  if piece = [] then if rest = [] then none else some .root
  else if piece = ['.'] then some .current
  else component? piece

theorem componentsOf_eq {cs piece : List Char} {rest : List (List Char)}
    (h : splitAt '/' cs = piece :: rest) :
    componentsOf cs = (first? piece rest).toList ++ rest.filterMap component? := by
  unfold componentsOf
  split
  · rename_i cs
    rw [splitAt, if_pos rfl] at h
    obtain ⟨rfl, rfl⟩ := List.cons.inj h
    simp [first?, splitAt_ne_nil]
  · rename_i hroot
    -- Without a separator in front, the first piece is empty only if there is no text.
    have hfirst : piece = [] → rest = [] := by
      rintro rfl
      cases cs with
      | nil => simpa [splitAt] using h.symm
      | cons c cs =>
        have hc : c ≠ '/' := fun hc => hroot cs (hc ▸ rfl)
        rw [splitAt, if_neg hc] at h
        split at h <;> simp at h
    rw [h]
    split
    · rename_i heq
      obtain ⟨rfl, rfl⟩ := List.cons.inj heq
      simp [first?]
    · rename_i hdot
      have hne : piece ≠ ['.'] := fun heq => hdot rest (heq ▸ rfl)
      by_cases hpiece : piece = []
      · simp [first?, hpiece, hfirst hpiece, component?]
      · rw [first?, if_neg hpiece, if_neg hne]
        cases hc : component? piece <;> simp [hc]

/-- A separator at the end says nothing. -/
theorem componentsOf_concat_separator {cs : List Char} (h : cs ≠ []) :
    componentsOf (cs ++ ['/']) = componentsOf cs := by
  obtain ⟨piece, rest, hpieces⟩ := List.exists_cons_of_ne_nil (splitAt_ne_nil '/' cs)
  have hmore : splitAt '/' (cs ++ ['/']) = piece :: (rest ++ [[]]) := by
    rw [splitAt_append_sep, hpieces]
    rfl
  have hfirst : first? piece (rest ++ [[]]) = first? piece rest := by
    have hne : piece = [] → rest ≠ [] := by
      rintro rfl rfl
      exact h (by rw [← joinWith_splitAt '/' cs, hpieces]; rfl)
    by_cases hpiece : piece = []
    · simp [first?, hpiece, hne hpiece]
    · simp [first?, hpiece]
  rw [componentsOf_eq hmore, componentsOf_eq hpieces, hfirst, List.filterMap_append]
  simp [component?]

/-! ## Normal paths -/

/-- The text of a path without separators at its end; the root keeps its one. -/
def trimEnd (cs : List Char) : List Char :=
  if cs.rdropWhile (· = '/') = [] then ['/'] else cs.rdropWhile (· = '/')

theorem toList_normalize (path : String) : (normalize path).toList = trimEnd path.toList := by
  unfold normalize trimEnd List.rdropWhile
  split
  · rename_i h
    rw [if_pos h]
    rfl
  · rename_i cs h
    rw [if_neg h, String.toList_ofList]

theorem trimEnd_concat_separator (cs : List Char) : trimEnd (cs ++ ['/']) = trimEnd cs := by
  rw [trimEnd, trimEnd, List.rdropWhile_concat_pos _ _ _ (by simp)]

theorem trimEnd_concat_of_ne {c : Char} (h : c ≠ '/') (cs : List Char) :
    trimEnd (cs ++ [c]) = cs ++ [c] := by
  rw [trimEnd, List.rdropWhile_concat_neg _ _ _ (by simpa using h), if_neg (by simp)]

theorem trimEnd_trimEnd (cs : List Char) : trimEnd (trimEnd cs) = trimEnd cs := by
  induction cs using List.reverseRecOn with
  | nil => rfl
  | append_singleton cs c ih =>
    by_cases hc : c = '/'
    · rw [hc, trimEnd_concat_separator, ih]
    · rw [trimEnd_concat_of_ne hc, trimEnd_concat_of_ne hc]

theorem componentsOf_trimEnd {cs : List Char} (h : cs ≠ []) :
    componentsOf (trimEnd cs) = componentsOf cs := by
  induction cs using List.reverseRecOn with
  | nil => exact absurd rfl h
  | append_singleton cs c ih =>
    by_cases hc : c = '/'
    · subst hc
      rw [trimEnd_concat_separator]
      by_cases hcs : cs = []
      · rw [hcs]
        rfl
      · rw [ih hcs, componentsOf_concat_separator hcs]
    · rw [trimEnd_concat_of_ne hc]

theorem normalize_normalize (path : String) : normalize (normalize path) = normalize path :=
  String.toList_inj.1 (by simp only [toList_normalize, trimEnd_trimEnd])

theorem components_normalize {path : String} (h : path ≠ "") :
    components (normalize path) = components path := by
  rw [components, toList_normalize, componentsOf_trimEnd fun hnil => h (String.toList_inj.1 hnil)]
  rfl

/-! ## The order of folders -/

theorem contains_iff : contains f p = true ↔ components f <+: components p :=
  List.isPrefixOf_iff_prefix

@[simp]
theorem contains_refl (f : String) : contains f f = true :=
  contains_iff.2 List.prefix_rfl

theorem contains_trans (h : contains f g = true) (h' : contains g p = true) :
    contains f p = true :=
  contains_iff.2 ((contains_iff.1 h).trans (contains_iff.1 h'))

/-- Of two folders around one path, one is around the other. -/
theorem contains_or_contains (h : contains f p = true) (h' : contains g p = true) :
    contains f g = true ∨ contains g f = true := by
  rw [contains_iff] at h h' ⊢
  rw [contains_iff]
  exact List.prefix_or_prefix_of_prefix h h'

theorem contains_antisymm_iff :
    (contains f g = true ∧ contains g f = true) ↔ components f = components g := by
  rw [contains_iff, contains_iff]
  exact ⟨fun h => h.1.eq_of_length_le h.2.length_le,
    fun h => ⟨h ▸ List.prefix_rfl, h ▸ List.prefix_rfl⟩⟩

theorem contains_normalize {f : String} (h : f ≠ "") (p : String) :
    contains (normalize f) p = contains f p := by
  rw [contains, contains, components_normalize h]

/-- Containment orders paths as a tree, up to their spelling: those around one path lie along a
branch. Normal paths stay as they are, and making a path normal changes what it contains only if it
has no text. -/
theorem containment_is_tree_order (f g p : String) :
    contains f f = true
      ∧ (contains f g = true → contains g p = true → contains f p = true)
      ∧ (contains f p = true → contains g p = true → contains f g = true ∨ contains g f = true)
      ∧ (contains f g = true ∧ contains g f = true ↔ components f = components g)
      ∧ normalize (normalize f) = normalize f
      ∧ ((∀ q, contains (normalize f) q = contains f q) ↔ f ≠ "") := by
  refine ⟨contains_refl f, contains_trans, contains_or_contains, contains_antisymm_iff,
    normalize_normalize f, ?_, contains_normalize⟩
  rintro hsame rfl
  exact absurd (hsame "") (by decide)

/-- Three spellings, each of a path around the next. -/
theorem containment_is_tree_order_respelt :
    contains "/a//b//" "/a/./b/c" = true ∧ contains "/a/./b/c" "/a/b/c/d" = true
      ∧ contains "/a//b//" "/a/b/c/d" = true
      ∧ normalize "/a//b//" = "/a//b" ∧ normalize "/a//b" = "/a//b"
      ∧ contains "/a//b" "/a/b/c/d" = contains "/a//b//" "/a/b/c/d" := by
  have hf := containment_is_tree_order "/a//b//" "/a/./b/c" "/a/b/c/d"
  have hnormal : normalize "/a//b//" = "/a//b" := by decide
  have houter : contains "/a//b//" "/a/./b/c" = true := by decide
  have hinner : contains "/a/./b/c" "/a/b/c/d" = true := by decide
  refine ⟨houter, hinner, hf.2.1 houter hinner, hnormal, ?_, ?_⟩
  · have hfixed := hf.2.2.2.2.1
    rwa [hnormal] at hfixed
  · have hsame := hf.2.2.2.2.2.2 (by decide) "/a/b/c/d"
    rwa [hnormal] at hsame

end ScanRelay.Path
