import Mathlib.Algebra.GroupWithZero.Nat
import Mathlib.Data.String.Basic
import ScanRelay.Proofs.Concurrency
import ScanRelay.Proofs.Containment

/-!
# The folder of a file

Of the open folders around a path the one with the longest text is taken, and of several such the
last that the walk over the folders meets (`exists_folderContainingIn_iff`). The deepest of them is
another question. All folders around a path lie along one branch, and a deeper one has more
components, but it may be spelt with fewer bytes: separators in a row and dots say nothing and
count. What no text can do is to tell its components with fewer bytes than they need
(`Path.weight_le`). So a folder that is spelt with no more bytes than needed is the deepest when it
is taken (`routing_takes_the_longest`), and one that is not can hide a deeper one
(`longer_folder_hides_deeper`).
-/

namespace ScanRelay

open String (utf8Len)

/-! ## How long a path is -/

namespace Path

/-- The bytes of a component and of the separator behind it. -/
def Component.weight (c : Component) : Nat := utf8Len c.text + 1

/-- The bytes that components need, each with a separator behind it. -/
def weight (cs : List Component) : Nat := (cs.map Component.weight).sum

theorem utf8Len_splitAt (cs : List Char) :
    ((splitAt '/' cs).map fun piece => utf8Len piece + 1).sum = utf8Len cs + 1 := by
  induction cs with
  | nil => rfl
  | cons c cs ih =>
    unfold splitAt
    split
    · rename_i hc
      have hsize : '/'.utf8Size = 1 := rfl
      rw [List.map_cons, List.sum_cons, ih, String.utf8Len_cons, hc, hsize, String.utf8Len_nil]
      omega
    · split
      · rename_i hnil
        exact absurd hnil (splitAt_ne_nil _ _)
      · rename_i piece rest hpieces
        rw [hpieces, List.map_cons, List.sum_cons] at ih
        rw [List.map_cons, List.sum_cons, String.utf8Len_cons, String.utf8Len_cons]
        omega

/-- A piece that has a component is not empty and is its text. -/
theorem weight_of_component? {piece : List Char} {c : Component} (h : component? piece = some c) :
    c.weight = utf8Len piece + 1 ∧ 2 ≤ c.weight := by
  have hpos : ∀ {d : Char} {cs : List Char}, 2 ≤ utf8Len (d :: cs) + 1 := by
    intro d cs
    have hd := d.utf8Size_pos
    rw [String.utf8Len_cons]
    omega
  unfold component? at h
  split at h
  · exact absurd h (by simp)
  · rename_i hpiece
    split at h
    · rename_i hdots
      obtain rfl := Option.some.inj h
      rw [hdots]
      exact ⟨rfl, hpos⟩
    · obtain rfl := Option.some.inj h
      rw [Component.weight, Component.text, String.toList_ofList]
      cases piece with
      | nil => simp at hpiece
      | cons d cs => exact ⟨rfl, hpos⟩

theorem weight_first? {piece : List Char} {rest : List (List Char)} {c : Component}
    (h : first? piece rest = some c) : c.weight = utf8Len piece + 1 := by
  unfold first? at h
  split at h
  · rename_i hpiece
    split at h
    · exact absurd h (by simp)
    · obtain rfl := Option.some.inj h
      rw [hpiece]
      rfl
  · split at h
    · rename_i hdot
      obtain rfl := Option.some.inj h
      rw [hdot]
      rfl
    · exact (weight_of_component? h).1

theorem weight_filterMap_le (pieces : List (List Char)) : weight (pieces.filterMap component?)
    ≤ (pieces.map fun piece => utf8Len piece + 1).sum := by
  induction pieces with
  | nil => rfl
  | cons piece pieces ih =>
    rw [List.filterMap_cons, List.map_cons, List.sum_cons]
    cases hc : component? piece with
    | none => exact ih.trans (Nat.le_add_left _ _)
    | some c =>
      rw [weight, List.map_cons, List.sum_cons, (weight_of_component? hc).1]
      exact Nat.add_le_add_left ih _

/-- No text has fewer bytes than its components need. -/
theorem weight_le (p : String) : weight (components p) ≤ p.utf8ByteSize + 1 := by
  obtain ⟨piece, rest, hpieces⟩ := List.exists_cons_of_ne_nil (splitAt_ne_nil '/' p.toList)
  have hsize := utf8Len_splitAt p.toList
  rw [hpieces, List.map_cons, List.sum_cons, String.utf8Len_toList] at hsize
  rw [components, componentsOf_eq hpieces, weight, List.map_append, List.sum_append, ← hsize]
  refine Nat.add_le_add ?_ (weight_filterMap_le rest)
  cases hfirst : first? piece rest with
  | none => exact Nat.zero_le _
  | some c => simp [weight_first? hfirst]

/-- Only the first component can be the root. -/
theorem two_le_weight {p : String} {first c : Component} {rest : List Component}
    (h : components p = first :: rest) (hc : c ∈ rest) : 2 ≤ c.weight := by
  obtain ⟨piece, pieces, hpieces⟩ := List.exists_cons_of_ne_nil (splitAt_ne_nil '/' p.toList)
  have hmem : c ∈ pieces.filterMap component? := by
    rw [components, componentsOf_eq hpieces] at h
    cases hfirst : first? piece pieces with
    | none =>
      have hpieces : pieces.filterMap component? = first :: rest := by rwa [hfirst] at h
      exact hpieces ▸ List.mem_cons_of_mem _ hc
    | some c' =>
      rw [hfirst] at h
      have hpieces : pieces.filterMap component? = rest := (List.cons.inj h).2
      exact hpieces ▸ hc
  obtain ⟨piece', -, heq⟩ := List.mem_filterMap.1 hmem
  exact (weight_of_component? heq).2

/-- Whether a path is spelt with no more bytes than its components need. -/
def Terse (p : String) : Prop := p = "/" ∨ p.utf8ByteSize + 1 = weight (components p)

instance (p : String) : Decidable (Terse p) := inferInstanceAs (Decidable (_ ∨ _))

/-- A path has more bytes than a terse one of which it has all components and more. -/
theorem Terse.lt_of_contains {f g : String} (hf : Terse f) (h : contains f g = true)
    (hdepth : (components f).length < (components g).length) :
    f.utf8ByteSize < g.utf8ByteSize := by
  obtain ⟨more, hmore⟩ := contains_iff.1 h
  have hg := weight_le g
  cases more with
  | nil => simp [← hmore] at hdepth
  | cons c more =>
    rw [← hmore, weight, List.map_append, List.sum_append, List.map_cons, List.sum_cons,
      ← weight] at hg
    rcases hf with rfl | hterse
    · have hroot : components "/" = [.root] := rfl
      have hc : 2 ≤ c.weight :=
        two_le_weight (p := g) (hmore.symm.trans (by rw [hroot]; rfl)) List.mem_cons_self
      have hsize : "/".utf8ByteSize = 1 := rfl
      have hweight : weight [.root] = 1 := rfl
      rw [hroot, hweight] at hg
      omega
    · have hc : 1 ≤ c.weight := Nat.le_add_left 1 _
      omega

end Path

/-! ## The walk over the folders -/

/-- The order that is as listed, but for one key, which comes last. -/
def VisitOrder.endingWith (key : String) : VisitOrder where
  arrange ks := if key ∈ ks then ks.erase key ++ [key] else ks
  perm ks := by
    split
    · rename_i hk
      exact (List.perm_append_singleton key _).trans (List.perm_cons_erase hk).symm
    · exact .refl _

/-- How many components a folder has. -/
def Folder.depth (f : Folder) : Nat := (Path.components f.path).length

namespace Workspace

/-- The open folders in the order of a walk over their paths. -/
def foldersIn (order : VisitOrder) (w : Workspace) : List Folder :=
  (order.arrange w.folders.keys).filterMap w.folders.get?

/-- The folder that a walk finds for a path: of the longest around it the last. -/
def folderContainingIn (order : VisitOrder) (w : Workspace) (path : String) : Option Folder :=
  ((w.foldersIn order).filter fun f => f.contains path).foldl deeper none

/-- An open folder contains a path. -/
def Around (w : Workspace) (path : String) (f : Folder) : Prop :=
  f ∈ w.folders.values ∧ f.contains path = true

structure LongestAround (w : Workspace) (path : String) (f : Folder) : Prop where
  around : w.Around path f
  longest : ∀ g, w.Around path g → g.path.utf8ByteSize ≤ f.path.utf8ByteSize

structure DeepestAround (w : Workspace) (path : String) (f : Folder) : Prop where
  around : w.Around path f
  deepest : ∀ g, w.Around path g → g.depth ≤ f.depth

variable {w : Workspace} {order : VisitOrder} {path : String} {f : Folder}

theorem folderContainingIn_listed (w : Workspace) (path : String) :
    w.folderContainingIn .listed path = w.folderContaining path := by
  rw [folderContaining, Table.values_eq_filterMap]
  rfl

theorem mem_foldersIn : f ∈ w.foldersIn order ↔ f ∈ w.folders.values := by
  rw [foldersIn, Table.values_eq_filterMap]
  exact ((order.perm _).filterMap _).mem_iff

theorem mem_filter_foldersIn :
    f ∈ (w.foldersIn order).filter (fun f => f.contains path) ↔ w.Around path f := by
  rw [List.mem_filter, mem_foldersIn, Around]

theorem foldl_deeper_concat (fs : List Folder) (g : Folder) :
    (fs ++ [g]).foldl deeper none = deeper (fs.foldl deeper none) g := by
  rw [List.foldl_append]
  rfl

theorem foldl_deeper_eq_none_iff {fs : List Folder} : fs.foldl deeper none = none ↔ fs = [] := by
  cases fs using List.reverseRecOn with
  | nil => simp
  | append_singleton fs g =>
    rw [foldl_deeper_concat]
    unfold deeper
    split
    · split <;> simp
    · simp

theorem length_le_of_foldl_deeper {fs : List Folder} (h : fs.foldl deeper none = some f) :
    ∀ g ∈ fs, g.path.utf8ByteSize ≤ f.path.utf8ByteSize := by
  induction fs using List.reverseRecOn generalizing f with
  | nil => exact fun g hg => absurd hg List.not_mem_nil
  | append_singleton fs g ih =>
    rw [foldl_deeper_concat] at h
    intro g' hg'
    cases hbest : fs.foldl deeper none with
    | none =>
      rw [hbest] at h
      obtain rfl := Option.some.inj h
      rw [foldl_deeper_eq_none_iff.1 hbest, List.nil_append, List.mem_singleton] at hg'
      rw [hg']
    | some b =>
      have hfs := ih hbest
      rw [hbest, deeper] at h
      rw [List.mem_append, List.mem_singleton] at hg'
      split at h
      · rename_i hlt
        obtain rfl := Option.some.inj h
        rcases hg' with hg' | rfl
        · exact hfs g' hg'
        · exact hlt.le
      · rename_i hle
        obtain rfl := Option.some.inj h
        rcases hg' with hg' | rfl
        · exact (hfs g' hg').trans (Nat.not_lt.1 hle)
        · exact Nat.le_refl _

/-- A last folder that is as long as any before it is taken. -/
theorem foldl_deeper_concat_of_le {fs : List Folder} {g : Folder}
    (h : ∀ b ∈ fs, b.path.utf8ByteSize ≤ g.path.utf8ByteSize) :
    (fs ++ [g]).foldl deeper none = some g := by
  rw [foldl_deeper_concat]
  cases hbest : fs.foldl deeper none with
  | none => rfl
  | some b =>
    have hb : b ∈ fs := (mem_of_foldl_deeper hbest).resolve_left (by simp)
    rw [deeper, if_neg (Nat.not_lt.2 (h b hb))]

theorem folderContainingIn_eq_none_iff :
    w.folderContainingIn order path = none ↔ ∀ f, ¬ w.Around path f := by
  rw [folderContainingIn, foldl_deeper_eq_none_iff, List.eq_nil_iff_forall_not_mem]
  exact forall_congr' fun f => not_congr mem_filter_foldersIn

theorem longestAround_of_folderContainingIn (h : w.folderContainingIn order path = some f) :
    w.LongestAround path f :=
  ⟨mem_filter_foldersIn.1 ((mem_of_foldl_deeper h).resolve_left (by simp)),
    fun g hg => length_le_of_foldl_deeper h g (mem_filter_foldersIn.2 hg)⟩

/-- The walk that ends with one of the longest folders takes it. -/
theorem LongestAround.folderContainingIn (h : w.LongestAround path f)
    (hf : w.folders.get? f.path = some f) :
    w.folderContainingIn (.endingWith f.path) path = some f := by
  have hkey : f.path ∈ w.folders.keys := Table.mem_keys_iff.2 ⟨f, hf⟩
  have hwalk : w.foldersIn (.endingWith f.path)
      = (w.folders.keys.erase f.path).filterMap w.folders.get? ++ [f] := by
    simp [foldersIn, VisitOrder.endingWith, hkey, hf]
  have hlast : [f].filter (fun f => f.contains path) = [f] := by simpa using h.around.2
  rw [Workspace.folderContainingIn, hwalk, List.filter_append, hlast]
  refine foldl_deeper_concat_of_le fun b hb => h.longest b ?_
  have hmem : b ∈ (w.foldersIn (.endingWith f.path)).filter fun f => f.contains path := by
    rw [hwalk, List.filter_append]
    exact List.mem_append_left _ hb
  exact mem_filter_foldersIn.1 hmem

/-- A folder that is taken and spelt tersely is the deepest. -/
theorem LongestAround.deepestAround (h : w.LongestAround path f) (hterse : Path.Terse f.path) :
    w.DeepestAround path f := by
  refine ⟨h.around, fun g hg => ?_⟩
  by_contra hdepth
  have hlt : f.depth < g.depth := Nat.not_le.1 hdepth
  have hcontains : Path.contains f.path g.path = true := by
    rcases Path.contains_or_contains h.around.2 hg.2 with hfg | hgf
    · exact hfg
    · exact absurd (Path.contains_iff.1 hgf).length_le (Nat.not_le.2 hlt)
  exact Nat.not_le.2 (hterse.lt_of_contains hcontains hlt) (h.longest g hg)

end Workspace

/-- After every run and for every walk over the open folders, a path has no folder exactly if none
of them contains it, and the folders that some walk finds are those around it with the longest text.
A folder that is found is the deepest if it is spelt tersely. Every walk finds a deepest folder
exactly if no folder around the path is both among the longest and less deep than another. -/
theorem routing_takes_the_longest (s : Settings) (scanner : Scanner) (acts : List Act)
    (path : String) :
    let w := ((Ledger.start s scanner).run acts).workspace
    w.folderContainingIn .listed path = w.folderContaining path
      ∧ (∀ order, w.folderContainingIn order path = none ↔ ∀ f, ¬ w.Around path f)
      ∧ (∀ f, (∃ order, w.folderContainingIn order path = some f) ↔ w.LongestAround path f)
      ∧ (∀ order f, w.folderContainingIn order path = some f → Path.Terse f.path →
        w.DeepestAround path f)
      ∧ ((∀ order f, w.folderContainingIn order path = some f → w.DeepestAround path f)
        ↔ ∀ f g, w.Around path f → w.Around path g → f.depth < g.depth →
          ∃ h, w.Around path h ∧ f.path.utf8ByteSize < h.path.utf8ByteSize) := by
  intro w
  have horderly : w.Orderly := ⟨_, Ledger.lives_run s scanner fun _ _ _ => trivial⟩
  have hfound : ∀ f, w.LongestAround path f →
      w.folderContainingIn (.endingWith f.path) path = some f := fun f h =>
    h.folderContainingIn (horderly.increasing.1 f h.around.1)
  refine ⟨w.folderContainingIn_listed path, fun _ => Workspace.folderContainingIn_eq_none_iff,
    fun f => ⟨fun ⟨_, h⟩ => Workspace.longestAround_of_folderContainingIn h,
      fun h => ⟨_, hfound f h⟩⟩,
    fun _ _ h => (Workspace.longestAround_of_folderContainingIn h).deepestAround, ?_, ?_⟩
  · intro hdeepest f g hf hg hdepth
    by_contra hshort
    push Not at hshort
    exact Nat.not_le.2 hdepth ((hdeepest _ f (hfound f ⟨hf, hshort⟩)).deepest g hg)
  · intro hlonger order f h
    have hlongest := Workspace.longestAround_of_folderContainingIn h
    refine ⟨hlongest.around, fun g hg => ?_⟩
    by_contra hdepth
    obtain ⟨f', hf', hlt⟩ := hlonger f g hlongest.around hg (Nat.not_le.1 hdepth)
    exact Nat.not_le.2 hlt (hlongest.longest f' hf')

/-- Of two folders that are spelt tersely the inner one is found. -/
theorem routing_takes_the_longest_nested :
    let w := ((Ledger.start (.standard "") ⟨.script [], none⟩).run
      [.add "/a" "a", .add "/a/b/" "b"]).workspace
    w.folderContaining "/a/b/x.js" = some (.new "/a/b/" "b" 1)
      ∧ w.DeepestAround "/a/b/x.js" (.new "/a/b/" "b" 1) := by
  intro w
  obtain ⟨hlisted, -, -, hterse, -⟩ := routing_takes_the_longest (.standard "") ⟨.script [], none⟩
    [.add "/a" "a", .add "/a/b/" "b"] "/a/b/x.js"
  have hfound : w.folderContaining "/a/b/x.js" = some (.new "/a/b/" "b" 1) := rfl
  exact ⟨hfound, hterse .listed _ (hlisted.trans hfound) (by decide +kernel)⟩

/-- A folder is spelt with more bytes than one in it. Every walk finds it for a file of the other,
which is deeper. -/
theorem longer_folder_hides_deeper :
    let w := ((Ledger.start (.standard "") ⟨.script [], none⟩).run
      [.add "/////a" "a", .add "/a/b" "b"]).workspace
    let outer : Folder := .new "/////a" "a" 0
    let inner : Folder := .new "/a/b" "b" 1
    (∀ order, w.folderContainingIn order "/a/b/x.js" = some outer)
      ∧ w.Around "/a/b/x.js" inner ∧ outer.depth < inner.depth := by
  intro w outer inner
  have hvalues : w.folders.values = [outer, inner] := rfl
  have houter : w.Around "/a/b/x.js" outer := ⟨by simp [hvalues], by decide +kernel⟩
  have hinner : w.Around "/a/b/x.js" inner := ⟨by simp [hvalues], by decide +kernel⟩
  refine ⟨fun order => ?_, hinner, by decide +kernel⟩
  rcases hfound : w.folderContainingIn order "/a/b/x.js" with _ | f
  · exact absurd houter (Workspace.folderContainingIn_eq_none_iff.1 hfound outer)
  · have hlongest := Workspace.longestAround_of_folderContainingIn hfound
    have hmem : f ∈ [outer, inner] := hvalues ▸ hlongest.around.1
    rcases List.mem_pair.1 hmem with rfl | rfl
    · rfl
    · have hshort : ¬ outer.path.utf8ByteSize ≤ inner.path.utf8ByteSize := by decide +kernel
      exact absurd (hlongest.longest outer houter) hshort

end ScanRelay
