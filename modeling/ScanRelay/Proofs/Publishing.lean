import Mathlib.Tactic.SplitIfs
import ScanRelay.Proofs.Ledger
import ScanRelay.Proofs.ReadBack

/-!
# What a publication says

A publication of files is one batch: diagnostics for each file that has a URL, hovers for every
file, and the result for the whole folder, all three made from one list of files with their visible
issues (`publication_is_complete`). The list is in the order of the paths as bytes, so it is the
same for every order in which the files may come (`Publish.Shown.unique`). Text is compared by code
point, and that is the order of the bytes too (`Utf8.encode_lt`).
-/

namespace ScanRelay

/-! ## The order of bytes -/

namespace Utf8

variable {v w : Nat} {as bs : List UInt8}

/-- Bytes stand in the order of two numbers, whatever comes after them. -/
structure InOrder (v w : Nat) (as bs : List UInt8) : Prop where
  lt : v < w → ∀ xs ys, as ++ xs < bs ++ ys
  eq : v = w → as = bs

theorem cons_lt_cons_of_lt {a b : Nat} (hab : a < b) (hb : b < 256) (xs ys : List UInt8) :
    UInt8.ofNat a :: xs < UInt8.ofNat b :: ys := by
  refine List.cons_lt_cons_iff.2 (.inl (UInt8.lt_iff_toNat_lt.2 ?_))
  rwa [toNat_ofNat_of_lt (Nat.lt_trans hab hb), toNat_ofNat_of_lt hb]

theorem inOrder_lead {m k : Nat} (hv : v < m) (hw : w < m) (hk : m + k ≤ 256) :
    InOrder v w [UInt8.ofNat (v % m + k)] [UInt8.ofNat (w % m + k)] where
  lt := fun hlt xs ys => by
    rw [Nat.mod_eq_of_lt hv, Nat.mod_eq_of_lt hw]
    exact cons_lt_cons_of_lt (by omega) (by omega) xs ys
  eq := fun heq => heq ▸ rfl

/-- One more byte takes the last six bits of the numbers. -/
theorem InOrder.tail (h : InOrder (v / 64) (w / 64) as bs) :
    InOrder v w (as ++ [UInt8.ofNat (v % 64 + 128)]) (bs ++ [UInt8.ofNat (w % 64 + 128)]) where
  lt := fun hlt xs ys => by
    simp only [List.append_assoc, List.singleton_append]
    rcases Nat.lt_or_ge (v / 64) (w / 64) with hlead | hlead
    · exact h.lt hlead _ _
    · rw [h.eq (by omega)]
      exact List.append_left_lt (cons_lt_cons_of_lt (by omega) (by omega) xs ys)
  eq := fun heq => by rw [h.eq (heq ▸ rfl), heq]

theorem encodeChar_lt {c d : Char} (h : c < d) (xs ys : List UInt8) :
    String.utf8EncodeChar c ++ xs < String.utf8EncodeChar d ++ ys := by
  have hlt : c.val.toNat < d.val.toNat := h
  have hvalid : d.val.toNat < 0xD800 ∨ 0xDFFF < d.val.toNat ∧ d.val.toNat < 0x110000 := d.valid
  unfold String.utf8EncodeChar
  generalize c.val.toNat = v at hlt
  generalize d.val.toNat = w at hlt hvalid
  have htwice : ∀ n, n / 4096 = n / 64 / 64 := fun n => by omega
  have hthrice : ∀ n, n / 262144 = n / 64 / 64 / 64 := fun n => by omega
  dsimp only
  -- Of characters with one byte, or with different numbers of bytes, the leads tell the order.
  split_ifs <;> first
    | omega
    | exact cons_lt_cons_of_lt (by omega) (by omega) _ _
    | skip
  · exact (inOrder_lead (by omega) (by omega) (by omega)).tail.lt hlt xs ys
  · rw [htwice v, htwice w]
    exact (inOrder_lead (by omega) (by omega) (by omega)).tail.tail.lt hlt xs ys
  · rw [hthrice v, hthrice w, htwice v, htwice w]
    exact (inOrder_lead (by omega) (by omega) (by omega)).tail.tail.tail.lt hlt xs ys

/-- Text in the order of its characters is in the order of its bytes. -/
theorem encode_lt {cs ds : List Char} (h : cs < ds) : encode cs < encode ds := by
  induction cs generalizing ds with
  | nil =>
    rcases hbytes : encode ds with _ | ⟨b, bytes⟩
    · obtain rfl : ds = [] := encode_injective hbytes
      exact absurd h (List.lt_irrefl [])
    · exact List.nil_lt_cons b bytes
  | cons c cs ih =>
    cases ds with
    | nil => exact absurd h (List.not_lt_nil _)
    | cons d ds =>
      rw [encode_cons, encode_cons]
      rcases List.cons_lt_cons_iff.1 h with hlt | ⟨rfl, hlt⟩
      · exact encodeChar_lt hlt _ _
      · exact List.append_left_lt (ih hlt)

end Utf8

/-! ## The files of a publication -/

namespace Publish

variable {filter : FilterSettings} {files files' shown shown' : List Exhibit}

/-- The files are shown: each with its visible issues, in the order of the bytes of their paths. -/
structure Shown (filter : FilterSettings) (files shown : List Exhibit) : Prop where
  perm : shown.Perm (files.map fun e => (e.1, e.2.filter filter.shows))
  increasing : shown.Pairwise fun a b => Utf8.encode a.1.toList < Utf8.encode b.1.toList

theorem Shown.of_perm (h : Shown filter files shown) (hperm : files.Perm files') :
    Shown filter files' shown :=
  ⟨h.perm.trans (hperm.map _), h.increasing⟩

/-- How the files are shown does not depend on the order in which they come. -/
theorem Shown.unique (h : Shown filter files shown) (h' : Shown filter files shown') :
    shown = shown' :=
  List.Perm.eq_of_pairwise (fun _ _ _ _ hlt hgt => absurd hgt (List.lt_asymm hlt)) h.increasing
    h'.increasing (h.perm.trans h'.perm.symm)

/-- The files of a snapshot as they are published. -/
def arranged (filter : FilterSettings) (files : List Exhibit) : List Exhibit :=
  (files.mergeSort fun a b => a.1 ≤ b.1).map fun e => (e.1, filter.visible e.2)

/-- The events of a publication of files that are arranged already. -/
def batch (path : String) (product : Option Product) (shown : List Exhibit) : List Event :=
  shown.flatMap (fun e => diagnostics e.1 e.2) ++ shown.flatMap (fun e => hover e.1 e.2)
    ++ [scanResult path product (ofProduct product (shown.flatMap (·.2)))]

theorem folder_eq_batch (path : String) (product : Option Product) (files : List Exhibit)
    (filter : FilterSettings) :
    folder path product files filter = batch path product (arranged filter files) := rfl

theorem shown_arranged (h : (files.map (·.1)).Nodup) :
    Shown filter files (arranged filter files) := by
  let sorted := files.mergeSort fun a b => a.1 ≤ b.1
  have hperm : sorted.Perm files := List.mergeSort_perm _ _
  refine ⟨hperm.map _, List.pairwise_map.2 ?_⟩
  have hle : sorted.Pairwise fun a b => a.1 ≤ b.1 := by
    refine (List.pairwise_mergeSort ?_ ?_ files).imp of_decide_eq_true
    · exact fun a b c hab hbc =>
        decide_eq_true (String.le_trans (of_decide_eq_true hab) (of_decide_eq_true hbc))
    · intro a b
      simpa using String.le_total a.1 b.1
  have hne : sorted.Pairwise fun a b => a.1 ≠ b.1 :=
    List.pairwise_map.1 ((hperm.map _).nodup_iff.2 h)
  refine hle.imp₂ (fun {a b} hab hne => ?_) hne
  have hlt : a.1 < b.1 := Std.lt_of_le_of_ne hab hne
  exact Utf8.encode_lt hlt

theorem diagnostics_eq (path : String) (issues : List Issue) : diagnostics path issues
    = ((Url.ofFilePath? path).map fun u =>
        .send (.diagnostics ⟨u, issues.map Diagnostic.ofIssue, none⟩)).toList := by
  unfold diagnostics
  split <;> rename_i hurl <;> rw [hurl] <;> rfl

theorem ofProduct_eq (product : Option Product) (issues : List Issue) : ofProduct product issues
    = issues.filter fun i => product.all fun p => Product.orUnknown i.product = p := by
  cases product with
  | none => simp [ofProduct]
  | some p => rfl

end Publish

/-- A publication of files with distinct paths says this and nothing else, in this order: the
diagnostics of each file that has a URL, even if there are none, the hovers of each file, and the
result for the folder. All three tell of the visible issues of the files, in the order of the bytes
of the paths, and the result is cut down to the product, if one is given. It does not matter in
which order the files come. -/
theorem publication_is_complete (path : String) (product : Option Product) {files : List Exhibit}
    (filter : FilterSettings) (h : (files.map (·.1)).Nodup) :
    (∃ shown, Publish.Shown filter files shown ∧ Publish.folder path product files filter
        = (shown.filterMap fun e => (Url.ofFilePath? e.1).map fun u =>
            .send (.diagnostics ⟨u, e.2.map Diagnostic.ofIssue, none⟩))
          ++ (shown.map fun e => .hover ⟨e.1, e.2.map Hover.ofIssue⟩)
          ++ [.send (.scanStatus ⟨.success, product, path, (shown.flatMap (·.2)).filter fun i =>
            product.all fun p => Product.orUnknown i.product = p⟩)])
      ∧ ∀ files', files'.Perm files →
        Publish.folder path product files' filter = Publish.folder path product files filter := by
  have hshown : Publish.Shown filter files (Publish.arranged filter files) :=
    Publish.shown_arranged h
  refine ⟨⟨_, hshown, ?_⟩, fun files' hperm => ?_⟩
  · rw [Publish.folder_eq_batch, Publish.batch, List.filterMap_eq_flatMap_toList,
      List.map_eq_flatMap, ← Publish.ofProduct_eq]
    simp only [Publish.diagnostics_eq]
    rfl
  · have hshown' : Publish.Shown filter files' (Publish.arranged filter files') :=
      Publish.shown_arranged ((hperm.map _).nodup_iff.2 h)
    rw [Publish.folder_eq_batch, Publish.folder_eq_batch, (hshown'.of_perm hperm).unique hshown]

/-- A file without a URL and one with an issue, in either order. -/
theorem publication_is_complete_reversed :
    let files : List Exhibit := [("b.js", []), ("/a/x.js", [Sample.issue])]
    let publish files := Publish.folder "/a" none files (Settings.standard "").filter
    (∃ shown, Publish.Shown (Settings.standard "").filter files shown)
      ∧ publish files.reverse = publish files := by
  intro files publish
  have hdistinct : (files.map (·.1)).Nodup := by decide
  obtain ⟨⟨shown, hshown, -⟩, hsame⟩ :=
    publication_is_complete "/a" none (Settings.standard "").filter hdistinct
  exact ⟨⟨shown, hshown⟩, hsame _ files.reverse_perm⟩

end ScanRelay
