import Mathlib.Data.List.TakeWhile
import ScanRelay.Proofs.ReadBack

/-!
# The URL of a file as text

What an editor has of a URL is its text, and it names a file by sending that text back. Reading it
gives the URL again, but for double dots, which now move (`parse_toText`). So the text names the
path that the URL was made from exactly if that is spelt plainly (`exists_toFilePath?_parse`).
-/

namespace ScanRelay

/-! ## Pieces -/

section Pieces

variable {sep : Char} {piece : List Char}

theorem splitAt_append_sep (sep : Char) (cs ds : List Char) :
    splitAt sep (cs ++ sep :: ds) = splitAt sep cs ++ splitAt sep ds := by
  induction cs with
  | nil => simp [splitAt]
  | cons c cs ih =>
    rw [List.cons_append, splitAt, splitAt, ih]
    split
    · rfl
    · cases hcs : splitAt sep cs with
      | nil => exact absurd hcs (splitAt_ne_nil sep cs)
      | cons piece rest => rfl

theorem splitAt_of_not_mem (h : sep ∉ piece) : splitAt sep piece = [piece] := by
  induction piece with
  | nil => rfl
  | cons c piece ih =>
    rw [List.mem_cons, not_or] at h
    rw [splitAt, if_neg (Ne.symm h.1), ih h.2]

theorem splitAt_append_cons (h : sep ∉ piece) (cs : List Char) :
    splitAt sep (piece ++ sep :: cs) = piece :: splitAt sep cs := by
  rw [splitAt_append_sep, splitAt_of_not_mem h]
  rfl

/-- Pieces that are set off by separators are cut there. -/
theorem splitAt_flatMap {α : Type} {f : α → List Char} {l : List α} (piece : List Char)
    (hl : ∀ a ∈ l, sep ∉ f a) (h : sep ∉ piece) :
    splitAt sep (piece ++ l.flatMap fun a => sep :: f a) = piece :: l.map f := by
  induction l generalizing piece with
  | nil => rw [List.flatMap_nil, List.append_nil, splitAt_of_not_mem h, List.map_nil]
  | cons a l ih =>
    rw [List.forall_mem_cons] at hl
    rw [List.flatMap_cons, List.cons_append, splitAt_append_cons h, ih _ hl.2 hl.1, List.map_cons]

theorem not_mem_of_mem_splitAt {cs : List Char} (h : piece ∈ splitAt sep cs) : sep ∉ piece := by
  induction cs generalizing piece with
  | nil => simp_all [splitAt]
  | cons c cs ih =>
    unfold splitAt at h
    split at h
    · rcases List.mem_cons.1 h with rfl | h
      · exact List.not_mem_nil
      · exact ih h
    · rename_i hc
      split at h
      · rename_i heq
        exact absurd heq (splitAt_ne_nil sep cs)
      · rename_i first rest heq
        rcases List.mem_cons.1 h with rfl | h
        · have hfirst := ih (heq ▸ List.mem_cons_self)
          simp [Ne.symm hc, hfirst]
        · exact ih (heq ▸ List.mem_cons_of_mem _ h)

end Pieces

namespace Path

theorem name_of_component? {piece : List Char} {n : String}
    (h : component? piece = some (.name n)) : n.toList = piece ∧ n.toList ≠ ['.'] := by
  unfold component? at h
  split at h
  · exact absurd h (by simp)
  · rename_i hdot
    split at h
    · exact absurd h (by simp)
    · obtain rfl := Component.name.inj (Option.some.inj h)
      simp_all

/-- A name is no dot and holds no separator. -/
theorem name_of_mem_components {path n : String} {rest : List Component}
    (h : components path = .root :: rest) (hn : .name n ∈ rest) :
    n.toList ≠ ['.'] ∧ '/' ∉ n.toList := by
  obtain ⟨cs, -, rfl⟩ := exists_toList_of_components h
  obtain ⟨piece, hpiece, heq⟩ := List.mem_filterMap.1 hn
  obtain ⟨rfl, hdot⟩ := name_of_component? heq
  exact ⟨hdot, not_mem_of_mem_splitAt hpiece⟩

end Path

namespace Url

open ScanRelay.Path

/-! ## Characters -/

/-- What stands in a segment as it is, and is no separator. -/
def Kept (c : Char) : Prop := Percent.inPath c = false ∧ c ≠ '/' ∧ c ≠ '\\'

instance (c : Char) : Decidable (Kept c) :=
  inferInstanceAs (Decidable (Percent.inPath c = false ∧ c ≠ '/' ∧ c ≠ '\\'))

theorem kept_of_mem_encode {cs : List Char} {c : Char}
    (h : c ∈ Percent.encode Percent.inSegment cs) : Kept c := by
  obtain ⟨d, -, hd⟩ := List.mem_flatMap.1 h
  unfold Percent.encodeChar at hd
  split at hd
  · obtain ⟨b, -, hb⟩ := List.mem_flatMap.1 hd
    have hdigit : ∀ n : Fin 16, Kept (Percent.hexDigit n) := by decide
    have hbyte : b.toNat < 256 := b.toNat_lt
    simp only [Percent.encodeByte, List.mem_cons, List.not_mem_nil, or_false] at hb
    rcases hb with rfl | rfl | rfl
    · decide
    · exact hdigit ⟨b.toNat / 16, by omega⟩
    · exact hdigit ⟨b.toNat % 16, by omega⟩
  · rename_i hset
    obtain rfl := List.mem_singleton.1 hd
    simp only [Percent.inSegment, Bool.not_eq_true, Bool.or_eq_false_iff,
      decide_eq_false_iff_not] at hset
    exact ⟨hset.1.1.1, hset.1.1.2, hset.2⟩

theorem kept_of_mem_segmentsOf {rest : List Component} (h : ∀ c ∈ rest, c.Inner) :
    ∀ s ∈ segmentsOf rest, ∀ c ∈ s.toList, Kept c := by
  intro s hs c hc
  unfold segmentsOf at hs
  split at hs
  · obtain rfl := List.mem_singleton.1 hs
    exact absurd hc (by simp)
  · obtain ⟨d, hd, rfl⟩ := List.mem_map.1 hs
    cases d with
    | root => exact (h _ hd).elim
    | current => exact (h _ hd).elim
    | parent =>
      have hdot : c = '.' := by simpa [segmentOf] using hc
      exact hdot ▸ by decide
    | name n => exact kept_of_mem_encode (by simpa [segmentOf] using hc)

theorem Kept.bounds {c : Char} (h : Kept c) : 0x20 < c.toNat := by
  have hpath := h.1
  simp only [Percent.inPath, Percent.inFragment, Percent.isControl, Bool.or_eq_false_iff,
    decide_eq_false_iff_not] at hpath
  have hspace : c.toNat ≠ 0x20 := fun hc => by
    have heq : c = ' ' := Char.toNat_inj.1 hc
    simp_all
  omega

theorem Kept.isBreak_eq_false {c : Char} (h : Kept c) : isBreak c = false := by
  have hlt := h.bounds
  simp only [isBreak, Bool.or_eq_false_iff, decide_eq_false_iff_not]
  refine ⟨⟨?_, ?_⟩, ?_⟩ <;> rintro rfl <;> exact absurd hlt (by decide)

theorem Kept.endsPath_eq_false {c : Char} (h : Kept c) : endsPath c = false := by
  have hpath := h.1
  simp only [Percent.inPath, Bool.or_eq_false_iff] at hpath
  simp only [endsPath, Bool.or_eq_false_iff]
  exact ⟨hpath.1.1.2, hpath.1.1.1.2⟩

theorem encode_unbroken_of_kept {cs : List Char} (h : ∀ c ∈ cs, Kept c) :
    Percent.encode Percent.inPath (unbroken cs) = cs := by
  induction cs with
  | nil => rfl
  | cons c cs ih =>
    obtain ⟨hc, hcs⟩ := List.forall_mem_cons.1 h
    have hbreak := hc.isBreak_eq_false
    have hpath := hc.1
    have hrest := ih hcs
    simp_all [unbroken, Percent.encode, Percent.encodeChar]

/-! ## The text -/

/-- Segments as they are written. -/
def writtenPath (segments : List String) : List Char := segments.flatMap fun s => '/' :: s.toList

theorem toList_toText_file (segments : List String) :
    (toText ⟨"file", some ⟨"", "", none, none⟩, .rooted segments, none, none⟩).toList
      = "file://".toList ++ writtenPath segments := by
  simp [toText, authorityText, pathText, writtenPath, List.flatMap_map]

theorem mem_writtenPath {segments : List String} {c : Char} (h : c ∈ writtenPath segments) :
    c = '/' ∨ ∃ s ∈ segments, c ∈ s.toList := by
  obtain ⟨s, hs, hc⟩ := List.mem_flatMap.1 h
  exact (List.mem_cons.1 hc).imp_right fun hc => ⟨s, hs, hc⟩

/-- What is written is cut into its segments, after an empty piece. -/
theorem splitAt_writtenPath {segments : List String} (h : ∀ s ∈ segments, ∀ c ∈ s.toList, Kept c) :
    splitAt '/' (writtenPath segments) = [] :: segments.map String.toList :=
  splitAt_flatMap [] (fun s hs hc => (h s hs _ hc).2.1 rfl) List.not_mem_nil

/-- A text of characters that no part of a URL drops is not trimmed. -/
theorem trimControls_of_forall {s : String} (h : ∀ c ∈ s.toList, 0x20 < c.toNat) :
    trimControls s = s.toList := by
  have hkeep : ∀ {cs : List Char}, (∀ c ∈ cs, 0x20 < c.toNat) →
      cs.dropWhile (fun c => c.toNat ≤ 0x20) = cs := fun {cs} hcs => by
    cases cs with
    | nil => rfl
    | cons c cs => exact List.dropWhile_cons_of_neg (by simpa using hcs c List.mem_cons_self)
  rw [trimControls, trimBoth, hkeep h, hkeep (by simpa using h), List.reverse_reverse]

/-- The text of a file is read from its path on. -/
theorem parse_toText_file {segments : List String} (hne : segments ≠ [])
    (h : ∀ s ∈ segments, ∀ c ∈ s.toList, Kept c) :
    parse (toText ⟨"file", some ⟨"", "", none, none⟩, .rooted segments, none, none⟩)
      = .ok (fileAt none (writtenPath segments)) := by
  have hwritten : ∀ c ∈ writtenPath segments, 0x20 < c.toNat ∧ isBreak c = false := by
    intro c hc
    rcases mem_writtenPath hc with rfl | ⟨s, hs, hcs⟩
    · decide
    · exact ⟨(h s hs c hcs).bounds, (h s hs c hcs).isBreak_eq_false⟩
  have hscheme : "file://".toList.all (fun c => 0x20 < c.toNat ∧ isBreak c = false) = true := by
    decide
  have hfront : ∀ c ∈ "file://".toList, 0x20 < c.toNat ∧ isBreak c = false := fun c hc =>
    of_decide_eq_true (List.all_eq_true.1 hscheme c hc)
  have hall : ∀ c ∈ "file://".toList ++ writtenPath segments, 0x20 < c.toNat ∧ isBreak c = false :=
    List.forall_mem_append.2 ⟨hfront, hwritten⟩
  have htrim : trimControls (toText
      ⟨"file", some ⟨"", "", none, none⟩, .rooted segments, none, none⟩)
        = "file://".toList ++ writtenPath segments := by
    rw [trimControls_of_forall, toList_toText_file]
    rw [toList_toText_file]
    exact fun c hc => (hall c hc).1
  have hunbroken : unbroken ("file://".toList ++ writtenPath segments)
      = "file://".toList ++ writtenPath segments :=
    List.filter_eq_self.2 fun c hc => by simp [(hall c hc).2]
  obtain ⟨s, rest, rfl⟩ := List.exists_cons_of_ne_nil hne
  rw [parse, htrim, hunbroken]
  rfl

/-- A path with no end before its own is cut into its segments, after an empty piece. -/
theorem fileAt_writtenPath {segments : List String} (h : ∀ s ∈ segments, ∀ c ∈ s.toList, Kept c) :
    fileAt none (writtenPath segments)
      = ⟨"file", some ⟨"", "", none, none⟩, .rooted (fileSegments
          (Trail.start.addAll true ([] :: segments.map String.toList))), none, none⟩ := by
  have hwritten : ∀ c ∈ writtenPath segments, endsPath c = false ∧ c ≠ '\\' := by
    intro c hc
    rcases mem_writtenPath hc with rfl | ⟨s, hs, hcs⟩
    · decide
    · exact ⟨(h s hs c hcs).endsPath_eq_false, (h s hs c hcs).2.2⟩
  have hpath : splitPath (writtenPath segments) = (writtenPath segments, []) := by
    have hin : ∀ c ∈ writtenPath segments, (!endsPath c) = true := fun c hc => by
      simp [(hwritten c hc).1]
    rw [splitPath, List.takeWhile_eq_self_iff.2 hin, List.dropWhile_eq_nil_iff.2 hin]
  have hslashes : (writtenPath segments).map (fun c => if isSlash true c then '/' else c)
      = writtenPath segments := by
    refine (List.map_congr_left fun c hc => ?_).trans (List.map_id _)
    have hslash : c = '/' ∨ c ≠ '/' := em _
    rcases hslash with rfl | hslash
    · rfl
    · simp [isSlash, hslash, (hwritten c hc).2]
  have hpieces : pathPieces true (writtenPath segments) = [] :: segments.map String.toList := by
    rw [pathPieces, hslashes, splitAt_writtenPath h]
  simp only [fileAt, hpath, hpieces, ite_self]
  rfl

/-! ## Segments -/

/-- A segment that is one piece of a path and moves nowhere. -/
structure Settled (segment : List Char) : Prop where
  isText : IsText (String.ofList segment)
  inner : '/' ∉ textOf (String.ofList segment)
  still : textOf (String.ofList segment) ≠ ['.', '.']

theorem settled_of_decode {segment cs : List Char} (h : Percent.decode segment = Utf8.encode cs)
    (hinner : '/' ∉ cs) (hstill : cs ≠ ['.', '.']) : Settled segment := by
  have hsegment : Percent.decode (String.ofList segment).toList = Utf8.encode cs := by
    rwa [String.toList_ofList]
  obtain ⟨hisText, htext⟩ := isText_of_decode hsegment
  exact ⟨hisText, htext ▸ hinner, htext ▸ hstill⟩

theorem settled_nil : Settled [] := by
  have hdecode : Percent.decode [] = Utf8.encode [] := rfl
  exact settled_of_decode hdecode (by simp) (by simp)

theorem settled_drive {c : Char} (h : c.isAlpha) : Settled [c, ':'] := by
  have hascii : c.val.toNat ≤ 127 := toNat_le_of_isAlpha h
  have hone : String.utf8EncodeChar c = [UInt8.ofNat c.val.toNat] := by
    unfold String.utf8EncodeChar
    exact if_pos hascii
  have hdecode : Percent.decode [c, ':'] = Utf8.encode [c, ':'] := by
    rw [Percent.decode, Utf8.encode, List.flatMap_cons, hone]
    rfl
  refine settled_of_decode hdecode ?_ (by simp)
  simp only [List.mem_cons, List.not_mem_nil, or_false, not_or]
  exact ⟨fun hc => absurd (hc ▸ h) (by decide), by decide⟩

theorem splitDrive?_of_kept {piece : List Char} (h : ∀ c ∈ piece, Kept c) :
    splitDrive? piece = none := by
  have hkeep : ∀ {cs : List Char}, (∀ c ∈ cs, Kept c) → dropBreaks cs = cs := fun {cs} hcs => by
    cases cs with
    | nil => rfl
    | cons c cs =>
      exact List.dropWhile_cons_of_neg (by simp [(hcs c List.mem_cons_self).isBreak_eq_false])
  unfold splitDrive?
  rw [hkeep h]
  split
  · rename_i letter rest
    have hrest : ∀ c ∈ rest, Kept c := (List.forall_mem_cons.1 h).2
    rw [hkeep hrest]
    split
    · rename_i b rest
      have hb := (hrest b (by simp)).isBreak_eq_false
      simp [hb]
    · rfl
  · rfl

namespace Trail

variable {t : Trail} {piece : List Char}

theorem settled_add (final : Bool) (ht : ∀ s ∈ t.segments, Settled s)
    (hkept : ∀ c ∈ piece, Kept c) (hpiece : isDoubleDot piece ∨ Settled piece) :
    ∀ s ∈ (t.add true final piece).segments, Settled s := by
  have hshorten : ∀ s ∈ shorten t.segments, Settled s := by
    cases hs : t.segments with
    | nil => simp [shorten]
    | cons s before =>
      rw [shorten]
      split
      · exact hs ▸ ht
      · exact (List.forall_mem_cons.1 (hs ▸ ht)).2
  unfold add
  simp only [encode_unbroken_of_kept hkept, splitDrive?_of_kept hkept, ite_self]
  split
  · cases final
    · exact hshorten
    · exact List.forall_mem_cons.2 ⟨settled_nil, hshorten⟩
  · rename_i hdots
    have hsettled : Settled piece := hpiece.resolve_left hdots
    split
    · cases final
      · exact ht
      · exact List.forall_mem_cons.2 ⟨settled_nil, ht⟩
    · split
      · rename_i hdrive
        obtain ⟨-, hdrive⟩ := Bool.and_eq_true_iff.1 hdrive
        refine List.forall_mem_singleton.2 ?_
        unfold isDrive at hdrive
        split at hdrive
        · exact settled_drive (Bool.and_eq_true_iff.1 hdrive).1
        · simp at hdrive
      · exact List.forall_mem_cons.2 ⟨hsettled, ht⟩

theorem settled_addAll {pieces : List (List Char)} (ht : ∀ s ∈ t.segments, Settled s)
    (hpieces : ∀ piece ∈ pieces, (∀ c ∈ piece, Kept c) ∧ (isDoubleDot piece ∨ Settled piece)) :
    ∀ s ∈ (t.addAll true pieces).segments, Settled s := by
  induction pieces generalizing t with
  | nil => exact ht
  | cons piece rest ih =>
    obtain ⟨⟨hkept, hpiece⟩, hrest⟩ := List.forall_mem_cons.1 hpieces
    exact ih (settled_add rest.isEmpty ht hkept hpiece) hrest

/-- Behind the first segment, a piece without dots of its own is added as it is. -/
theorem add_eq_push (final : Bool) (ht : t.segments ≠ []) (hkept : ∀ c ∈ piece, Kept c)
    (hdots : isDoubleDot piece = false) (hdot : isDot piece = false) :
    t.add true final piece = t.push piece := by
  unfold add
  simp [encode_unbroken_of_kept hkept, hdots, hdot, ht]

theorem segments_addAll {pieces : List (List Char)} (ht : t.segments ≠ [])
    (hpieces : ∀ piece ∈ pieces,
      (∀ c ∈ piece, Kept c) ∧ isDoubleDot piece = false ∧ isDot piece = false) :
    (t.addAll true pieces).segments = pieces.reverse ++ t.segments := by
  induction pieces generalizing t with
  | nil => rfl
  | cons piece rest ih =>
    obtain ⟨⟨hkept, hdots, hdot⟩, hrest⟩ := List.forall_mem_cons.1 hpieces
    rw [addAll, add_eq_push _ ht hkept hdots hdot, ih (List.cons_ne_nil _ _) hrest]
    simp [push]

end Trail

theorem decode_of_isDot {piece : List Char} (h : isDot piece) :
    Percent.decode piece = Utf8.encode ['.'] := by
  have hforms : ∀ form ∈ dotForms, Percent.decode form = Utf8.encode ['.'] := by decide
  exact hforms piece (List.contains_iff_mem.1 h)

theorem decode_of_isDoubleDot {piece : List Char} (h : isDoubleDot piece) :
    Percent.decode piece = Utf8.encode ['.', '.'] := by
  have hforms : ∀ a ∈ dotForms, ∀ b ∈ dotForms,
      Percent.decode (a ++ b) = Utf8.encode ['.', '.'] := by decide
  obtain ⟨a, ha, hb⟩ := List.any_eq_true.1 h
  obtain ⟨b, hb, hpiece⟩ := List.any_eq_true.1 hb
  rw [of_decide_eq_true hpiece, hforms a ha b hb]

section File

variable {p : String} {rest : List Component} (hp : components p = .root :: rest)
include hp

theorem settled_of_mem_segmentsOf {s : String} (hs : s ∈ segmentsOf rest) :
    isDoubleDot s.toList ∨ Settled s.toList := by
  unfold segmentsOf at hs
  split at hs
  · obtain rfl := List.mem_singleton.1 hs
    exact .inr settled_nil
  · obtain ⟨c, hc, rfl⟩ := List.mem_map.1 hs
    have hinner := inner_of_components hp c hc
    cases c with
    | root => exact hinner.elim
    | current => exact hinner.elim
    | parent => exact .inl (by decide)
    | name n =>
      refine .inr (settled_of_decode (decode_segmentOf hinner) (name_of_mem_components hp hc).2 ?_)
      exact fun hn => hinner.2 (String.toList_inj.1 hn)

/-- Without double dots, no segment is one that moves. -/
theorem still_of_mem_segmentsOf (hparent : .parent ∉ rest) {s : String}
    (hs : s ∈ segmentsOf rest) : isDoubleDot s.toList = false ∧ isDot s.toList = false := by
  unfold segmentsOf at hs
  split at hs
  · obtain rfl := List.mem_singleton.1 hs
    decide
  · obtain ⟨c, hc, rfl⟩ := List.mem_map.1 hs
    have hinner := inner_of_components hp c hc
    cases c with
    | root => exact hinner.elim
    | current => exact hinner.elim
    | parent => exact absurd hc hparent
    | name n =>
      have hdecode := decode_segmentOf hinner
      refine ⟨Bool.eq_false_iff.2 fun hdots => hinner.2 (String.toList_inj.1 ?_),
        Bool.eq_false_iff.2 fun hdot => (name_of_mem_components hp hc).1 ?_⟩
      · exact Utf8.encode_injective (hdecode.symm.trans (decode_of_isDoubleDot hdots))
      · exact Utf8.encode_injective (hdecode.symm.trans (decode_of_isDot hdot))

theorem kept_of_mem_map_segmentsOf :
    ∀ piece ∈ (segmentsOf rest).map String.toList, ∀ c ∈ piece, Kept c := by
  intro piece hpiece
  obtain ⟨s, hs, rfl⟩ := List.mem_map.1 hpiece
  exact kept_of_mem_segmentsOf (inner_of_components hp) s hs

end File

/-! ## Reading the text -/

/-- What the pieces of the path of a file's URL add up to. -/
def trailOf (rest : List Component) : Trail :=
  Trail.start.addAll true ([] :: (segmentsOf rest).map String.toList)

theorem settled_fileSegments {t : Trail} (h : ∀ s ∈ t.segments, Settled s) :
    ∀ s ∈ fileSegments t, Settled s.toList := by
  unfold fileSegments
  intro s hs
  split at hs
  · obtain rfl := List.mem_singleton.1 hs
    exact settled_nil
  · obtain ⟨cs, hcs, rfl⟩ := List.mem_map.1 hs
    rw [String.toList_ofList]
    exact h cs (List.mem_reverse.1 (List.dropWhile_sublist _ |>.subset hcs))

theorem fileSegments_ne_nil (t : Trail) : fileSegments t ≠ [] := by
  unfold fileSegments
  split <;> simp_all

section File

variable {p : String} {rest : List Component} (hp : components p = .root :: rest)
include hp

theorem settled_trailOf : ∀ s ∈ fileSegments (trailOf rest), Settled s.toList := by
  refine settled_fileSegments (Trail.settled_addAll (List.forall_mem_nil _) ?_)
  refine List.forall_mem_cons.2 ⟨⟨List.forall_mem_nil _, .inr settled_nil⟩, fun piece hpiece => ?_⟩
  refine ⟨kept_of_mem_map_segmentsOf hp piece hpiece, ?_⟩
  obtain ⟨s, hs, rfl⟩ := List.mem_map.1 hpiece
  exact settled_of_mem_segmentsOf hp hs

/-- Without double dots the segments are what they were. -/
theorem fileSegments_trailOf (hparent : .parent ∉ rest) :
    fileSegments (trailOf rest) = segmentsOf rest := by
  have hsegments : (trailOf rest).segments
      = ((segmentsOf rest).map String.toList).reverse ++ [[]] := by
    refine Trail.segments_addAll (t := ⟨[[]], false⟩) (List.cons_ne_nil _ _) fun piece hpiece => ?_
    refine ⟨kept_of_mem_map_segmentsOf hp piece hpiece, ?_⟩
    obtain ⟨s, hs, rfl⟩ := List.mem_map.1 hpiece
    exact still_of_mem_segmentsOf hp hparent hs
  unfold fileSegments
  rw [hsegments, List.reverse_append, List.reverse_reverse]
  cases hrest : rest with
  | nil => rfl
  | cons c cs =>
    have hc : (segmentOf c).toList ≠ [] := fun hempty =>
      segmentOf_ne_empty (inner_of_components hp c (hrest ▸ List.mem_cons_self))
        (String.toList_inj.1 hempty)
    simp [segmentsOf, hc, Function.comp_def]

end File

theorem parse_toText {p : String} {u : Url} {rest : List Component} (hu : ofFilePath? p = some u)
    (hp : components p = .root :: rest) : parse u.toText
      = .ok ⟨"file", some ⟨"", "", none, none⟩, .rooted (fileSegments (trailOf rest)),
          none, none⟩ := by
  obtain ⟨rest', hrest, rfl⟩ := ofFilePath?_eq_some.1 hu
  obtain ⟨-, rfl⟩ := List.cons.inj (hp.symm.trans hrest)
  have hkept := kept_of_mem_segmentsOf (inner_of_components hp)
  rw [parse_toText_file (segmentsOf_ne_nil rest) hkept, fileAt_writtenPath hkept, trailOf]

end Url

namespace Path

/-- Whether a path is spelt in the one way that its URL tells, with no double dots in it. -/
def Plain (p : String) : Prop :=
  ∃ rest, components p = .root :: rest ∧ .parent ∉ rest ∧ p = String.ofList (spelling rest)

/-- Texts that are set off by separators stand for their own components, also when the path is
closed. -/
theorem components_close_flatMap {texts : List (List Char)} (hne : texts ≠ [])
    (h : ∀ t ∈ texts, '/' ∉ t) :
    components (String.ofList (close (texts.flatMap ('/' :: ·))))
      = .root :: texts.filterMap component? := by
  have hopen : ∀ texts : List (List Char), texts ≠ [] → (∀ t ∈ texts, '/' ∉ t) →
      componentsOf (texts.flatMap ('/' :: ·)) = .root :: texts.filterMap component? := by
    intro texts hne h
    obtain ⟨t, texts, rfl⟩ := List.exists_cons_of_ne_nil hne
    obtain ⟨ht, htexts⟩ := List.forall_mem_cons.1 h
    rw [List.flatMap_cons, List.cons_append, componentsOf, splitAt_flatMap t htexts ht,
      List.map_id']
  rw [components, String.toList_ofList]
  rcases close_cases (texts.flatMap ('/' :: ·)) with hclose | hclose
  · rw [hclose, hopen texts hne h]
  · -- A separator at the end sets off one more text, which is empty and stands for nothing.
    have hclosed : texts.flatMap ('/' :: ·) ++ ['/'] = (texts ++ [[]]).flatMap ('/' :: ·) := by
      rw [List.flatMap_append, List.flatMap_singleton]
    rw [hclose, hclosed, hopen _ (by simp) (List.forall_mem_append.2 ⟨h, by simp⟩),
      List.filterMap_append]
    simp [component?]

theorem parent_not_mem_components (texts : List (List Char)) (hne : texts ≠ [])
    (h : ∀ t ∈ texts, '/' ∉ t ∧ t ≠ ['.', '.']) :
    .parent ∉ components (String.ofList (close (texts.flatMap ('/' :: ·)))) := by
  rw [components_close_flatMap hne fun t ht => (h t ht).1]
  intro hparent
  obtain ⟨piece, hpiece, heq⟩ :=
    List.mem_filterMap.1 ((List.mem_cons.1 hparent).resolve_left (by simp))
  unfold component? at heq
  split at heq
  · simp at heq
  · split at heq
    · rename_i hdots
      exact (h piece hpiece).2 hdots
    · simp at heq

end Path

open ScanRelay.Path

/-- Reading back the text of a file's URL gives a path, which is the one that the URL was made from
exactly when that is spelt plainly. -/
theorem Url.exists_toFilePath?_parse {p : String} {u : Url} (hu : Url.ofFilePath? p = some u) :
    ∃ v q, Url.parse u.toText = .ok v ∧ v.toFilePath? = some q ∧ (q = p ↔ Path.Plain p) := by
  obtain ⟨rest, hp, -⟩ := Url.ofFilePath?_eq_some.1 hu
  have hsettled := Url.settled_trailOf hp
  have htext : ∀ s ∈ Url.fileSegments (Url.trailOf rest), Url.IsText s := fun s hs =>
    String.ofList_toList (s := s) ▸ (hsettled s hs).isText
  refine ⟨_, _, Url.parse_toText hu hp, Url.toFilePath?_of_isText (Url.fileSegments_ne_nil _) htext
    none none, ?_⟩
  by_cases hparent : .parent ∈ rest
  · -- What is read back holds no double dots, so it is another path.
    refine iff_of_false (fun hq => ?_) ?_
    · refine parent_not_mem_components
        ((Url.fileSegments (Url.trailOf rest)).map Url.textOf) ?_ ?_ ?_
      · simpa using Url.fileSegments_ne_nil (Url.trailOf rest)
      · rw [List.forall_mem_map]
        intro s hs
        exact String.ofList_toList (s := s) ▸ ⟨(hsettled s hs).inner, (hsettled s hs).still⟩
      · rw [List.flatMap_map, hq, hp]
        exact List.mem_cons_of_mem _ hparent
    · rintro ⟨rest', hrest, hno, -⟩
      obtain ⟨-, rfl⟩ := List.cons.inj (hp.symm.trans hrest)
      exact hno hparent
  · rw [Url.fileSegments_trailOf hp hparent,
      Url.flatMap_textOf_segmentsOf (inner_of_components hp)]
    constructor
    · exact fun hq => ⟨rest, hp, hparent, hq.symm⟩
    · rintro ⟨rest', hrest, -, hq⟩
      obtain ⟨-, rfl⟩ := List.cons.inj (hp.symm.trans hrest)
      exact hq.symm

end ScanRelay
