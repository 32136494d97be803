import ScanRelay.Url.FilePath

/-!
# The URL of a file tells its components

What is written with escapes is read back as it was (`decode_encode`), so a component can be told
from its segment, and a file from its URL: two absolute paths have one URL exactly when they have
the same components (`ofFilePath?_eq_some_iff`).
-/

namespace ScanRelay

namespace Utf8

theorem encode_cons (c : Char) (cs : List Char) :
    encode (c :: cs) = String.utf8EncodeChar c ++ encode cs :=
  List.flatMap_cons

theorem encode_append (cs ds : List Char) : encode (cs ++ ds) = encode cs ++ encode ds :=
  List.flatMap_append

/-- Bytes tell the text that they stand for. -/
theorem encode_injective {cs ds : List Char} (h : encode cs = encode ds) : cs = ds := by
  have hbytes : cs.utf8Encode = ds.utf8Encode := congrArg List.toByteArray h
  have hread := congrArg ByteArray.utf8Decode? hbytes
  simpa only [List.utf8Decode?_utf8Encode, Option.some.injEq, Array.mk.injEq] using hread

end Utf8

namespace Percent

theorem decodeBytes_cons_of_ne {b : UInt8} (hb : b.toNat ≠ 37) (rest : List UInt8) :
    decodeBytes (b :: rest) = b :: decodeBytes rest := by
  -- Fewer than three bytes are no escape and are not looked at.
  cases rest with
  | nil => rfl
  | cons a rest =>
    cases rest with
    | nil => rfl
    | cons c rest => simp [decodeBytes, hb]

/-- A digit as a byte. -/
def digitByte (n : Nat) : UInt8 := UInt8.ofNat (hexDigit n).toNat

theorem utf8_hexDigit {n : Nat} (hn : n < 16) :
    String.utf8EncodeChar (hexDigit n) = [digitByte n] := by
  have hall : ∀ n : Fin 16, String.utf8EncodeChar (hexDigit n) = [digitByte n] := by decide
  exact hall ⟨n, hn⟩

theorem byteOf?_digitByte {m n : Nat} (hm : m < 16) (hn : n < 16) :
    byteOf? (digitByte m) (digitByte n) = some (UInt8.ofNat (m * 16 + n)) := by
  have hall : ∀ n : Fin 16, hexValue? (digitByte n) = some n.val := by decide
  simp only [byteOf?, hall ⟨m, hm⟩, hall ⟨n, hn⟩]

theorem decodeBytes_encodeByte (b : UInt8) (rest : List UInt8) :
    decodeBytes (Utf8.encode (encodeByte b) ++ rest) = b :: decodeBytes rest := by
  have hb : b.toNat < 256 := b.toNat_lt
  have hhigh : b.toNat / 16 < 16 := by omega
  have hlow : b.toNat % 16 < 16 := by omega
  have hbytes : Utf8.encode (encodeByte b)
      = [37, digitByte (b.toNat / 16), digitByte (b.toNat % 16)] := by
    simp only [Utf8.encode, encodeByte, List.flatMap_cons, List.flatMap_nil, utf8_hexDigit hhigh,
      utf8_hexDigit hlow]
    rfl
  have hbyte : UInt8.ofNat (b.toNat / 16 * 16 + b.toNat % 16) = b := by
    rw [Nat.div_add_mod' b.toNat 16, UInt8.ofNat_toNat]
  rw [hbytes]
  simp only [List.cons_append, List.nil_append, decodeBytes, byteOf?_digitByte hhigh hlow, hbyte]
  rfl

theorem decodeBytes_encodeBytes (bs rest : List UInt8) :
    decodeBytes (Utf8.encode (bs.flatMap encodeByte) ++ rest) = bs ++ decodeBytes rest := by
  induction bs with
  | nil => rfl
  | cons b bs ih =>
    rw [List.flatMap_cons, Utf8.encode_append, List.append_assoc, decodeBytes_encodeByte, ih,
      List.cons_append]

/-- What stands in a segment as it is. -/
theorem bounds_of_not_inSegment {c : Char} (h : inSegment c = false) :
    c.toNat ≤ 127 ∧ c.toNat ≠ 37 := by
  simp only [inSegment, inPath, inFragment, isControl, Bool.or_eq_false_iff,
    decide_eq_false_iff_not] at h
  refine ⟨by omega, fun hc => ?_⟩
  have hpercent : c = '%' := Char.toNat_inj.1 hc
  simp_all

theorem decodeBytes_encodeChar (c : Char) (rest : List UInt8) :
    decodeBytes (Utf8.encode (encodeChar inSegment c) ++ rest)
      = String.utf8EncodeChar c ++ decodeBytes rest := by
  unfold encodeChar
  split
  · exact decodeBytes_encodeBytes _ _
  · rename_i hc
    obtain ⟨hascii, hne⟩ := bounds_of_not_inSegment (Bool.not_eq_true _ ▸ hc)
    have hone : String.utf8EncodeChar c = [UInt8.ofNat c.toNat] := by
      unfold String.utf8EncodeChar
      exact if_pos hascii
    have hbyte : (UInt8.ofNat c.toNat).toNat ≠ 37 := by
      rw [UInt8.toNat_ofNat']
      omega
    rw [Utf8.encode, List.flatMap_singleton, hone, List.singleton_append,
      decodeBytes_cons_of_ne hbyte, List.singleton_append]

/-- A segment is read back as it was. -/
theorem decode_encode (cs : List Char) : decode (encode inSegment cs) = Utf8.encode cs := by
  have hrest : ∀ rest, decodeBytes (Utf8.encode (encode inSegment cs) ++ rest)
      = Utf8.encode cs ++ decodeBytes rest := by
    intro rest
    induction cs with
    | nil => rfl
    | cons c cs ih =>
      rw [encode, List.flatMap_cons, ← encode, Utf8.encode_append, List.append_assoc,
        decodeBytes_encodeChar, ih, Utf8.encode_cons, List.append_assoc]
  simpa [decode, decodeBytes] using hrest []

theorem encode_injective {cs ds : List Char} (h : encode inSegment cs = encode inSegment ds) :
    cs = ds := by
  refine Utf8.encode_injective ?_
  rw [← decode_encode, h, decode_encode]

end Percent

namespace Path

/-- What can stand in a path behind its root. -/
def Component.Inner : Component → Prop
  | root => False
  | current => False
  | parent => True
  | name s => s ≠ "" ∧ s ≠ ".."

theorem inner_of_component? {piece : List Char} {c : Component} (h : component? piece = some c) :
    c.Inner := by
  unfold component? at h
  split at h
  · exact absurd h (by simp)
  · rename_i hdot
    split at h
    · obtain rfl := Option.some.inj h
      trivial
    · rename_i hdots
      obtain rfl := Option.some.inj h
      refine ⟨fun hs => hdot ?_, fun hs => hdots ?_⟩
      · have hpiece := congrArg String.toList hs
        simp_all
      · have hpiece := congrArg String.toList hs
        simpa using hpiece

theorem inner_of_mem_filterMap {pieces : List (List Char)} {c : Component}
    (h : c ∈ pieces.filterMap component?) : c.Inner := by
  obtain ⟨piece, -, hc⟩ := List.mem_filterMap.1 h
  exact inner_of_component? hc

/-- A path begins with its root if its text begins with a separator, and in no other way. -/
theorem exists_toList_of_components {path : String} {rest : List Component}
    (h : components path = .root :: rest) :
    ∃ cs, path.toList = '/' :: cs ∧ rest = (splitAt '/' cs).filterMap component? := by
  unfold components componentsOf at h
  split at h
  · rename_i cs hcs
    exact ⟨cs, hcs, (List.cons.inj h).2.symm⟩
  · split at h
    · exact absurd (List.cons.inj h).1 (by simp)
    · have hroot : Component.root.Inner := inner_of_mem_filterMap (h ▸ List.mem_cons_self)
      exact hroot.elim

theorem inner_of_components {path : String} {rest : List Component}
    (h : components path = .root :: rest) : ∀ c ∈ rest, c.Inner := by
  obtain ⟨cs, -, rfl⟩ := exists_toList_of_components h
  exact fun c hc => inner_of_mem_filterMap hc

end Path

namespace Url

open ScanRelay.Path

theorem segmentOf_name_injective {s t : String}
    (h : segmentOf (.name s) = segmentOf (.name t)) : s = t :=
  String.toList_inj.1 (Percent.encode_injective (String.ofList_injective h))

theorem segmentOf_ne_empty {c : Component} (h : c.Inner) : segmentOf c ≠ "" := by
  cases c with
  | root => exact h.elim
  | current => exact h.elim
  | parent => simp [segmentOf]
  | name s => exact fun hs => h.1 (segmentOf_name_injective (t := "") hs)

theorem segmentOf_injective {c d : Component} (hc : c.Inner) (hd : d.Inner)
    (h : segmentOf c = segmentOf d) : c = d := by
  have hdots : segmentOf (.name "..") = ".." := by decide
  cases c <;> cases d <;> try contradiction
  case parent.parent => rfl
  case parent.name t => exact absurd (segmentOf_name_injective (hdots.trans h)).symm hd.2
  case name.parent s => exact absurd (segmentOf_name_injective (h.trans hdots.symm)) hc.2
  case name.name s t => rw [segmentOf_name_injective h]

theorem map_segmentOf_injective {cs ds : List Component} (hcs : ∀ c ∈ cs, c.Inner)
    (hds : ∀ d ∈ ds, d.Inner) (h : cs.map segmentOf = ds.map segmentOf) : cs = ds := by
  induction cs generalizing ds with
  | nil => exact (List.map_eq_nil_iff.1 h.symm).symm
  | cons c cs ih =>
    obtain ⟨d, ds, rfl, hd, htail⟩ := List.map_eq_cons_iff.1 h.symm
    rw [List.forall_mem_cons] at hcs hds
    rw [segmentOf_injective hcs.1 hds.1 hd.symm, ih hcs.2 hds.2 htail.symm]

/-- The segments of a path with these components behind its root. -/
def segmentsOf (rest : List Component) : List String :=
  if rest.isEmpty then [""] else rest.map segmentOf

theorem segmentsOf_injective {cs ds : List Component} (hcs : ∀ c ∈ cs, c.Inner)
    (hds : ∀ d ∈ ds, d.Inner) (h : segmentsOf cs = segmentsOf ds) : cs = ds := by
  cases cs with
  | nil =>
    cases ds with
    | nil => rfl
    | cons d ds =>
      exact absurd (List.cons.inj h).1.symm (segmentOf_ne_empty (hds d List.mem_cons_self))
  | cons c cs =>
    cases ds with
    | nil => exact absurd (List.cons.inj h).1 (segmentOf_ne_empty (hcs c List.mem_cons_self))
    | cons d ds => exact map_segmentOf_injective hcs hds h

theorem ofFilePath?_eq_some {p : String} {u : Url} : ofFilePath? p = some u ↔
    ∃ rest, components p = .root :: rest
      ∧ u = ⟨"file", some ⟨"", "", none, none⟩, .rooted (segmentsOf rest), none, none⟩ := by
  unfold ofFilePath?
  split
  · rename_i rest hrest
    rw [hrest, Option.some.injEq, eq_comm]
    constructor
    · exact fun hu => ⟨rest, rfl, hu⟩
    · rintro ⟨_, heq, hu⟩
      obtain ⟨-, rfl⟩ := List.cons.inj heq
      exact hu
  · rename_i hroot
    simpa using fun rest hrest _ => hroot rest hrest

/-- Files with one URL are those with the same components. -/
theorem ofFilePath?_eq_some_iff {p q : String} {u : Url} (hp : ofFilePath? p = some u) :
    ofFilePath? q = some u ↔ components q = components p := by
  constructor
  · intro hq
    obtain ⟨rest, hrest, rfl⟩ := ofFilePath?_eq_some.1 hp
    obtain ⟨rest', hrest', hu⟩ := ofFilePath?_eq_some.1 hq
    injection hu with _ _ hpath
    injection hpath with hsegments
    rw [hrest, hrest', segmentsOf_injective (inner_of_components hrest')
      (inner_of_components hrest) hsegments.symm]
  · intro h
    unfold ofFilePath? at hp ⊢
    rwa [h]

end Url

end ScanRelay
