import ScanRelay.Proofs.FileUrls

/-!
# What a file's URL names

The URL of a file says its components and nothing else of how its path was spelt. The path that it
names is spelt in one way (`Path.spelling`): a separator before each component, and one more behind
a path that would end like a drive. So it is the path that the URL was made from only if that is
spelt so already (`toFilePath?_eq_some_spelling`).
-/

namespace ScanRelay

namespace Utf8

/-! ## Text -/

theorem toNat_ofNat_of_lt {n : Nat} (h : n < 256) : (UInt8.ofNat n).toNat = n := by
  rw [UInt8.toNat_ofNat']
  omega

theorem toNat_tail (n : Nat) : (UInt8.ofNat (n % 64 + 128)).toNat = n % 64 + 128 :=
  toNat_ofNat_of_lt (by omega)

theorem isContinuation_tail (n : Nat) : isContinuation (UInt8.ofNat (n % 64 + 128)) = true := by
  simp only [isContinuation, toNat_tail, Bool.and_eq_true, decide_eq_true_eq]
  omega

/-- Once the head is read, so is what comes after it. -/
theorem decode_of_decodeHead {lead : UInt8} (tail : List UInt8) {rest : List UInt8} {c : Char}
    (h : decodeHead lead (tail ++ rest) = (c, tail.length)) :
    decode (lead :: tail ++ rest) = c :: decode rest := by
  rw [List.cons_append, decode, h, List.drop_left]

/-- A character is read back, whatever comes after it. -/
theorem decode_encodeChar (c : Char) (rest : List UInt8) :
    decode (String.utf8EncodeChar c ++ rest) = c :: decode rest := by
  have hchar : ∀ n, n = c.val.toNat → Char.ofNat n = c := fun n hn => hn ▸ Char.ofNat_toNat c
  have hvalid : c.val.toNat < 0xD800 ∨ 0xDFFF < c.val.toNat ∧ c.val.toNat < 0x110000 := c.valid
  unfold String.utf8EncodeChar
  generalize c.val.toNat = v at hchar hvalid
  dsimp only
  -- One case for each number of bytes. The ranges of the second byte hold because `v` needs
  -- that many and is no surrogate.
  split
  · have hlead : (UInt8.ofNat v).toNat = v := toNat_ofNat_of_lt (by omega)
    have hwidth : width (UInt8.ofNat v) = 1 := by rw [width, hlead, if_pos (by omega)]
    refine decode_of_decodeHead [] ?_
    simp only [decodeHead, hwidth, hlead, hchar v rfl, List.length_nil]
  split
  · have hlead : (UInt8.ofNat (v / 64 % 32 + 192)).toNat = v / 64 + 192 :=
      (toNat_ofNat_of_lt (by omega)).trans (by omega)
    have hwidth : width (UInt8.ofNat (v / 64 % 32 + 192)) = 2 := by
      rw [width, hlead, if_neg (by omega), if_neg (by omega), if_pos (by omega)]
    refine decode_of_decodeHead [_] ?_
    simp only [List.cons_append, List.nil_append, decodeHead, hwidth, isContinuation_tail, if_true,
      hlead, toNat_tail, List.length_singleton]
    rw [hchar _ (by omega)]
  split
  · have hlead : (UInt8.ofNat (v / 4096 % 16 + 224)).toNat = v / 4096 + 224 :=
      (toNat_ofNat_of_lt (by omega)).trans (by omega)
    have hwidth : width (UInt8.ofNat (v / 4096 % 16 + 224)) = 3 := by
      rw [width, hlead, if_neg (by omega), if_neg (by omega), if_neg (by omega), if_pos (by omega)]
    have hsecond : isSecond (UInt8.ofNat (v / 4096 % 16 + 224))
        (UInt8.ofNat (v / 64 % 64 + 128)) = true := by
      simp only [isSecond, isContinuation_tail, hlead, toNat_tail]
      grind
    refine decode_of_decodeHead [_, _] ?_
    simp only [List.cons_append, List.nil_append, decodeHead, hwidth, hsecond, isContinuation_tail,
      if_true, hlead, toNat_tail, List.length_cons, List.length_nil]
    rw [hchar _ (by omega)]
  · have hlead : (UInt8.ofNat (v / 262144 % 8 + 240)).toNat = v / 262144 + 240 :=
      (toNat_ofNat_of_lt (by omega)).trans (by omega)
    have hwidth : width (UInt8.ofNat (v / 262144 % 8 + 240)) = 4 := by
      rw [width, hlead, if_neg (by omega), if_neg (by omega), if_neg (by omega), if_neg (by omega),
        if_pos (by omega)]
    have hsecond : isSecond (UInt8.ofNat (v / 262144 % 8 + 240))
        (UInt8.ofNat (v / 4096 % 64 + 128)) = true := by
      simp only [isSecond, isContinuation_tail, hlead, toNat_tail]
      grind
    refine decode_of_decodeHead [_, _, _] ?_
    simp only [List.cons_append, List.nil_append, decodeHead, hwidth, hsecond, isContinuation_tail,
      if_true, hlead, toNat_tail, List.length_cons, List.length_nil]
    rw [hchar _ (by omega)]

/-- Text is read back. -/
theorem decode_encode (cs : List Char) : decode (encode cs) = cs := by
  induction cs with
  | nil => rw [encode, List.flatMap_nil, decode]
  | cons c cs ih => rw [encode, List.flatMap_cons, ← encode, decode_encodeChar, ih]

theorem decodeText_encode (cs : List Char) : decodeText (encode cs) = String.ofList cs := by
  rw [decodeText, decode_encode]

/-- The last byte of a character is the character itself, or no character of ASCII. -/
theorem exists_reverse_encodeChar (c : Char) :
    ∃ b bs, (String.utf8EncodeChar c).reverse = b :: bs
      ∧ (b.toNat = c.toNat ∧ bs = [] ∨ 127 < c.toNat ∧ 127 < b.toNat) := by
  show ∃ (b : UInt8) (bs : List UInt8),
    _ ∧ (b.toNat = c.val.toNat ∧ bs = [] ∨ 127 < c.val.toNat ∧ 127 < b.toNat)
  unfold String.utf8EncodeChar
  generalize c.val.toNat = v
  dsimp only
  have htail : 127 < (UInt8.ofNat (v % 64 + 128)).toNat := by
    rw [toNat_tail]
    omega
  split
  · exact ⟨_, [], rfl, .inl ⟨toNat_ofNat_of_lt (by omega), rfl⟩⟩
  · have hv : 127 < v := by omega
    split
    · exact ⟨_, _, rfl, .inr ⟨hv, htail⟩⟩
    · split <;> exact ⟨_, _, rfl, .inr ⟨hv, htail⟩⟩

end Utf8

/-! ## Spelling -/

namespace Path

def Component.text : Component → List Char
  | root => []
  | current => ['.']
  | parent => ['.', '.']
  | name s => s.toList

/-- The text, with a separator behind it if it ends in a letter and a colon or a bar. -/
def close (cs : List Char) : List Char :=
  match cs.reverse with
  | c :: d :: _ :: _ => if (c = ':' || c = '|') && d.isAlpha then cs ++ ['/'] else cs
  | _ => cs

/-- How the path with these components behind its root is spelt by its URL. -/
def spelling (rest : List Component) : List Char :=
  close (if rest.isEmpty then ['/'] else rest.flatMap fun c => '/' :: c.text)

theorem close_of_last {cs rest : List Char} {c : Char} (h : cs.reverse = c :: rest)
    (hc : ¬ (c = ':' ∨ c = '|')) : close cs = cs := by
  unfold close
  rw [h]
  split
  · rename_i heq
    obtain ⟨rfl, -⟩ := List.cons.inj heq
    simp [not_or.1 hc]
  · rfl

theorem close_of_last_two {cs rest : List Char} {c d : Char} (h : cs.reverse = c :: d :: rest) :
    close cs
      = if (c = ':' ∨ c = '|') ∧ d.isAlpha ∧ rest ≠ [] then cs ++ ['/'] else cs := by
  unfold close
  rw [h]
  cases rest <;> simp

theorem close_cases (cs : List Char) : close cs = cs ∨ close cs = cs ++ ['/'] := by
  unfold close
  split
  · split
    · exact .inr rfl
    · exact .inl rfl
  · exact .inl rfl

end Path

namespace Url

open ScanRelay.Path

theorem toNat_le_of_isAlpha {c : Char} (h : c.isAlpha) : c.toNat ≤ 127 := by
  have hletter : (c.isUpper || c.isLower) = true := h
  rcases Bool.or_eq_true_iff.1 hletter with hupper | hlower
  · have hle : c.val ≤ 'Z'.val := (decide_eq_true_iff.1 hupper).2
    exact Nat.le_trans (UInt32.le_iff_toNat_le.1 hle) (by decide)
  · have hle : c.val ≤ 'z'.val := decide_eq_true_iff.1 (Bool.and_eq_true_iff.1 hlower).2
    exact Nat.le_trans (UInt32.le_iff_toNat_le.1 hle) (by decide)

theorem isAlpha_ofNat_eq_false {b : UInt8} (h : 127 < b.toNat) :
    (Char.ofNat b.toNat).isAlpha = false := by
  have hall : ∀ n : Fin 256, 127 < n.val → (Char.ofNat n.val).isAlpha = false := by
    decide +kernel
  exact hall ⟨b.toNat, b.toNat_lt⟩ h

theorem closeDrive_of_last {bytes rest : List UInt8} {c : UInt8} (h : bytes.reverse = c :: rest)
    (hc : ¬ (c.toNat = 58 ∨ c.toNat = 124)) : closeDrive bytes = bytes := by
  unfold closeDrive
  rw [h]
  split
  · rename_i heq
    obtain ⟨rfl, -⟩ := List.cons.inj heq
    simp [not_or.1 hc]
  · rfl

theorem closeDrive_of_last_two {bytes rest : List UInt8} {c d : UInt8}
    (h : bytes.reverse = c :: d :: rest) : closeDrive bytes
      = if (c.toNat = 58 ∨ c.toNat = 124) ∧ (Char.ofNat d.toNat).isAlpha ∧ rest ≠ []
        then bytes ++ [47] else bytes := by
  unfold closeDrive
  rw [h]
  cases rest <;> simp

/-- Whether bytes end like a drive is seen on the text that they stand for. -/
theorem closeDrive_encode (cs : List Char) :
    closeDrive (Utf8.encode cs) = Utf8.encode (close cs) := by
  have hreverse : (Utf8.encode cs).reverse
      = cs.reverse.flatMap fun c => (String.utf8EncodeChar c).reverse := by
    rw [Utf8.encode, List.reverse_flatMap]
    rfl
  rcases hcs : cs.reverse with _ | ⟨c, before⟩
  · obtain rfl := List.reverse_eq_nil_iff.1 hcs
    rfl
  obtain ⟨b, bs, hb, hascii | ⟨hc, hlt⟩⟩ := Utf8.exists_reverse_encodeChar c
  · have hdrive : b.toNat = 58 ∨ b.toNat = 124 ↔ c = ':' ∨ c = '|' := by
      simp only [hascii.1, ← Char.toNat_inj]
      rfl
    by_cases hc : c = ':' ∨ c = '|'
    · rcases before with _ | ⟨d, before⟩
      · simp [hcs, hb, hascii.2] at hreverse
        simp [closeDrive, close, hreverse, hcs]
      obtain ⟨b', bs', hb', hd⟩ := Utf8.exists_reverse_encodeChar d
      simp only [hcs, List.flatMap_cons, hb, hb', hascii.2, List.cons_append,
        List.nil_append] at hreverse
      rw [closeDrive_of_last_two hreverse, close_of_last_two hcs]
      rcases hd with ⟨hd, rfl⟩ | ⟨hd, hlt⟩
      · have hempty : before.flatMap (fun c => (String.utf8EncodeChar c).reverse) ≠ []
            ↔ before ≠ [] := by
          rcases before with _ | ⟨e, before⟩
          · simp
          · obtain ⟨b'', bs'', he, -⟩ := Utf8.exists_reverse_encodeChar e
            simp [he]
        simp only [hd, Char.ofNat_toNat, List.nil_append, hdrive, hempty]
        split
        · rw [Utf8.encode_append]
          rfl
        · rfl
      · rw [isAlpha_ofNat_eq_false hlt, if_neg (by simp), if_neg]
        exact fun h => absurd (toNat_le_of_isAlpha h.2.1) (by omega)
    · rw [hcs, List.flatMap_cons, hb, List.cons_append] at hreverse
      rw [closeDrive_of_last hreverse (mt hdrive.1 hc), close_of_last hcs hc]
  · rw [hcs, List.flatMap_cons, hb, List.cons_append] at hreverse
    rw [closeDrive_of_last hreverse (by omega), close_of_last hcs]
    rintro (rfl | rfl) <;> exact absurd hc (by decide)

/-! ## From a path to its URL and back -/

theorem decode_segmentOf {c : Component} (h : c.Inner) :
    Percent.decode (segmentOf c).toList = Utf8.encode c.text := by
  cases c with
  | root => exact h.elim
  | current => exact h.elim
  | parent => decide
  | name s => rw [segmentOf, String.toList_ofList, Percent.decode_encode, Component.text]

/-- The text that a segment stands for. -/
def textOf (segment : String) : List Char := Utf8.decode (Percent.decode segment.toList)

/-- The bytes that a segment stands for are those of a text. -/
def IsText (segment : String) : Prop :=
  Percent.decode segment.toList = Utf8.encode (textOf segment)

theorem isText_of_decode {segment : String} {cs : List Char}
    (h : Percent.decode segment.toList = Utf8.encode cs) :
    IsText segment ∧ textOf segment = cs := by
  have htext : textOf segment = cs := by rw [textOf, h, Utf8.decode_encode]
  exact ⟨h.trans (by rw [htext]), htext⟩

theorem isText_empty : IsText "" ∧ textOf "" = [] := isText_of_decode rfl

/-- The path that a URL on this machine names. -/
theorem toFilePath?_of_isText {segments : List String} (hne : segments ≠ [])
    (h : ∀ s ∈ segments, IsText s) (query fragment : Option String) :
    toFilePath? ⟨"file", some ⟨"", "", none, none⟩, .rooted segments, query, fragment⟩
      = some (String.ofList (close (segments.flatMap fun s => '/' :: textOf s))) := by
  have hbytes : (segments.flatMap fun s => 47 :: Percent.decode s.toList)
      = Utf8.encode (segments.flatMap fun s => '/' :: textOf s) := by
    clear hne
    induction segments with
    | nil => rfl
    | cons s rest ih =>
      obtain ⟨hs, hrest⟩ := List.forall_mem_cons.1 h
      rw [List.flatMap_cons, List.flatMap_cons, ih hrest, hs, Utf8.encode_append]
      rfl
  obtain ⟨s, rest, rfl⟩ := List.exists_cons_of_ne_nil hne
  show some (Utf8.decodeText (closeDrive _)) = _
  rw [hbytes, closeDrive_encode, Utf8.decodeText_encode]

theorem isText_of_mem_segmentsOf {rest : List Component} (h : ∀ c ∈ rest, c.Inner) :
    ∀ s ∈ segmentsOf rest, IsText s := by
  unfold segmentsOf
  intro s hs
  split at hs
  · obtain rfl := List.mem_singleton.1 hs
    exact isText_empty.1
  · obtain ⟨c, hc, rfl⟩ := List.mem_map.1 hs
    exact (isText_of_decode (decode_segmentOf (h c hc))).1

theorem segmentsOf_ne_nil (rest : List Component) : segmentsOf rest ≠ [] := by
  unfold segmentsOf
  split <;> simp_all

theorem flatMap_textOf_segmentsOf {rest : List Component} (h : ∀ c ∈ rest, c.Inner) :
    (segmentsOf rest).flatMap (fun s => '/' :: textOf s)
      = if rest.isEmpty then ['/'] else rest.flatMap fun c => '/' :: c.text := by
  unfold segmentsOf
  split
  · rw [List.flatMap_singleton, isText_empty.2]
  · rw [List.flatMap_map]
    refine congrArg List.flatten (List.map_congr_left fun c hc => ?_)
    rw [(isText_of_decode (decode_segmentOf (h c hc))).2]

/-- The URL of a file names the path with its components that is spelt in the one way. -/
theorem toFilePath?_eq_some_spelling {p : String} {u : Url} {rest : List Component}
    (hu : ofFilePath? p = some u) (hp : components p = .root :: rest) :
    u.toFilePath? = some (String.ofList (spelling rest)) := by
  obtain ⟨rest', hrest, rfl⟩ := ofFilePath?_eq_some.1 hu
  obtain ⟨-, rfl⟩ := List.cons.inj (hp.symm.trans hrest)
  have hinner := inner_of_components hp
  rw [toFilePath?_of_isText (segmentsOf_ne_nil rest) (isText_of_mem_segmentsOf hinner),
    flatMap_textOf_segmentsOf hinner, spelling]

end Url

end ScanRelay
