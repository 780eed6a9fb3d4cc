import Nesting.Proofs.Decoding

/-!
# Only stray bytes are dropped

A byte sequence falls into pieces: characters, and bytes that belong to none. Put together again,
the pieces are the bytes (`Utf8.flatMap_bytes_pieces`), since a character is read from just those
bytes that it is written with; any other spelling of it is refused. Decoding keeps the characters,
so the text that it keeps, written again, is what was given with the stray bytes left out.

A byte below 0x80 is a character by itself wherever it stands, also where it breaks off another one.
So it is never stray, and since no byte of a longer character is below 0x80, the ASCII characters of
the text are the bytes below 0x80, in their order (`Utf8.filter_decodeValid`). Folding the ends of
lines changes carriage returns and line feeds and passes over everything else, whatever has come
together by then.
-/

namespace Nesting

namespace Utf8

variable {a b : UInt8} {c : Char} {count bits least n : Nat} {bytes rest : Bytes} {p : Nat → Bool}

/-! ## A character and its bytes -/

/-- The four kinds of lead byte. -/
theorem lead?_cases {lead : Lead} (h : lead? a = some lead) :
    (a.toNat < 0x80 ∧ lead = ⟨a.toNat, 0, 0⟩) ∨
    (0xc0 ≤ a.toNat ∧ a.toNat < 0xe0 ∧ lead = ⟨a.toNat - 0xc0, 1, 0x80⟩) ∨
    (0xe0 ≤ a.toNat ∧ a.toNat < 0xf0 ∧ lead = ⟨a.toNat - 0xe0, 2, 0x800⟩) ∨
    (0xf0 ≤ a.toNat ∧ a.toNat < 0xf8 ∧ lead = ⟨a.toNat - 0xf0, 3, 0x10000⟩) := by
  rw [← UInt8.ofNat_toNat (x := a), lead?_ofNat a.toNat_lt] at h
  split at h
  · exact .inl ⟨‹_›, (Option.some.inj h).symm⟩
  split at h
  · cases h
  split at h
  · exact .inr (.inl ⟨by omega, ‹_›, (Option.some.inj h).symm⟩)
  split at h
  · exact .inr (.inr (.inl ⟨by omega, ‹_›, (Option.some.inj h).symm⟩))
  split at h
  · exact .inr (.inr (.inr ⟨by omega, ‹_›, (Option.some.inj h).symm⟩))
  · cases h

/-- What is read behind a lead byte is a byte that continues it. -/
theorem exists_of_extend? (h : extend? (count + 1) bits bytes = some (n, rest)) :
    ∃ b more, bytes = b :: more ∧ 0x80 ≤ b.toNat ∧ b.toNat < 0xc0 ∧
      extend? count (bits * 64 + (b.toNat - 0x80)) more = some (n, rest) := by
  cases bytes with
  | nil => cases h
  | cons b more =>
    rw [extend?] at h
    unfold continuation? at h
    by_cases hb : 0x80 ≤ b ∧ b < 0xc0
    · rw [if_pos hb] at h
      exact ⟨b, more, rfl, hb.1, hb.2, h⟩
    · rw [if_neg hb] at h
      cases h

theorem of_extend?_zero (h : extend? 0 bits bytes = some (n, rest)) : n = bits ∧ bytes = rest := by
  rw [extend?] at h
  exact ⟨(congrArg Prod.fst (Option.some.inj h)).symm, congrArg Prod.snd (Option.some.inj h)⟩

theorem of_scalar? (h : scalar? least n = some c) : n = c.toNat ∧ least ≤ c.toNat := by
  unfold scalar? at h
  by_cases hn : least ≤ n ∧ n.isValidChar
  · rw [dif_pos hn] at h
    cases h
    exact ⟨rfl, hn.1⟩
  · rw [dif_neg hn] at h
    cases h

/-- **What reading a character takes**: a lead byte, and the bytes that complete the code. -/
theorem exists_of_head? (h : head? (a :: bytes) = some (c, rest)) :
    ∃ lead, lead? a = some lead ∧ extend? lead.count lead.bits bytes = some (c.toNat, rest) ∧
      lead.least ≤ c.toNat := by
  cases hlead : lead? a with
  | none =>
    simp only [head?, hlead] at h
    cases h
  | some lead =>
    cases hextend : extend? lead.count lead.bits bytes with
    | none =>
      simp only [head?, hlead, hextend] at h
      cases h
    | some read =>
      simp only [head?, hlead, hextend] at h
      obtain ⟨c', hc, heq⟩ := Option.map_eq_some_iff.mp h
      cases heq
      obtain ⟨hn, hleast⟩ := of_scalar? hc
      refine ⟨lead, rfl, ?_, hleast⟩
      rw [hextend, ← hn]

theorem ofNat_eq (h : n = a.toNat) : UInt8.ofNat n = a := by
  rw [h, UInt8.ofNat_toNat]

/-- **A character is read from the bytes that it is written with.** -/
theorem eq_encode_append_of_head? (h : head? bytes = some (c, rest)) :
    bytes = String.utf8EncodeChar c ++ rest := by
  cases bytes with
  | nil => cases h
  | cons a bytes =>
    obtain ⟨lead, hlead, hextend, hleast⟩ := exists_of_head? h
    unfold String.utf8EncodeChar
    dsimp only
    rw [show c.val.toNat = c.toNat from rfl]
    -- by the lead byte; each byte behind it adds a digit of the code in base 64
    obtain ⟨ha, rfl⟩ | ⟨ha, ha', rfl⟩ | ⟨ha, ha', rfl⟩ | ⟨ha, ha', rfl⟩ := lead?_cases hlead <;>
      dsimp only at hextend hleast
    · obtain ⟨hn, rfl⟩ := of_extend?_zero hextend
      rw [if_pos (by omega), ofNat_eq hn]
      rfl
    · obtain ⟨b₁, bytes, rfl, hb₁, hb₁', hextend⟩ := exists_of_extend? hextend
      obtain ⟨hn, rfl⟩ := of_extend?_zero hextend
      rw [if_neg (by omega), if_pos (by omega), ofNat_eq (a := a) (by omega),
        ofNat_eq (a := b₁) (by omega)]
      rfl
    · obtain ⟨b₁, bytes, rfl, hb₁, hb₁', hextend⟩ := exists_of_extend? hextend
      obtain ⟨b₂, bytes, rfl, hb₂, hb₂', hextend⟩ := exists_of_extend? hextend
      obtain ⟨hn, rfl⟩ := of_extend?_zero hextend
      rw [if_neg (by omega), if_neg (by omega), if_pos (by omega), ofNat_eq (a := a) (by omega),
        ofNat_eq (a := b₁) (by omega), ofNat_eq (a := b₂) (by omega)]
      rfl
    · obtain ⟨b₁, bytes, rfl, hb₁, hb₁', hextend⟩ := exists_of_extend? hextend
      obtain ⟨b₂, bytes, rfl, hb₂, hb₂', hextend⟩ := exists_of_extend? hextend
      obtain ⟨b₃, bytes, rfl, hb₃, hb₃', hextend⟩ := exists_of_extend? hextend
      obtain ⟨hn, rfl⟩ := of_extend?_zero hextend
      rw [if_neg (by omega), if_neg (by omega), if_neg (by omega), ofNat_eq (a := a) (by omega),
        ofNat_eq (a := b₁) (by omega), ofNat_eq (a := b₂) (by omega), ofNat_eq (a := b₃) (by omega)]
      rfl

/-- A byte below 0x80 is a character, whatever stands behind it. -/
theorem head?_of_ascii (h : a.toNat < 0x80) (rest : Bytes) :
    head? (a :: rest) = some (Char.ofNat a.toNat, rest) := by
  have hvalid : a.toNat.isValidChar := .inl (by omega)
  have hn : (Char.ofNat a.toNat).toNat = a.toNat := by
    rw [Char.ofNat, dif_pos hvalid]
    rfl
  refine head?_of_lead ⟨a.toNat, 0, 0⟩ ?_ ?_ (Nat.zero_le _)
  · rw [← UInt8.ofNat_toNat (x := a), lead?_ofNat a.toNat_lt, UInt8.ofNat_toNat, if_pos h]
  · rw [hn, extend?]

theorem encode_of_ascii (hc : c.toNat < 0x80) :
    String.utf8EncodeChar c = [UInt8.ofNat c.toNat] := by
  unfold String.utf8EncodeChar
  exact if_pos (show c.toNat ≤ 127 by omega)

/-- Every byte of a character that is not ASCII is at least 0x80. -/
theorem le_of_mem_encode (hc : 0x80 ≤ c.toNat) (hb : b ∈ String.utf8EncodeChar c) :
    0x80 ≤ b.toNat := by
  have hofNat : ∀ n, 0x80 ≤ n → n < 0x100 → 0x80 ≤ (UInt8.ofNat n).toNat := by
    intro n hle hlt
    rwa [UInt8.toNat_ofNat', Nat.mod_eq_of_lt hlt]
  unfold String.utf8EncodeChar at hb
  dsimp only at hb
  rw [show c.val.toNat = c.toNat from rfl, if_neg (by omega)] at hb
  split at hb
  · simp only [List.mem_cons, List.not_mem_nil, or_false] at hb
    rcases hb with rfl | rfl <;> exact hofNat _ (by omega) (by omega)
  split at hb
  · simp only [List.mem_cons, List.not_mem_nil, or_false] at hb
    rcases hb with rfl | rfl | rfl <;> exact hofNat _ (by omega) (by omega)
  · simp only [List.mem_cons, List.not_mem_nil, or_false] at hb
    rcases hb with rfl | rfl | rfl | rfl <;> exact hofNat _ (by omega) (by omega)

/-! ## Pieces -/

/-- **The pieces of a byte sequence are all of it.** -/
theorem flatMap_bytes_pieces (bytes : Bytes) : (pieces bytes).flatMap Piece.bytes = bytes := by
  fun_induction pieces bytes with
  | case1 => rfl
  | case2 a rest c rest' h ih =>
    rw [List.flatMap_cons, ih]
    exact (eq_encode_append_of_head? h).symm
  | case3 a rest h ih =>
    rw [List.flatMap_cons, ih]
    rfl

/-- **No byte below 0x80 is stray.** -/
theorem le_of_stray_mem (h : .stray b ∈ pieces bytes) : 0x80 ≤ b.toNat := by
  fun_induction pieces bytes with
  | case1 => cases h
  | case2 a rest c rest' _ ih =>
    obtain h | h := List.mem_cons.mp h
    · cases h
    · exact ih h
  | case3 a rest hnone ih =>
    obtain h | h := List.mem_cons.mp h
    · cases h
      refine Nat.le_of_not_lt fun hlt => ?_
      rw [head?_of_ascii hlt] at hnone
      cases hnone
    · exact ih h

/-- **What is kept, written again, is what was given without the stray bytes.** -/
theorem encode_decodeValid_sublist (bytes : Bytes) :
    (encode (decodeValid bytes)).Sublist bytes := by
  have hpieces : ∀ ps : List Piece,
      (encode (ps.filterMap Piece.char?)).Sublist (ps.flatMap Piece.bytes) := by
    intro ps
    induction ps with
    | nil => exact List.Sublist.refl _
    | cons piece ps ih =>
      cases piece with
      | char c => exact (List.Sublist.refl (String.utf8EncodeChar c)).append ih
      | stray b => exact ih.cons b
  have hsub := hpieces (pieces bytes)
  rwa [flatMap_bytes_pieces] at hsub

/-! ## Bytes below 0x80 -/

section Ascii

variable (hp : ∀ n, p n = true → n < 0x80)

include hp

/-- A character that is not ASCII has no byte that could be taken for ASCII. -/
theorem filter_encode (c : Char) :
    ((String.utf8EncodeChar c).map UInt8.toNat).filter p = [c.toNat].filter p := by
  by_cases hc : c.toNat < 0x80
  · rw [encode_of_ascii hc, List.map_singleton, UInt8.toNat_ofNat', Nat.mod_eq_of_lt (by omega)]
  · have hnot : ∀ n, 0x80 ≤ n → ¬ p n = true := fun n hle hn => absurd (hp n hn) (by omega)
    rw [List.filter_eq_nil_iff.mpr, List.filter_eq_nil_iff.mpr]
    · intro n hn
      rw [List.mem_singleton.mp hn]
      exact hnot _ (by omega)
    · intro n hn
      obtain ⟨b, hb, rfl⟩ := List.mem_map.mp hn
      exact hnot _ (le_of_mem_encode (by omega) hb)

/-- **The bytes below 0x80 are the ASCII characters that are kept**, in their order. -/
theorem filter_decodeValid (bytes : Bytes) :
    ((decodeValid bytes).map Char.toNat).filter p = (bytes.map UInt8.toNat).filter p := by
  have hpieces : ∀ ps : List Piece, (∀ b, .stray b ∈ ps → 0x80 ≤ b.toNat) →
      ((ps.filterMap Piece.char?).map Char.toNat).filter p
        = ((ps.flatMap Piece.bytes).map UInt8.toNat).filter p := by
    intro ps hstray
    induction ps with
    | nil => rfl
    | cons piece ps ih =>
      have ih := ih fun b hb => hstray b (List.mem_cons_of_mem _ hb)
      rw [List.flatMap_cons, List.map_append, List.filter_append, ← ih]
      cases piece with
      | char c =>
        show _ = ((String.utf8EncodeChar c).map UInt8.toNat).filter p ++ _
        rw [filter_encode hp, ← List.filter_append]
        rfl
      | stray b =>
        have hb : ¬ p b.toNat = true := fun hb =>
          absurd (hp _ hb) (Nat.not_lt.mpr (hstray b List.mem_cons_self))
        show _ = [b.toNat].filter p ++ _
        rw [List.filter_cons_of_neg hb]
        rfl
  rw [decodeValid, hpieces _ fun b hb => le_of_stray_mem hb, flatMap_bytes_pieces]

end Ascii

end Utf8

/-! ## The ends of lines -/

/-- **Folding the ends of lines passes over all other characters.** -/
theorem filter_foldLineEnds {p : Nat → Bool} (hreturn : p 0x0d = false) (hfeed : p 0x0a = false)
    (t : Text) : ((foldLineEnds t).map Char.toNat).filter p = (t.map Char.toNat).filter p := by
  have hreturn : ¬ p '\r'.toNat = true := fun h => Bool.false_ne_true (hreturn.symm.trans h)
  have hfeed : ¬ p '\n'.toNat = true := fun h => Bool.false_ne_true (hfeed.symm.trans h)
  unfold foldLineEnds
  fun_induction joinLineEnds t with
  | case1 rest ih =>
    simp only [List.map_cons, List.filter_cons_of_neg hreturn, List.filter_cons_of_neg hfeed]
    rw [if_neg (by decide), List.filter_cons_of_neg hfeed]
    exact ih
  | case2 c rest _ ih =>
    rw [List.map_cons, List.map_cons, List.map_cons]
    by_cases hc : c = '\r'
    · subst hc
      rw [if_pos rfl, List.filter_cons_of_neg hfeed, List.filter_cons_of_neg hreturn]
      exact ih
    · rw [if_neg hc, List.filter_cons, List.filter_cons, ih]
  | case3 => rfl

/-! ## Sources -/

/-- The labels of UTF-8. -/
def utf8Labels : List String :=
  ["unicode-1-1-utf-8", "unicode11utf8", "unicode20utf8", "utf-8", "utf8", "x-unicode20utf8"]

/-- **A label that asks for UTF-8**: a blank one, or one of its names, whatever the case of the
letters and the white space around it. -/
def NamesUtf8 (label : RawText) : Prop :=
  trimmed label.chars = [] ∨ lowered (String.ofList (trimmed label.chars)) ∈ utf8Labels

/-- The names of UTF-8 come first in the table of labels. -/
theorem ofLabel?_of_mem {label : RawText}
    (h : lowered (String.ofList (trimmed label.chars)) ∈ utf8Labels) :
    Encoding.ofLabel? label = some .utf8 := by
  have hlabels : ∃ others, Encoding.labels = (.utf8, utf8Labels) :: others := ⟨_, rfl⟩
  obtain ⟨others, hlabels⟩ := hlabels
  unfold Encoding.ofLabel?
  dsimp only
  rw [hlabels, List.find?_cons_of_pos]
  · rfl
  · exact List.contains_iff_mem.mpr h

/-- **UTF-8 is always decoded**: its characters are kept, and the ends of its lines are folded. -/
theorem decodeSource_of_namesUtf8 {label : RawText} (h : NamesUtf8 label) (decoders : Decoders)
    (bytes : Bytes) :
    decodeSource decoders label bytes = .ok (foldLineEnds (Utf8.decodeValid bytes)) := by
  refine decodeSource_eq_ok_iff.mpr ⟨.utf8, Utf8.decodeValid bytes, ?_, rfl, rfl⟩
  split
  · rfl
  · rename_i hblank
    exact ofLabel?_of_mem (h.resolve_left hblank)

/-- **What decoding makes of a byte sequence.** -/
structure KeepsText (bytes : Bytes) (t : Text) : Prop where
  /-- Lines end by line feeds only. -/
  noReturn : '\r' ∉ t
  /-- The ASCII characters are the bytes below 0x80, apart from the ends of lines. -/
  ascii : (t.map Char.toNat).filter (fun n => n < 0x80 ∧ n ≠ 0x0a)
    = (bytes.map UInt8.toNat).filter (fun n => n < 0x80 ∧ n ≠ 0x0d ∧ n ≠ 0x0a)
  /-- Before the ends of lines are folded, nothing has been added to the bytes or moved. -/
  kept : t = foldLineEnds (Utf8.decodeValid bytes) ∧
    (Utf8.encode (Utf8.decodeValid bytes)).Sublist bytes
  /-- Of a text that was written nothing is lost. -/
  written : ∀ u, bytes = Utf8.encode u → t = foldLineEnds u
  /-- What was decoded once is decoded to the same text again. -/
  again : ∀ decoders label, NamesUtf8 label → decodeSource decoders label (Utf8.encode t) = .ok t

/-- **Decoding UTF-8 never fails, and neither swallows a delimiter nor makes one up**: it drops the
bytes that belong to no character, and all else is kept. -/
theorem decoding_drops_only_strays {label : RawText} (h : NamesUtf8 label) (decoders : Decoders)
    (bytes : Bytes) : ∃ t, decodeSource decoders label bytes = .ok t ∧ KeepsText bytes t := by
  have hreturn := return_not_mem_foldLineEnds (Utf8.decodeValid bytes)
  refine ⟨_, decodeSource_of_namesUtf8 h decoders bytes, hreturn, ?_,
    ⟨rfl, Utf8.encode_decodeValid_sublist bytes⟩, ?_, ?_⟩
  · -- the text has no carriage return, so it makes no difference whether they are counted
    have hsame : ∀ n ∈ (foldLineEnds (Utf8.decodeValid bytes)).map Char.toNat, n ≠ 0x0d := by
      rintro n hn rfl
      obtain ⟨c, hc, heq⟩ := List.mem_map.mp hn
      obtain rfl : c = '\r' := Char.toNat_inj.mp heq
      exact hreturn hc
    calc ((foldLineEnds (Utf8.decodeValid bytes)).map Char.toNat).filter
          (fun n => n < 0x80 ∧ n ≠ 0x0a)
        = ((foldLineEnds (Utf8.decodeValid bytes)).map Char.toNat).filter
          (fun n => n < 0x80 ∧ n ≠ 0x0d ∧ n ≠ 0x0a) :=
          List.filter_congr fun n hn => by simp [hsame n hn]
      _ = ((Utf8.decodeValid bytes).map Char.toNat).filter
          (fun n => n < 0x80 ∧ n ≠ 0x0d ∧ n ≠ 0x0a) := filter_foldLineEnds rfl rfl _
      _ = (bytes.map UInt8.toNat).filter (fun n => n < 0x80 ∧ n ≠ 0x0d ∧ n ≠ 0x0a) :=
          Utf8.filter_decodeValid (fun n hn => (of_decide_eq_true hn).1) bytes
  · rintro u rfl
    rw [Utf8.decodeValid_encode]
  · intro decoders label hlabel
    rw [decodeSource_of_namesUtf8 hlabel, Utf8.decodeValid_encode, foldLineEnds_eq_self hreturn]

/-- A character that breaks off before a parenthesis, and a carriage return and a line feed that
come together only when the byte between them is dropped. -/
theorem decoding_drops_only_strays_broken :
    let label := RawText.ofString " UTF8"
    let bytes : Bytes := [0xe2, 0x82, 0x28, 0x0d, 0xff, 0x0a, 0x29]
    NamesUtf8 label ∧ decodeSource .ascii label bytes = .ok ['(', '\n', ')'] ∧
      KeepsText bytes ['(', '\n', ')'] := by
  intro label bytes
  have h : NamesUtf8 label := by
    right
    rw [RawText.chars_ofString]
    with_unfolding_all decide
  obtain ⟨t, ht, hkeeps⟩ := decoding_drops_only_strays h .ascii bytes
  obtain rfl : t = ['(', '\n', ')'] := by
    rw [hkeeps.kept.1]
    decide +kernel
  exact ⟨h, ht, hkeeps⟩

end Nesting
