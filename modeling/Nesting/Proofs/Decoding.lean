import Nesting.Source

/-!
# Texts that are written and read again

A text is written as UTF-8, and UTF-8 is read one character at a time. What is written for a
character is a lead byte and the bytes that continue it, and no byte of it is lost or taken for
something else, so that reading gives the character back and stops right behind it
(`head?_encode_append`). So a text that has been written reads as itself, whether stray bytes are
dropped or replaced: there are none.

Reading a source also folds the ends of its lines. What comes out of that has no carriage return,
and a text without one is left alone.
-/

namespace Nesting

namespace Utf8

/-! ## One character -/

/-- What a lead byte says, by its number. -/
theorem lead?_ofNat {n : Nat} (h : n < 256) :
    lead? (UInt8.ofNat n)
      = if n < 0x80 then some ⟨n, 0, 0⟩
        else if n < 0xc0 then none
        else if n < 0xe0 then some ⟨n - 0xc0, 1, 0x80⟩
        else if n < 0xf0 then some ⟨n - 0xe0, 2, 0x800⟩
        else if n < 0xf8 then some ⟨n - 0xf0, 3, 0x10000⟩
        else none := by
  have hn : (UInt8.ofNat n).toNat = n := by
    rw [UInt8.toNat_ofNat', Nat.mod_eq_of_lt h]
  unfold lead?
  simp only [UInt8.lt_iff_toNat_lt, hn]
  rfl

/-- A byte that continues a character adds its six bits. -/
theorem extend?_cons_ofNat {n : Nat} (h : n < 64) (count bits : Nat) (rest : Bytes) :
    extend? (count + 1) bits (UInt8.ofNat (n + 128) :: rest)
      = extend? count (bits * 64 + n) rest := by
  have hn : (UInt8.ofNat (n + 128)).toNat = n + 128 := by
    rw [UInt8.toNat_ofNat', Nat.mod_eq_of_lt (by omega)]
  have hcontinues : continuation? (UInt8.ofNat (n + 128)) = some n := by
    unfold continuation?
    simp only [UInt8.le_iff_toNat_le, UInt8.lt_iff_toNat_lt, hn]
    rw [if_pos]
    · simp
    · simp
      omega
  rw [extend?, hcontinues]

theorem scalar?_toNat {c : Char} {least : Nat} (h : least ≤ c.toNat) :
    scalar? least c.toNat = some c := by
  unfold scalar?
  rw [dif_pos ⟨h, c.valid⟩]
  congr 1

theorem head?_of_lead {a : UInt8} {c : Char} {rest behind : Bytes} (lead : Lead)
    (hlead : lead? a = some lead)
    (hextend : extend? lead.count lead.bits rest = some (c.toNat, behind))
    (hleast : lead.least ≤ c.toNat) : head? (a :: rest) = some (c, behind) := by
  unfold head?
  simp only [hlead, hextend, scalar?_toNat hleast, Option.map_some]

theorem toNat_lt (c : Char) : c.toNat < 0x110000 := by
  have h : c.toNat.isValidChar := c.valid
  unfold Nat.isValidChar at h
  omega

/-- **A character that was written is read back**, and reading stops behind it. -/
theorem head?_encode_append (c : Char) (rest : Bytes) :
    head? (String.utf8EncodeChar c ++ rest) = some (c, rest) := by
  have hlt := toNat_lt c
  unfold String.utf8EncodeChar
  dsimp only
  rw [show c.val.toNat = c.toNat from rfl]
  -- by the number of bytes; the bits of each are a digit of the code in base 64
  split
  · exact head?_of_lead ⟨c.toNat, 0, 0⟩ ((lead?_ofNat (by omega)).trans (if_pos (by omega))) rfl
      (Nat.zero_le _)
  · split
    · refine head?_of_lead ⟨c.toNat / 64 % 32 + 192 - 0xc0, 1, 0x80⟩ ?_ ?_
        (show 0x80 ≤ c.toNat by omega)
      · rw [lead?_ofNat (by omega), if_neg (by omega), if_neg (by omega), if_pos (by omega)]
      · show extend? 1 _ (UInt8.ofNat (c.toNat % 64 + 128) :: rest) = _
        rw [extend?_cons_ofNat (by omega), extend?]
        rw [show (c.toNat / 64 % 32 + 192 - 0xc0) * 64 + c.toNat % 64 = c.toNat by omega]
    · split
      · refine head?_of_lead ⟨c.toNat / 4096 % 16 + 224 - 0xe0, 2, 0x800⟩ ?_ ?_
          (show 0x800 ≤ c.toNat by omega)
        · rw [lead?_ofNat (by omega), if_neg (by omega), if_neg (by omega), if_neg (by omega),
            if_pos (by omega)]
        · show extend? 2 _ (UInt8.ofNat (c.toNat / 64 % 64 + 128)
            :: UInt8.ofNat (c.toNat % 64 + 128) :: rest) = _
          rw [extend?_cons_ofNat (by omega), extend?_cons_ofNat (by omega), extend?]
          rw [show ((c.toNat / 4096 % 16 + 224 - 0xe0) * 64 + c.toNat / 64 % 64) * 64
            + c.toNat % 64 = c.toNat by omega]
      · refine head?_of_lead ⟨c.toNat / 262144 % 8 + 240 - 0xf0, 3, 0x10000⟩ ?_ ?_
          (show 0x10000 ≤ c.toNat by omega)
        · rw [lead?_ofNat (by omega), if_neg (by omega), if_neg (by omega), if_neg (by omega),
            if_neg (by omega), if_pos (by omega)]
        · show extend? 3 _ (UInt8.ofNat (c.toNat / 4096 % 64 + 128)
            :: UInt8.ofNat (c.toNat / 64 % 64 + 128) :: UInt8.ofNat (c.toNat % 64 + 128)
            :: rest) = _
          rw [extend?_cons_ofNat (by omega), extend?_cons_ofNat (by omega),
            extend?_cons_ofNat (by omega), extend?]
          rw [show (((c.toNat / 262144 % 8 + 240 - 0xf0) * 64 + c.toNat / 4096 % 64) * 64
            + c.toNat / 64 % 64) * 64 + c.toNat % 64 = c.toNat by omega]

/-! ## Whole texts -/

/-- What begins with a character has it as its first piece. -/
theorem pieces_of_head? {bytes rest : Bytes} {c : Char} (h : head? bytes = some (c, rest)) :
    pieces bytes = .char c :: pieces rest := by
  cases bytes with
  | nil => cases h
  | cons a bytes =>
    rw [pieces]
    split
    · rename_i h'
      rw [h] at h'
      cases h'
      rfl
    · rename_i h'
      rw [h] at h'
      cases h'

/-- **A text that was written falls into its characters**, without a stray byte. -/
theorem pieces_encode (t : Text) : pieces (encode t) = t.map .char := by
  induction t with
  | nil =>
    unfold encode
    rw [List.flatMap_nil, pieces]
    rfl
  | cons c t ih =>
    have hcons : encode (c :: t) = String.utf8EncodeChar c ++ encode t := List.flatMap_cons
    rw [hcons, pieces_of_head? (head?_encode_append c _), ih]
    rfl

theorem decodeValid_encode (t : Text) : decodeValid (encode t) = t := by
  unfold decodeValid
  rw [pieces_encode, List.filterMap_map]
  exact List.filterMap_some

theorem decodeLossy_encode (t : Text) : decodeLossy (encode t) = t := by
  unfold decodeLossy
  rw [pieces_encode, List.map_map]
  exact List.map_id t

end Utf8

namespace RawText

theorem chars_ofString (s : String) : (ofString s).chars = s.toList :=
  Utf8.decodeLossy_encode s.toList

/-- **A text kept as its bytes is shown as itself.** -/
theorem shown_ofString (s : String) : (ofString s).shown = s := by
  unfold shown
  rw [chars_ofString, String.ofList_toList]

end RawText

/-! ## The ends of lines -/

theorem return_not_mem_foldLineEnds (t : Text) : '\r' ∉ foldLineEnds t := by
  unfold foldLineEnds
  intro h
  obtain ⟨c, -, hc⟩ := List.mem_map.mp h
  split at hc
  · cases hc
  · rename_i hne
    exact hne hc

/-- **A text without a carriage return is left alone.** -/
theorem foldLineEnds_eq_self {t : Text} (h : '\r' ∉ t) : foldLineEnds t = t := by
  have hjoin : joinLineEnds t = t := by
    fun_induction joinLineEnds t with
    | case1 rest => exact absurd List.mem_cons_self h
    | case2 c rest _ ih => rw [ih fun hrest => h (List.mem_cons_of_mem c hrest)]
    | case3 => rfl
  unfold foldLineEnds
  rw [hjoin]
  refine (List.map_congr_left fun c hc => ?_).trans (List.map_id t)
  rw [if_neg]
  · rfl
  · rintro rfl
    exact h hc

/-! ## Sources -/

section Source

variable {decoders : Decoders} {files : FileTree} {path : String} {label : RawText} {bytes : Bytes}
  {t : Text}

/-- A file that cannot be read is to blame itself. -/
theorem readSource_of_read_error {e : FileError} (h : files.read path = .error e)
    (decoders : Decoders) (label : RawText) :
    readSource decoders files path label = .error (.unreadable "read" path (.file e)) := by
  unfold readSource
  rw [h]

theorem readSource_of_read (h : files.read path = .ok bytes) (decoders : Decoders)
    (label : RawText) :
    readSource decoders files path label = decodeSource decoders label bytes := by
  unfold readSource
  rw [h]

/-- **A source is decoded in the encoding that its label names**, and then the ends of its lines are
folded. Without a label this is UTF-8. -/
theorem decodeSource_eq_ok_iff :
    decodeSource decoders label bytes = .ok t ↔ ∃ encoding u,
      (if trimmed label.chars = [] then some .utf8 else Encoding.ofLabel? label) = some encoding ∧
      encoding.decode decoders bytes = .ok u ∧ t = foldLineEnds u := by
  unfold decodeSource
  by_cases hblank : trimmed label.chars = []
  · rw [if_pos hblank, if_pos hblank]
    simp [Encoding.decode, eq_comm]
  · rw [if_neg hblank, if_neg hblank]
    cases Encoding.ofLabel? label with
    | none => simp
    | some encoding =>
      cases hdecode : encoding.decode decoders bytes with
      | error message => simp [hdecode]
      | ok u => simp [hdecode, eq_comm]

/-- A source is decoded to a text without a carriage return. -/
theorem return_not_mem_decodeSource (h : decodeSource decoders label bytes = .ok t) :
    '\r' ∉ t := by
  obtain ⟨_, u, -, -, rfl⟩ := decodeSource_eq_ok_iff.mp h
  exact return_not_mem_foldLineEnds u

/-- The label that a source has if no other is named. -/
theorem ofLabel?_utf8 : Encoding.ofLabel? (RawText.ofString "utf-8") = some .utf8 := by
  unfold Encoding.ofLabel?
  rw [RawText.chars_ofString]
  with_unfolding_all rfl

/-- **A text that was written as UTF-8 is read as itself**, as long as it has no carriage return. -/
theorem decodeSource_encode (h : '\r' ∉ t) (decoders : Decoders) :
    decodeSource decoders (RawText.ofString "utf-8") (Utf8.encode t) = .ok t := by
  refine decodeSource_eq_ok_iff.mpr ⟨.utf8, t, ?_, ?_, (foldLineEnds_eq_self h).symm⟩
  · rw [ofLabel?_utf8, ite_self]
  · exact congrArg Except.ok (Utf8.decodeValid_encode t)

end Source

end Nesting
