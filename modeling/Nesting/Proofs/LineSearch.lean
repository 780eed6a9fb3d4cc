import Nesting.Diagnostic
import Nesting.Proofs.Lines

/-!
# The line around an offset

A diagnostic shows the line that it points into, and that line is found without cutting the text
into lines: one search goes backwards from the offset, one goes forwards, and what stands between
the two line feeds that they meet is the line. That it is a line, and the right one, is shown here.

A place cuts its text in two, and each search is about one of the parts. The backward search ends
behind the last line feed of the part before the place (`drop_lineFrom`), the forward search at the
first line feed of the part behind it (`take_lineTo`). Together they leave the end of the one part
and the beginning of the other (`lineAround?_append`), which is also the piece that the place stands
in when the text is cut at every line feed (`getElem?_splitOn`). A line feed needs no case of its
own: the place stands before it, so that the forward search ends where it begins.
-/

namespace Nesting

section Search

variable {α : Type} [DecidableEq α] {feed : α} {t u line : List α} {offset : Int}

/-! ## Two searches -/

/-- **The backward search leaves the last line of what is before the offset.** -/
theorem drop_lineFrom (feed : α) (p : List α) :
    p.drop (lineFrom feed p.reverse) = p.rtakeWhile (· ≠ feed) := by
  have hlen : lineFrom feed p.reverse = (p.rdropWhile (· ≠ feed)).length := by
    rw [lineFrom_eq, List.rdropWhile, List.length_reverse]
  have hcut : p.rdropWhile (· ≠ feed) ++ p.rtakeWhile (· ≠ feed) = p :=
    List.rdropWhile_append_rtakeWhile
  calc p.drop (lineFrom feed p.reverse)
      = (p.rdropWhile (· ≠ feed) ++ p.rtakeWhile (· ≠ feed)).drop
          (p.rdropWhile (· ≠ feed)).length := by
        rw [hlen, hcut]
    _ = p.rtakeWhile (· ≠ feed) := List.drop_left

/-- **The forward search adds the first line of what is behind it.** -/
theorem take_lineTo (feed : α) (p u : List α) :
    (p ++ u).take (lineTo feed p.length u) = p ++ u.takeWhile (· ≠ feed) := by
  have hfirst : u.takeWhile (· ≠ feed) = u.take (u.takeWhile (· ≠ feed)).length :=
    List.prefix_iff_eq_take.mp (List.takeWhile_prefix _)
  rw [lineTo_eq, List.take_length_add_append, ← hfirst]

/-- **The line around a place**, from the two parts that the place cuts the text into. -/
theorem lineAround?_append (feed : α) (p : List α) (hu : u ≠ []) :
    lineAround? feed (p ++ u) p.length
      = some (p.rtakeWhile (· ≠ feed) ++ u.takeWhile (· ≠ feed)) := by
  have hlen : p.length < (p ++ u).length := by
    rw [List.length_append]
    exact Nat.lt_add_of_pos_right (List.length_pos_iff.mpr hu)
  have hbounds := lineFrom_le_lineTo_le feed (Nat.le_of_lt hlen)
  rw [List.take_left, List.drop_left] at hbounds
  obtain ⟨hfrom, hto, hend⟩ := hbounds
  unfold lineAround?
  rw [if_pos ⟨Int.natCast_nonneg _, Int.ofNat_lt.mpr hlen⟩, Int.toNat_natCast, List.take_left,
    List.drop_left, slice?_of_le (hfrom.trans hto) hend, take_lineTo,
    List.drop_append_of_le_length hfrom, drop_lineFrom]

/-! ## The lines of the text -/

/-- **What the line around an offset has to be.** -/
structure IsLineAround (feed : α) (t : List α) (offset : Int) (line : List α) : Prop where
  /-- Within the text it is one of the pieces that the text is cut into by its line feeds, the one
  with as many before it as there are line feeds before the offset. -/
  inside : 0 ≤ offset → offset < t.length →
    (t.splitOn feed)[(t.take offset.toNat).count feed]? = some line
  /-- Outside of the text it is empty. -/
  outside : offset < 0 ∨ t.length ≤ offset → line = []

/-- **What the searches find is the line around the offset.** -/
theorem isLineAround_of_lineAround?
    (h : lineAround? feed t offset = some line) : IsLineAround feed t offset line where
  inside := by
    intro hpos hlt
    obtain ⟨i, rfl⟩ := Int.eq_ofNat_of_zero_le hpos
    rw [Int.toNat_natCast]
    have hi : i < t.length := Int.ofNat_lt.mp hlt
    -- the two parts that the offset cuts the text into
    have hrest : t.drop i ≠ [] := by
      rw [← List.length_pos_iff, List.length_drop]
      omega
    have hcut : t.take i ++ t.drop i = t := List.take_append_drop i t
    have hline := lineAround?_append feed (t.take i) hrest
    rw [hcut, List.length_take_of_le (Nat.le_of_lt hi), h] at hline
    have hpiece := getElem?_splitOn feed (t.take i) (t.drop i)
    rw [hcut] at hpiece
    exact hpiece.trans hline.symm
  outside := by
    intro hout
    unfold lineAround? at h
    rw [if_neg (by omega)] at h
    exact (Option.some.inj h).symm

end Search

theorem lineAround?_eq_lineAt (t : Text) (offset : Int) :
    lineAround? '\n' t offset = some (lineAt t offset) :=
  (Option.some_get _).symm

/-- **The line around an offset is one of the lines of the text.** Whatever a text is made of and
whatever ends its lines, the two searches find a line for every offset: they stay within the text,
one on each side of the offset, and what stands between them is what cutting the text into lines
gives. -/
theorem line_search_agrees_with_cutting :
    (∀ {α : Type} [DecidableEq α] (feed : α) (t : List α),
      (∀ i < t.length, lineFrom feed (t.take i).reverse ≤ i ∧ i ≤ lineTo feed i (t.drop i) ∧
        lineTo feed i (t.drop i) ≤ t.length) ∧
      ∀ offset : Int, ∃ line, lineAround? feed t offset = some line ∧
        IsLineAround feed t offset line) ∧
    ∀ (t : Text) (offset : Int), IsLineAround '\n' t offset (lineAt t offset) := by
  refine ⟨fun feed t => ⟨fun i hi => ?_, fun offset => ?_⟩, fun t offset => ?_⟩
  · exact lineFrom_le_lineTo_le feed (Nat.le_of_lt hi)
  · obtain ⟨line, hline⟩ := Option.isSome_iff_exists.mp (isSome_lineAround? feed t offset)
    exact ⟨line, hline, isLineAround_of_lineAround? hline⟩
  · exact isLineAround_of_lineAround? (lineAround?_eq_lineAt t offset)

/-- A line feed is on the line that it ends, here behind a code point that is no character. -/
example : lineAround? (10 : CodePoint) [40, 10, 0xd800, 10, 10, 41] 3 = some [0xd800] := by decide

end Nesting
