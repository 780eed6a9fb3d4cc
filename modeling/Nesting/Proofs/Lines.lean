import Mathlib.Data.List.DropRight
import Mathlib.Data.List.Forall2
import Mathlib.Data.List.TakeWhile
import Nesting.Proofs.Stack

/-!
# Lines

A text is cut into lines at its line feeds, and a place in it can be told by a line and a column.
The two ways of telling are joined here: the text up to a place is a number of whole lines and the
beginning of one more, `lastLine`, and the place stands on the line with that number, behind that
beginning (`getElem?_linesOf`). `LineStart` says the same without cutting anything, by the offset at
which the line begins.

Taking characters out of a text moves what stands behind them, but as long as no line feed is taken,
it moves nothing to another line. `Thinned` is that relation between two texts. It can be put
together piece by piece, and it gives the lines of the one as subsequences of the lines of the
other.
-/

namespace Nesting

variable {s t u p : Text} {c : Char} {b i : Nat}

/-! ## Cutting at an element -/

section Cut

variable {α : Type} [DecidableEq α] (a : α)

/-- There is one piece more than there are cuts. -/
theorem length_splitOn (l : List α) : (l.splitOn a).length = l.count a + 1 := by
  induction l with
  | nil => rfl
  | cons c l ih =>
    rw [List.splitOn_cons_eq_if_modifyHead]
    by_cases hc : c = a
    · rw [if_pos (beq_iff_eq.mpr hc), List.length_cons, ih, hc, List.count_cons_self]
    · rw [if_neg (mt beq_iff_eq.mp hc), List.length_modifyHead, ih, List.count_cons_of_ne hc]

/-- The first piece goes up to the first cut. -/
theorem getElem?_splitOn_zero (l : List α) :
    (l.splitOn a)[0]? = some (l.takeWhile (· ≠ a)) := by
  induction l with
  | nil => rfl
  | cons c l ih =>
    rw [List.splitOn_cons_eq_if_modifyHead]
    by_cases hc : c = a
    · rw [if_pos (beq_iff_eq.mpr hc), List.takeWhile_cons_of_neg (by simpa using hc)]
      rfl
    · rw [if_neg (mt beq_iff_eq.mp hc), List.getElem?_modifyHead, ih,
        List.takeWhile_cons_of_pos (by simpa using hc)]
      rfl

/-- **A place stands in the piece with the number of cuts before it.** -/
theorem getElem?_splitOn (k l : List α) :
    ((k ++ l).splitOn a)[k.count a]? = some (k.rtakeWhile (· ≠ a) ++ l.takeWhile (· ≠ a)) := by
  -- the place is moved through the list from its beginning, one element at a time
  induction k using List.reverseRecOn generalizing l with
  | nil => exact getElem?_splitOn_zero a l
  | append_singleton k c ih =>
    rw [List.append_assoc, List.singleton_append, List.count_append]
    by_cases hc : c = a
    · -- behind a cut a new piece begins, whatever stands before it
      rw [hc, List.splitOn_append_cons_self, List.count_singleton_self, ← length_splitOn,
        List.getElem?_append_right (Nat.le_refl _), Nat.sub_self, getElem?_splitOn_zero,
        List.rtakeWhile_concat_neg _ _ _ (by simp), List.nil_append]
    · rw [List.count_singleton, if_neg (by simpa using hc), Nat.add_zero, ih,
        List.takeWhile_cons_of_pos (by simpa using hc),
        List.rtakeWhile_concat_pos _ _ _ (by simpa using hc), List.append_assoc,
        List.singleton_append]

end Cut

/-! ## The lines of a text -/

/-- **The lines of a text**, without the line feeds that end them. -/
def linesOf (t : Text) : List Text :=
  t.splitOn '\n'

theorem linesOf_append_newline (t u : Text) :
    linesOf (t ++ '\n' :: u) = linesOf t ++ linesOf u :=
  List.splitOn_append_cons_self t u

theorem linesOf_cons_newline (t : Text) : linesOf ('\n' :: t) = [] :: linesOf t :=
  linesOf_append_newline [] t

theorem linesOf_cons (hc : c ≠ '\n') (t : Text) :
    linesOf (c :: t) = (linesOf t).modifyHead (c :: ·) := by
  unfold linesOf
  rw [List.splitOn_cons_eq_if_modifyHead, if_neg (by simpa using hc)]

/-! ## The end of a text -/

/-- What stands in a text behind its last line feed. -/
def lastLine (t : Text) : Text :=
  (t.reverse.takeWhile (· ≠ '\n')).reverse

theorem length_lastLine (t : Text) : (lastLine t).length = columnAfter t :=
  List.length_reverse

theorem newline_not_mem_lastLine (t : Text) : '\n' ∉ lastLine t := by
  intro h
  have h := List.mem_takeWhile_imp (List.mem_reverse.mp h)
  simp at h

theorem lastLine_append (h : '\n' ∉ u) (p : Text) : lastLine (p ++ u) = lastLine p ++ u := by
  have hu : ∀ c ∈ u.reverse, decide (c ≠ '\n') = true := by
    intro c hc
    rw [decide_eq_true_iff]
    rintro rfl
    exact h (List.mem_reverse.mp hc)
  unfold lastLine
  rw [List.reverse_append, List.takeWhile_append_of_pos hu, List.reverse_append,
    List.reverse_reverse]

/-- **A text is one line, or its last line stands behind a line feed.** -/
theorem eq_lastLine_or_exists (t : Text) : t = lastLine t ∨ ∃ q, t = q ++ '\n' :: lastLine t := by
  have ht : t = (t.reverse.dropWhile (· ≠ '\n')).reverse ++ lastLine t := by
    unfold lastLine
    rw [← List.reverse_append, List.takeWhile_append_dropWhile, List.reverse_reverse]
  cases hd : t.reverse.dropWhile (· ≠ '\n') with
  | nil =>
    rw [hd] at ht
    exact .inl ht
  | cons d q =>
    have hnl : d = '\n' := by
      have h := List.head?_dropWhile_not (fun c => decide (c ≠ '\n')) t.reverse
      rw [hd] at h
      simpa using h
    rw [hd, hnl, List.reverse_cons, List.append_assoc] at ht
    exact .inr ⟨q.reverse, ht⟩

/-- **A place stands on the line with the number of line feeds before it.** What is before it on
that line is the last line of the text up to the place. -/
theorem getElem?_linesOf (p u : Text) :
    (linesOf (p ++ u))[p.count '\n']? = some (lastLine p ++ u.takeWhile (· ≠ '\n')) :=
  getElem?_splitOn '\n' p u

/-- A character that ends no line stands on its line, behind what is before it there. -/
theorem getElem?_linesOf_cons (p u : Text) (hc : c ≠ '\n') :
    (linesOf (p ++ c :: u))[p.count '\n']?
      = some (lastLine p ++ c :: u.takeWhile (· ≠ '\n')) := by
  rw [getElem?_linesOf, List.takeWhile_cons_of_pos (by simpa using hc)]

/-! ## Where a line begins -/

/-- **The line of the offset `i` begins at `b`**: at the start of the text or right behind a line
feed, and from there up to `i` there is no other. -/
structure LineStart (t : Text) (i b : Nat) : Prop where
  le : b ≤ i
  start : b = 0 ∨ t[b - 1]? = some '\n'
  clear : '\n' ∉ (t.take i).drop b

theorem columnAfter_of_not_mem (h : '\n' ∉ u) (p : Text) :
    columnAfter (p ++ u) = columnAfter p + u.length := by
  rw [← length_lastLine, lastLine_append h, List.length_append, length_lastLine]

theorem columnAfter_le_length (p : Text) : columnAfter p ≤ p.length := by
  have h := (List.takeWhile_prefix (· ≠ '\n') (l := p.reverse)).length_le
  rwa [List.length_reverse] at h

/-- Every place is on a line. -/
theorem lineStart_append (p u : Text) :
    LineStart (p ++ u) p.length (p.length - columnAfter p) := by
  have hlen := length_lastLine p
  have hlast := newline_not_mem_lastLine p
  obtain hp | ⟨q, hp⟩ := eq_lastLine_or_exists p
  · have hb : p.length - columnAfter p = 0 := by
      rw [← hlen, ← hp, Nat.sub_self]
    refine ⟨Nat.sub_le _ _, .inl hb, ?_⟩
    rw [hb, List.drop_zero, List.take_left, hp]
    exact hlast
  · have hb : p.length - columnAfter p = (q ++ ['\n']).length := by
      have hlen' := congrArg List.length hp
      rw [List.length_append, List.length_cons] at hlen'
      rw [List.length_append, List.length_singleton]
      omega
    refine ⟨Nat.sub_le _ _, .inr ?_, ?_⟩
    · rw [hb, hp]
      simp
    · rw [hb, List.take_left]
      have hdrop : p.drop (q ++ ['\n']).length = lastLine p := by
        conv_lhs => rw [hp, show q ++ '\n' :: lastLine p = q ++ ['\n'] ++ lastLine p by simp]
        exact List.drop_left
      rw [hdrop]
      exact hlast

/-- **How far a place is behind the beginning of its line** is the number of characters of the text
before it behind the last line feed. -/
theorem LineStart.sub_eq (h : LineStart t i b) (hi : i ≤ t.length) :
    i - b = columnAfter (t.take i) := by
  have hzero : columnAfter (t.take b) = 0 := by
    obtain rfl | hnl := h.start
    · rfl
    · have hb : b - 1 < t.length := (List.getElem?_eq_some_iff.mp hnl).1
      by_cases hb0 : b = 0
      · rw [hb0]
        rfl
      · rw [show b = b - 1 + 1 by omega, List.take_add_one, hnl]
        exact (columnAfter_append _ _).trans (if_pos rfl)
  have hsplit : t.take i = t.take b ++ (t.take i).drop b := by
    conv_lhs => rw [← List.take_append_drop b (t.take i)]
    rw [List.take_take, Nat.min_eq_left h.le]
  rw [hsplit, columnAfter_of_not_mem h.clear, hzero, List.length_drop, List.length_take,
    Nat.min_eq_left hi, Nat.zero_add]

/-! ## Texts with the same lines, thinned out -/

/-- **What is left of a text when characters are taken out of its lines**, but no line feed. -/
inductive Thinned : Text → Text → Prop
  | nil : Thinned [] []
  /-- A character that stays. -/
  | keep {c : Char} {s t : Text} : Thinned s t → Thinned (c :: s) (c :: t)
  /-- A character that is taken out. -/
  | skip {c : Char} {s t : Text} : c ≠ '\n' → Thinned s t → Thinned s (c :: t)

namespace Thinned

theorem refl (t : Text) : Thinned t t := by
  induction t with
  | nil => exact .nil
  | cons c t ih => exact ih.keep

theorem append {s' t' : Text} (h : Thinned s t) (h' : Thinned s' t') :
    Thinned (s ++ s') (t ++ t') := by
  induction h with
  | nil => exact h'
  | keep _ ih => exact ih.keep
  | skip hc _ ih => exact ih.skip hc

theorem trans (h : Thinned s t) (h' : Thinned t u) : Thinned s u := by
  induction h' generalizing s with
  | nil => exact h
  | keep _ ih =>
    cases h with
    | keep h => exact (ih h).keep
    | skip hc h => exact (ih h).skip hc
  | skip hc _ ih => exact (ih h).skip hc

/-- A text on one line can be taken out as a whole. -/
theorem nil_left (h : '\n' ∉ t) : Thinned [] t := by
  induction t with
  | nil => exact .nil
  | cons c t ih =>
    rw [List.mem_cons, not_or] at h
    exact (ih h.2).skip (Ne.symm h.1)

/-- Everything but the line feeds can be taken out. -/
theorem filter_newline (t : Text) : Thinned (t.filter (· = '\n')) t := by
  induction t with
  | nil => exact .nil
  | cons c t ih =>
    by_cases hc : c = '\n'
    · rw [List.filter_cons_of_pos (by simpa using hc)]
      exact ih.keep
    · rw [List.filter_cons_of_neg (by simpa using hc)]
      exact ih.skip hc

theorem count_newline (h : Thinned s t) : s.count '\n' = t.count '\n' := by
  induction h with
  | nil => rfl
  | @keep c s t _ ih => rw [List.count_cons, List.count_cons, ih]
  | skip hc _ ih => rw [ih, List.count_cons_of_ne hc]

/-- **Each line is a subsequence of the line with the same number.** -/
theorem forall₂_linesOf (h : Thinned s t) :
    List.Forall₂ List.Sublist (linesOf s) (linesOf t) := by
  induction h with
  | nil => exact .cons (List.Sublist.refl _) .nil
  | @keep c s t _ ih =>
    by_cases hc : c = '\n'
    · rw [hc, linesOf_cons_newline, linesOf_cons_newline]
      exact .cons (List.Sublist.refl _) ih
    · rw [linesOf_cons hc, linesOf_cons hc]
      generalize linesOf s = lines, linesOf t = lines' at ih
      cases ih with
      | nil => exact .nil
      | cons hline hrest => exact .cons (hline.cons_cons c) hrest
  | @skip c s t hc _ ih =>
    rw [linesOf_cons hc]
    generalize linesOf s = lines, linesOf t = lines' at ih
    cases ih with
    | nil => exact .nil
    | cons hline hrest => exact .cons (hline.cons c) hrest

end Thinned

end Nesting
